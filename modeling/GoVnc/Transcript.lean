import GoVnc.StreamSound
import GoVnc.Connection

/-!
A whole connection, as the server's side of it: an opening (the version, the security types,
the chosen method's exchange, a security result other than 1, ServerInit) and then a stream of
messages. `ClientWithContext` opens the session ServerInit describes, and `mainLoop` reads the
messages on it, each on the session the one before left.

* `connection_delivers`: on such a transcript the client connects, its reader task can deliver
  every message, in order, and whatever it delivers is a prefix of them; the session the
  messages leave is a reachable session.
* `connection_takes`: conversely, whatever the reader task of a connection delivers, up to a
  ServerCutText, is the message stream of a transcript of that form.
-/

namespace GoVnc

open Decoder InputValidator

/-- The sessions the reader passes through on a stream of well-formed messages are steps of
the session: from a reachable session, the one the stream leaves is reachable. -/
theorem StreamWire.reachable {U : UnicodeTables} {cfg : ClientConfig} {B : Bytes}
    {c c' : ClientConn} {w : Bytes} {ms : List ServerMessage} (h : StreamWire c w ms c')
    (hc : Reachable U cfg B c) : Reachable U cfg B c' := by
  induction h with
  | nil => exact hc
  | @cons c c₁ c₂ w ws m ms hm _ ih =>
    obtain ⟨b, body, read, rfl, -, htbl, hread⟩ := MessageWire.read U hm
    have hstep := Step.serverMessage c b read (body ++ ws) htbl
    rw [hread ws] at hstep
    exact ih (.step _ _ hc hstep)

/-- A transcript the client reads through: with the package's types left to the package and a
channel, the client connects on the opening, `mainLoop` on the rest can deliver every message,
in order, and whatever a run delivers is a prefix of them; the session the messages leave is
reachable. -/
theorem connection_delivers (U : UnicodeTables) {cfg : ClientConfig} {B rest : Bytes}
    {r : HandshakeResult} {ms : List ServerMessage} {c' : ClientConn}
    (hch : cfg.serverMessageCh = true)
    (hcfg : ∀ m ∈ cfg.serverMessages, m.type ≠ 0 ∧ m.type ≠ 1 ∧ m.type ≠ 2)
    (hopen : Opening U cfg (AuthAccepted cfg) (· ≠ 1) B r rest)
    (hs : StreamWire r.session rest ms c') :
    clientWithContext U (some cfg) B = .session r.session r.written rest ∧
      (∀ res, MainLoopRun U cfg res r.session rest ms res.close) ∧
      (∀ res sent res', MainLoopRun U cfg res r.session rest sent res' → sent <+: ms) ∧
      Reachable U cfg B c' := by
  have hconn : clientWithContext U (some cfg) B = .session r.session r.written rest := by
    rw [clientWithContext, handshakeWithContext_of_opening (fun _ h => h) hopen]
  obtain ⟨hrun, hpre⟩ := loopRun_stream U hcfg hs
  rw [← hch] at hrun hpre
  exact ⟨hconn, fun _ => ⟨hrun, rfl⟩, fun _ _ _ h => hpre _ h.1,
    hs.reachable (.handshake _ _ _ hconn)⟩

/-- What `noAuthServer` opens for `channelConfig`. -/
def noAuthHandshake : HandshakeResult :=
  { width := 640, height := 480, pixelFormat := rgb888, desktopName := asciiBytes "vnc",
    written := asciiBytes "RFB 003.008\n" ++ [1] ++ [] ++ [1] }

/-- A SetColorMapEntries that sets entry 0 to red, then a Bell. -/
def redBellStream : Bytes :=
  (1 :: 0 :: (be16 0 ++ be16 (UInt16.ofNat 1) ++ [⟨0xFFFF, 0, 0⟩].flatMap Color.wire)) ++
    ([2] ++ [])

/-- The 640 × 480 server followed by a colour and a Bell: the client connects, the reader can
deliver both messages, and the session with entry 0 red is reachable. -/
theorem connection_delivers_redBell :
    channelConfig.serverMessageCh = true ∧
      (∀ m ∈ channelConfig.serverMessages, m.type ≠ 0 ∧ m.type ≠ 1 ∧ m.type ≠ 2) ∧
      Opening latin1Only channelConfig (AuthAccepted channelConfig) (· ≠ 1)
        (noAuthServer ++ redBellStream) noAuthHandshake redBellStream ∧
      StreamWire noAuthHandshake.session redBellStream
        [.setColorMapEntries 0 [⟨0xFFFF, 0, 0⟩], .bell]
        { noAuthHandshake.session with
          colorMap := noAuthHandshake.session.colorMap.replace 0 [⟨0xFFFF, 0, 0⟩] } ∧
      clientWithContext latin1Only (some channelConfig) (noAuthServer ++ redBellStream) =
          .session noAuthHandshake.session noAuthHandshake.written redBellStream ∧
      (∀ res, MainLoopRun latin1Only channelConfig res noAuthHandshake.session redBellStream
        [.setColorMapEntries 0 [⟨0xFFFF, 0, 0⟩], .bell] res.close) ∧
      (∀ res sent res', MainLoopRun latin1Only channelConfig res noAuthHandshake.session
        redBellStream sent res' → sent <+: [.setColorMapEntries 0 [⟨0xFFFF, 0, 0⟩], .bell]) ∧
      Reachable latin1Only channelConfig (noAuthServer ++ redBellStream)
        { noAuthHandshake.session with
          colorMap := noAuthHandshake.session.colorMap.replace 0 [⟨0xFFFF, 0, 0⟩] } :=
  have hcfg : ∀ m ∈ channelConfig.serverMessages, m.type ≠ 0 ∧ m.type ≠ 1 ∧ m.type ≠ 2 :=
    fun _ h => nomatch h
  have hopen : Opening latin1Only channelConfig (AuthAccepted channelConfig) (· ≠ 1)
      (noAuthServer ++ redBellStream) noAuthHandshake redBellStream :=
    opening_of_handshakeWithContext rfl
  have hs : StreamWire noAuthHandshake.session redBellStream
      [.setColorMapEntries 0 [⟨0xFFFF, 0, 0⟩], .bell]
      { noAuthHandshake.session with
        colorMap := noAuthHandshake.session.colorMap.replace 0 [⟨0xFFFF, 0, 0⟩] } :=
    .cons (@MessageWire.setColorMapEntries noAuthHandshake.session 0 0 [⟨0xFFFF, 0, 0⟩]
      (by decide) (by decide)) (.cons .bell (.nil _))
  ⟨rfl, hcfg, hopen, hs, connection_delivers latin1Only rfl hcfg hopen hs⟩

/-- What the reader task of a connection delivers, up to a ServerCutText, is the message
stream of a transcript: the stream the client connected on is an opening, the session is the
one it describes, and what follows it starts with well-formed messages, those delivered, which
leave a reachable session. -/
theorem connection_takes (U : UnicodeTables) {cfg : ClientConfig} (hcfg : cfg.serverMessages = [])
    {B written rest : Bytes} {c : ClientConn} {res res' : Resources} {sent : List ServerMessage}
    (h : clientWithContext U (some cfg) B = .session c written rest)
    (hrun : MainLoopRun U cfg res c rest sent res')
    (hcut : ∀ t, .serverCutText t ∉ sent) :
    ∃ r w rest' c', Opening U cfg (AuthAccepted cfg) (· ≠ 1) B r rest ∧ c = r.session ∧
      written = r.written ∧ rest = w ++ rest' ∧ StreamWire c w sent c' ∧ Reachable U cfg B c' := by
  have hsent : sent = parseMessages (mainLoopTable U cfg) sent.length c rest := by
    cases hch : cfg.serverMessageCh
    · rw [(loopRun_sent hrun.1).2 hch]; rfl
    · exact (loopRun_sent hrun.1).1 hch
  rw [hsent] at hcut ⊢
  obtain ⟨w, rest', c', hsplit, hw⟩ :=
    parseMessages_takes U hcfg _ c rest (clientWithContext_sessionInv h) hcut
  have hreach := hw.reachable (.handshake c written rest h)
  unfold clientWithContext at h
  split at h
  · rename_i r _ hr
    cases h
    exact ⟨r, w, rest', c', opening_of_handshakeWithContext hr, rfl, rfl, hsplit, hw, hreach⟩
  · cases h
  · cases h

/-- The 640 × 480 server followed by two Bells: a run that delivers both has read them off the
stream after the opening. -/
theorem connection_takes_bells :
    channelConfig.serverMessages = [] ∧
      clientWithContext latin1Only (some channelConfig) (noAuthServer ++ [2, 2]) =
        .session noAuthHandshake.session noAuthHandshake.written [2, 2] ∧
      MainLoopRun latin1Only channelConfig ⟨true, true, true⟩ noAuthHandshake.session [2, 2]
        [.bell, .bell] ⟨false, false, true⟩ ∧
      (∀ t, .serverCutText t ∉ [ServerMessage.bell, .bell]) ∧
      ∃ r w rest' c', Opening latin1Only channelConfig (AuthAccepted channelConfig) (· ≠ 1)
        (noAuthServer ++ [2, 2]) r [2, 2] ∧ noAuthHandshake.session = r.session ∧
        noAuthHandshake.written = r.written ∧ [2, 2] = w ++ rest' ∧
        StreamWire noAuthHandshake.session w [.bell, .bell] c' ∧
        Reachable latin1Only channelConfig (noAuthServer ++ [2, 2]) c' :=
  have h : clientWithContext latin1Only (some channelConfig) (noAuthServer ++ [2, 2]) =
      .session noAuthHandshake.session noAuthHandshake.written [2, 2] := rfl
  have hrun : MainLoopRun latin1Only channelConfig ⟨true, true, true⟩ noAuthHandshake.session
      [2, 2] [.bell, .bell] ⟨false, false, true⟩ :=
    ⟨.send _ 2 [2] [2] _ _ _ rfl rfl rfl (.send _ 2 [] [] _ _ _ rfl rfl rfl (.eof _)), rfl⟩
  have hcut : ∀ t, .serverCutText t ∉ [ServerMessage.bell, .bell] := by simp
  ⟨rfl, h, hrun, hcut, connection_takes latin1Only rfl h hrun hcut⟩

end GoVnc
