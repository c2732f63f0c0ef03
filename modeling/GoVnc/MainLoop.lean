import GoVnc.Handshake

/-!
The reader task (`mainLoop`, `client.go`). It reads a type byte, looks the type up in a table
of the package's four messages and the configured ones, runs the message's `Read` on the
session, and sends the message on `ServerMessageCh` when one is set. It stops at the end of
the stream, at an unknown type, at a failed `Read`, and whenever the connection's context is
done: at the top of the loop, while it waits for a type byte, inside a `Read` (a concurrent
`Close` cuts the stream under it) and while it waits to send. On every return the deferred
`Close` cancels the context and closes the network connection.

* `loopRun_sent`: what the loop sends is the stream's first messages in wire order.
* `mainLoop_leaves_channel_open`: and when `mainLoop` returns the connection is closed, while
  `ServerMessageCh` is as it was: nothing in the package closes it.
-/

namespace GoVnc

/-- A message's `Read`, as the type table holds it. -/
abbrev MessageRead := ClientConn → Bytes → SessionRead ServerMessage

/-- The table `mainLoop` builds: the package's messages, then the configured ones. -/
def mainLoopTable (U : UnicodeTables) (cfg : ClientConfig) : UInt8 → Option MessageRead :=
  typeMap (defaultMessages U ++ cfg.serverMessages)

/-! ## The messages of a stream -/

/-- The first `n` messages of the stream read from session `c`, in wire order, each read from
the session the one before left; fewer when the stream ends, a type is unknown or a read
fails first. -/
def parseMessages (tbl : UInt8 → Option MessageRead) : Nat → ClientConn → Bytes → List ServerMessage
  | 0, _, _ => []
  | _ + 1, _, [] => []
  | n + 1, c, b :: s =>
    match tbl b with
    | none => []
    | some read =>
      match (read c s).2 with
      | .ok (m, s') => m :: parseMessages tbl n (read c s).1 s'
      | .error _ => []

theorem parseMessages_cons {tbl : UInt8 → Option MessageRead} {read : MessageRead} {b : UInt8}
    {c : ClientConn} {s s' : Bytes} {m : ServerMessage} (n : Nat) (h : tbl b = some read)
    (hr : (read c s).2 = .ok (m, s')) :
    parseMessages tbl (n + 1) c (b :: s) = m :: parseMessages tbl n (read c s).1 s' := by
  simp [parseMessages, h, hr]

/-- A longer horizon only adds messages at the end. -/
theorem parseMessages_mono (tbl : UInt8 → Option MessageRead) :
    ∀ {m n : Nat} (c : ClientConn) (s : Bytes), m ≤ n →
      parseMessages tbl m c s <+: parseMessages tbl n c s
  | 0, _, _, _, _ => List.nil_prefix
  | _ + 1, 0, _, _, h => absurd h (by omega)
  | _ + 1, _ + 1, _, [], _ => List.prefix_refl _
  | m + 1, n + 1, c, b :: s, h => by
    simp only [parseMessages]
    split
    · exact List.prefix_refl _
    · split
      · exact (List.prefix_cons_inj _).mpr (@parseMessages_mono tbl m n _ _ (by omega))
      · exact List.prefix_refl _

/-! ## The loop -/

/-- The runs of the loop of `mainLoop` from session `c` on the unread stream `s` that return,
with the values they send on the channel (`hasCh`: `ServerMessageCh` is set). A `Read` that
panics ends the process, not the loop, so such runs do not return. -/
inductive LoopRun (tbl : UInt8 → Option MessageRead) (hasCh : Bool) :
    ClientConn → Bytes → List ServerMessage → Prop
  /-- The context is done: at the top of the loop, while the type byte is awaited, or in the
  middle of a `Read` whose stream a concurrent `Close` cut. -/
  | cancelled (c : ClientConn) (s : Bytes) : LoopRun tbl hasCh c s []
  /-- The type byte cannot be read: the stream has ended. -/
  | eof (c : ClientConn) : LoopRun tbl hasCh c [] []
  /-- The type is not in the table. -/
  | unknown (c : ClientConn) (b : UInt8) (s : Bytes) (h : tbl b = none) :
      LoopRun tbl hasCh c (b :: s) []
  /-- The message's `Read` returns an error. -/
  | readFails (c : ClientConn) (b : UInt8) (s : Bytes) (read : MessageRead) (f : Fault)
      (h : tbl b = some read) (hr : (read c s).2 = .error f) (hf : ∀ p, f ≠ .panic p) :
      LoopRun tbl hasCh c (b :: s) []
  /-- No channel: the message is dropped and the loop goes on from the session `Read` left. -/
  | discard (c : ClientConn) (b : UInt8) (s s' : Bytes) (read : MessageRead) (m : ServerMessage)
      (sent : List ServerMessage) (h : tbl b = some read) (hr : (read c s).2 = .ok (m, s'))
      (hch : hasCh = false) (rest : LoopRun tbl hasCh (read c s).1 s' sent) :
      LoopRun tbl hasCh c (b :: s) sent
  /-- The context is done before the channel takes the message. -/
  | cancelledSend (c : ClientConn) (b : UInt8) (s s' : Bytes) (read : MessageRead)
      (m : ServerMessage) (h : tbl b = some read) (hr : (read c s).2 = .ok (m, s'))
      (hch : hasCh = true) : LoopRun tbl hasCh c (b :: s) []
  /-- The channel takes the message and the loop goes on. -/
  | send (c : ClientConn) (b : UInt8) (s s' : Bytes) (read : MessageRead) (m : ServerMessage)
      (sent : List ServerMessage) (h : tbl b = some read) (hr : (read c s).2 = .ok (m, s'))
      (hch : hasCh = true) (rest : LoopRun tbl hasCh (read c s).1 s' sent) :
      LoopRun tbl hasCh c (b :: s) (m :: sent)

/-- With a channel the loop sends the stream's first messages, in wire order, none skipped or
sent twice; without one it sends nothing. -/
theorem loopRun_sent {tbl : UInt8 → Option MessageRead} {hasCh : Bool} {c : ClientConn}
    {s : Bytes} {sent : List ServerMessage} (h : LoopRun tbl hasCh c s sent) :
    (hasCh = true → sent = parseMessages tbl sent.length c s) ∧ (hasCh = false → sent = []) := by
  induction h with
  | cancelled | eof | unknown | readFails | cancelledSend =>
    exact ⟨fun _ => by simp [parseMessages], fun _ => rfl⟩
  | discard _ _ _ _ _ _ _ _ _ hch _ ih => exact ⟨fun h => absurd (h.symm.trans hch) (by decide), ih.2⟩
  | send _ _ _ _ _ _ sent h hr hch _ ih =>
    refine ⟨fun _ => ?_, fun h => absurd (h.symm.trans hch) (by decide)⟩
    rw [List.length_cons, parseMessages_cons _ h hr, ← ih.1 hch]

/-! ## `mainLoop` and `Close` -/

/-- What a connection shares with its reader task and its caller: the network connection, the
context, and `ServerMessageCh`, each open (live) or closed (done). -/
structure Resources where
  netOpen : Bool
  ctxLive : Bool
  chOpen : Bool
  deriving DecidableEq, Repr

/-- `ClientConn.Close`: cancel the context, close the network connection. -/
def Resources.close (r : Resources) : Resources := { r with netOpen := false, ctxLive := false }

/-- The runs of `mainLoop` on a session of configuration `cfg` that return: the values sent on
`ServerMessageCh`, and the resources after the deferred `Close`. -/
def MainLoopRun (U : UnicodeTables) (cfg : ClientConfig) (r : Resources) (c : ClientConn)
    (s : Bytes) (sent : List ServerMessage) (r' : Resources) : Prop :=
  LoopRun (mainLoopTable U cfg) cfg.serverMessageCh c s sent ∧ r' = r.close

/-- When `mainLoop` returns, what it sent is the stream's first messages and the connection
is closed, but `ServerMessageCh` is as it was before: an open channel stays open. -/
theorem mainLoop_leaves_channel_open {U : UnicodeTables} {cfg : ClientConfig} {r r' : Resources}
    {c : ClientConn} {s : Bytes} {sent : List ServerMessage}
    (h : MainLoopRun U cfg r c s sent r') :
    (cfg.serverMessageCh = true → sent = parseMessages (mainLoopTable U cfg) sent.length c s) ∧
      r'.netOpen = false ∧ r'.ctxLive = false ∧ r'.chOpen = r.chOpen := by
  obtain ⟨hrun, rfl⟩ := h
  exact ⟨(loopRun_sent hrun).1, rfl, rfl, rfl⟩

/-- A configuration with a channel and no messages of its own. -/
def channelConfig : ClientConfig := { serverMessageCh := true }

/-- A server that closes the stream at once: `mainLoop` returns at the first type byte, the
connection is closed and the channel is still open. -/
theorem mainLoop_eof_channel_open :
    MainLoopRun latin1Only channelConfig ⟨true, true, true⟩ {} [] [] ⟨false, false, true⟩ ∧
      (Resources.mk false false true).netOpen = false ∧
      (Resources.mk false false true).chOpen = true :=
  have h : MainLoopRun latin1Only channelConfig ⟨true, true, true⟩ {} [] [] ⟨false, false, true⟩ :=
    ⟨.eof _, rfl⟩
  ⟨h, (mainLoop_leaves_channel_open h).2.1, (mainLoop_leaves_channel_open h).2.2.2⟩

end GoVnc
