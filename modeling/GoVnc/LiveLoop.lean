import GoVnc.StreamSound

/-!
The reader task when nothing stops it from outside: the connection's context stays live and,
with a channel, the channel takes every message. Each turn of the loop takes the type byte
and the message's `Read` takes only bytes after it, so the stream shrinks every turn and the
loop returns on every finite stream, unless a `Read` panics.

* `liveRun_or_panics`: for a table whose reads keep an invariant of the session and return a
  suffix of their stream, the live loop returns having sent the stream's messages up to the
  first that stops it, or a `Read` on the way panics.
* `mainLoop_completes`: for the package's table, from a session that keeps the session
  invariant, `mainLoop` returns on every stream with all of its messages sent, none lost, or a
  `Read` panics.
-/

namespace GoVnc

/-! ## Live runs -/

/-- The runs of the loop of `mainLoop` in which the context stays live and the channel, when
set, takes each message: the loop stops only at the end of the stream, at an unknown type or
at a failed `Read`. -/
inductive LiveRun (tbl : UInt8 → Option MessageRead) (hasCh : Bool) :
    ClientConn → Bytes → List ServerMessage → Prop
  | eof (c : ClientConn) : LiveRun tbl hasCh c [] []
  | unknown (c : ClientConn) (b : UInt8) (s : Bytes) (h : tbl b = none) :
      LiveRun tbl hasCh c (b :: s) []
  | readFails (c : ClientConn) (b : UInt8) (s : Bytes) (read : MessageRead) (f : Fault)
      (h : tbl b = some read) (hr : (read c s).2 = .error f) (hf : ∀ p, f ≠ .panic p) :
      LiveRun tbl hasCh c (b :: s) []
  | discard (c : ClientConn) (b : UInt8) (s s' : Bytes) (read : MessageRead) (m : ServerMessage)
      (sent : List ServerMessage) (h : tbl b = some read) (hr : (read c s).2 = .ok (m, s'))
      (hch : hasCh = false) (rest : LiveRun tbl hasCh (read c s).1 s' sent) :
      LiveRun tbl hasCh c (b :: s) sent
  | send (c : ClientConn) (b : UInt8) (s s' : Bytes) (read : MessageRead) (m : ServerMessage)
      (sent : List ServerMessage) (h : tbl b = some read) (hr : (read c s).2 = .ok (m, s'))
      (hch : hasCh = true) (rest : LiveRun tbl hasCh (read c s).1 s' sent) :
      LiveRun tbl hasCh c (b :: s) (m :: sent)

/-- The stream reaches a `Read` that panics: each message before it read, in order, from the
session the one before left. -/
inductive LoopPanics (tbl : UInt8 → Option MessageRead) : ClientConn → Bytes → Prop
  | here (c : ClientConn) (b : UInt8) (s : Bytes) (read : MessageRead) (p : Panic)
      (h : tbl b = some read) (hr : (read c s).2 = .error (.panic p)) : LoopPanics tbl c (b :: s)
  | next (c : ClientConn) (b : UInt8) (s s' : Bytes) (read : MessageRead) (m : ServerMessage)
      (h : tbl b = some read) (hr : (read c s).2 = .ok (m, s'))
      (rest : LoopPanics tbl (read c s).1 s') : LoopPanics tbl c (b :: s)

/-- A live run is a run of the loop. -/
theorem LiveRun.loopRun {tbl : UInt8 → Option MessageRead} {hasCh : Bool} {c : ClientConn}
    {s : Bytes} {sent : List ServerMessage} (h : LiveRun tbl hasCh c s sent) :
    LoopRun tbl hasCh c s sent := by
  induction h with
  | eof c => exact .eof c
  | unknown c b s h => exact .unknown c b s h
  | readFails c b s read f h hr hf => exact .readFails c b s read f h hr hf
  | discard c b s s' read m sent h hr hch _ ih => exact .discard c b s s' read m sent h hr hch ih
  | send c b s s' read m sent h hr hch _ ih => exact .send c b s s' read m sent h hr hch ih

/-! ## Termination -/

@[simp] theorem parseMessages_nil (tbl : UInt8 → Option MessageRead) (n : Nat) (c : ClientConn) :
    parseMessages tbl n c [] = [] := by
  cases n <;> rfl

section Termination

variable {tbl : UInt8 → Option MessageRead} {I : ClientConn → Prop}
  (hI : ∀ {b read c s}, tbl b = some read → I c → I (read c s).1)
  (hsuffix : ∀ {b read c s m s'}, tbl b = some read → I c → (read c s).2 = .ok (m, s') →
    s'.length ≤ s.length)
include hI hsuffix

/-- With `n` turns of fuel for a stream of at most `n` bytes, the live loop returns having sent
the first `n` messages of the stream (all of them), or a `Read` panics. -/
theorem liveRun_or_panics (hasCh : Bool) :
    ∀ (n : Nat) (c : ClientConn) (s : Bytes), s.length ≤ n → I c →
      LiveRun tbl hasCh c s (if hasCh then parseMessages tbl n c s else []) ∨ LoopPanics tbl c s
  | _, c, [], _, _ => .inl (by rw [parseMessages_nil, ite_self]; exact .eof c)
  | 0, _, _ :: _, hn, _ => absurd hn (by simp)
  | n + 1, c, b :: s, hn, hc => by
    cases htbl : tbl b with
    | none => exact .inl (by cases hasCh <;> simpa [parseMessages, htbl] using .unknown c b s htbl)
    | some read =>
      cases hr : (read c s).2 with
      | error f =>
        by_cases hf : ∃ p, f = .panic p
        · obtain ⟨p, rfl⟩ := hf
          exact .inr (.here c b s read p htbl hr)
        · refine .inl ?_
          have hrun := @LiveRun.readFails tbl hasCh c b s read f htbl hr (by simpa using hf)
          cases hasCh <;> simpa [parseMessages, htbl, hr] using hrun
      | ok r =>
        obtain ⟨m, s'⟩ := r
        have hlen : s'.length ≤ n := by
          have := hsuffix htbl hc hr
          simp only [List.length_cons] at hn
          omega
        rcases liveRun_or_panics hasCh n _ s' hlen (hI htbl hc) with hrun | hp
        · refine .inl ?_
          cases hasCh
          · exact .discard c b s s' read m _ htbl hr rfl hrun
          · rw [if_pos rfl, parseMessages_cons n htbl hr]
            exact .send c b s s' read m _ htbl hr rfl hrun
        · exact .inr (.next c b s s' read m htbl hr hp)

end Termination

/-! ## The package's table -/

theorem ServerCutTextMessage.read_suffix {U : UnicodeTables} {c : ClientConn} {s s' : Bytes}
    {m : ServerMessage} (h : (ServerCutTextMessage.read U c s).2 = .ok (m, s')) :
    s'.length ≤ s.length := by
  simp only [ServerCutTextMessage.read, Decoder.bind_eq_ok, Decoder.orFail_eq_ok] at h
  obtain ⟨_, s₁, h₁, n, s₂, h₂, _, s₃, h₃, bs, s₄, h₄, h₅⟩ := h
  obtain ⟨-, rfl⟩ := readFull_eq_ok h₁
  obtain rfl := readU32_eq_ok h₂
  obtain ⟨-, rfl⟩ := Decoder.check_eq_ok.mp h₃
  obtain ⟨-, rfl⟩ := readFull_eq_ok h₄
  cases h₅
  simp only [List.length_append]
  omega

/-- A read of the package's table from a session that keeps the invariant returns a suffix of
its stream. -/
theorem serverMessage_suffix {U : UnicodeTables} {b : UInt8} {read : MessageRead}
    (htbl : typeMap (defaultMessages U) b = some read) {c : ClientConn} (hc : SessionInv c)
    {s s' : Bytes} {m : ServerMessage} (h : (read c s).2 = .ok (m, s')) : s'.length ≤ s.length := by
  by_cases hb : b = 3
  · subst hb
    rcases typeMap_defaultMessages_eq htbl with ⟨h0, -⟩ | ⟨h0, -⟩ | ⟨h0, -⟩ | ⟨-, rfl⟩
    · exact absurd h0 (by decide)
    · exact absurd h0 (by decide)
    · exact absurd h0 (by decide)
    · exact ServerCutTextMessage.read_suffix h
  · obtain ⟨w, rfl, -⟩ := serverMessage_takes htbl hb hc (Prod.ext rfl h)
    simp only [List.length_append]
    omega

/-- With a live context and a channel that takes every message, `mainLoop` on a session that
keeps the session invariant and the package's table returns on every stream, unless a
message's `Read` panics; it then has sent every message of the stream up to the first that
stops it (`parseMessages` with as many turns as bytes): none lost, none sent twice. -/
theorem mainLoop_completes (U : UnicodeTables) {cfg : ClientConfig} (hcfg : cfg.serverMessages = [])
    {c : ClientConn} (hc : SessionInv c) (r : Resources) (s : Bytes) :
    (∃ sent, MainLoopRun U cfg r c s sent r.close ∧
      LiveRun (mainLoopTable U cfg) cfg.serverMessageCh c s sent ∧
      sent = if cfg.serverMessageCh then parseMessages (mainLoopTable U cfg) s.length c s else []) ∨
      LoopPanics (mainLoopTable U cfg) c s := by
  have htbl : mainLoopTable U cfg = typeMap (defaultMessages U) := by
    rw [mainLoopTable, hcfg, List.append_nil]
  have hI : ∀ {b read c s}, mainLoopTable U cfg b = some read → SessionInv c →
      SessionInv (read c s).1 := fun h hc => serverMessage_sessionInv (htbl ▸ h) _ hc
  have hsuffix : ∀ {b read c s m s'}, mainLoopTable U cfg b = some read → SessionInv c →
      (read c s).2 = .ok (m, s') → s'.length ≤ s.length := fun h hc hr =>
    serverMessage_suffix (htbl ▸ h) hc hr
  rcases liveRun_or_panics hI hsuffix cfg.serverMessageCh s.length c s (Nat.le_refl _) hc with
    hrun | hp
  · exact .inl ⟨_, ⟨hrun.loopRun, rfl⟩, hrun, rfl⟩
  · exact .inr hp

/-- Two Bells to the session `noAuthServer` opens, with a channel. -/
theorem mainLoop_completes_bells :
    channelConfig.serverMessages = [] ∧ SessionInv noAuthSession ∧
      ((∃ sent, MainLoopRun latin1Only channelConfig ⟨true, true, true⟩ noAuthSession [2, 2] sent
          (Resources.close ⟨true, true, true⟩) ∧
        LiveRun (mainLoopTable latin1Only channelConfig) channelConfig.serverMessageCh noAuthSession
          [2, 2] sent ∧
        sent = if channelConfig.serverMessageCh then
          parseMessages (mainLoopTable latin1Only channelConfig) [2, 2].length noAuthSession [2, 2]
          else []) ∨
        LoopPanics (mainLoopTable latin1Only channelConfig) noAuthSession [2, 2]) :=
  ⟨rfl, noAuthSession_sessionInv,
    mainLoop_completes latin1Only rfl noAuthSession_sessionInv ⟨true, true, true⟩ [2, 2]⟩

example : parseMessages (mainLoopTable latin1Only channelConfig) 2 noAuthSession [2, 2] =
    [.bell, .bell] := rfl

end GoVnc
