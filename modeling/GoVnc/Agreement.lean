import GoVnc.ClientStream
import GoVnc.Failures

/-!
The encodings the client and the server agree on. RFC 6143, section 7.5.2, lets a server send
pixel data in Raw or in any encoding of the last SetEncodings it read. The reader task takes a
rectangle only when its type is Raw, one of the two pseudo-encodings it always has, or the type
of an encoding of the session (`FramebufferUpdateMessage.read_data`); `SetEncodings` writes its
frame and assigns the session's encodings after the write returned, with no lock, neither
against the reader nor against another `SetEncodings`.

`Conversation` is the encodings part of a connection: the session, the `SetEncodings` calls
between their write and their assignment, the lists on their way to the server, the server's
last list, and the updates on their way to the client. `Conversation.step` runs one event with
the package's own functions: the frame `SetEncodings` writes, as `readClientMessage` reads it,
and the reader's encoding table `encMap`. Calls overlap: a second call can write before the
first assigns, and the calls in flight assign in any order.

* `conversation_agrees`: if every `SetEncodings` keeps the types the session has, a call that
  overlaps others asks for the types they ask for, and the reader never reads while a call is
  between its write and its assignment, the reader takes every update a server sends by those
  rules.
* `conversation_stops`: no rule can go. A `SetEncodings` that drops a type the server holds, a
  read between the write and the assignment of one that adds a type the server then uses, or
  two overlapping calls of different types that assign in the other order than they wrote, stop
  the reader on an update the server sent by the rules.
-/

namespace GoVnc

open Decoder InputValidator

/-! ## The reader's table -/

/-- Whether the reader's table on encodings `encs` has type `t`: Raw, Cursor and DesktopSize
always, and the types of `encs`. -/
def accepts (encs : List Encoding) (t : Int) : Bool := (encMap encs t).isSome

theorem accepts_raw (encs : List Encoding) : accepts encs 0 = true := rfl

theorem accepts_of_mem {encs : List Encoding} {e : Encoding} (h : e ∈ encs) :
    accepts encs e.type = true := by
  obtain ⟨_, he⟩ := encMap_isSome (.inr (.inr (.inr ⟨e, h, rfl⟩)))
  rw [accepts, he]
  rfl

/-- A table on encodings whose types include those of `encs` has every type `encs`' table has. -/
theorem accepts_mono {encs encs' : List Encoding} (h : ∀ e ∈ encs, ∃ e' ∈ encs', e'.type = e.type)
    {t : Int} (ht : accepts encs t = true) : accepts encs' t = true := by
  obtain ⟨_, he⟩ := Option.isSome_iff_exists.mp ht
  rcases encMap_some he with rfl | rfl | rfl | ⟨e, hmem, rfl⟩
  · rfl
  · rfl
  · rfl
  · obtain ⟨e', he', hty⟩ := h e hmem
    rw [← hty]
    exact accepts_of_mem he'

theorem afterRectangle_encs (c : ClientConn) (r : Rectangle) : (afterRectangle c r).encs = c.encs := by
  obtain ⟨_, _, he⟩ := afterRectangle_eq c r
  rw [he]

/-- The table holds an encoding for the type. -/
theorem TableReads.accepts {encs : List Encoding} {enc : Encoding} (h : TableReads encs enc) :
    accepts encs enc.type = true := by
  obtain ⟨_, he, -⟩ := h
  rw [GoVnc.accepts, he]
  rfl

/-- A rectangle as a server puts it on the wire for session `c`: its header, its encoding's data,
a type `ValidateEncodingType` accepts, and inside the framebuffer when its type is not negative.
Unlike `RectangleWire`, nothing says that the session's table reads its type. -/
def RectangleData (c : ClientConn) (w : Bytes) (r : Rectangle) : Prop :=
  ∃ data, w = be16 r.x ++ be16 r.y ++ be16 r.width ++ be16 r.height ++
      be32 (bitsOfInt32 r.enc.type) ++ data ∧
    EncodingWire c r.toRectHeader data r.enc ∧ validateEncodingType r.enc.type = .ok () ∧
    (0 ≤ r.enc.type → InBox r.x.toNat r.y.toNat r.width.toNat r.height.toNat
      c.frameBufferWidth.toNat c.frameBufferHeight.toNat)

/-- Rectangles a server puts on the wire, each for the session the ones before it leave. -/
inductive RectanglesData : ClientConn → Bytes → List Rectangle → ClientConn → Prop
  | nil (c : ClientConn) : RectanglesData c [] [] c
  | cons {c c' : ClientConn} {w ws : Bytes} {r : Rectangle} {rs : List Rectangle}
      (h : RectangleData c w r) (hs : RectanglesData (afterRectangle c r) ws rs c') :
      RectanglesData c (w ++ ws) (r :: rs) c'

theorem RectangleData.wire {c : ClientConn} {w : Bytes} {r : Rectangle} (h : RectangleData c w r)
    (ht : TableReads c.encs r.enc) : RectangleWire c w r :=
  let ⟨data, hw, henc, hv, hfb⟩ := h
  ⟨data, hw, henc, hv, ht, hfb⟩

theorem RectanglesData.wire {c c' : ClientConn} {w : Bytes} {rs : List Rectangle}
    (h : RectanglesData c w rs c') (ha : ∀ r ∈ rs, TableReads c.encs r.enc) :
    RectanglesWire c w rs c' := by
  induction h with
  | nil => exact .nil _
  | cons hr _ ih =>
    refine .cons (hr.wire (ha _ (List.mem_cons_self _ _))) (ih fun r hr' => ?_)
    rw [afterRectangle_encs]
    exact ha r (List.mem_cons_of_mem _ hr')

/-- The encodings part of a connection: the session, which the reader task and the callers
share; the encodings of the `SetEncodings` calls whose frame is written and whose assignment
has not run, in the order of their writes; the type lists of the SetEncodings on their way to
the server; the types of the last one the server read; the updates on their way to the client,
each by its rectangles' types; and whether the reader task stopped. The session's other fields,
which the reader may change, play no part. -/
structure Conversation where
  conn : ClientConn
  pending : List (List Encoding)
  toServer : List (List Int)
  serverTypes : List Int
  toClient : List (List Int)
  stopped : Bool

/-- The conversation on a session the handshake opened. -/
def Conversation.start (c : ClientConn) : Conversation :=
  { conn := c, pending := [], toServer := [], serverTypes := [], toClient := [], stopped := false }

/-- An event of the conversation. -/
inductive Event
  /-- A caller's `SetEncodings` up to its write. -/
  | write (encs : List Encoding)
  /-- The `SetEncodings` in flight at index `i` after its write: `c.Encs = encs`. -/
  | assign (i : Nat)
  /-- The server reads the next SetEncodings. -/
  | serverReads
  /-- The server sends an update whose rectangles have these types. -/
  | serverSends (types : List Int)
  /-- The reader task reads the next update. -/
  | reads

/-- One event, when it can happen. A write needs a frame that the method writes, which the
server reads with `readClientMessage`; other calls may be in flight. Any call in flight can
assign. A server sends Raw or the types of the last SetEncodings it read (RFC 6143, section
7.5.2). The reader, not stopped, reads the next update, and stops unless the session's table
has every type of it. -/
def Conversation.step (s : Conversation) : Event → Option Conversation
  | .write encs =>
    match (s.conn.setEncodings true encs).written with
    | [frame] =>
      match readClientMessage frame with
      | .ok (.setEncodings types, _) =>
        some { s with pending := s.pending ++ [encs], toServer := s.toServer ++ [types] }
      | _ => none
    | _ => none
  | .assign i =>
    match s.pending[i]? with
    | some encs => some { s with conn := { s.conn with encs }, pending := s.pending.eraseIdx i }
    | none => none
  | .serverReads =>
    match s.toServer with
    | types :: rest => some { s with toServer := rest, serverTypes := types }
    | [] => none
  | .serverSends types =>
    if types.all fun t => t == 0 || s.serverTypes.contains t then
      some { s with toClient := s.toClient ++ [types] }
    else none
  | .reads =>
    match s.toClient, s.stopped with
    | types :: rest, false =>
      some { s with toClient := rest, stopped := !types.all (accepts s.conn.encs) }
    | _, _ => none

/-- A run of events, each of which can happen after the ones before. -/
def Conversation.run (s : Conversation) : List Event → Option Conversation
  | [] => some s
  | e :: es => (s.step e).bind fun s' => s'.run es

/-- A `SetEncodings` that the method accepts puts its encodings' types on their way to the
server. -/
theorem Conversation.step_write {s : Conversation} {encs : List Encoding} (hn : encs.length ≤ 100)
    (hv : ∀ e ∈ encs, validateEncodingType e.type = .ok ()) :
    s.step (.write encs) =
      some { s with pending := s.pending ++ [encs], toServer := s.toServer ++ [encs.map Encoding.type] } := by
  rcases ClientConn.setEncodings_written s.conn true encs with hw | ⟨hwf, hw⟩
  · rw [(s.conn.setEncodings_sends true hn hv).1] at hw
    cases hw
  · have hr := readClientMessage_reads hwf []
    rw [List.append_nil] at hr
    simp only [Conversation.step, hw, hr]

/-- The types the server reads from a `SetEncodings` frame are its encodings' types. -/
theorem Conversation.step_write_eq {s s' : Conversation} {encs : List Encoding}
    (h : s.step (.write encs) = some s') :
    s' = { s with pending := s.pending ++ [encs], toServer := s.toServer ++ [encs.map Encoding.type] } := by
  dsimp only [Conversation.step] at h
  split at h
  · rename_i frame hw
    split at h
    · rename_i types _ hr
      cases h
      rcases ClientConn.setEncodings_written s.conn true encs with hw' | ⟨hwf, hw'⟩
      · rw [hw] at hw'; cases hw'
      · rw [hw, List.singleton_inj] at hw'
        subst hw'
        have hr' := readClientMessage_reads hwf []
        rw [List.append_nil, hr] at hr'
        cases hr'
        rfl
    · cases h
  · cases h

/-! ## Agreement -/

/-- The rules a run keeps at an event: a `SetEncodings` keeps every type the session's table
has, and its table has exactly the types of the calls in flight; the reader reads only when no
`SetEncodings` is between its write and its assignment. -/
def Event.Kept (s : Conversation) : Event → Prop
  | .write encs => (∀ t, accepts s.conn.encs t = true → accepts encs t = true) ∧
      ∀ L ∈ s.pending, accepts L = accepts encs
  | .reads => s.pending = []
  | _ => True

/-- A run that keeps the rules at every event. -/
def Conversation.Kept : Conversation → List Event → Prop
  | _, [] => True
  | s, e :: es => e.Kept s ∧ ∀ s', s.step e = some s' → s'.Kept es

theorem Conversation.kept_cons {s s' : Conversation} {e : Event} {es : List Event}
    (he : e.Kept s) (hs : s.step e = some s') (hk : s'.Kept es) : s.Kept (e :: es) :=
  ⟨he, fun _ h => Option.some.inj (hs.symm.trans h) ▸ hk⟩

/-- The encodings of the last call written that has not assigned, or the session's when none
is in flight. -/
def Conversation.next (s : Conversation) : List Encoding := s.pending.getLastD s.conn.encs

/-- The invariant of agreement: the reader runs; every call in flight takes the session's types
and has the table of the last one written; and that table takes the server's types and every
type on its way either way. -/
structure Conversation.Agrees (s : Conversation) : Prop where
  running : s.stopped = false
  keeps : ∀ t, accepts s.conn.encs t = true → accepts s.next t = true
  same : ∀ L ∈ s.pending, accepts L = accepts s.next
  server : ∀ t ∈ s.serverTypes, accepts s.next t = true
  toServer : ∀ types ∈ s.toServer, ∀ t ∈ types, accepts s.next t = true
  toClient : ∀ types ∈ s.toClient, ∀ t ∈ types, accepts s.next t = true

theorem Conversation.start_agrees (c : ClientConn) : (Conversation.start c).Agrees :=
  ⟨rfl, fun _ h => h, fun _ h => (nomatch h), fun _ h => (nomatch h), fun _ h => (nomatch h),
    fun _ h => (nomatch h)⟩

/-- A write that keeps the rules takes every type the table of the last call took. -/
theorem Conversation.Agrees.next_write {s : Conversation} {encs : List Encoding} (hs : s.Agrees)
    (hk : (Event.write encs).Kept s) {t : Int} (ht : accepts s.next t = true) :
    accepts encs t = true := by
  rcases List.mem_cons.mp (List.getLastD_mem_cons s.pending s.conn.encs) with h | h
  · exact hk.1 t (by rwa [Conversation.next, h] at ht)
  · rwa [← hk.2 _ h, hs.same _ h]

/-- An assignment leaves the table of the last call the table of every call in flight. -/
theorem Conversation.Agrees.next_assign {s : Conversation} {i : Nat} {encs : List Encoding}
    (hs : s.Agrees) (hi : s.pending[i]? = some encs) :
    accepts ((s.pending.eraseIdx i).getLastD encs) = accepts s.next ∧
      accepts encs = accepts s.next := by
  have hmem := List.getElem?_mem hi
  refine ⟨?_, hs.same _ hmem⟩
  rcases List.mem_cons.mp (List.getLastD_mem_cons (s.pending.eraseIdx i) encs) with h | h
  · rw [h, hs.same _ hmem]
  · exact hs.same _ (List.mem_of_mem_eraseIdx h)

/-- One event that keeps the rules keeps agreement. -/
theorem Conversation.Agrees.step {s s' : Conversation} {e : Event} (hs : s.Agrees)
    (hk : e.Kept s) (h : s.step e = some s') : s'.Agrees := by
  cases e with
  | write encs =>
    obtain rfl := Conversation.step_write_eq h
    have hnext : ∀ t, accepts s.next t = true → accepts encs t = true := fun _ => hs.next_write hk
    have hlast : (s.pending ++ [encs]).getLastD s.conn.encs = encs := List.getLastD_concat _ _ _
    refine ⟨hs.running, ?_, fun L hL => ?_, fun t ht => ?_, fun types ht t htt => ?_,
      fun types ht t htt => ?_⟩ <;> simp only [Conversation.next, hlast]
    · exact hk.1
    · rcases List.mem_append.mp hL with hL | hL
      · exact hk.2 L hL
      · rw [List.mem_singleton.mp hL]
    · exact hnext t (hs.server t ht)
    · rcases List.mem_append.mp ht with ht | ht
      · exact hnext t (hs.toServer types ht t htt)
      · rw [List.mem_singleton.mp ht] at htt
        obtain ⟨e, he, rfl⟩ := List.mem_map.mp htt
        exact accepts_of_mem he
    · exact hnext t (hs.toClient types ht t htt)
  | assign i =>
    dsimp only [Conversation.step] at h
    split at h
    · rename_i encs hi
      cases h
      obtain ⟨hnext, hencs⟩ := hs.next_assign hi
      refine ⟨hs.running, fun t ht => ?_, fun L hL => ?_, fun t ht => ?_, fun types ht t htt => ?_,
        fun types ht t htt => ?_⟩ <;> simp only [Conversation.next] at * <;> rw [hnext]
      · rwa [← hencs]
      · exact hs.same L (List.mem_of_mem_eraseIdx hL)
      · exact hs.server t ht
      · exact hs.toServer types ht t htt
      · exact hs.toClient types ht t htt
    · cases h
  | serverReads =>
    dsimp only [Conversation.step] at h
    split at h
    · rename_i types rest ht
      cases h
      have htoServer := hs.toServer
      rw [ht] at htoServer
      exact ⟨hs.running, hs.keeps, hs.same, htoServer types (List.mem_cons_self _ _),
        fun ts hts => htoServer ts (List.mem_cons_of_mem _ hts), hs.toClient⟩
    · cases h
  | serverSends types =>
    dsimp only [Conversation.step] at h
    split at h
    · rename_i hall
      cases h
      refine ⟨hs.running, hs.keeps, hs.same, hs.server, hs.toServer, fun ts hts t htt => ?_⟩
      rcases List.mem_append.mp hts with hts | hts
      · exact hs.toClient ts hts t htt
      · rw [List.mem_singleton.mp hts] at htt
        have := List.all_eq_true.mp hall t htt
        simp only [Bool.or_eq_true, beq_iff_eq, List.contains, List.elem_eq_mem,
          decide_eq_true_eq] at this
        rcases this with rfl | hmem
        · exact accepts_raw _
        · exact hs.server t hmem
    · cases h
  | reads =>
    have hp : s.pending = [] := hk
    dsimp only [Conversation.step] at h
    split at h
    · rename_i types rest hst _
      cases h
      have htoClient := hs.toClient
      rw [hst] at htoClient
      have hnext : s.next = s.conn.encs := by rw [Conversation.next, hp]; rfl
      have hall : types.all (accepts s.conn.encs) = true :=
        List.all_eq_true.mpr (hnext ▸ htoClient types (List.mem_cons_self _ _))
      refine ⟨by rw [hall]; rfl, hs.keeps, hs.same, hs.server, hs.toServer,
        fun ts hts => htoClient ts (List.mem_cons_of_mem _ hts)⟩
    · cases h

/-- A run that keeps the rules keeps agreement. -/
theorem Conversation.Agrees.run : ∀ {s s' : Conversation} {es : List Event}, s.Agrees →
    s.Kept es → s.run es = some s' → s'.Agrees
  | _, _, [], hs, _, h => by cases h; exact hs
  | s, _, e :: es, hs, ⟨hk, hks⟩, h => by
    obtain ⟨s₁, h₁, h⟩ := Option.bind_eq_some.mp h
    exact (hs.step hk h₁).run (hks s₁ h₁) h

/-- If every `SetEncodings` keeps the types the session's table has, a call written while others
are in flight has the table they have, and the reader never reads while a `SetEncodings` is
between its write and its assignment, then on every run the reader takes every update a server
sends in Raw or in the encodings of the last SetEncodings it read: it never stops. -/
theorem conversation_agrees (c : ClientConn) {es : List Event} {s : Conversation}
    (hk : (Conversation.start c).Kept es) (h : (Conversation.start c).run es = some s) :
    s.stopped = false :=
  ((Conversation.start_agrees c).run hk h).running

/-- The session of `noAuthServer` once it asked for Hextile and the server read it. -/
def hextileAgreed : Conversation :=
  { conn := { noAuthSession with encs := [.hextile []] }, pending := [], toServer := [],
    serverTypes := [5], toClient := [], stopped := false }

/-- The session of `noAuthServer` asks for Hextile twice, the calls overlapping; the server reads
both and they assign in the other order; the server sends an update in Hextile and Raw, and the
reader takes it. -/
theorem conversation_agrees_hextile :
    (Conversation.start noAuthSession).Kept
        [.write [.hextile []], .write [.hextile []], .serverReads, .serverReads, .assign 1,
          .assign 0, .serverSends [5, 0], .reads] ∧
      (Conversation.start noAuthSession).run
        [.write [.hextile []], .write [.hextile []], .serverReads, .serverReads, .assign 1,
          .assign 0, .serverSends [5, 0], .reads] =
        some hextileAgreed ∧
      hextileAgreed.stopped = false :=
  have hk : (Conversation.start noAuthSession).Kept
      [.write [.hextile []], .write [.hextile []], .serverReads, .serverReads, .assign 1,
        .assign 0, .serverSends [5, 0], .reads] :=
    Conversation.kept_cons ⟨fun _ => accepts_mono fun _ h => absurd h (List.not_mem_nil _),
        fun _ h => absurd h (List.not_mem_nil _)⟩ rfl <|
      Conversation.kept_cons ⟨fun _ => accepts_mono fun _ h => absurd h (List.not_mem_nil _),
        fun _ h => List.mem_singleton.mp h ▸ rfl⟩ rfl <|
      Conversation.kept_cons trivial rfl <| Conversation.kept_cons trivial rfl <|
      Conversation.kept_cons trivial rfl <| Conversation.kept_cons trivial rfl <|
      Conversation.kept_cons trivial rfl <| Conversation.kept_cons rfl rfl trivial
  have h : (Conversation.start noAuthSession).run
      [.write [.hextile []], .write [.hextile []], .serverReads, .serverReads, .assign 1,
        .assign 0, .serverSends [5, 0], .reads] =
      some hextileAgreed := rfl
  ⟨hk, h, conversation_agrees noAuthSession hk h⟩

/-- No rule can go. From any state with no `SetEncodings` in flight, no update on its way to the
client and the reader running, and for encodings that `SetEncodings` takes:
* a `SetEncodings` without a type `t` of the server's list, assigned before the server reads
  it, then an update in `t` from the server, stop the reader;
* with nothing on its way to the server, a `SetEncodings` with a type `t` that the session's
  table lacks, read by the server, then an update in `t` from it, stop the reader when it
  reads before the assignment;
* with nothing on its way to the server, two overlapping calls, the second with a type `t`
  that the first's table lacks, both read by the server and assigned in the other order, then
  an update in `t` from it, stop the reader. -/
theorem conversation_stops {s : Conversation} (hp : s.pending = []) (hc : s.toClient = [])
    (hr : s.stopped = false) {encs encs' : List Encoding} (hn : encs.length ≤ 100)
    (hv : ∀ e ∈ encs, validateEncodingType e.type = .ok ()) (hn' : encs'.length ≤ 100)
    (hv' : ∀ e ∈ encs', validateEncodingType e.type = .ok ()) {t : Int} :
    (t ∈ s.serverTypes → accepts encs t = false →
      (s.run [.write encs, .assign 0, .serverSends [t], .reads]).map Conversation.stopped =
        some true) ∧
    (s.toServer = [] → t ∈ encs.map Encoding.type → accepts s.conn.encs t = false →
      (s.run [.write encs, .serverReads, .serverSends [t], .reads]).map Conversation.stopped =
        some true) ∧
    (s.toServer = [] → t ∈ encs'.map Encoding.type → accepts encs t = false →
      (s.run [.write encs, .write encs', .serverReads, .serverReads, .assign 1, .assign 0,
        .serverSends [t], .reads]).map Conversation.stopped = some true) := by
  refine ⟨fun ht ha => ?_, fun hs ht ha => ?_, fun hs ht ha => ?_⟩ <;>
    simp only [Conversation.run, Conversation.step_write hn hv, Conversation.step_write hn' hv',
      Option.some_bind]
  · simp only [Conversation.step, hp, List.nil_append, List.getElem?_cons_zero,
      List.eraseIdx_zero, List.tail_cons, hc, hr,
      List.elem_eq_mem, List.all_cons, List.all_nil, Bool.and_true, Bool.or_eq_true, beq_iff_eq,
      decide_eq_true_eq, Option.bind_some, Option.some_bind, ht, or_true, ↓reduceIte, ha,
      Bool.not_false, Option.map_some']
  · simp only [Conversation.step, hs, List.nil_append, hp, hc, hr, List.elem_eq_mem, List.all_cons,
      List.all_nil, Bool.and_true, Bool.or_eq_true, beq_iff_eq, decide_eq_true_eq, Option.bind_some,
      Option.some_bind, ht, or_true, ↓reduceIte, ha, Bool.not_false, Option.map_some']
  · simp only [Conversation.step, hs, List.nil_append, List.singleton_append, hp, hc, hr,
      List.eraseIdx_zero, List.elem_eq_mem, List.all_cons, List.all_nil, Bool.and_true,
      Bool.or_eq_true, beq_iff_eq, decide_eq_true_eq, Option.bind_some, Option.some_bind,
      List.getElem?_cons_succ, List.getElem?_cons_zero, List.eraseIdx_cons_succ, List.tail_cons, ht,
      or_true, ↓reduceIte, ha, Bool.not_false, Option.map_some']

/-- Dropping Hextile from `hextileAgreed` stops the reader on the server's next Hextile update;
the new session of `noAuthServer`, asking for Hextile, stops when the server's first Hextile
update comes before the assignment; and so does it when a call asking for Hextile overlaps one
asking for nothing that writes first and assigns last. -/
example :
    (Conversation.start noAuthSession).run [.write [.hextile []], .serverReads, .assign 0] =
        some hextileAgreed ∧
      (hextileAgreed.run [.write [], .assign 0, .serverSends [5], .reads]).map
        Conversation.stopped = some true ∧
      ((Conversation.start noAuthSession).run
        [.write [.hextile []], .serverReads, .serverSends [5], .reads]).map
        Conversation.stopped = some true ∧
      ((Conversation.start noAuthSession).run
        [.write [], .write [.hextile []], .serverReads, .serverReads, .assign 1, .assign 0,
          .serverSends [5], .reads]).map Conversation.stopped = some true :=
  ⟨rfl, (@conversation_stops hextileAgreed rfl rfl rfl [] [] (by decide) (by decide) (by decide)
      (by decide) 5).1 (by decide) rfl,
    (@conversation_stops (.start noAuthSession) rfl rfl rfl [.hextile []] [] (by decide) (by decide)
      (by decide) (by decide) 5).2.1 rfl (by decide) rfl,
    (conversation_stops rfl rfl rfl (by decide) (by decide) (by decide) (by decide)).2.2 rfl
      (by decide) rfl⟩

end GoVnc
