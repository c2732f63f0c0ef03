import GoVnc.CutText
import GoVnc.ServerStream

/-!
The client's side of the stream after the handshake, as the server reads it. The messages
are those of RFC 6143, section 7.5, which the package's methods write: a message's wire form
is its type byte, its padding and its fields, and the server reads one message after another
until the stream ends (`readClientStream`). The two halves meet at `ClientMessage.wire`:

* `readClientMessage_reads`: the server reads the wire form of every well-formed message as
  that message, whatever follows it;
* `ClientCall.call_written`: every call of the client's API writes nothing, or one frame, the
  wire form of the message its arguments make, which is well formed.

* `clientRun_decodes`: on every run of a reachable session, reader steps and calls in any
  order, the server decodes everything the client wrote as exactly the messages of the calls
  that wrote, in order; a call that its validation refuses writes nothing; and the run ends in
  a reachable session. A `CutText` whose text has
  runes of two UTF-8 bytes arrives padded with zeros, but framed: the frame's length field and
  its length agree.
-/

namespace GoVnc

open Decoder InputValidator

/-! ## Messages -/

/-- A client-to-server message of RFC 6143, section 7.5. -/
inductive ClientMessage
  | setPixelFormat (pixelFormat : PixelFormat)
  | setEncodings (encodingTypes : List Int)
  | framebufferUpdateRequest (incremental : Bool) (x y width height : UInt16)
  | keyEvent (down : Bool) (key : UInt32)
  | pointerEvent (buttonMask : UInt8) (x y : UInt16)
  | clientCutText (text : Bytes)
  deriving DecidableEq, Repr

/-- A message as it goes on the wire: the type byte, the padding, then the fields. -/
def ClientMessage.wire : ClientMessage → Bytes
  | .setPixelFormat pf => [0, 0, 0, 0] ++ writePixelFormat pf
  | .setEncodings types =>
    [2, 0] ++ be16 (UInt16.ofNat types.length) ++ types.flatMap fun t => be32 (bitsOfInt32 t)
  | .framebufferUpdateRequest incremental x y width height =>
    [3, if incremental then 1 else 0] ++ be16 x ++ be16 y ++ be16 width ++ be16 height
  | .keyEvent down key => [4, if down then 1 else 0, 0, 0] ++ be32 key
  | .pointerEvent buttonMask x y => [5, buttonMask] ++ be16 x ++ be16 y
  | .clientCutText text => [6, 0, 0, 0] ++ be32 (UInt32.ofNat text.length) ++ text

/-- What the 16 bytes of `writePixelFormat` carry of a format: without true colour, only its
size, depth and byte order. -/
def PixelFormat.wireForm (pf : PixelFormat) : PixelFormat :=
  if pf.trueColor then pf else { bpp := pf.bpp, depth := pf.depth, bigEndian := pf.bigEndian }

/-- The messages whose fields fit their wire form: a format its bytes carry whole, at most
65535 encoding types of 32 bits, a text whose length fits 32 bits. -/
def ClientMessage.WellFormed : ClientMessage → Prop
  | .setPixelFormat pf => pf.wireForm = pf
  | .setEncodings types =>
    types.length < 65536 ∧ ∀ t ∈ types, -2147483648 ≤ t ∧ t < 2147483648
  | .clientCutText text => text.length < 4294967296
  | _ => True

theorem ClientMessage.wire_ne_nil (m : ClientMessage) : m.wire ≠ [] := by
  cases m <;> simp [ClientMessage.wire]

theorem PixelFormat.wireForm_wireForm (pf : PixelFormat) : pf.wireForm.wireForm = pf.wireForm := by
  rcases pf with ⟨_, _, _, _ | _⟩ <;> rfl

theorem writePixelFormat_wireForm (pf : PixelFormat) :
    writePixelFormat pf.wireForm = writePixelFormat pf := by
  rcases pf with ⟨_, _, _, _ | _⟩ <;> rfl

/-! ## The server's reading -/

/-- The server's reading of a client message after its type byte: the message's padding and
fields; a flag is true when its byte is not 0. -/
def readClientMessageFields : UInt8 → Decoder ClientMessage
  | 0 => do
    let _ ← readFull 3
    let pixelFormat ← readPixelFormat
    pure (.setPixelFormat pixelFormat)
  | 2 => do
    let _ ← readU8
    let numberOfEncodings ← readU16
    let encodingTypes ← replicate numberOfEncodings.toNat readI32
    pure (.setEncodings encodingTypes)
  | 3 => do
    let incremental ← readU8
    let x ← readU16
    let y ← readU16
    let width ← readU16
    let height ← readU16
    pure (.framebufferUpdateRequest (incremental != 0) x y width height)
  | 4 => do
    let downFlag ← readU8
    let _ ← readFull 2
    let key ← readU32
    pure (.keyEvent (downFlag != 0) key)
  | 5 => do
    let buttonMask ← readU8
    let x ← readU16
    let y ← readU16
    pure (.pointerEvent buttonMask x y)
  | 6 => do
    let _ ← readFull 3
    let length ← readU32
    let text ← readFull length.toNat
    pure (.clientCutText text)
  | _ => fail (.err (protocolError "readClientMessage" "unknown client message type"))

/-- The server's reading of one client message. -/
def readClientMessage : Decoder ClientMessage := do
  let messageType ← readU8
  readClientMessageFields messageType

/-- The server's loop: messages until the stream ends. Every message takes its type byte, so
the stream's length is fuel enough. -/
def readClientStream : Nat → Bytes → Except Fault (List ClientMessage)
  | 0, _ => .ok []
  | _ + 1, [] => .ok []
  | n + 1, b :: s =>
    match readClientMessage (b :: s) with
    | .ok (m, rest) => (readClientStream n rest).map (m :: ·)
    | .error f => .error f

theorem readPixelFormat_writePixelFormat (pf : PixelFormat) :
    readPixelFormat (writePixelFormat pf) = .ok (pf.wireForm, []) := by
  obtain ⟨bpp, depth, be, tc, rm, gm, bm, rs, gs, bs⟩ := pf
  cases tc
  · cases be <;> exact readPixelFormat_bytes ..
  · obtain ⟨r4, r5, rfl⟩ := exists_ofNat_bytes rm
    obtain ⟨g6, g7, rfl⟩ := exists_ofNat_bytes gm
    obtain ⟨b8, b9, rfl⟩ := exists_ofNat_bytes bm
    simp only [writePixelFormat, be16_ofNat]
    cases be <;> exact readPixelFormat_bytes ..

theorem readPixelFormat_reads {pf : PixelFormat} (h : pf.wireForm = pf) :
    readPixelFormat.Reads (writePixelFormat pf) pf := by
  have hpf := readPixelFormat_writePixelFormat pf
  rw [h] at hpf
  exact readPixelFormat_append (writePixelFormat_length pf) hpf

/-- The type byte, then the message's fields. -/
theorem readClientMessage_cons {t : UInt8} {w : Bytes} {m : ClientMessage}
    (h : (readClientMessageFields t).Reads w m) : readClientMessage.Reads (t :: w) m :=
  (readU8_reads t).bind h

/-- The server reads the wire form of every well-formed message as that message. -/
theorem readClientMessage_reads {m : ClientMessage} (h : m.WellFormed) :
    readClientMessage.Reads m.wire m := by
  cases m with
  | setPixelFormat pf =>
    exact readClientMessage_cons (show (readClientMessageFields 0).Reads
      ([0, 0, 0] ++ writePixelFormat pf) (.setPixelFormat pf) from
      (@readFull_reads 3 [0, 0, 0] rfl).bind ((readPixelFormat_reads h).bind_nil (Reads.pure _)))
  | setEncodings types =>
    obtain ⟨hlen, hty⟩ := h
    have hn : (UInt16.ofNat types.length).toNat = types.length := by
      rw [toNat_uint16_ofNat]; omega
    have hts : List.Forall₂ readI32.Reads (types.map fun t => be32 (bitsOfInt32 t)) types :=
      List.forall₂_map_left_iff.mpr
        (List.forall₂_same.mpr fun t ht => readI32_reads (hty t ht).1 (hty t ht).2)
    have hrep : (replicate (UInt16.ofNat types.length).toNat readI32 >>= fun ts =>
        pure (ClientMessage.setEncodings ts)).Reads (types.flatMap fun t => be32 (bitsOfInt32 t))
        (.setEncodings types) := by
      rw [hn, List.flatMap_def]
      exact (Reads.replicate hts).bind_nil (Reads.pure _)
    exact readClientMessage_cons (show (readClientMessageFields 2).Reads
      ([0] ++ (be16 (UInt16.ofNat types.length) ++ types.flatMap fun t => be32 (bitsOfInt32 t)))
      (.setEncodings types) from (readU8_reads 0).bind ((readU16_reads _).bind hrep))
  | framebufferUpdateRequest incremental x y width height =>
    cases incremental <;>
    exact readClientMessage_cons (show (readClientMessageFields 3).Reads
      (_ :: (be16 x ++ (be16 y ++ (be16 width ++ be16 height)))) _ from
      (readU8_reads _).bind ((readU16_reads x).bind ((readU16_reads y).bind
        ((readU16_reads width).bind ((readU16_reads height).bind_nil (Reads.pure _))))))
  | keyEvent down key =>
    cases down <;>
    exact readClientMessage_cons (show (readClientMessageFields 4).Reads
      (_ :: ([0, 0] ++ be32 key)) _ from
      (readU8_reads _).bind ((@readFull_reads 2 [0, 0] rfl).bind
        ((readU32_reads key).bind_nil (Reads.pure _))))
  | pointerEvent buttonMask x y =>
    exact readClientMessage_cons (show (readClientMessageFields 5).Reads
      (buttonMask :: (be16 x ++ be16 y)) (.pointerEvent buttonMask x y) from
      (readU8_reads buttonMask).bind ((readU16_reads x).bind
        ((readU16_reads y).bind_nil (Reads.pure _))))
  | clientCutText text =>
    have hn : (UInt32.ofNat text.length).toNat = text.length := by
      rw [toNat_uint32_ofNat]; exact Nat.mod_eq_of_lt h
    exact readClientMessage_cons (show (readClientMessageFields 6).Reads
      ([0, 0, 0] ++ (be32 (UInt32.ofNat text.length) ++ text)) (.clientCutText text) from
      (@readFull_reads 3 [0, 0, 0] rfl).bind ((readU32_reads _).bind
        ((readFull_reads hn.symm).bind_nil (Reads.pure _))))

/-- One more message on the stream is one more message read. -/
theorem readClientStream_wire {m : ClientMessage} (h : m.WellFormed) (n : Nat) (rest : Bytes) :
    readClientStream (n + 1) (m.wire ++ rest) = (readClientStream n rest).map (m :: ·) := by
  obtain ⟨b, t, hbt⟩ := List.exists_cons_of_ne_nil m.wire_ne_nil
  rw [hbt, List.cons_append, readClientStream, ← List.cons_append, ← hbt,
    readClientMessage_reads h rest]

/-! ## The client's calls -/

/-- A call of the client's API with its arguments. -/
inductive ClientCall
  | setPixelFormat (format : Option PixelFormat)
  | setEncodings (encs : List Encoding)
  | framebufferUpdateRequest (incremental : Bool) (x y width height : UInt16)
  | keyEvent (keysym : UInt32) (down : Bool)
  | pointerEvent (mask : UInt8) (x y : UInt16)
  | cutText (spareCapacity : Nat) (text : Bytes)

/-- The call on session `c`, its write returning `nil` when `writeOk`. -/
def ClientCall.call (U : UnicodeTables) (c : ClientConn) (writeOk : Bool) :
    ClientCall → Except Panic Call
  | .setPixelFormat format => .ok (c.setPixelFormat writeOk format)
  | .setEncodings encs => .ok (c.setEncodings writeOk encs)
  | .framebufferUpdateRequest incremental x y width height =>
    .ok (c.framebufferUpdateRequest writeOk incremental x y width height)
  | .keyEvent keysym down => .ok (c.keyEvent writeOk keysym down)
  | .pointerEvent mask x y => .ok (c.pointerEvent writeOk mask x y)
  | .cutText spareCapacity text => c.cutText U writeOk spareCapacity text

/-- The message a call's arguments make: the format as its bytes carry it, the encodings'
types, and for `CutText` the Latin-1 bytes of the sanitised text's runes followed by a zero for
each byte the UTF-8 text has beyond one per rune. -/
def ClientCall.message (U : UnicodeTables) : ClientCall → Option ClientMessage
  | .setPixelFormat format => format.map fun pf => .setPixelFormat pf.wireForm
  | .setEncodings encs => some (.setEncodings (encs.map Encoding.type))
  | .framebufferUpdateRequest incremental x y width height =>
    some (.framebufferUpdateRequest incremental x y width height)
  | .keyEvent keysym down => some (.keyEvent down keysym)
  | .pointerEvent mask x y => some (.pointerEvent mask x y)
  | .cutText _ text =>
    let t := sanitizeText U text
    some (.clientCutText ((runesOf t).map UInt8.ofNat ++
      List.replicate (t.length - (runesOf t).length) 0))

/-- The message a call sent, given with the session it ran on and what it returned: its own,
if it wrote. -/
def ClientCall.sent (U : UnicodeTables) (ckr : ClientConn × ClientCall × Call) :
    Option ClientMessage :=
  if ckr.2.2.written = [] then none else ckr.2.1.message U

/-- A call that its method's own validation refuses on session `c`: an invalid pixel format,
more than 100 encodings or a type that `ValidateEncodingType` refuses, an invalid keysym, a
pointer outside the framebuffer, a clipboard text that `ValidateTextData` refuses or that has a
rune beyond Latin-1 once sanitised. -/
def ClientCall.Refused (U : UnicodeTables) (c : ClientConn) : ClientCall → Prop
  | .setPixelFormat format => validatePixelFormat format ≠ .ok ()
  | .setEncodings encs => 100 < encs.length ∨ ∃ e ∈ encs, validateEncodingType e.type ≠ .ok ()
  | .framebufferUpdateRequest .. => False
  | .keyEvent keysym _ => validateKeySymbol keysym ≠ .ok ()
  | .pointerEvent _ x y => validatePointerPosition x y c.frameBufferWidth c.frameBufferHeight ≠ .ok ()
  | .cutText _ text =>
    validateTextData text (1024 * 1024) ≠ .ok () ∨ ∃ r ∈ runesOf (sanitizeText U text), 255 < r

theorem ClientConn.setEncodings_invalid_rejected (c : ClientConn) (writeOk : Bool)
    {encs : List Encoding} (h : ∃ e ∈ encs, validateEncodingType e.type ≠ .ok ()) :
    (c.setEncodings writeOk encs).Rejected c := by
  unfold ClientConn.setEncodings
  dsimp only
  split_ifs
  · exact ClientConn.refuse_rejected ..
  split
  · exact ClientConn.refuse_rejected ..
  · obtain ⟨e, he, hv⟩ := h
    exact absurd ((checkEncodingTypes_ok_iff 0 encs).mp ‹_› e he) hv

theorem ClientConn.cutText_refused {U : UnicodeTables} {c : ClientConn} {writeOk : Bool}
    {spareCapacity : Nat} {text : Bytes} {r : Call}
    (hk : validateTextData text (1024 * 1024) ≠ .ok () ∨ ∃ r ∈ runesOf (sanitizeText U text), 255 < r)
    (h : c.cutText U writeOk spareCapacity text = .ok r) : r.Rejected c := by
  unfold ClientConn.cutText at h
  split at h
  · cases h; exact ClientConn.refuse_rejected ..
  rename_i hv
  dsimp only at h
  split at h
  · cases h; exact ClientConn.refuse_rejected ..
  · rename_i payload hp
    obtain ⟨ch, hch, hgt⟩ := hk.resolve_left (· hv)
    obtain ⟨_, he⟩ := latin1Bytes_of_gt hch hgt
    rw [he] at hp
    cases hp

/-- A call that its validation refuses writes nothing, returns an error and leaves the
session as it was. -/
theorem ClientCall.refused_rejected {U : UnicodeTables} {c : ClientConn} {writeOk : Bool}
    {k : ClientCall} {r : Call} (hk : k.Refused U c) (h : k.call U c writeOk = .ok r) :
    r.Rejected c := by
  cases k with
  | setPixelFormat => cases h; exact c.setPixelFormat_rejected writeOk hk
  | setEncodings encs =>
    cases h
    rcases hk with hn | hv
    · exact (c.setEncodings_rejected writeOk hn).1
    · exact c.setEncodings_invalid_rejected writeOk hv
  | framebufferUpdateRequest => exact hk.elim
  | keyEvent => cases h; exact c.keyEvent_rejected writeOk _ hk
  | pointerEvent => cases h; exact c.pointerEvent_rejected writeOk _ hk
  | cutText => exact ClientConn.cutText_refused hk h

/-- What a call wrote: nothing, or the wire form of its message, which is well formed. -/
def ClientCall.Written (U : UnicodeTables) (k : ClientCall) (r : Call) : Prop :=
  r.written = [] ∨ ∃ m, k.message U = some m ∧ m.WellFormed ∧ r.written = [m.wire]

theorem ClientConn.send_written (c after : ClientConn) (writeOk : Bool) (frame : Bytes)
    (e : VNCError) : (c.send after writeOk frame e).written = [frame] := by
  unfold ClientConn.send
  cases writeOk <;> rfl

theorem latin1Bytes_eq_ok {rs : List Nat} {payload : Bytes} (h : latin1Bytes rs = .ok payload) :
    (∀ r ∈ rs, r ≤ 255) ∧ payload = rs.map UInt8.ofNat := by
  have hle : ∀ r ∈ rs, r ≤ 255 := fun r hr => Nat.not_lt.mp fun hgt => by
    obtain ⟨_, he⟩ := latin1Bytes_of_gt hr hgt
    rw [he] at h
    cases h
  rw [latin1Bytes_of_le hle] at h
  cases h
  exact ⟨hle, rfl⟩

theorem length_le_stringOfRunes : ∀ rs : List Nat, rs.length ≤ (stringOfRunes rs).length
  | [] => le_rfl
  | r :: rs => by
    have := encodeRune_length_pos r
    have := length_le_stringOfRunes rs
    rw [stringOfRunes, List.flatMap_cons, List.length_append, ← stringOfRunes, List.length_cons]
    omega

/-- Sanitising keeps the runes' count, which a valid text's length bounds. -/
theorem runesOf_sanitizeText_length_le (U : UnicodeTables) {text : Bytes}
    (h : validString text = true) : (runesOf (sanitizeText U text)).length ≤ text.length := by
  unfold sanitizeText
  split
  · next he => subst he; exact le_rfl
  · rw [runesOf_stringOfRunes, List.length_map, List.length_map]
    calc (runesOf text).length ≤ (stringOfRunes (runesOf text)).length := length_le_stringOfRunes _
      _ = text.length := by rw [stringOfRunes_runesOf h]

/-- A `CutText` that returns a call wrote nothing, or its message: the length field is the
sanitised text's UTF-8 length, of at most two bytes a rune, and the frame is that long. -/
theorem ClientConn.cutText_written {U : UnicodeTables} {c : ClientConn} {writeOk : Bool}
    {spareCapacity : Nat} {text : Bytes} {r : Call}
    (h : c.cutText U writeOk spareCapacity text = .ok r) :
    (ClientCall.cutText spareCapacity text).Written U r := by
  unfold ClientConn.cutText at h
  split at h
  · cases h; exact .inl rfl
  rename_i hv
  dsimp only at h
  split at h
  · cases h; exact .inl rfl
  rename_i payload hp
  obtain ⟨hl, rfl⟩ := latin1Bytes_eq_ok hp
  split_ifs at h with hcap
  cases h
  obtain ⟨hmax, hvalid, -⟩ := (validateTextData_ok_iff _ _).mp hv
  have hk := runesOf_sanitizeText_length_le U hvalid
  have hlen : (sanitizeText U text).length =
      (runesOf (sanitizeText U text)).length + (runesOf (sanitizeText U text)).countP (128 ≤ ·) := by
    conv => lhs; rw [← stringOfRunes_runesOf (sanitizeText_runes U text).1]
    exact stringOfRunes_length_latin1 hl
  have hcount : (runesOf (sanitizeText U text)).countP (128 ≤ ·) ≤
      (runesOf (sanitizeText U text)).length := List.countP_le_length _
  have hbuf : ([6, 0, 0, 0] ++ be32 (UInt32.ofNat (sanitizeText U text).length) ++
      (runesOf (sanitizeText U text)).map UInt8.ofNat).length =
        8 + (runesOf (sanitizeText U text)).length := by
    simp only [List.length_append, be32_length, List.length_map]; rfl
  rw [hbuf] at hcap
  refine .inr ⟨_, rfl, ?_, ?_⟩
  · simp only [ClientMessage.WellFormed, List.length_append, List.length_map, List.length_replicate]
    omega
  · rw [ClientConn.send_written, List.take_append_eq_append_take, List.take_of_length_le (by omega),
      hbuf, List.take_replicate, Nat.min_eq_left (by omega)]
    simp only [ClientMessage.wire, List.length_append, List.length_map, List.length_replicate,
      Nat.add_sub_cancel' (Nat.le.intro hlen.symm), Nat.add_sub_add_left, List.append_assoc]

/-- `SetEncodings` writes nothing, or the wire form of its encodings' types. -/
theorem ClientConn.setEncodings_written (c : ClientConn) (writeOk : Bool) (encs : List Encoding) :
    (c.setEncodings writeOk encs).written = [] ∨
      (ClientMessage.setEncodings (encs.map Encoding.type)).WellFormed ∧
        (c.setEncodings writeOk encs).written =
          [(ClientMessage.setEncodings (encs.map Encoding.type)).wire] := by
  unfold ClientConn.setEncodings
  dsimp only
  split_ifs with hn
  · exact .inl rfl
  split
  · exact .inl rfl
  refine .inr ⟨⟨by rw [List.length_map]; omega, fun t ht => ?_⟩, ?_⟩
  · obtain ⟨e, -, rfl⟩ := List.mem_map.mp ht
    exact e.type_int32
  · rw [ClientConn.send_written, ClientMessage.wire, List.length_map, List.flatMap_map]

/-- Every call that returns wrote nothing, or one frame: the wire form of its message. -/
theorem ClientCall.call_written {U : UnicodeTables} {c : ClientConn} {writeOk : Bool}
    {k : ClientCall} {r : Call} (h : k.call U c writeOk = .ok r) : k.Written U r := by
  cases k with
  | cutText spareCapacity text => exact ClientConn.cutText_written h
  | setPixelFormat format =>
    cases h
    unfold ClientConn.setPixelFormat
    split
    · exact .inr ⟨_, rfl, PixelFormat.wireForm_wireForm _,
        by rw [ClientConn.send_written, ClientMessage.wire, writePixelFormat_wireForm]⟩
    · exact .inl rfl
  | setEncodings encs =>
    cases h
    rcases ClientConn.setEncodings_written c writeOk encs with hw | ⟨hwf, hw⟩
    · exact .inl hw
    · exact .inr ⟨_, rfl, hwf, hw⟩
  | framebufferUpdateRequest => cases h; exact .inr ⟨_, rfl, trivial, ClientConn.send_written ..⟩
  | keyEvent =>
    cases h
    unfold ClientConn.keyEvent
    split
    · exact .inl rfl
    · exact .inr ⟨_, rfl, trivial, ClientConn.send_written ..⟩
  | pointerEvent =>
    cases h
    unfold ClientConn.pointerEvent
    split
    · exact .inl rfl
    · exact .inr ⟨_, rfl, trivial, ClientConn.send_written ..⟩

/-- Every call that returns is a step of the session. -/
theorem ClientCall.call_step {U : UnicodeTables} {c : ClientConn} {writeOk : Bool}
    {k : ClientCall} {r : Call} (h : k.call U c writeOk = .ok r) : Step U c r.conn := by
  cases k with
  | cutText => exact ClientConn.cutText_step h
  | setPixelFormat => cases h; exact .setPixelFormat ..
  | setEncodings => cases h; exact .setEncodings ..
  | framebufferUpdateRequest => cases h; exact .framebufferUpdateRequest ..
  | keyEvent => cases h; exact .keyEvent ..
  | pointerEvent => cases h; exact .pointerEvent ..

/-! ## Runs -/

/-- A run of a session with what the client wrote on it: reader steps write nothing, a call
writes what it hands to `Write`. The run lists each call with the session it ran on and what it
returned. -/
inductive ClientRun (U : UnicodeTables) :
    ClientConn → Bytes → List (ClientConn × ClientCall × Call) → ClientConn → Prop
  | nil (c : ClientConn) : ClientRun U c [] [] c
  | serverMessage {c c' : ClientConn} {w : Bytes} {calls : List (ClientConn × ClientCall × Call)}
      (b : UInt8) (read : MessageRead) (s : Bytes) (h : typeMap (defaultMessages U) b = some read)
      (hr : ClientRun U (read c s).1 w calls c') : ClientRun U c w calls c'
  | call {c c' : ClientConn} {w : Bytes} {calls : List (ClientConn × ClientCall × Call)}
      (k : ClientCall) (writeOk : Bool) (r : Call) (hk : k.call U c writeOk = .ok r)
      (hr : ClientRun U r.conn w calls c') :
      ClientRun U c (r.written.flatten ++ w) ((c, k, r) :: calls) c'

theorem ClientRun.reachable {U : UnicodeTables} {cfg : ClientConfig} {B : Bytes} {c c' : ClientConn}
    {w : Bytes} {calls : List (ClientConn × ClientCall × Call)} (h : ClientRun U c w calls c')
    (hc : Reachable U cfg B c) : Reachable U cfg B c' := by
  induction h with
  | nil => exact hc
  | serverMessage b read s hb _ ih => exact ih (.step _ _ hc (.serverMessage _ b read s hb))
  | call k writeOk r hk _ ih => exact ih (.step _ _ hc (ClientCall.call_step hk))

/-- The server's loop, with any fuel the stream's length allows, reads the messages of the
calls that wrote. -/
theorem ClientRun.decodes {U : UnicodeTables} {c c' : ClientConn} {w : Bytes}
    {calls : List (ClientConn × ClientCall × Call)} (h : ClientRun U c w calls c') :
    ∀ n, w.length ≤ n → readClientStream n w = .ok (calls.filterMap (ClientCall.sent U)) := by
  induction h with
  | nil => intro n _; cases n <;> rfl
  | serverMessage _ _ _ _ _ ih => exact ih
  | call k writeOk r hk _ ih =>
    intro n hn
    rw [List.filterMap_cons, ClientCall.sent]
    rcases ClientCall.call_written hk with hw | ⟨m, hm, hwf, hw⟩
    · rw [hw, List.flatten_nil, List.nil_append] at hn ⊢
      rw [if_pos rfl]
      exact ih n hn
    · rw [hw, List.flatten_singleton, List.length_append] at hn
      have := List.length_pos.mpr m.wire_ne_nil
      obtain ⟨n, rfl⟩ : ∃ n', n = n' + 1 := ⟨n - 1, by omega⟩
      rw [hw, List.flatten_singleton, if_neg (List.cons_ne_nil _ _), hm, readClientStream_wire hwf,
        ih n (by omega)]
      rfl

/-- Every call of a run that its validation refused wrote nothing, returned an error and left
the session it ran on. -/
theorem ClientRun.refused {U : UnicodeTables} {c c' : ClientConn} {w : Bytes}
    {calls : List (ClientConn × ClientCall × Call)} (h : ClientRun U c w calls c') :
    ∀ x ∈ calls, x.2.1.Refused U x.1 → x.2.2.Rejected x.1 := by
  induction h with
  | nil => intro x hx; cases hx
  | serverMessage _ _ _ _ _ ih => exact ih
  | call k writeOk r hk _ ih =>
    intro x hx
    rcases List.mem_cons.mp hx with rfl | hx
    · exact fun hr => ClientCall.refused_rejected hr hk
    · exact ih x hx

/-- On every run of a reachable session, reader steps and calls in any order, the server's
reading of everything the client wrote gives exactly the messages of the calls that wrote, in
order; every call that its validation refused wrote nothing, returned an error and left the
session; and the run ends in a reachable session. -/
theorem clientRun_decodes {U : UnicodeTables} {cfg : ClientConfig} {B : Bytes} {c c' : ClientConn}
    {w : Bytes} {calls : List (ClientConn × ClientCall × Call)} (hc : Reachable U cfg B c)
    (h : ClientRun U c w calls c') :
    readClientStream w.length w = .ok (calls.filterMap (ClientCall.sent U)) ∧
      (∀ x ∈ calls, x.2.1.Refused U x.1 → x.2.2.Rejected x.1) ∧ Reachable U cfg B c' :=
  ⟨h.decodes _ le_rfl, h.refused, h.reachable hc⟩

/-- An encoding implemented outside the package, of type 2000000, which `ValidateEncodingType`
refuses, with a `Read` that takes nothing. -/
def farEncoding : Encoding :=
  .other 2000000 ⟨fun _ _ s => .ok ([], s), fun _ _ s _ _ h => by
    cases h; exact ⟨[], rfl, fun _ => rfl⟩⟩ []

/-- On the session of `noAuthServer`: Enter pressed, a Bell read, a click outside the
640 × 480 framebuffer refused, encodings with a type beyond `ValidateEncodingType`'s bound
refused, then "é" sent with 55 bytes of spare capacity. The server reads the key and a cut
text of "é" in Latin-1 followed by a zero. -/
theorem clientRun_decodes_enterBellEAcute :
    Reachable latin1Only {} noAuthServer noAuthSession ∧
      ClientRun latin1Only noAuthSession
        ([4, 1, 0, 0, 0, 0, 0xFF, 0x0D] ++ [6, 0, 0, 0, 0, 0, 0, 2, 0xE9, 0])
        [(noAuthSession, .keyEvent 0xFF0D true, noAuthSession.keyEvent true 0xFF0D true),
          (noAuthSession, .pointerEvent 1 700 10, noAuthSession.pointerEvent true 1 700 10),
          (noAuthSession, .setEncodings [.raw [], farEncoding],
            noAuthSession.setEncodings true [.raw [], farEncoding]),
          (noAuthSession, .cutText 55 [0xC3, 0xA9],
            ⟨noAuthSession, [[6, 0, 0, 0, 0, 0, 0, 2, 0xE9, 0]], .ok ()⟩)]
        noAuthSession ∧
      readClientStream 18 ([4, 1, 0, 0, 0, 0, 0xFF, 0x0D] ++ [6, 0, 0, 0, 0, 0, 0, 2, 0xE9, 0]) =
        .ok [.keyEvent true 0xFF0D, .clientCutText [0xE9, 0]] ∧
      (∀ x ∈ [(noAuthSession, ClientCall.keyEvent 0xFF0D true, noAuthSession.keyEvent true 0xFF0D true),
          (noAuthSession, .pointerEvent 1 700 10, noAuthSession.pointerEvent true 1 700 10),
          (noAuthSession, .setEncodings [.raw [], farEncoding],
            noAuthSession.setEncodings true [.raw [], farEncoding]),
          (noAuthSession, .cutText 55 [0xC3, 0xA9],
            ⟨noAuthSession, [[6, 0, 0, 0, 0, 0, 0, 2, 0xE9, 0]], .ok ()⟩)],
        x.2.1.Refused latin1Only x.1 → x.2.2.Rejected x.1) ∧
      Reachable latin1Only {} noAuthServer noAuthSession :=
  have hc : Reachable latin1Only {} noAuthServer noAuthSession :=
    .handshake _ (asciiBytes "RFB 003.008\n" ++ [1] ++ [] ++ [1]) [] rfl
  have h : ClientRun latin1Only noAuthSession
      ([4, 1, 0, 0, 0, 0, 0xFF, 0x0D] ++ [6, 0, 0, 0, 0, 0, 0, 2, 0xE9, 0])
      [(noAuthSession, .keyEvent 0xFF0D true, noAuthSession.keyEvent true 0xFF0D true),
        (noAuthSession, .pointerEvent 1 700 10, noAuthSession.pointerEvent true 1 700 10),
        (noAuthSession, .setEncodings [.raw [], farEncoding],
          noAuthSession.setEncodings true [.raw [], farEncoding]),
        (noAuthSession, .cutText 55 [0xC3, 0xA9],
          ⟨noAuthSession, [[6, 0, 0, 0, 0, 0, 0, 2, 0xE9, 0]], .ok ()⟩)]
      noAuthSession :=
    .call (.keyEvent 0xFF0D true) true (noAuthSession.keyEvent true 0xFF0D true) rfl <|
      .serverMessage 2 BellMessage.read [] rfl <|
      .call (.pointerEvent 1 700 10) true (noAuthSession.pointerEvent true 1 700 10) rfl <|
      .call (.setEncodings [.raw [], farEncoding]) true
        (noAuthSession.setEncodings true [.raw [], farEncoding]) rfl <|
      .call (.cutText 55 [0xC3, 0xA9]) true
        ⟨noAuthSession, [[6, 0, 0, 0, 0, 0, 0, 2, 0xE9, 0]], .ok ()⟩ rfl <| .nil _
  ⟨hc, h, (clientRun_decodes hc h).1.trans rfl, (clientRun_decodes hc h).2.1,
    (clientRun_decodes hc h).2.2⟩

end GoVnc
