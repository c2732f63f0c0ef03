import GoVnc.Encodings

/-!
The client-to-server messages of `ClientConn`: `FramebufferUpdateRequest`,
`KeyEvent`, `PointerEvent`, `SetEncodings` and `SetPixelFormat`. Each method
validates its input, builds its frame in a `bytes.Buffer` (whose writes cannot
fail), hands the frame to one `writeWithContext`, and changes the session only
when that write returned `nil`. Whether it does is the connection's part: the
parameter `writeOk`.

* `clientMessages_frames`: the frame of every method for every valid input, and
  nothing written for an invalid one, an encoding type that `ValidateEncodingType` refuses
  among them.
* `ClientConn.setPixelFormat_pixelFormat`: `SetPixelFormat` never assigns `PixelFormat`.
-/

namespace GoVnc

open InputValidator

/-- What a method call leaves: the session, the frames handed to `Write`, and the error
it returns. -/
structure Call where
  conn : ClientConn
  written : List Bytes
  result : Except VNCError Unit

/-- `writeWithContext(ctx, frame)`, then the method's own update `after` when it
returned `nil`. -/
def ClientConn.send (c after : ClientConn) (writeOk : Bool) (frame : Bytes) (e : VNCError) :
    Call :=
  if writeOk then ⟨after, [frame], .ok ()⟩ else ⟨c, [frame], .error e⟩

/-- A call its validation refused: nothing is written. -/
def ClientConn.refuse (c : ClientConn) (e : VNCError) : Call := ⟨c, [], .error e⟩

/-- One write of `frame`; the session becomes `after` if the call returns `nil`, and stays
`c` if it returns an error. -/
def Call.Sends (r : Call) (c : ClientConn) (frame : Bytes) (after : ClientConn) : Prop :=
  r.written = [frame] ∧ (r.result = .ok () ∧ r.conn = after ∨ r.result ≠ .ok () ∧ r.conn = c)

/-- An error, no write, and the session unchanged. -/
def Call.Rejected (r : Call) (c : ClientConn) : Prop :=
  r.written = [] ∧ r.conn = c ∧ r.result ≠ .ok ()

theorem ClientConn.send_sends (c after : ClientConn) (writeOk : Bool) (frame : Bytes)
    (e : VNCError) : (c.send after writeOk frame e).Sends c frame after := by
  unfold ClientConn.send Call.Sends
  cases writeOk <;> simp

theorem ClientConn.refuse_rejected (c : ClientConn) (e : VNCError) : (c.refuse e).Rejected c :=
  ⟨rfl, rfl, by simp [ClientConn.refuse]⟩

/-! ## The methods -/

/-- `FramebufferUpdateRequest`: no validation. -/
def ClientConn.framebufferUpdateRequest (c : ClientConn) (writeOk incremental : Bool)
    (x y width height : UInt16) : Call :=
  let incrementalByte : UInt8 := if incremental then 1 else 0
  c.send c writeOk ([3, incrementalByte] ++ be16 x ++ be16 y ++ be16 width ++ be16 height)
    (networkError "FramebufferUpdateRequest" "failed to send framebuffer update request")

/-- `KeyEvent`. -/
def ClientConn.keyEvent (c : ClientConn) (writeOk : Bool) (keysym : UInt32) (down : Bool) :
    Call :=
  match validateKeySymbol keysym with
  | .error _ => c.refuse (validationError "KeyEvent" "invalid keysym value")
  | .ok () =>
    let downFlag : UInt8 := if down then 1 else 0
    c.send c writeOk ([4, downFlag, 0, 0] ++ be32 keysym)
      (networkError "KeyEvent" "failed to send key event")

/-- `PointerEvent`: the position is checked against the current framebuffer size. -/
def ClientConn.pointerEvent (c : ClientConn) (writeOk : Bool) (mask : UInt8) (x y : UInt16) :
    Call :=
  match validatePointerPosition x y c.frameBufferWidth c.frameBufferHeight with
  | .error _ => c.refuse (validationError "PointerEvent" "invalid pointer coordinates")
  | .ok () =>
    c.send c writeOk ([5, mask] ++ be16 x ++ be16 y)
      (networkError "PointerEvent" "failed to send pointer event")

/-- The loop of `SetEncodings` over the encoding types, from index `i`. -/
def checkEncodingTypes : Nat → List Encoding → Except VNCError Unit
  | _, [] => .ok ()
  | i, enc :: encs =>
    match validateEncodingType enc.type with
    | .error _ => .error (validationError "SetEncodings" s!"invalid encoding type at index {i}")
    | .ok () => checkEncodingTypes (i + 1) encs

theorem checkEncodingTypes_cons (i : Nat) (enc : Encoding) (encs : List Encoding) :
    checkEncodingTypes i (enc :: encs) =
      if validateEncodingType enc.type = .ok () then checkEncodingTypes (i + 1) encs
      else .error (validationError "SetEncodings" s!"invalid encoding type at index {i}") := by
  cases h : validateEncodingType enc.type <;> simp [checkEncodingTypes, h]

/-- The loop passes exactly when every type passes `ValidateEncodingType`. -/
theorem checkEncodingTypes_ok_iff (i : Nat) (encs : List Encoding) :
    checkEncodingTypes i encs = .ok () ↔ ∀ e ∈ encs, validateEncodingType e.type = .ok () := by
  induction encs generalizing i with
  | nil => simp [checkEncodingTypes]
  | cons enc encs ih =>
    rw [checkEncodingTypes_cons, List.forall_mem_cons]
    split_ifs with h
    · rw [ih]; simp [h]
    · simp [h]

/-- The loop stops at the first type that `ValidateEncodingType` refuses and names its index. -/
theorem checkEncodingTypes_refuses {pre : List Encoding} {e : Encoding} (post : List Encoding)
    (hpre : ∀ p ∈ pre, validateEncodingType p.type = .ok ()) (he : validateEncodingType e.type ≠ .ok ())
    (i : Nat) : checkEncodingTypes i (pre ++ e :: post) =
      .error (validationError "SetEncodings" s!"invalid encoding type at index {i + pre.length}") := by
  induction pre generalizing i with
  | nil => rw [List.nil_append, checkEncodingTypes_cons, if_neg he]; rfl
  | cons p pre ih =>
    rw [List.forall_mem_cons] at hpre
    rw [List.cons_append, checkEncodingTypes_cons, if_pos hpre.1, ih hpre.2, List.length_cons,
      Nat.add_right_comm, Nat.add_assoc]

/-- `SetEncodings`: at most 100 encodings; `Encs` is assigned after the write. -/
def ClientConn.setEncodings (c : ClientConn) (writeOk : Bool) (encs : List Encoding) : Call :=
  let n := encs.length
  if n > 100 then c.refuse (validationError "SetEncodings" s!"too many encodings: {n} (max 100)")
  else
    match checkEncodingTypes 0 encs with
    | .error e => c.refuse e
    | .ok () =>
      c.send { c with encs } writeOk
        ([2, 0] ++ be16 (UInt16.ofNat n) ++ encs.flatMap fun enc => be32 (bitsOfInt32 enc.type))
        (networkError "SetEncodings" "failed to send set encodings message")

/-- `SetPixelFormat`: a 20-byte message, the format in bytes 4 to 19 (`writePixelFormat`
cannot fail), then the colour map reset. `PixelFormat` is not assigned. -/
def ClientConn.setPixelFormat (c : ClientConn) (writeOk : Bool) (format : Option PixelFormat) :
    Call :=
  match validatePixelFormat format, format with
  | .ok (), some pf =>
    c.send { c with colorMap := zeroColorMap } writeOk ([0, 0, 0, 0] ++ writePixelFormat pf)
      (networkError "SetPixelFormat" "failed to send pixel format message")
  | _, _ => c.refuse (validationError "SetPixelFormat" "invalid pixel format")

/-! ## Frames -/

section Frames

variable (c : ClientConn) (writeOk : Bool)

theorem ClientConn.keyEvent_sends {keysym : UInt32} (down : Bool)
    (h : validateKeySymbol keysym = .ok ()) :
    (c.keyEvent writeOk keysym down).Sends c ([4, if down then 1 else 0, 0, 0] ++ be32 keysym) c := by
  simp only [ClientConn.keyEvent, h]
  exact ClientConn.send_sends ..

theorem ClientConn.keyEvent_rejected {keysym : UInt32} (down : Bool)
    (h : validateKeySymbol keysym ≠ .ok ()) : (c.keyEvent writeOk keysym down).Rejected c := by
  unfold ClientConn.keyEvent
  split
  · exact ClientConn.refuse_rejected ..
  · exact absurd ‹_› h

theorem ClientConn.pointerEvent_sends (mask : UInt8) {x y : UInt16}
    (h : validatePointerPosition x y c.frameBufferWidth c.frameBufferHeight = .ok ()) :
    (c.pointerEvent writeOk mask x y).Sends c ([5, mask] ++ be16 x ++ be16 y) c := by
  simp only [ClientConn.pointerEvent, h]
  exact ClientConn.send_sends ..

theorem ClientConn.pointerEvent_rejected (mask : UInt8) {x y : UInt16}
    (h : validatePointerPosition x y c.frameBufferWidth c.frameBufferHeight ≠ .ok ()) :
    (c.pointerEvent writeOk mask x y).Rejected c := by
  unfold ClientConn.pointerEvent
  split
  · exact ClientConn.refuse_rejected ..
  · exact absurd ‹_› h

theorem ClientConn.setEncodings_sends {encs : List Encoding} (h : encs.length ≤ 100)
    (hv : ∀ e ∈ encs, validateEncodingType e.type = .ok ()) :
    (c.setEncodings writeOk encs).Sends c
      ([2, 0] ++ be16 (UInt16.ofNat encs.length) ++ encs.flatMap fun enc => be32 (bitsOfInt32 enc.type))
      { c with encs } := by
  simp only [ClientConn.setEncodings, if_neg (Nat.not_lt.mpr h),
    (checkEncodingTypes_ok_iff 0 encs).mpr hv]
  exact ClientConn.send_sends ..

theorem ClientConn.setEncodings_rejected {encs : List Encoding} (h : 100 < encs.length) :
    (c.setEncodings writeOk encs).Rejected c ∧ (c.setEncodings writeOk encs).result =
      .error (validationError "SetEncodings" s!"too many encodings: {encs.length} (max 100)") := by
  simp only [ClientConn.setEncodings, if_pos h]
  exact ⟨ClientConn.refuse_rejected .., rfl⟩

theorem ClientConn.setEncodings_refused {pre : List Encoding} {e : Encoding} {post : List Encoding}
    (h : (pre ++ e :: post).length ≤ 100) (hpre : ∀ p ∈ pre, validateEncodingType p.type = .ok ())
    (he : validateEncodingType e.type ≠ .ok ()) :
    (c.setEncodings writeOk (pre ++ e :: post)).Rejected c ∧
      (c.setEncodings writeOk (pre ++ e :: post)).result =
        .error (validationError "SetEncodings" s!"invalid encoding type at index {pre.length}") := by
  have hr := checkEncodingTypes_refuses post hpre he 0
  rw [Nat.zero_add] at hr
  simp only [ClientConn.setEncodings, if_neg (Nat.not_lt.mpr h), hr]
  exact ⟨ClientConn.refuse_rejected .., rfl⟩

theorem ClientConn.setPixelFormat_sends {pf : PixelFormat} (h : validatePixelFormat (some pf) = .ok ()) :
    (c.setPixelFormat writeOk (some pf)).Sends c ([0, 0, 0, 0] ++ writePixelFormat pf)
      { c with colorMap := zeroColorMap } := by
  simp only [ClientConn.setPixelFormat, h]
  exact ClientConn.send_sends ..

theorem ClientConn.setPixelFormat_rejected {format : Option PixelFormat}
    (h : validatePixelFormat format ≠ .ok ()) : (c.setPixelFormat writeOk format).Rejected c := by
  unfold ClientConn.setPixelFormat
  split
  · exact absurd ‹_› h
  · exact ClientConn.refuse_rejected ..

end Frames

/-- Every client message, for every input that passes its validation, is one write of its
RFC 6143 frame; a refused input writes nothing and leaves the session. `SetEncodings` refuses
more than 100 encodings, and otherwise stops at the first whose type `ValidateEncodingType`
refuses, naming its index. -/
theorem clientMessages_frames (c : ClientConn) (writeOk : Bool) :
    (∀ incremental x y width height, (c.framebufferUpdateRequest writeOk incremental x y width height).Sends c
      ([3, if incremental then 1 else 0] ++ be16 x ++ be16 y ++ be16 width ++ be16 height) c) ∧
    (∀ keysym down, validateKeySymbol keysym = .ok () →
      (c.keyEvent writeOk keysym down).Sends c ([4, if down then 1 else 0, 0, 0] ++ be32 keysym) c) ∧
    (∀ mask x y, validatePointerPosition x y c.frameBufferWidth c.frameBufferHeight = .ok () →
      (c.pointerEvent writeOk mask x y).Sends c ([5, mask] ++ be16 x ++ be16 y) c) ∧
    (∀ encs : List Encoding, encs.length ≤ 100 → (∀ e ∈ encs, validateEncodingType e.type = .ok ()) →
      (c.setEncodings writeOk encs).Sends c
        ([2, 0] ++ be16 (UInt16.ofNat encs.length) ++ encs.flatMap fun enc => be32 (bitsOfInt32 enc.type))
        { c with encs }) ∧
    (∀ pf, validatePixelFormat (some pf) = .ok () → (c.setPixelFormat writeOk (some pf)).Sends c
      ([0, 0, 0, 0] ++ writePixelFormat pf) { c with colorMap := zeroColorMap }) ∧
    (∀ keysym down, validateKeySymbol keysym ≠ .ok () → (c.keyEvent writeOk keysym down).Rejected c) ∧
    (∀ mask x y, validatePointerPosition x y c.frameBufferWidth c.frameBufferHeight ≠ .ok () →
      (c.pointerEvent writeOk mask x y).Rejected c) ∧
    (∀ encs : List Encoding, 100 < encs.length → (c.setEncodings writeOk encs).Rejected c ∧
      (c.setEncodings writeOk encs).result =
        .error (validationError "SetEncodings" s!"too many encodings: {encs.length} (max 100)")) ∧
    (∀ pre e post, (pre ++ e :: post).length ≤ 100 →
      (∀ p ∈ pre, validateEncodingType p.type = .ok ()) → validateEncodingType e.type ≠ .ok () →
      (c.setEncodings writeOk (pre ++ e :: post)).Rejected c ∧
        (c.setEncodings writeOk (pre ++ e :: post)).result =
          .error (validationError "SetEncodings" s!"invalid encoding type at index {pre.length}")) ∧
    (∀ format, validatePixelFormat format ≠ .ok () → (c.setPixelFormat writeOk format).Rejected c) :=
  ⟨fun _ _ _ _ _ => ClientConn.send_sends .., fun _ down => c.keyEvent_sends writeOk down,
    fun mask _ _ => c.pointerEvent_sends writeOk mask, fun _ => c.setEncodings_sends writeOk,
    fun _ => c.setPixelFormat_sends writeOk, fun _ down => c.keyEvent_rejected writeOk down,
    fun mask _ _ => c.pointerEvent_rejected writeOk mask, fun _ => c.setEncodings_rejected writeOk,
    fun _ _ _ => c.setEncodings_refused writeOk, fun _ => c.setPixelFormat_rejected writeOk⟩

/-- An encoding implemented outside the package with type 2000000, beyond the bound of
`ValidateEncodingType`, after Raw: `SetEncodings` refuses it at index 1 and writes nothing. -/
example (impl : ForeignRead) :
    (({} : ClientConn).setEncodings true [.raw [], .other 2000000 impl []]).written = [] ∧
      (({} : ClientConn).setEncodings true [.raw [], .other 2000000 impl []]).result =
        .error (validationError "SetEncodings" "invalid encoding type at index 1") :=
  ⟨rfl, rfl⟩

/-! ## `SetPixelFormat` and the session's format -/

/-- `SetPixelFormat` leaves `PixelFormat` as it was, whatever it returns. -/
@[simp] theorem ClientConn.setPixelFormat_pixelFormat (c : ClientConn) (writeOk : Bool)
    (format : Option PixelFormat) : (c.setPixelFormat writeOk format).conn.pixelFormat = c.pixelFormat := by
  unfold ClientConn.setPixelFormat ClientConn.send ClientConn.refuse
  split
  · split <;> rfl
  · rfl

/-- A 640×480 session in RGB888. -/
def rgbSession : ClientConn := { frameBufferWidth := 640, frameBufferHeight := 480, pixelFormat := rgb888 }

/-- Switching an RGB888 session to BGR233 succeeds, yet the session still decodes RGB888: a
one-pixel Raw rectangle takes four bytes instead of the one BGR233 sends. -/
theorem ClientConn.setPixelFormat_keeps_rgb888 :
    (rgbSession.setPixelFormat true (some bgr233)).result = .ok () ∧
      (rgbSession.setPixelFormat true (some bgr233)).conn.pixelFormat ≠ bgr233 ∧
      RawEncoding.read (rgbSession.setPixelFormat true (some bgr233)).conn ⟨0, 0, 1, 1⟩
        [1, 2, 3, 4] = .ok (.raw [⟨3, 2, 1⟩], []) :=
  ⟨rfl, by decide, rfl⟩

end GoVnc
