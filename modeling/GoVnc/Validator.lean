import GoVnc.PixelFormat
import GoVnc.Unicode

/-!
`InputValidator`, the bounds, overflow and character-set checks applied to
what the server sends and to what callers pass. Each check returns `.ok ()`
for Go's `nil` and otherwise the `validationError` it builds, with the
source's operation tag and message. Arithmetic is done where the source does
it: `uint16` sums after the overflow guard, `uint64` areas, `int` bit counts.
-/

namespace GoVnc

/-- `%X` of a number. -/
def hexUpper (n : Nat) : String := String.mk ((Nat.toDigits 16 n).map Char.toUpper)

namespace InputValidator

/-- `ValidateProtocolVersion`: `"RFB "`, three digits, a dot, three digits and a newline,
where a digit is any rune `unicode.IsDigit` accepts. -/
def validateProtocolVersion (U : UnicodeTables) (version : Bytes) : Except VNCError Unit :=
  let op := "InputValidator.ValidateProtocolVersion"
  let n := version.length
  let versionPart := (version.drop 4).take 7
  if n ≠ 12 then
    .error (validationError op s!"protocol version must be exactly 12 characters, got {n}")
  else if version.take 4 ≠ [0x52, 0x46, 0x42, 0x20] then
    .error (validationError op "protocol version must start with 'RFB '")
  else if version.get? 11 ≠ some 0x0A then
    .error (validationError op "protocol version must end with newline")
  else if versionPart.length ≠ 7 ∨ versionPart.get? 3 ≠ some 0x2E then
    .error (validationError op "protocol version format must be XXX.YYY")
  else if (rangeString versionPart).all (fun (i, r) => i = 3 || isDigit U r) then .ok ()
  else .error (validationError op "protocol version must contain only digits and dot")

/-- `ValidateSecurityType`: type 0 announces a failure; every other type passes. -/
def validateSecurityType (securityType : UInt8) : Except VNCError Unit :=
  if securityType = 0 then
    .error (validationError "InputValidator.ValidateSecurityType"
      "security type 0 indicates connection failure")
  else .ok ()

/-- `ValidateSecurityTypes`. -/
def validateSecurityTypes (securityTypes : List UInt8) : Except VNCError Unit :=
  let op := "InputValidator.ValidateSecurityTypes"
  if securityTypes.length = 0 then .error (validationError op "security types array cannot be empty")
  else if securityTypes.length > 255 then .error (validationError op "security types array too large")
  else match securityTypes.findIdx? (· = 0) with
    | some i => .error (validationError op s!"invalid security type at index {i}")
    | none => .ok ()

theorem validateSecurityTypes_ok_iff (securityTypes : List UInt8) :
    validateSecurityTypes securityTypes = .ok () ↔
      0 < securityTypes.length ∧ securityTypes.length ≤ 255 ∧ 0 ∉ securityTypes := by
  have hz : securityTypes.findIdx? (· = 0) = none ↔ 0 ∉ securityTypes := by
    simp only [List.findIdx?_eq_none_iff, decide_eq_false_iff_not]
    exact ⟨fun h hm => h 0 hm rfl, fun h x hx hx0 => h (hx0 ▸ hx)⟩
  unfold validateSecurityTypes
  split_ifs with h0 h255
  · simp [h0]
  · simp only [reduceCtorEq, false_iff]; omega
  · cases hf : securityTypes.findIdx? (· = 0)
    · simp only [true_iff]; exact ⟨by omega, by omega, hz.mp hf⟩
    · simp only [reduceCtorEq, false_iff, not_and]
      exact fun _ _ hm => absurd (hz.mpr hm) (by simp [hf])

/-- `ValidateFramebufferDimensions`. -/
def validateFramebufferDimensions (width height : UInt16) : Except VNCError Unit :=
  let op := "InputValidator.ValidateFramebufferDimensions"
  let area := width.toNat * height.toNat
  if width = 0 ∨ height = 0 then .error (validationError op "framebuffer dimensions cannot be zero")
  else if width.toNat > 32768 ∨ height.toNat > 32768 then
    .error (validationError op s!"framebuffer dimensions too large: {width}x{height} (max 32768)")
  else if area > 1024 * 1024 * 1024 then
    .error (validationError op s!"framebuffer area too large: {area} pixels (max 1073741824)")
  else .ok ()

/-- The area bound is implied by the bound on each side: `32768² = 2³⁰`. -/
theorem validateFramebufferDimensions_ok_iff (width height : UInt16) :
    validateFramebufferDimensions width height = .ok () ↔
      0 < width.toNat ∧ width.toNat ≤ 32768 ∧ 0 < height.toNat ∧ height.toNat ≤ 32768 := by
  have harea : width.toNat ≤ 32768 → height.toNat ≤ 32768 →
      width.toNat * height.toNat ≤ 1024 * 1024 * 1024 := Nat.mul_le_mul
  unfold validateFramebufferDimensions
  simp only [UInt16.ext_iff, UInt16.toNat_zero]
  split_ifs
  · exact iff_of_false nofun (by omega)
  · exact iff_of_false nofun (by omega)
  · exact iff_of_false nofun fun h => by have := harea h.2.1 h.2.2.2; omega
  · exact iff_of_true rfl (by omega)

/-- `ValidateRectangle`: non-empty, no `uint16` overflow of `x + width` or `y + height`, and
inside `fbWidth × fbHeight`. -/
def validateRectangle (x y width height fbWidth fbHeight : UInt16) : Except VNCError Unit :=
  let op := "InputValidator.ValidateRectangle"
  if width = 0 ∨ height = 0 then .error (validationError op "rectangle dimensions cannot be zero")
  else if x > 65535 - width ∨ y > 65535 - height then
    .error (validationError op "rectangle coordinates would cause integer overflow")
  else if x + width > fbWidth ∨ y + height > fbHeight then
    .error (validationError op
      s!"rectangle ({x},{y},{width},{height}) exceeds framebuffer bounds ({fbWidth},{fbHeight})")
  else .ok ()

/-- A non-empty rectangle inside a `boundW × boundH` box, in unbounded integers. -/
def InBox (x y width height boundW boundH : Nat) : Prop :=
  0 < width ∧ 0 < height ∧ x + width ≤ boundW ∧ y + height ≤ boundH

/-- `ValidateRectangle` passes exactly for a non-empty rectangle inside the framebuffer,
with the sums taken as unbounded integers. -/
theorem validateRectangle_ok_iff (x y width height fbWidth fbHeight : UInt16) :
    validateRectangle x y width height fbWidth fbHeight = .ok () ↔
      InBox x.toNat y.toNat width.toNat height.toNat fbWidth.toNat fbHeight.toNat := by
  have := x.toNat_lt; have := y.toNat_lt; have := width.toNat_lt; have := height.toNat_lt
  have := fbWidth.toNat_lt; have := fbHeight.toNat_lt
  unfold validateRectangle InBox
  simp only [uint16_lt_iff, UInt16.ext_iff, UInt16.toNat_add, uint16_toNat_max_sub,
    UInt16.toNat_zero, UInt16.size]
  split_ifs
  · exact iff_of_false nofun (by omega)
  · exact iff_of_false nofun (by omega)
  · exact iff_of_false nofun (by omega)
  · exact iff_of_true rfl (by omega)

/-- `countBits`: each `value &= value - 1` clears the lowest set bit, and a `uint32` has at
most 32 of them. -/
def countBitsLoop : Nat → UInt32 → Nat
  | 0, _ => 0
  | n + 1, value => if value = 0 then 0 else countBitsLoop n (value &&& (value - 1)) + 1

def countBits (value : UInt32) : Nat := countBitsLoop 32 value

/-- `ValidatePixelFormat`: BPP 8, 16 or 32, depth `1..BPP`, and with true colour non-zero
maxima, shifts below `BPP - 1` and at most `Depth` bits across the three maxima. -/
def validatePixelFormat : Option PixelFormat → Except VNCError Unit
  | none => .error (validationError "InputValidator.ValidatePixelFormat" "pixel format cannot be nil")
  | some pf =>
    let op := "InputValidator.ValidatePixelFormat"
    let bpp := pf.bpp
    let depth := pf.depth
    let maxShift := pf.bpp - 1
    if ¬(pf.bpp = 8 ∨ pf.bpp = 16 ∨ pf.bpp = 32) then
      .error (validationError op s!"invalid bits per pixel: {bpp} (must be 8, 16, or 32)")
    else if pf.depth = 0 ∨ pf.depth > pf.bpp then
      .error (validationError op s!"invalid depth: {depth} (must be 1-{bpp} for {bpp} BPP)")
    else if pf.trueColor then
      if pf.redMax = 0 ∨ pf.greenMax = 0 ∨ pf.blueMax = 0 then
        .error (validationError op "color component maximums cannot be zero in true color format")
      else if pf.redShift ≥ maxShift ∨ pf.greenShift ≥ maxShift ∨ pf.blueShift ≥ maxShift then
        .error (validationError op s!"color shifts too large for {bpp} BPP format")
      else if countBits pf.redMax.toUInt32 + countBits pf.greenMax.toUInt32 +
          countBits pf.blueMax.toUInt32 > pf.depth.toNat then
        .error (validationError op "color component bits exceed pixel depth")
      else .ok ()
    else .ok ()

/-- `ValidateEncodingType`: types beyond ±1000000 are refused. -/
def validateEncodingType (encodingType : Int) : Except VNCError Unit :=
  let op := "InputValidator.ValidateEncodingType"
  if encodingType ≥ 0 then
    if encodingType > 1000000 then
      .error (validationError op s!"encoding type too large: {encodingType}")
    else .ok ()
  else if encodingType < -1000000 then
    .error (validationError op s!"pseudo-encoding type too negative: {encodingType}")
  else .ok ()

/-- A rune below 32 other than tab, newline and carriage return. -/
def IsControl (r : Nat) : Prop := r < 32 ∧ r ≠ 9 ∧ r ≠ 10 ∧ r ≠ 13

instance (r : Nat) : Decidable (IsControl r) := inferInstanceAs (Decidable (_ ∧ _))

/-- `ValidateTextData`: at most `maxLength` bytes, valid UTF-8, and no control rune. -/
def validateTextData (text : Bytes) (maxLength : Nat) : Except VNCError Unit :=
  let op := "InputValidator.ValidateTextData"
  let n := text.length
  if n > maxLength then .error (validationError op s!"text length {n} exceeds maximum {maxLength}")
  else if !validString text then .error (validationError op "text contains invalid UTF-8 sequences")
  else match (rangeString text).find? (fun (_, r) => IsControl r) with
    | some (i, _) =>
      .error (validationError op s!"text contains invalid control character at position {i}")
    | none => .ok ()

/-- `ValidateMessageLength`. -/
def validateMessageLength (length maxLength : UInt32) : Except VNCError Unit :=
  let op := "InputValidator.ValidateMessageLength"
  if length = 0 then .error (validationError op "message length cannot be zero")
  else if length > maxLength then
    .error (validationError op s!"message length {length} exceeds maximum {maxLength}")
  else .ok ()

theorem validateMessageLength_ok_iff (length maxLength : UInt32) :
    validateMessageLength length maxLength = .ok () ↔
      0 < length.toNat ∧ length.toNat ≤ maxLength.toNat := by
  unfold validateMessageLength
  simp only [UInt32.ext_iff, UInt32.toNat_zero, uint32_lt_iff]
  split_ifs <;> simp <;> omega

/-- `ValidateColorMapEntries`. -/
def validateColorMapEntries (firstColor numColors maxColors : UInt16) : Except VNCError Unit :=
  let op := "InputValidator.ValidateColorMapEntries"
  let last := firstColor + numColors - 1
  if numColors = 0 then .error (validationError op "number of colors cannot be zero")
  else if firstColor > 65535 - numColors then
    .error (validationError op "color map range would cause integer overflow")
  else if firstColor + numColors > maxColors then
    .error (validationError op
      s!"color map range ({firstColor}-{last}) exceeds maximum colors {maxColors}")
  else .ok ()

theorem validateColorMapEntries_ok_iff (firstColor numColors maxColors : UInt16) :
    validateColorMapEntries firstColor numColors maxColors = .ok () ↔
      0 < numColors.toNat ∧ firstColor.toNat + numColors.toNat ≤ maxColors.toNat := by
  have hm : maxColors.toNat < 65536 := maxColors.toNat_lt
  have hn : numColors.toNat < 65536 := numColors.toNat_lt
  unfold validateColorMapEntries
  simp only [UInt16.ext_iff, UInt16.toNat_zero, uint16_lt_iff, toNat_uint16_add,
    uint16_toNat_max_sub]
  split_ifs
  · exact iff_of_false nofun (by omega)
  · exact iff_of_false nofun (by omega)
  · exact iff_of_false nofun (by omega)
  · exact iff_of_true rfl (by omega)

/-- `ValidateKeySymbol`. -/
def validateKeySymbol (keysym : UInt32) : Except VNCError Unit :=
  let op := "InputValidator.ValidateKeySymbol"
  let hex := hexUpper keysym.toNat
  if keysym = 0 then .error (validationError op "keysym cannot be zero")
  else if keysym > 0x1FFFFFF then .error (validationError op s!"keysym value too large: 0x{hex}")
  else .ok ()

/-- `ValidatePointerPosition`. -/
def validatePointerPosition (x y fbWidth fbHeight : UInt16) : Except VNCError Unit :=
  if x ≥ fbWidth ∨ y ≥ fbHeight then
    .error (validationError "InputValidator.ValidatePointerPosition"
      s!"pointer position ({x},{y}) exceeds framebuffer bounds ({fbWidth},{fbHeight})")
  else .ok ()

/-- One rune of `SanitizeText`. -/
def sanitizeRune (U : UnicodeTables) (r : Nat) : Nat :=
  if r = 9 ∨ r = 10 ∨ r = 13 then r
  else if r < 32 then 0x20
  else if isPrint U r then r
  else runeError

/-- `SanitizeText`: control runes become spaces, other non-printable runes `RuneError`. -/
def sanitizeText (U : UnicodeTables) (text : Bytes) : Bytes :=
  if text = [] then text else stringOfRunes ((runesOf text).map (sanitizeRune U))

/-- The handling of server text in the handshake (desktop name, failure reasons) and in
`ServerCutTextMessage.Read`: `ValidateTextData`, and `SanitizeText` only when it fails. -/
def validateOrSanitize (U : UnicodeTables) (text : Bytes) (maxLength : Nat) : Bytes :=
  match validateTextData text maxLength with
  | .ok () => text
  | .error _ => sanitizeText U text

end InputValidator

end GoVnc
