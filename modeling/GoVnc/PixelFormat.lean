import GoVnc.Wire

/-!
`Color`, `PixelFormat` with its 16-byte wire form (`readPixelFormat`,
`writePixelFormat`), and the 256-entry colour map of a connection.

* `writePixelFormat_roundTrip`: a written format is 16 bytes and reads back as itself, its
  colour fields zeroed without true colour; every 16 bytes read and written again come back
  with the flags made 0 or 1 and the bytes the format does not use zeroed.
-/

namespace GoVnc

open Decoder

/-- `Color`: raw 16-bit components. -/
structure Color where
  r : UInt16 := 0
  g : UInt16 := 0
  b : UInt16 := 0
  deriving DecidableEq, Repr

/-- `PixelFormat`; the defaults are Go's zero value. -/
structure PixelFormat where
  bpp : UInt8 := 0
  depth : UInt8 := 0
  bigEndian : Bool := false
  trueColor : Bool := false
  redMax : UInt16 := 0
  greenMax : UInt16 := 0
  blueMax : UInt16 := 0
  redShift : UInt8 := 0
  greenShift : UInt8 := 0
  blueShift : UInt8 := 0
  deriving DecidableEq, Repr

/-- The `ColorMap [ColorMapSize]Color` field of a connection. -/
abbrev ColorMap := Fin 256 → Color

/-- Go's zero `[256]Color`, the map `SetPixelFormat` installs. -/
def zeroColorMap : ColorMap := fun _ => {}

/-! ## Wire form -/

/-- The fields of `readPixelFormat` read from its 16-byte buffer, each `binary.Read` with
its own error (none of them can fail on 16 bytes). -/
def readPixelFormatFields : Decoder PixelFormat := do
  let bpp ← readU8.orFail (protocolError "readPixelFormat" "failed to read BPP field")
  let depth ← readU8.orFail (protocolError "readPixelFormat" "failed to read depth field")
  let be ← readU8.orFail (protocolError "readPixelFormat" "failed to read big endian flag")
  let tc ← readU8.orFail (protocolError "readPixelFormat" "failed to read true color flag")
  if tc ≠ 0 then
    let redMax ← readU16.orFail (protocolError "readPixelFormat" "failed to read red max value")
    let greenMax ← readU16.orFail
      (protocolError "readPixelFormat" "failed to read green max value")
    let blueMax ← readU16.orFail (protocolError "readPixelFormat" "failed to read blue max value")
    let redShift ← readU8.orFail
      (protocolError "readPixelFormat" "failed to read red shift value")
    let greenShift ← readU8.orFail
      (protocolError "readPixelFormat" "failed to read green shift value")
    let blueShift ← readU8.orFail
      (protocolError "readPixelFormat" "failed to read blue shift value")
    pure { bpp, depth, bigEndian := be ≠ 0, trueColor := true, redMax, greenMax, blueMax,
           redShift, greenShift, blueShift }
  else
    pure { bpp, depth, bigEndian := be ≠ 0 }

/-- `readPixelFormat` into Go's zero `PixelFormat`, the only way the handshake calls it. -/
def readPixelFormat : Decoder PixelFormat := do
  let raw ← (readFull 16).orFail
    (networkError "readPixelFormat" "failed to read pixel format data")
  match readPixelFormatFields raw with
  | .ok (pf, _) => pure pf
  | .error f => fail f

theorem readPixelFormat_eq_ok_iff {s s' : Bytes} {pf : PixelFormat} :
    readPixelFormat s = .ok (pf, s') ↔
      ∃ raw rest, readFull 16 s = .ok (raw, s') ∧ readPixelFormatFields raw = .ok (pf, rest) := by
  simp only [readPixelFormat, bind_eq_ok, orFail_eq_ok]
  constructor
  · rintro ⟨raw, _, hraw, h⟩
    cases hf : readPixelFormatFields raw with
    | error f => rw [hf] at h; cases h
    | ok r =>
      obtain ⟨pf', rest⟩ := r
      rw [hf] at h
      cases h
      exact ⟨raw, rest, hraw, hf⟩
  · rintro ⟨raw, rest, hraw, hf⟩
    exact ⟨raw, _, hraw, by rw [hf]; rfl⟩

theorem readPixelFormat_append {raw : Bytes} {pf : PixelFormat} (hlen : raw.length = 16)
    (h : readPixelFormat raw = .ok (pf, [])) (s : Bytes) :
    readPixelFormat (raw ++ s) = .ok (pf, s) := by
  obtain ⟨raw', rest, hr, hf⟩ := readPixelFormat_eq_ok_iff.mp h
  obtain ⟨-, hraw⟩ := readFull_eq_ok hr
  rw [List.append_nil] at hraw
  subst hraw
  refine readPixelFormat_eq_ok_iff.mpr ⟨raw, rest, ?_, hf⟩
  rw [← hlen]; exact readFull_append raw s

theorem readPixelFormat_eq_ok {s s' : Bytes} {pf : PixelFormat} (h : readPixelFormat s = .ok (pf, s')) :
    ∃ raw, raw.length = 16 ∧ s = raw ++ s' ∧ readPixelFormat raw = .ok (pf, []) := by
  obtain ⟨raw, rest, hr, hf⟩ := readPixelFormat_eq_ok_iff.mp h
  obtain ⟨hlen, rfl⟩ := readFull_eq_ok hr
  refine ⟨raw, hlen, rfl, readPixelFormat_eq_ok_iff.mpr ⟨raw, rest, ?_, hf⟩⟩
  simpa [hlen] using readFull_append raw []

theorem readPixelFormatFields_noPanic : readPixelFormatFields.NoPanic :=
  .bind (.orFail readU8_noPanic _) fun _ => .bind (.orFail readU8_noPanic _) fun _ =>
    .bind (.orFail readU8_noPanic _) fun _ => .bind (.orFail readU8_noPanic _) fun _ =>
      .ite (.bind (.orFail readU16_noPanic _) fun _ => .bind (.orFail readU16_noPanic _) fun _ =>
        .bind (.orFail readU16_noPanic _) fun _ => .bind (.orFail readU8_noPanic _) fun _ =>
          .bind (.orFail readU8_noPanic _) fun _ => .bind (.orFail readU8_noPanic _) fun _ =>
            .pure _) (.pure _)

theorem readPixelFormat_noPanic : readPixelFormat.NoPanic := by
  refine .bind (.orFail (readFull_noPanic _) _) fun raw s p h => ?_
  cases hf : readPixelFormatFields raw with
  | ok r => rw [hf] at h; cases h
  | error f =>
    rw [hf] at h
    cases h
    exact readPixelFormatFields_noPanic raw p hf

/-- `writePixelFormat`: the bytes written to a `bytes.Buffer`, then `buf.Bytes()[0:16]`.
Without true colour only four bytes are written; the slice then reaches into the
buffer's zeroed spare capacity (64 bytes). Writing to a buffer never fails. -/
def writePixelFormat (pf : PixelFormat) : Bytes :=
  let written := [pf.bpp, pf.depth, if pf.bigEndian then 1 else 0, if pf.trueColor then 1 else 0]
    ++ (if pf.trueColor then
          be16 pf.redMax ++ be16 pf.greenMax ++ be16 pf.blueMax ++
            [pf.redShift, pf.greenShift, pf.blueShift]
        else [])
  written ++ List.replicate (16 - written.length) 0

/-- A 32-bit little-endian true-colour format, red at bit 16. -/
def rgb888 : PixelFormat :=
  { bpp := 32, depth := 24, trueColor := true, redMax := 255, greenMax := 255, blueMax := 255,
    redShift := 16, greenShift := 8 }

/-- An 8-bit true-colour format, red in the top three bits. -/
def bgr233 : PixelFormat :=
  { bpp := 8, depth := 8, trueColor := true, redMax := 7, greenMax := 7, blueMax := 3,
    redShift := 5, greenShift := 2 }

theorem writePixelFormat_length (pf : PixelFormat) : (writePixelFormat pf).length = 16 := by
  unfold writePixelFormat
  cases pf.trueColor <;> simp

/-! ## Round trip -/

/-- `readPixelFormat` of 16 bytes: the true-colour byte decides whether the maxima and shifts
are read; the padding is never looked at. -/
theorem readPixelFormat_bytes (b0 b1 b2 b3 b4 b5 b6 b7 b8 b9 b10 b11 b12 b13 b14 b15 : UInt8) :
    readPixelFormat [b0, b1, b2, b3, b4, b5, b6, b7, b8, b9, b10, b11, b12, b13, b14, b15] =
      .ok (if b3 = 0 then { bpp := b0, depth := b1, bigEndian := b2 ≠ 0 } else
        { bpp := b0, depth := b1, bigEndian := b2 ≠ 0, trueColor := true,
          redMax := UInt16.ofNat (256 * b4.toNat + b5.toNat),
          greenMax := UInt16.ofNat (256 * b6.toNat + b7.toNat),
          blueMax := UInt16.ofNat (256 * b8.toNat + b9.toNat),
          redShift := b10, greenShift := b11, blueShift := b12 }, []) := by
  by_cases h : b3 = 0
  · subst h; rfl
  · have hr : readFull 16 [b0, b1, b2, b3, b4, b5, b6, b7, b8, b9, b10, b11, b12, b13, b14, b15] =
        .ok ([b0, b1, b2, b3, b4, b5, b6, b7, b8, b9, b10, b11, b12, b13, b14, b15], []) := rfl
    simp only [readPixelFormat, readPixelFormatFields, bind_apply, orFail, hr, readU8_cons, readU16,
      pure_apply, if_pos h, if_neg h]

/-- The wire round trip of a pixel format. Reading a written format into Go's zero
`PixelFormat` gives the format back with true colour, and its first three fields only
without. Every 16 bytes are read, and writing the result gives them back with both flags
made 0 or 1, the padding zeroed, and all after the flags zeroed when the true-colour byte
is 0. -/
theorem writePixelFormat_roundTrip :
    (∀ pf : PixelFormat, (writePixelFormat pf).length = 16 ∧
      readPixelFormat (writePixelFormat pf) = .ok (if pf.trueColor then pf else
        { bpp := pf.bpp, depth := pf.depth, bigEndian := pf.bigEndian }, [])) ∧
    (∀ b : Bytes, b.length = 16 → ∃ pf, readPixelFormat b = .ok (pf, []) ∧
      writePixelFormat pf = b.take 2 ++
        [if b.getD 2 0 = 0 then 0 else 1, if b.getD 3 0 = 0 then 0 else 1] ++
        (if b.getD 3 0 = 0 then List.replicate 12 0 else (b.drop 4).take 9 ++ [0, 0, 0])) := by
  refine ⟨fun ⟨bpp, depth, be, tc, rm, gm, bm, rs, gs, bs⟩ =>
    ⟨writePixelFormat_length _, ?_⟩, fun b hb => ?_⟩
  · cases tc
    · cases be <;> exact readPixelFormat_bytes ..
    · obtain ⟨r4, r5, rfl⟩ := exists_ofNat_bytes rm
      obtain ⟨g6, g7, rfl⟩ := exists_ofNat_bytes gm
      obtain ⟨b8, b9, rfl⟩ := exists_ofNat_bytes bm
      simp only [writePixelFormat, be16_ofNat]
      cases be <;> exact readPixelFormat_bytes ..
  · match b, hb with
    | [b0, b1, b2, b3, b4, b5, b6, b7, b8, b9, b10, b11, b12, b13, b14, b15], _ =>
      refine ⟨_, readPixelFormat_bytes .., ?_⟩
      by_cases h3 : b3 = 0 <;> by_cases h2 : b2 = 0 <;> simp [writePixelFormat, h2, h3, be16_ofNat]

end GoVnc
