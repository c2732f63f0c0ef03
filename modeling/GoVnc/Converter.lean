import GoVnc.FormatValidation

/-!
`PixelFormatConverter` and `ConvertPixelFormat`. Each pixel is read in the source format's byte
order, its channels are shifted down, masked with their maxima and scaled to 8 bits by floor
division, then scaled to the destination's maxima, shifted into place and written in the
destination's byte order. The context is a parameter `done`: whether it is done when the loop
reaches each pixel.

* `convertPixel_self`: a pixel whose set bits lie in the channel fields comes back unchanged
  when every maximum is `2^k - 1` with `k` dividing 8, the maxima for which the scaling is exact.
* `convertPixelFormat_spec`: between valid formats with a live context, the conversion refuses
  data that is not whole pixels and otherwise converts every pixel; with such maxima it is the
  identity, also through a format of three 8-bit channels; a context that is already done
  stops it.
* `convertPixelFormat_bgr233`: with 3-bit channels the identity conversion changes a pixel.
-/

namespace GoVnc

open Decoder

/-- Go's `x >> s` and `x << s` on a `uint32` with a `uint8` count: a count of 32 or more
shifts every bit out. -/
def shiftRightGo (x : UInt32) (s : UInt8) : UInt32 := if s.toNat < 32 then x >>> s.toUInt32 else 0

def shiftLeftGo (x : UInt32) (s : UInt8) : UInt32 := if s.toNat < 32 then x <<< s.toUInt32 else 0

/-- What `ConvertPixelFormat` returns in place of its bytes: one of the package's errors, or
`ctx.Err()` once the context is done. -/
inductive ConvertError
  | vnc (e : VNCError)
  | contextDone
  deriving DecidableEq, Repr

namespace PixelFormatConverter

/-- `NewPixelFormatConverter`: the converter keeps the format it validated. -/
def newPixelFormatConverter (format : PixelFormat) : Except VNCError PixelFormat :=
  match format.validate with
  | .error _ => .error (validationError "NewPixelFormatConverter" "invalid pixel format")
  | .ok () => .ok format

/-- `ExtractRGB`: each channel shifted down, masked with its maximum and scaled to 8 bits. -/
def extractRGB (format : PixelFormat) (pixel : UInt32) : UInt8 × UInt8 × UInt8 :=
  if !format.trueColor then (0, 0, 0)
  else
    let redValue := shiftRightGo pixel format.redShift &&& format.redMax.toUInt32
    let greenValue := shiftRightGo pixel format.greenShift &&& format.greenMax.toUInt32
    let blueValue := shiftRightGo pixel format.blueShift &&& format.blueMax.toUInt32
    let r := if format.redMax > 0 then (redValue * 255 / format.redMax.toUInt32).toUInt8 else 0
    let g := if format.greenMax > 0 then (greenValue * 255 / format.greenMax.toUInt32).toUInt8 else 0
    let b := if format.blueMax > 0 then (blueValue * 255 / format.blueMax.toUInt32).toUInt8 else 0
    (r, g, b)

/-- `CreatePixel`: each 8-bit channel scaled to its maximum and shifted into place. -/
def createPixel (format : PixelFormat) (r g b : UInt8) : UInt32 :=
  if !format.trueColor then 0
  else
    let redValue := r.toUInt32 * format.redMax.toUInt32 / 255
    let greenValue := g.toUInt32 * format.greenMax.toUInt32 / 255
    let blueValue := b.toUInt32 * format.blueMax.toUInt32 / 255
    shiftLeftGo redValue format.redShift ||| shiftLeftGo greenValue format.greenShift |||
      shiftLeftGo blueValue format.blueShift

/-- `BytesPerPixel`. -/
def bytesPerPixel (format : PixelFormat) : Nat := format.bpp.toNat / 8

/-- The value `ReadPixel` makes of the bytes it read, in the format's byte order. -/
def pixelValue (format : PixelFormat) (pixelBytes : Bytes) : UInt32 :=
  if format.bigEndian then
    match bytesPerPixel format with
    | 1 => (pixelBytes.getD 0 0).toUInt32
    | 2 => (bigEndianUint16 pixelBytes).toUInt32
    | 4 => bigEndianUint32 pixelBytes
    | _ => 0
  else
    match bytesPerPixel format with
    | 1 => (pixelBytes.getD 0 0).toUInt32
    | 2 => (littleEndianUint16 pixelBytes).toUInt32
    | 4 => littleEndianUint32 pixelBytes
    | _ => 0

/-- `ReadPixel`. -/
def readPixel (format : PixelFormat) : Decoder UInt32 := do
  let pixelBytes ← (readFull (bytesPerPixel format)).orFail
    (networkError "PixelFormatConverter.ReadPixel" "failed to read pixel data")
  pure (pixelValue format pixelBytes)

/-- `WritePixel`: the bytes written, in the format's byte order (a write to a `bytes.Buffer`
does not fail). -/
def writePixel (format : PixelFormat) (pixel : UInt32) : Bytes :=
  if format.bigEndian then
    match bytesPerPixel format with
    | 1 => [(pixel &&& 0xFF).toUInt8]
    | 2 => be16 (pixel &&& 0xFFFF).toUInt16
    | 4 => be32 pixel
    | n => List.replicate n 0
  else
    match bytesPerPixel format with
    | 1 => [(pixel &&& 0xFF).toUInt8]
    | 2 => le16 (pixel &&& 0xFFFF).toUInt16
    | 4 => le32 pixel
    | n => List.replicate n 0

end PixelFormatConverter

open PixelFormatConverter

/-- The conversion of one pixel in `ConvertPixelFormat`: through 8-bit RGB when both formats
are true colour, unchanged otherwise. -/
def convertPixel (srcFormat dstFormat : PixelFormat) (srcPixel : UInt32) : UInt32 :=
  if srcFormat.trueColor && dstFormat.trueColor then
    let (r, g, b) := extractRGB srcFormat srcPixel
    createPixel dstFormat r g b
  else srcPixel

/-- The pixel loop of `ConvertPixelFormat` from pixel `i`, with `n` pixels left; `done i` tells
whether the context is done when pixel `i` is reached. -/
def convertPixels (srcFormat dstFormat : PixelFormat) (done : Nat → Bool) (i : Nat) :
    Nat → Bytes → Except ConvertError Bytes
  | 0, _ => .ok []
  | n + 1, s =>
    if done i then .error .contextDone
    else match readPixel srcFormat s with
      | .error _ =>
        .error (.vnc (encodingError "ConvertPixelFormat" s!"failed to read source pixel {i}"))
      | .ok (srcPixel, s') =>
        (convertPixels srcFormat dstFormat done (i + 1) n s').map
          (writePixel dstFormat (convertPixel srcFormat dstFormat srcPixel) ++ ·)

/-- `ConvertPixelFormat`. -/
def convertPixelFormat (done : Nat → Bool) (srcData : Bytes) (srcFormat dstFormat : PixelFormat) :
    Except ConvertError Bytes :=
  match srcFormat.validate with
  | .error _ => .error (.vnc (validationError "ConvertPixelFormat" "invalid source pixel format"))
  | .ok () =>
    match dstFormat.validate with
    | .error _ =>
      .error (.vnc (validationError "ConvertPixelFormat" "invalid destination pixel format"))
    | .ok () =>
      match newPixelFormatConverter srcFormat with
      | .error _ =>
        .error (.vnc (configurationError "ConvertPixelFormat" "failed to create source converter"))
      | .ok srcConverter =>
        match newPixelFormatConverter dstFormat with
        | .error _ => .error (.vnc (configurationError "ConvertPixelFormat"
            "failed to create destination converter"))
        | .ok dstConverter =>
          let srcBytesPerPixel := bytesPerPixel srcConverter
          let n := srcData.length
          if n % srcBytesPerPixel ≠ 0 then
            .error (.vnc (validationError "ConvertPixelFormat"
              s!"source data length ({n}) is not a multiple of source bytes per pixel ({srcBytesPerPixel})"))
          else convertPixels srcConverter dstConverter done 0 (n / srcBytesPerPixel) srcData



/-! ## Channels -/

theorem toNat_uint32_or (a b : UInt32) : (a ||| b).toNat = a.toNat ||| b.toNat :=
  BitVec.toNat_or ..

theorem shiftRightGo_toNat (x : UInt32) {s : UInt8} (hs : s.toNat < 32) :
    (shiftRightGo x s).toNat = x.toNat >>> s.toNat := by
  have h : (UInt32.mod s.toUInt32 32).toBitVec.toNat = s.toNat := by
    show s.toNat % 32 = s.toNat
    exact Nat.mod_eq_of_lt hs
  rw [shiftRightGo, if_pos hs]
  show (x.toBitVec >>> (UInt32.mod s.toUInt32 32).toBitVec.toNat).toNat = _
  rw [h, BitVec.toNat_ushiftRight]
  rfl

theorem shiftLeftGo_toNat (x : UInt32) {s : UInt8} (hs : s.toNat < 32) :
    (shiftLeftGo x s).toNat = (x.toNat <<< s.toNat) % 4294967296 := by
  have h : (UInt32.mod s.toUInt32 32).toBitVec.toNat = s.toNat := by
    show s.toNat % 32 = s.toNat
    exact Nat.mod_eq_of_lt hs
  rw [shiftLeftGo, if_pos hs]
  show (x.toBitVec <<< (UInt32.mod s.toUInt32 32).toBitVec.toNat).toNat = _
  rw [h, BitVec.toNat_shiftLeft]
  rfl

/-- A maximum `2^k - 1` needs `k` bits. -/
theorem size_two_pow_sub_one (k : Nat) : (2 ^ k - 1).size = k := by
  refine Nat.le_antisymm (Nat.size_le.mpr (by have := Nat.one_le_two_pow (n := k); omega)) ?_
  cases k with
  | zero => exact Nat.zero_le _
  | succ k =>
    exact Nat.lt_size.mpr (by rw [Nat.pow_succ]; have := Nat.one_le_two_pow (n := k); omega)

/-- Scaling a channel value to 8 bits and back, as `ExtractRGB` and `CreatePixel` do in
`uint32`, is exact for a maximum that divides 255. -/
theorem scale_roundTrip {m v : Nat} (hm : m ∣ 255) (hv : v ≤ m) :
    v * 255 % 4294967296 / m % 256 * m % 4294967296 / 255 = v := by
  have hm255 : m ≤ 255 := Nat.le_of_dvd (by decide) hm
  obtain ⟨q, hq⟩ := hm
  have hm0 : 0 < m := Nat.pos_of_ne_zero fun h => by rw [h] at hq; omega
  have hscaled : v * 255 / m = v * q := by
    rw [hq, ← Nat.mul_assoc, Nat.mul_comm v m, Nat.mul_assoc, Nat.mul_div_cancel_left _ hm0]
  have hvq : v * q ≤ 255 := by
    calc v * q ≤ m * q := Nat.mul_le_mul_right q hv
      _ = 255 := hq.symm
  rw [Nat.mod_eq_of_lt (show v * 255 < 4294967296 by omega), hscaled,
    Nat.mod_eq_of_lt (show v * q < 256 by omega), Nat.mul_assoc, Nat.mul_comm q m, ← hq,
    Nat.mod_eq_of_lt (show v * 255 < 4294967296 by omega), Nat.mul_div_cancel _ (by decide)]

/-- One channel through `ExtractRGB` and `CreatePixel`: the bits of the channel's field. -/
theorem channel_roundTrip (pixel : UInt32) {s : UInt8} {m : UInt16} (hs : s.toNat < 32)
    {k : Nat} (hk : k = 1 ∨ k = 2 ∨ k = 4 ∨ k = 8) (hm : m.toNat = 2 ^ k - 1) :
    (shiftLeftGo ((((shiftRightGo pixel s &&& m.toUInt32) * 255 / m.toUInt32).toUInt8).toUInt32 *
        m.toUInt32 / 255) s).toNat =
      (((pixel.toNat >>> s.toNat) % 2 ^ k) <<< s.toNat) % 4294967296 := by
  have hval : (shiftRightGo pixel s &&& m.toUInt32).toNat = (pixel.toNat >>> s.toNat) % 2 ^ k := by
    rw [UInt32.and_toNat, shiftRightGo_toNat pixel hs]
    show pixel.toNat >>> s.toNat &&& m.toNat = _
    rw [hm, Nat.and_pow_two_sub_one_eq_mod]
  rw [shiftLeftGo_toNat _ hs]
  show (((shiftRightGo pixel s &&& m.toUInt32).toNat * 255 % 4294967296 / m.toNat % 256 * m.toNat
    % 4294967296 / 255) <<< s.toNat) % 4294967296 = _
  have hdvd : 2 ^ k - 1 ∣ 255 := by rcases hk with rfl | rfl | rfl | rfl <;> decide
  have hlt := Nat.mod_lt (pixel.toNat >>> s.toNat) (Nat.two_pow_pos k)
  rw [hval, hm, scale_roundTrip hdvd (by omega)]


theorem channel_testBit (p s k j : Nat) :
    ((((p >>> s) % 2 ^ k) <<< s) % 4294967296).testBit j =
      (decide (j < 32) && decide (s ≤ j ∧ j < s + k) && p.testBit j) := by
  show ((((p >>> s) % 2 ^ k) <<< s) % 2 ^ 32).testBit j = _
  simp only [Nat.testBit_mod_two_pow, Nat.testBit_shiftLeft, Nat.testBit_shiftRight]
  by_cases h : s ≤ j
  · have hk : j - s < k ↔ j < s + k := by omega
    simp [h, Nat.add_sub_cancel' h, hk, Bool.and_assoc]
  · simp [h]

/-- Three fields of a pixel that hold all of its bits put it back together. -/
theorem reassemble_fields {p : Nat} (hp : p < 2 ^ 32) {sr kr sg kg sb kb : Nat}
    (hin : ∀ j < 32, p.testBit j = true →
      (sr ≤ j ∧ j < sr + kr) ∨ (sg ≤ j ∧ j < sg + kg) ∨ (sb ≤ j ∧ j < sb + kb)) :
    ((((p >>> sr) % 2 ^ kr) <<< sr) % 4294967296 |||
      (((p >>> sg) % 2 ^ kg) <<< sg) % 4294967296) |||
      (((p >>> sb) % 2 ^ kb) <<< sb) % 4294967296 = p := by
  refine Nat.eq_of_testBit_eq fun j => ?_
  rw [Nat.testBit_or, Nat.testBit_or, channel_testBit, channel_testBit, channel_testBit]
  cases hj : p.testBit j
  · simp
  · have hj32 : j < 32 := by
      refine Nat.lt_of_not_le fun h => ?_
      rw [Nat.testBit_lt_two_pow (Nat.lt_of_lt_of_le hp (Nat.pow_le_pow_right (by decide) h))] at hj
      cases hj
    rcases hin j hj32 hj with h | h | h <;> simp [hj32, h]

/-- A pixel lies in the channel fields of a format: each of its set bits is in the field of a
channel, from the channel's shift over the bits its maximum needs. -/
def PixelFormat.InFields (f : PixelFormat) (p : UInt32) : Prop :=
  ∀ j < 32, p.toNat.testBit j = true →
    (f.redShift.toNat ≤ j ∧ j < f.redShift.toNat + f.redMax.toNat.size) ∨
    (f.greenShift.toNat ≤ j ∧ j < f.greenShift.toNat + f.greenMax.toNat.size) ∨
    (f.blueShift.toNat ≤ j ∧ j < f.blueShift.toNat + f.blueMax.toNat.size)

/-- Channel maxima `2^k - 1` whose 8-bit scaling is exact: `k` divides 8. -/
def PixelFormat.ExactMaxima (f : PixelFormat) : Prop :=
  ∀ m ∈ [f.redMax, f.greenMax, f.blueMax], ∃ k, (k = 1 ∨ k = 2 ∨ k = 4 ∨ k = 8) ∧ m.toNat = 2 ^ k - 1

instance instDecidableInFields (f : PixelFormat) (p : UInt32) : Decidable (f.InFields p) :=
  inferInstanceAs (Decidable (∀ j < 32, _))

/-- The exact maxima are 1, 3, 15 and 255. -/
theorem exactMaximum_iff (m : UInt16) :
    (∃ k, (k = 1 ∨ k = 2 ∨ k = 4 ∨ k = 8) ∧ m.toNat = 2 ^ k - 1) ↔
      m.toNat = 1 ∨ m.toNat = 3 ∨ m.toNat = 15 ∨ m.toNat = 255 := by
  constructor
  · rintro ⟨k, hk, h⟩
    rcases hk with rfl | rfl | rfl | rfl <;> simp only [h] <;> decide
  · rintro (h | h | h | h)
    exacts [⟨1, by decide, h⟩, ⟨2, by decide, h⟩, ⟨4, by decide, h⟩, ⟨8, by decide, h⟩]

instance instDecidableExactMaxima (f : PixelFormat) : Decidable f.ExactMaxima :=
  decidable_of_iff (∀ m ∈ [f.redMax, f.greenMax, f.blueMax],
    m.toNat = 1 ∨ m.toNat = 3 ∨ m.toNat = 15 ∨ m.toNat = 255)
    (forall₂_congr fun m _ => (exactMaximum_iff m).symm)

example : rgb888.ExactMaxima := by decide

/-- A true-colour pixel in the channel fields of a format whose maxima are exact comes back
unchanged from `ExtractRGB` and `CreatePixel`. -/
theorem convertPixel_self {f : PixelFormat} (htc : f.trueColor = true)
    (hs : f.redShift.toNat < 32 ∧ f.greenShift.toNat < 32 ∧ f.blueShift.toNat < 32)
    (hmax : f.ExactMaxima) {p : UInt32} (hp : f.InFields p) : convertPixel f f p = p := by
  obtain ⟨kr, hkr, hr⟩ := hmax f.redMax (by simp)
  obtain ⟨kg, hkg, hg⟩ := hmax f.greenMax (by simp)
  obtain ⟨kb, hkb, hb⟩ := hmax f.blueMax (by simp)
  have hpos : ∀ {k : Nat}, (k = 1 ∨ k = 2 ∨ k = 4 ∨ k = 8) → 0 < 2 ^ k - 1 := by
    intro k hk; rcases hk with rfl | rfl | rfl | rfl <;> decide
  simp only [convertPixel, extractRGB, createPixel, htc, Bool.and_self, Bool.not_true,
    Bool.false_eq_true, ↓reduceIte, gt_iff_lt, uint16_lt_iff, UInt16.toNat_zero, hr, hg, hb,
    hpos hkr, hpos hkg, hpos hkb]
  apply UInt32.ext
  rw [toNat_uint32_or, toNat_uint32_or, channel_roundTrip p hs.1 hkr hr,
    channel_roundTrip p hs.2.1 hkg hg, channel_roundTrip p hs.2.2 hkb hb]
  unfold PixelFormat.InFields at hp
  rw [hr, hg, hb, size_two_pow_sub_one, size_two_pow_sub_one, size_two_pow_sub_one] at hp
  exact reassemble_fields p.toNat_lt hp


/-! ## Pixel bytes -/

theorem toUInt8_and_0xFF (b : UInt8) : (b.toUInt32 &&& 0xFF).toUInt8 = b := by
  apply UInt8.ext
  show (b.toNat &&& 2 ^ 8 - 1) % 256 = b.toNat
  rw [Nat.and_pow_two_sub_one_of_lt_two_pow b.toNat_lt, Nat.mod_eq_of_lt b.toNat_lt]

theorem toUInt16_and_0xFFFF (v : UInt16) : (v.toUInt32 &&& 0xFFFF).toUInt16 = v := by
  apply UInt16.ext
  show (v.toNat &&& 2 ^ 16 - 1) % 65536 = v.toNat
  rw [Nat.and_pow_two_sub_one_of_lt_two_pow v.toNat_lt, Nat.mod_eq_of_lt v.toNat_lt]

/-- `WritePixel` gives back the bytes `ReadPixel` read, in both byte orders. -/
theorem writePixel_pixelValue {f : PixelFormat}
    (hb : bytesPerPixel f = 1 ∨ bytesPerPixel f = 2 ∨ bytesPerPixel f = 4) {chunk : Bytes}
    (hc : chunk.length = bytesPerPixel f) : writePixel f (pixelValue f chunk) = chunk := by
  unfold writePixel pixelValue
  rcases hb with h | h | h <;> rw [h] at hc ⊢
  · match chunk, hc with
    | [b0], _ => simp only [List.getD_cons_zero, ite_self, toUInt8_and_0xFF]
  · match chunk, hc with
    | [b0, b1], _ =>
      split_ifs
      · rw [toUInt16_and_0xFFFF, be16_bigEndianUint16]
      · rw [toUInt16_and_0xFFFF, le16_littleEndianUint16]
  · match chunk, hc with
    | [b0, b1, b2, b3], _ =>
      split_ifs
      · rw [be32_bigEndianUint32]
      · rw [le32_littleEndianUint32]


/-! ## The pixel loop -/

/-- The pixels of the first `n` whole pixels of `data`, as `ReadPixel` reads them one after
another. -/
def pixelsOf (format : PixelFormat) : Nat → Bytes → List UInt32
  | 0, _ => []
  | n + 1, data => pixelValue format (data.take (bytesPerPixel format)) ::
      pixelsOf format n (data.drop (bytesPerPixel format))

theorem readPixel_eq {f : PixelFormat} {s : Bytes} (h : bytesPerPixel f ≤ s.length) :
    readPixel f s = .ok (pixelValue f (s.take (bytesPerPixel f)), s.drop (bytesPerPixel f)) := by
  simp only [readPixel, bind_apply, orFail, readFull_spec, if_pos h, pure_apply]

/-- With a live context the loop converts every pixel it is given. -/
theorem convertPixels_live (src dst : PixelFormat) :
    ∀ (n i : Nat) (s : Bytes), n * bytesPerPixel src ≤ s.length →
      convertPixels src dst (fun _ => false) i n s =
        .ok ((pixelsOf src n s).flatMap fun p => writePixel dst (convertPixel src dst p))
  | 0, _, _, _ => rfl
  | n + 1, i, s, h => by
    rw [Nat.succ_mul] at h
    rw [convertPixels, if_neg Bool.false_ne_true, readPixel_eq (by omega)]
    dsimp only
    rw [convertPixels_live src dst n (i + 1) _ (by rw [List.length_drop]; omega)]
    rfl

/-- A context that is done when the loop starts stops it before the first pixel. -/
theorem convertPixels_done {src dst : PixelFormat} {done : Nat → Bool} {i n : Nat} (s : Bytes)
    (h : done i = true) : convertPixels src dst done i (n + 1) s = .error .contextDone := by
  rw [convertPixels, if_pos h]

theorem pixelsOf_length (f : PixelFormat) : ∀ n s, (pixelsOf f n s).length = n
  | 0, _ => rfl
  | n + 1, s => by rw [pixelsOf, List.length_cons, pixelsOf_length f n]

theorem length_flatMap_writePixel {f : PixelFormat}
    (hb : bytesPerPixel f = 1 ∨ bytesPerPixel f = 2 ∨ bytesPerPixel f = 4) (c : UInt32 → UInt32) :
    ∀ ps : List UInt32, (ps.flatMap fun p => writePixel f (c p)).length = ps.length * bytesPerPixel f
  | [] => by simp
  | p :: ps => by
    have hw : (writePixel f (c p)).length = bytesPerPixel f := by
      unfold writePixel
      rcases hb with h | h | h <;> rw [h] <;> split_ifs <;> rfl
    rw [List.flatMap_cons, List.length_append, hw, length_flatMap_writePixel hb c ps,
      List.length_cons, Nat.succ_mul, Nat.add_comm]

/-- Writing back the pixels of whole pixels of data gives the data. -/
theorem flatMap_writePixel_pixelsOf {f : PixelFormat}
    (hb : bytesPerPixel f = 1 ∨ bytesPerPixel f = 2 ∨ bytesPerPixel f = 4) :
    ∀ (n : Nat) (s : Bytes), s.length = n * bytesPerPixel f →
      (pixelsOf f n s).flatMap (writePixel f) = s
  | 0, s, h => by rw [Nat.zero_mul, List.length_eq_zero] at h; rw [h]; rfl
  | n + 1, s, h => by
    rw [Nat.succ_mul] at h
    rw [pixelsOf, List.flatMap_cons, writePixel_pixelValue hb (by rw [List.length_take]; omega),
      flatMap_writePixel_pixelsOf hb n _ (by rw [List.length_drop]; omega), List.take_append_drop]


/-! ## Through 8-bit channels -/

/-- Three 8-bit channels in disjoint fields of a 32-bit pixel. -/
def PixelFormat.EightBitChannels (g : PixelFormat) : Prop :=
  g.redMax = 255 ∧ g.greenMax = 255 ∧ g.blueMax = 255 ∧
  g.redShift.toNat + 8 ≤ 32 ∧ g.greenShift.toNat + 8 ≤ 32 ∧ g.blueShift.toNat + 8 ≤ 32 ∧
  (g.redShift.toNat + 8 ≤ g.greenShift.toNat ∨ g.greenShift.toNat + 8 ≤ g.redShift.toNat) ∧
  (g.redShift.toNat + 8 ≤ g.blueShift.toNat ∨ g.blueShift.toNat + 8 ≤ g.redShift.toNat) ∧
  (g.greenShift.toNat + 8 ≤ g.blueShift.toNat ∨ g.blueShift.toNat + 8 ≤ g.greenShift.toNat)

instance instDecidableEightBitChannels (g : PixelFormat) : Decidable g.EightBitChannels :=
  inferInstanceAs (Decidable (_ ∧ _))

example : rgb888.EightBitChannels := by decide

/-- A byte shifted into place, read at bit `i`. -/
theorem byte_field_testBit {x : Nat} (hx : x < 2 ^ 8) (s i : Nat) :
    ((x <<< s) % 4294967296).testBit i =
      (decide (i < 32) && decide (s ≤ i ∧ i < s + 8) && x.testBit (i - s)) := by
  show ((x <<< s) % 2 ^ 32).testBit i = _
  rw [Nat.testBit_mod_two_pow, Nat.testBit_shiftLeft]
  by_cases h : s ≤ i
  · by_cases h8 : i < s + 8
    · simp [h, h8]
    · have hb : x.testBit (i - s) = false :=
        Nat.testBit_lt_two_pow (Nat.lt_of_lt_of_le hx (Nat.pow_le_pow_right (by decide) (by omega)))
      simp [h, h8, hb]
  · simp [h]

/-- The byte in one of three disjoint fields is read back from their union. -/
theorem byte_of_fields {a b c : Nat} (ha : a < 2 ^ 8) (hb : b < 2 ^ 8) (hc : c < 2 ^ 8)
    {sa sb sc : Nat} (hsa : sa + 8 ≤ 32) (hab : sa + 8 ≤ sb ∨ sb + 8 ≤ sa)
    (hac : sa + 8 ≤ sc ∨ sc + 8 ≤ sa) :
    ((((a <<< sa) % 4294967296 ||| (b <<< sb) % 4294967296) ||| (c <<< sc) % 4294967296) >>> sa)
      &&& 2 ^ 8 - 1 = a := by
  refine Nat.eq_of_testBit_eq fun j => ?_
  rw [Nat.testBit_and, Nat.testBit_shiftRight, Nat.testBit_two_pow_sub_one, Nat.testBit_or,
    Nat.testBit_or, byte_field_testBit ha, byte_field_testBit hb, byte_field_testBit hc]
  by_cases hj : j < 8
  · -- bit `sa + j` lies outside the other two fields, or beyond their bytes
    have hout : ∀ {x s : Nat}, x < 2 ^ 8 → (sa + 8 ≤ s ∨ s + 8 ≤ sa) →
        (decide (sa + j < 32) && decide (s ≤ sa + j ∧ sa + j < s + 8) && x.testBit (sa + j - s)) =
          false := by
      intro x s hx hs
      by_cases hf : s ≤ sa + j ∧ sa + j < s + 8
      · rw [Nat.testBit_lt_two_pow
          (Nat.lt_of_lt_of_le hx (Nat.pow_le_pow_right (by decide) (by omega))), Bool.and_false]
      · rw [decide_eq_false hf, Bool.and_false, Bool.false_and]
    rw [hout hb hab, hout hc hac, Nat.add_sub_cancel_left, decide_eq_true (show sa + j < 32 by omega),
      decide_eq_true (show sa ≤ sa + j ∧ sa + j < sa + 8 by omega), decide_eq_true hj]
    simp only [Bool.true_and, Bool.or_false, Bool.and_true]
  · rw [decide_eq_false hj, Bool.and_false, Nat.testBit_lt_two_pow
      (Nat.lt_of_lt_of_le ha (Nat.pow_le_pow_right (by decide) (Nat.le_of_not_lt hj)))]

/-- An 8-bit channel of maximum 255 scales to itself. -/
theorem scale_255 {x : Nat} (hx : x < 256) : x * 255 % 4294967296 / 255 = x := by
  rw [Nat.mod_eq_of_lt (by omega), Nat.mul_div_cancel _ (by decide)]

/-- `ExtractRGB` reads back what `CreatePixel` made, in a format of three disjoint 8-bit
channels. -/
theorem extractRGB_createPixel {g : PixelFormat} (htc : g.trueColor = true)
    (h8 : g.EightBitChannels) (r gr b : UInt8) : extractRGB g (createPixel g r gr b) = (r, gr, b) := by
  obtain ⟨hr, hg, hb, hsr, hsg, hsb, hrg, hrb, hgb⟩ := h8
  have hscale : ∀ x : UInt8, (x.toUInt32 * (255 : UInt16).toUInt32 / 255).toNat = x.toNat := fun x => by
    exact scale_255 x.toNat_lt
  have hpix : (createPixel g r gr b).toNat =
      ((r.toNat <<< g.redShift.toNat) % 4294967296 ||| (gr.toNat <<< g.greenShift.toNat) % 4294967296) |||
        (b.toNat <<< g.blueShift.toNat) % 4294967296 := by
    simp only [createPixel, htc, Bool.not_true, Bool.false_eq_true, ↓reduceIte, hr, hg, hb]
    rw [toNat_uint32_or, toNat_uint32_or, shiftLeftGo_toNat _ (by omega), shiftLeftGo_toNat _ (by omega),
      shiftLeftGo_toNat _ (by omega), hscale, hscale, hscale]
  have hch : ∀ {s : UInt8} {x : UInt8}, s.toNat < 32 →
      (shiftRightGo (createPixel g r gr b) s &&& (255 : UInt16).toUInt32).toNat = x.toNat →
      ((shiftRightGo (createPixel g r gr b) s &&& (255 : UInt16).toUInt32) * 255 /
        (255 : UInt16).toUInt32).toUInt8 = x := @fun s x hs h => by
    apply UInt8.ext
    show (shiftRightGo (createPixel g r gr b) _ &&& (255 : UInt16).toUInt32).toNat * 255 % 4294967296 / 255 % 256 = _
    rw [h, scale_255 x.toNat_lt, Nat.mod_eq_of_lt x.toNat_lt]
  have hrl := r.toNat_lt; have hgl := gr.toNat_lt; have hbl := b.toNat_lt
  simp only [extractRGB, htc, Bool.not_true, Bool.false_eq_true, ↓reduceIte, hr, hg, hb,
    show (0 : UInt16) < 255 by decide]
  refine Prod.ext (hch (by omega) ?_) (Prod.ext (hch (by omega) ?_) (hch (by omega) ?_))
  · rw [UInt32.and_toNat, shiftRightGo_toNat _ (by omega), hpix]
    exact byte_of_fields hrl hgl hbl hsr hrg hrb
  · rw [UInt32.and_toNat, shiftRightGo_toNat _ (by omega), hpix, Nat.or_comm ((r.toNat <<< _) % _)]
    exact byte_of_fields hgl hrl hbl hsg (hrg.symm.imp id id) hgb
  · rw [UInt32.and_toNat, shiftRightGo_toNat _ (by omega), hpix, Nat.or_comm, ← Nat.or_assoc]
    exact byte_of_fields hbl hrl hgl hsb (hrb.symm.imp id id) (hgb.symm.imp id id)

/-- `ReadPixel` reads back a pixel of four bytes that `WritePixel` wrote. -/
theorem pixelValue_writePixel {g : PixelFormat} (hb : bytesPerPixel g = 4) (q : UInt32) :
    pixelValue g (writePixel g q) = q := by
  unfold pixelValue writePixel
  rw [hb]
  split_ifs
  · exact bigEndianUint32_be32 q
  · exact littleEndianUint32_le32 q

theorem writePixel_length_four {g : PixelFormat} (hb : bytesPerPixel g = 4) (q : UInt32) :
    (writePixel g q).length = 4 := by
  unfold writePixel
  rw [hb]
  split_ifs <;> rfl

/-- The pixels of bytes written four at a time are the pixels written. -/
theorem pixelsOf_flatMap_writePixel {g : PixelFormat} (hb : bytesPerPixel g = 4)
    (c : UInt32 → UInt32) :
    ∀ (ps : List UInt32) (n : Nat), ps.length = n →
      pixelsOf g n (ps.flatMap fun p => writePixel g (c p)) = ps.map c
  | [], _, h => by rw [← h]; rfl
  | p :: ps, _, h => by
    rw [← h, List.length_cons, pixelsOf, List.flatMap_cons, hb,
      List.take_left' (writePixel_length_four hb _), List.drop_left' (writePixel_length_four hb _),
      pixelValue_writePixel hb, pixelsOf_flatMap_writePixel hb c ps _ rfl, List.map_cons]

/-- Converting to a format of three disjoint 8-bit channels and back is converting to the
format itself. -/
theorem convertPixel_through {f g : PixelFormat} (hf : f.trueColor = true) (hg : g.trueColor = true)
    (h8 : g.EightBitChannels) (p : UInt32) : convertPixel g f (convertPixel f g p) = convertPixel f f p := by
  simp only [convertPixel, hf, hg, Bool.and_self, ↓reduceIte]
  obtain ⟨r, gr, b⟩ := extractRGB f p
  simp only [extractRGB_createPixel hg h8]

/-- Three 8-bit channels fill the depth of a valid format: four bytes per pixel. -/
theorem bytesPerPixel_eightBit {g : PixelFormat} (hv : g.validate = .ok ()) (hg : g.trueColor = true)
    (h8 : g.EightBitChannels) : bytesPerPixel g = 4 := by
  obtain ⟨hbpp, -, hd, htc⟩ := (PixelFormat.validate_eq_ok g).mp hv
  obtain ⟨hr, hgr, hb, -⟩ := h8
  have h255 : (255 : UInt16).toNat.size = 8 := size_two_pow_sub_one 8
  have hsum := (htc hg).2.2.2.2
  rw [hr, hgr, hb, h255] at hsum
  rcases hbpp with h | h | h <;> rw [h] at hd <;> rw [bytesPerPixel, h]
  · exact absurd (Nat.le_trans hsum hd) (by decide)
  · exact absurd (Nat.le_trans hsum hd) (by decide)
  · rfl

/-! ## `ConvertPixelFormat` -/

/-- A valid format has one, two or four bytes per pixel. -/
theorem bytesPerPixel_of_validate {f : PixelFormat} (h : f.validate = .ok ()) :
    bytesPerPixel f = 1 ∨ bytesPerPixel f = 2 ∨ bytesPerPixel f = 4 := by
  rcases ((PixelFormat.validate_eq_ok f).mp h).1 with h | h | h <;> rw [bytesPerPixel, h] <;> decide

/-- Between two valid formats, `ConvertPixelFormat` refuses data that is not whole pixels, and
otherwise runs its pixel loop over them. -/
theorem convertPixelFormat_valid {f g : PixelFormat} (hf : f.validate = .ok ())
    (hg : g.validate = .ok ()) (done : Nat → Bool) (d : Bytes) :
    (d.length % bytesPerPixel f ≠ 0 → ∃ msg,
      convertPixelFormat done d f g = .error (.vnc (validationError "ConvertPixelFormat" msg))) ∧
    (d.length % bytesPerPixel f = 0 →
      convertPixelFormat done d f g = convertPixels f g done 0 (d.length / bytesPerPixel f) d) := by
  simp only [convertPixelFormat, newPixelFormatConverter, hf, hg]
  exact ⟨fun h => ⟨_, if_pos h⟩, fun h => if_neg (not_not_intro h)⟩

/-- `ConvertPixelFormat` between valid formats. With a live context it refuses data that is not
whole pixels of the source, and otherwise returns `len(d) / (BPP(f)/8)` pixels of the
destination. For a true-colour format whose maxima are `2^k - 1` with `k` dividing 8, data whose
pixels lie in the channel fields converts to itself, and comes back from a format of three
disjoint 8-bit channels. A context already done returns `ctx.Err()` on data of one pixel or
more. -/
theorem convertPixelFormat_spec :
    (∀ (f g : PixelFormat) (d : Bytes), f.validate = .ok () → g.validate = .ok () →
      (d.length % (f.bpp.toNat / 8) ≠ 0 → ∃ msg, convertPixelFormat (fun _ => false) d f g =
        .error (.vnc (validationError "ConvertPixelFormat" msg))) ∧
      (d.length % (f.bpp.toNat / 8) = 0 → ∃ out, convertPixelFormat (fun _ => false) d f g = .ok out ∧
        out.length = d.length / (f.bpp.toNat / 8) * (g.bpp.toNat / 8))) ∧
    (∀ (f : PixelFormat) (d : Bytes), f.validate = .ok () → f.trueColor = true → f.ExactMaxima →
      d.length % (f.bpp.toNat / 8) = 0 →
      (∀ p ∈ pixelsOf f (d.length / (f.bpp.toNat / 8)) d, f.InFields p) →
      convertPixelFormat (fun _ => false) d f f = .ok d) ∧
    (∀ (f g : PixelFormat) (d : Bytes), f.validate = .ok () → f.trueColor = true → f.ExactMaxima →
      d.length % (f.bpp.toNat / 8) = 0 →
      (∀ p ∈ pixelsOf f (d.length / (f.bpp.toNat / 8)) d, f.InFields p) →
      g.validate = .ok () → g.trueColor = true → g.EightBitChannels →
      ∃ out, convertPixelFormat (fun _ => false) d f g = .ok out ∧
        convertPixelFormat (fun _ => false) out g f = .ok d) ∧
    (∀ (done : Nat → Bool) (f g : PixelFormat) (d : Bytes), f.validate = .ok () →
      g.validate = .ok () → d.length % (f.bpp.toNat / 8) = 0 → 0 < d.length → done 0 = true →
      convertPixelFormat done d f g = .error .contextDone) := by
  refine ⟨fun f g d hf hg => ⟨(convertPixelFormat_valid hf hg _ d).1, fun h => ?_⟩,
    fun f d hf htc hmax h hin => ?_, fun f g d hf htc hmax h hin hg htcg h8 => ?_,
    fun done f g d hf hg h hpos hdone => ?_⟩
  · have hb := bytesPerPixel_of_validate hf
    have hlen : d.length / bytesPerPixel f * bytesPerPixel f ≤ d.length := Nat.div_mul_le_self _ _
    rw [(convertPixelFormat_valid hf hg _ d).2 h, convertPixels_live f g _ _ _ hlen]
    refine ⟨_, rfl, ?_⟩
    rw [length_flatMap_writePixel (bytesPerPixel_of_validate hg), pixelsOf_length]
    rfl
  · have hb := bytesPerPixel_of_validate hf
    have hs : f.redShift.toNat < 32 ∧ f.greenShift.toNat < 32 ∧ f.blueShift.toNat < 32 := by
      obtain ⟨hbpp, -, -, htc'⟩ := (PixelFormat.validate_eq_ok f).mp hf
      have : f.bpp.toNat ≤ 32 := by rcases hbpp with h | h | h <;> rw [h] <;> decide
      obtain ⟨-, hr, hg, hb, -⟩ := htc' htc
      omega
    have hdiv : d.length = d.length / bytesPerPixel f * bytesPerPixel f :=
      (Nat.div_mul_cancel (Nat.dvd_of_mod_eq_zero h)).symm
    rw [(convertPixelFormat_valid hf hf _ d).2 h, convertPixels_live f f _ _ _ (Nat.le_of_eq hdiv.symm)]
    congr 1
    conv_rhs => rw [← flatMap_writePixel_pixelsOf hb _ d hdiv]
    exact List.flatMap_congr fun p hp => by rw [convertPixel_self htc hs hmax (hin p hp)]
  · have hb := bytesPerPixel_of_validate hf
    have hbg := bytesPerPixel_eightBit hg htcg h8
    have hs : f.redShift.toNat < 32 ∧ f.greenShift.toNat < 32 ∧ f.blueShift.toNat < 32 := by
      obtain ⟨hbpp, -, -, htc'⟩ := (PixelFormat.validate_eq_ok f).mp hf
      have : f.bpp.toNat ≤ 32 := by rcases hbpp with h | h | h <;> rw [h] <;> decide
      obtain ⟨-, hr, hg, hb, -⟩ := htc' htc
      omega
    have hdiv : d.length = d.length / bytesPerPixel f * bytesPerPixel f :=
      (Nat.div_mul_cancel (Nat.dvd_of_mod_eq_zero h)).symm
    have hP := pixelsOf_length f (d.length / bytesPerPixel f) d
    refine ⟨_, by rw [(convertPixelFormat_valid hf hg _ d).2 h,
      convertPixels_live f g _ _ _ (Nat.le_of_eq hdiv.symm)], ?_⟩
    have hout := length_flatMap_writePixel (Or.inr (Or.inr hbg)) (convertPixel f g)
      (pixelsOf f (d.length / bytesPerPixel f) d)
    rw [hP, hbg] at hout
    rw [(convertPixelFormat_valid hg hf _ _).2 (by rw [hout, hbg]; exact Nat.mul_mod_left _ _), hbg,
      hout, Nat.mul_div_cancel _ (by decide), convertPixels_live g f _ _ _ (by rw [hout, hbg]),
      pixelsOf_flatMap_writePixel hbg _ _ _ hP, List.flatMap_map]
    congr 1
    conv_rhs => rw [← flatMap_writePixel_pixelsOf hb _ d hdiv]
    exact List.flatMap_congr fun p hp => by
      rw [convertPixel_through htc htcg h8, convertPixel_self htc hs hmax (hin p hp)]
  · have hb := bytesPerPixel_of_validate hf
    have hn : 0 < d.length / bytesPerPixel f :=
      Nat.div_pos (Nat.le_of_dvd hpos (Nat.dvd_of_mod_eq_zero h)) (by omega)
    obtain ⟨n, hn'⟩ : ∃ n, d.length / bytesPerPixel f = n + 1 := ⟨_, (Nat.succ_pred_eq_of_pos hn).symm⟩
    rw [(convertPixelFormat_valid hf hg _ d).2 h, hn', convertPixels_done d hdone]


/-- With `rgb888` the byte above the three channels is outside their fields and is dropped. -/
example : convertPixelFormat (fun _ => false) [0x20, 0x40, 0x80, 0xFF] rgb888 rgb888 =
    .ok [0x20, 0x40, 0x80, 0] := by decide

/-- `bgr233` is valid and true colour, its maxima are `2^3 - 1`, `2^3 - 1` and `2^2 - 1`, in the
disjoint fields of bits 5 to 7, 2 to 4 and 0 to 1. Its pixel 0x20, red 1 and nothing else,
converts to itself as 0: red 1 scales to 36 in 8 bits, and 36 scales back to 0. -/
theorem convertPixelFormat_bgr233 :
    bgr233.validate = .ok () ∧ bgr233.trueColor = true ∧
      bgr233.redMax.toNat = 2 ^ 3 - 1 ∧ bgr233.greenMax.toNat = 2 ^ 3 - 1 ∧
      bgr233.blueMax.toNat = 2 ^ 2 - 1 ∧
      bgr233.blueShift.toNat + 2 ≤ bgr233.greenShift.toNat ∧
      bgr233.greenShift.toNat + 3 ≤ bgr233.redShift.toNat ∧ bgr233.redShift.toNat + 3 ≤ 8 ∧
      bgr233.InFields 0x20 ∧
      convertPixelFormat (fun _ => false) [0x20] bgr233 bgr233 = .ok [0x00] := by
  refine ⟨by decide, rfl, rfl, rfl, rfl, by decide, by decide, by decide, ?_, by decide⟩
  have h7 : Nat.size 7 = 3 := size_two_pow_sub_one 3
  have h3 : Nat.size 3 = 2 := size_two_pow_sub_one 2
  show ∀ j < 32, (32 : Nat).testBit j = true → (5 ≤ j ∧ j < 5 + Nat.size 7) ∨
    (2 ≤ j ∧ j < 2 + Nat.size 7) ∨ (0 ≤ j ∧ j < 0 + Nat.size 3)
  rw [h7, h3]
  decide

end GoVnc
