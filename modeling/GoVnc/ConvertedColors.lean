import GoVnc.Converter
import GoVnc.EncodingWire

/-!
What `ConvertPixelFormat` does to the colours a client decodes. The meaning of pixel data is
what a `PixelReader` of the session's format makes of it: in true colour the channel values
`(raw >> shift) & max`. Between two true-colour formats the converter carries each channel value
`v` of maximum `m` through 8 bits to the destination's maximum `m'`, as `⌊⌊v·255/m⌋·m'/255⌋`
(`scaleChannel`), and places it at the destination's shift.

* `pixelWire_convertPixel`: one pixel. The reader of the destination format reads the
  converted pixel as the source reader's colour, each channel rescaled, when the destination's
  channels can be told apart (`PixelFormat.SeparateFields`: maxima `2^k - 1`, as RFC 6143 asks,
  in disjoint fields inside the pixel's `BPP` bits), which `Validate` does not check.
* `convertPixelFormat_requantizes`: the data of a Raw rectangle. The Raw decoder of a session
  in the destination format reads the converted data as the colours the Raw decoder of a session
  in the source format reads from the original, each rescaled; between formats with the same
  maxima 1, 3, 15 or 255 it reads the same colours.
-/

namespace GoVnc

open Decoder PixelFormatConverter

/-! ## Channels -/

/-- A channel value `v` of maximum `m` carried to maximum `m'` through 8 bits, as `ExtractRGB`
and `CreatePixel` scale it; a zero maximum carries nothing. -/
def scaleChannel (m m' v : UInt16) : UInt16 :=
  if 0 < m then UInt16.ofNat (v.toNat * 255 / m.toNat * m'.toNat / 255) else 0

/-- The colour `pixelToColor` makes of a raw value in a true-colour format. -/
def PixelFormat.channels (pf : PixelFormat) (raw : UInt32) : Color :=
  ⟨PixelReader.channel raw pf.redShift pf.redMax, PixelReader.channel raw pf.greenShift pf.greenMax,
    PixelReader.channel raw pf.blueShift pf.blueMax⟩

/-- A colour of format `f` rescaled channel by channel to the maxima of format `g`. -/
def Color.requantize (f g : PixelFormat) (c : Color) : Color :=
  ⟨scaleChannel f.redMax g.redMax c.r, scaleChannel f.greenMax g.greenMax c.g,
    scaleChannel f.blueMax g.blueMax c.b⟩

/-- A maximum `2^k - 1`: its set bits are its channel's field. -/
def IsFieldMax (m : UInt16) : Prop := ∃ k, k < 17 ∧ m.toNat = 2 ^ k - 1

instance instDecidableIsFieldMax (m : UInt16) : Decidable (IsFieldMax m) :=
  inferInstanceAs (Decidable (∃ k, k < 17 ∧ _))

/-- The bits a channel takes in a pixel: its maximum shifted into place. -/
def channelMask (shift : UInt8) (max : UInt16) : Nat := max.toNat <<< shift.toNat

/-- The channels of a format are told apart in its pixels: maxima `2^k - 1`, fields inside the
pixel's `BPP` bits and no two fields sharing a bit. -/
def PixelFormat.SeparateFields (g : PixelFormat) : Prop :=
  (∀ m ∈ [g.redMax, g.greenMax, g.blueMax], IsFieldMax m) ∧
  (∀ mask ∈ [channelMask g.redShift g.redMax, channelMask g.greenShift g.greenMax,
    channelMask g.blueShift g.blueMax], mask < 2 ^ g.bpp.toNat) ∧
  channelMask g.redShift g.redMax &&& channelMask g.greenShift g.greenMax = 0 ∧
  channelMask g.redShift g.redMax &&& channelMask g.blueShift g.blueMax = 0 ∧
  channelMask g.greenShift g.greenMax &&& channelMask g.blueShift g.blueMax = 0

instance instDecidableSeparateFields (g : PixelFormat) : Decidable g.SeparateFields :=
  inferInstanceAs (Decidable (_ ∧ _))

example : rgb888.SeparateFields := by decide

theorem channel_toNat (raw : UInt32) (s : UInt8) (m : UInt16) :
    (PixelReader.channel raw s m).toNat = raw.toNat >>> s.toNat &&& m.toNat := by
  have : raw.toNat >>> s.toNat &&& m.toNat ≤ m.toNat := Nat.and_le_right
  have := m.toNat_lt
  simp only [PixelReader.channel, toNat_uint16_ofNat]
  omega

theorem channel_le (raw : UInt32) (s : UInt8) (m : UInt16) : PixelReader.channel raw s m ≤ m := by
  rw [uint16_le_iff, channel_toNat]
  exact Nat.and_le_right

theorem scaleChannel_toNat {m m' v : UInt16} (hv : v ≤ m) :
    (scaleChannel m m' v).toNat ≤ m'.toNat ∧
      (0 < m.toNat → (scaleChannel m m' v).toNat = v.toNat * 255 / m.toNat * m'.toNat / 255) := by
  unfold scaleChannel
  split_ifs with hm
  · have hq : v.toNat * 255 / m.toNat ≤ 255 := Nat.div_le_of_le_mul (Nat.mul_le_mul_right 255 hv)
    have hr : v.toNat * 255 / m.toNat * m'.toNat / 255 ≤ m'.toNat :=
      Nat.div_le_of_le_mul (Nat.mul_le_mul_right _ hq)
    have := m'.toNat_lt
    rw [toNat_uint16_ofNat, Nat.mod_eq_of_lt (by omega)]
    exact ⟨hr, fun _ => rfl⟩
  · exact ⟨Nat.zero_le _, fun h => absurd h hm⟩

/-- One channel through `ExtractRGB` and `CreatePixel`: the reader's channel value, rescaled. -/
theorem convertChannel_toNat (p : UInt32) {s : UInt8} (hs : s.toNat < 32) (m m' : UInt16) :
    ((if m > 0 then ((shiftRightGo p s &&& m.toUInt32) * 255 / m.toUInt32).toUInt8 else 0).toUInt32 *
      m'.toUInt32 / 255).toNat = (scaleChannel m m' (PixelReader.channel p s m)).toNat := by
  split_ifs with hm
  · have hv : p.toNat >>> s.toNat &&& m.toNat ≤ m.toNat := Nat.and_le_right
    have hq : (p.toNat >>> s.toNat &&& m.toNat) * 255 / m.toNat ≤ 255 :=
      Nat.div_le_of_le_mul (Nat.mul_le_mul_right 255 hv)
    have hqm : (p.toNat >>> s.toNat &&& m.toNat) * 255 / m.toNat * m'.toNat < 4294967296 :=
      Nat.lt_of_le_of_lt (Nat.mul_le_mul hq (Nat.le_of_lt_succ m'.toNat_lt)) (by decide)
    have := m.toNat_lt
    rw [(scaleChannel_toNat (channel_le p s m)).2 hm, channel_toNat]
    show ((shiftRightGo p s &&& m.toUInt32).toNat * 255 % 4294967296 / m.toNat % 256 * m'.toNat
      % 4294967296 / 255) = _
    rw [UInt32.and_toNat, shiftRightGo_toNat p hs]
    show (p.toNat >>> s.toNat &&& m.toNat) * 255 % 4294967296 / m.toNat % 256 * m'.toNat
      % 4294967296 / 255 = _
    rw [Nat.mod_eq_of_lt (show (p.toNat >>> s.toNat &&& m.toNat) * 255 < 4294967296 by omega),
      Nat.mod_eq_of_lt (Nat.lt_succ_of_le hq), Nat.mod_eq_of_lt hqm]
  · rw [scaleChannel, if_neg hm]
    show 0 * m'.toNat % 4294967296 / 255 = 0
    rw [Nat.zero_mul]

/-! ## Fields -/

/-- A value inside its field is read back from a pixel whose other fields are disjoint from
that field. -/
theorem field_of_disjoint {a b c ma mb mc sa sb sc : Nat} (ha : a &&& ma = a) (hb : b &&& mb = b)
    (hc : c &&& mc = c) (hab : ma <<< sa &&& mb <<< sb = 0) (hac : ma <<< sa &&& mc <<< sc = 0) :
    (a <<< sa ||| b <<< sb ||| c <<< sc) >>> sa &&& ma = a := by
  -- bit `sa + j` of another field is clear wherever `ma` has bit `j`
  have other : ∀ {x m s j}, x &&& m = x → ma <<< sa &&& m <<< s = 0 → ma.testBit j = true →
      (x <<< s).testBit (sa + j) = false := by
    intro x m s j hx hm hj
    have h := congrArg (Nat.testBit · (sa + j)) hm
    simp only [Nat.testBit_and, Nat.testBit_shiftLeft, Nat.zero_testBit, Nat.add_sub_cancel_left,
      hj, ge_iff_le, Nat.le_add_right, decide_True, Bool.true_and] at h
    rw [← hx, Nat.testBit_shiftLeft, Nat.testBit_and, Bool.and_left_comm, h, Bool.and_false]
  refine Nat.eq_of_testBit_eq fun j => ?_
  rw [Nat.testBit_and, Nat.testBit_shiftRight, Nat.testBit_or, Nat.testBit_or]
  cases hj : ma.testBit j
  · rw [Bool.and_false, ← ha, Nat.testBit_and, hj, Bool.and_false]
  · rw [other hb hab hj, other hc hac hj, Nat.testBit_shiftLeft, Nat.add_sub_cancel_left,
      Bool.or_false, Bool.or_false, decide_eq_true (Nat.le_add_right sa j), Bool.true_and,
      Bool.and_true]

/-- A value up to a maximum `2^k - 1` lies in its bits. -/
theorem and_fieldMax {m : UInt16} (hm : IsFieldMax m) {v : Nat} (hv : v ≤ m.toNat) :
    v &&& m.toNat = v := by
  obtain ⟨k, -, hk⟩ := hm
  rw [hk] at hv ⊢
  exact Nat.and_pow_two_sub_one_of_lt_two_pow (by have : 1 ≤ 2 ^ k := Nat.one_le_two_pow; omega)

theorem shiftLeft_le_shiftLeft {v m : Nat} (s : Nat) (hv : v ≤ m) : v <<< s ≤ m <<< s := by
  rw [Nat.shiftLeft_eq, Nat.shiftLeft_eq]
  exact Nat.mul_le_mul_right _ hv

/-- A value up to a channel's maximum, shifted into a format with separate fields, fits in a
pixel. -/
theorem PixelFormat.SeparateFields.shift_lt {g : PixelFormat} (hsep : g.SeparateFields)
    {s : UInt8} {m : UInt16} (hmask : channelMask s m ∈ [channelMask g.redShift g.redMax,
      channelMask g.greenShift g.greenMax, channelMask g.blueShift g.blueMax])
    {v : Nat} (hv : v ≤ m.toNat) : v <<< s.toNat < 2 ^ g.bpp.toNat :=
  Nat.lt_of_le_of_lt (shiftLeft_le_shiftLeft _ hv) (hsep.2.1 _ hmask)

/-- A pixel made of three values up to the maxima of a format with separate fields: each
fits in the pixel, and the reader of the format reads them back. -/
theorem channels_of_fields {g : PixelFormat} (hsep : g.SeparateFields) {a b c : Nat}
    (ha : a ≤ g.redMax.toNat) (hb : b ≤ g.greenMax.toNat) (hc : c ≤ g.blueMax.toNat) :
    a <<< g.redShift.toNat ||| b <<< g.greenShift.toNat ||| c <<< g.blueShift.toNat <
        2 ^ g.bpp.toNat ∧
      ∀ P : UInt32, P.toNat = a <<< g.redShift.toNat ||| b <<< g.greenShift.toNat |||
        c <<< g.blueShift.toNat →
      g.channels P = ⟨UInt16.ofNat a, UInt16.ofNat b, UInt16.ofNat c⟩ := by
  refine ⟨Nat.or_lt_two_pow (Nat.or_lt_two_pow (hsep.shift_lt (by simp) ha)
    (hsep.shift_lt (by simp) hb)) (hsep.shift_lt (by simp) hc), fun P hP => ?_⟩
  obtain ⟨hmax, -, hrg, hrb, hgb⟩ := hsep
  have fa := and_fieldMax (hmax _ (by simp)) ha
  have fb := and_fieldMax (hmax _ (by simp)) hb
  have fc := and_fieldMax (hmax _ (by simp)) hc
  simp only [PixelFormat.channels, PixelReader.channel, hP, Color.mk.injEq]
  refine ⟨?_, ?_, ?_⟩
  · rw [field_of_disjoint fa fb fc hrg hrb]
  · rw [Nat.or_comm (a <<< _), field_of_disjoint fb fa fc (Nat.and_comm _ _ ▸ hrg) hgb]
  · rw [Nat.or_comm, ← Nat.or_assoc, field_of_disjoint fc fa fb (Nat.and_comm _ _ ▸ hrb)
      (Nat.and_comm _ _ ▸ hgb)]

/-! ## Pixels -/

/-- A 16-bit little-endian true-colour format, red in the top five bits. -/
def rgb565 : PixelFormat :=
  { bpp := 16, depth := 16, trueColor := true, redMax := 31, greenMax := 63, blueMax := 31,
    redShift := 11, greenShift := 5 }

example : rgb565.SeparateFields := by decide

theorem pixelToColor_trueColor {pf : PixelFormat} (htc : pf.trueColor = true) (cm : ColorMap)
    (raw : UInt32) : (newPixelReader pf cm).pixelToColor raw = .ok (pf.channels raw) := by
  simp only [PixelReader.pixelToColor, newPixelReader, htc, ↓reduceIte]
  rfl

theorem shifts_lt_of_validate {pf : PixelFormat} (hv : pf.validate = .ok ())
    (htc : pf.trueColor = true) :
    pf.bpp.toNat ≤ 32 ∧ pf.redShift.toNat < 32 ∧ pf.greenShift.toNat < 32 ∧
      pf.blueShift.toNat < 32 := by
  obtain ⟨hbpp, -, -, htc'⟩ := (PixelFormat.validate_eq_ok pf).mp hv
  have : pf.bpp.toNat ≤ 32 := by rcases hbpp with h | h | h <;> rw [h] <;> decide
  obtain ⟨-, hr, hg, hb, -⟩ := htc' htc
  omega

/-- `ConvertPixel` between true-colour formats, the destination with separate fields: each
channel of the source reader's colour, rescaled, at the destination's shift. -/
theorem convertPixel_toNat {f g : PixelFormat} (hf : f.validate = .ok ()) (htf : f.trueColor = true)
    (hg : g.validate = .ok ()) (htg : g.trueColor = true) (hsep : g.SeparateFields) (p : UInt32) :
    (convertPixel f g p).toNat =
      ((f.channels p).requantize f g).r.toNat <<< g.redShift.toNat |||
        ((f.channels p).requantize f g).g.toNat <<< g.greenShift.toNat |||
        ((f.channels p).requantize f g).b.toNat <<< g.blueShift.toNat := by
  obtain ⟨-, hfr, hfg, hfb⟩ := shifts_lt_of_validate hf htf
  obtain ⟨hbg, hgr, hgg, hgb⟩ := shifts_lt_of_validate hg htg
  have hfits : ∀ {s : UInt8} {m : UInt16}, channelMask s m ∈ [channelMask g.redShift g.redMax,
      channelMask g.greenShift g.greenMax, channelMask g.blueShift g.blueMax] → ∀ {v : UInt16},
      v.toNat ≤ m.toNat → v.toNat <<< s.toNat % 4294967296 = v.toNat <<< s.toNat :=
    fun hmask _ hv => Nat.mod_eq_of_lt (Nat.lt_of_lt_of_le (hsep.shift_lt hmask hv)
      (Nat.pow_le_pow_right (by decide) hbg))
  simp only [convertPixel, extractRGB, createPixel, htf, htg, Bool.and_self, Bool.not_true,
    Bool.false_eq_true, ↓reduceIte]
  rw [toNat_uint32_or, toNat_uint32_or, shiftLeftGo_toNat _ hgr, shiftLeftGo_toNat _ hgg,
    shiftLeftGo_toNat _ hgb, convertChannel_toNat p hfr, convertChannel_toNat p hfg,
    convertChannel_toNat p hfb, hfits (by simp) (scaleChannel_toNat (channel_le _ _ _)).1,
    hfits (by simp) (scaleChannel_toNat (channel_le _ _ _)).1,
    hfits (by simp) (scaleChannel_toNat (channel_le _ _ _)).1]
  rfl

/-- The reader of a destination format with separate fields reads a converted pixel as the
source reader's colour, rescaled; the converted pixel fits in the destination's `BPP` bits. -/
theorem pixelToColor_convertPixel {f g : PixelFormat} (hf : f.validate = .ok ())
    (htf : f.trueColor = true) (hg : g.validate = .ok ()) (htg : g.trueColor = true)
    (hsep : g.SeparateFields) (cm : ColorMap) (p : UInt32) :
    (convertPixel f g p).toNat < 2 ^ g.bpp.toNat ∧
      (newPixelReader g cm).pixelToColor (convertPixel f g p) = .ok ((f.channels p).requantize f g) := by
  have hP := convertPixel_toNat hf htf hg htg hsep p
  obtain ⟨hlt, hread⟩ := channels_of_fields hsep (scaleChannel_toNat (channel_le p f.redShift _)).1
    (scaleChannel_toNat (channel_le p f.greenShift _)).1 (scaleChannel_toNat (channel_le p f.blueShift _)).1
  refine ⟨hP ▸ hlt, ?_⟩
  rw [pixelToColor_trueColor htg, hread _ hP, uint16_ofNat_toNat, uint16_ofNat_toNat,
    uint16_ofNat_toNat]
  rfl

/-! ## Pixel bytes -/

theorem bigEndianUint16_be16 (v : UInt16) : bigEndianUint16 (be16 v) = v := by
  have := v.toNat_lt
  apply UInt16.ext
  simp only [bigEndianUint16, be16, List.getD_cons_zero, List.getD_cons_succ, toNat_uint8_ofNat,
    toNat_uint16_ofNat]
  omega

theorem littleEndianUint16_le16 (v : UInt16) : littleEndianUint16 (le16 v) = v := by
  have := v.toNat_lt
  apply UInt16.ext
  simp only [littleEndianUint16, le16, List.getD_cons_zero, List.getD_cons_succ, toNat_uint8_ofNat,
    toNat_uint16_ofNat]
  omega

theorem writePixel_length {pf : PixelFormat}
    (hb : bytesPerPixel pf = 1 ∨ bytesPerPixel pf = 2 ∨ bytesPerPixel pf = 4) (q : UInt32) :
    (writePixel pf q).length = bytesPerPixel pf := by
  unfold writePixel
  rcases hb with h | h | h <;> rw [h] <;> split_ifs <;> rfl

/-- `ReadPixel` reads back a pixel that `WritePixel` wrote, when it fits in the bytes. -/
theorem pixelValue_writePixel_of_lt {pf : PixelFormat}
    (hb : bytesPerPixel pf = 1 ∨ bytesPerPixel pf = 2 ∨ bytesPerPixel pf = 4) {q : UInt32}
    (hq : q.toNat < 2 ^ (8 * bytesPerPixel pf)) : pixelValue pf (writePixel pf q) = q := by
  have h8 : ∀ {x : UInt32}, x.toNat < 2 ^ 8 → ((x &&& 255).toUInt8).toUInt32 = x := fun {x} hx => by
    apply UInt32.ext
    show (x.toNat &&& 2 ^ 8 - 1) % 256 = x.toNat
    rw [Nat.and_pow_two_sub_one_of_lt_two_pow hx]
    omega
  have h16 : ∀ {x : UInt32}, x.toNat < 2 ^ 16 → ((x &&& 65535).toUInt16).toUInt32 = x :=
    fun {x} hx => by
    apply UInt32.ext
    show (x.toNat &&& 2 ^ 16 - 1) % 65536 = x.toNat
    rw [Nat.and_pow_two_sub_one_of_lt_two_pow hx]
    omega
  unfold pixelValue writePixel
  rcases hb with h | h | h <;> rw [h] at hq ⊢ <;> cases pf.bigEndian <;>
    simp only [Bool.false_eq_true, ↓reduceIte]
  · exact h8 hq
  · exact h8 hq
  · rw [littleEndianUint16_le16, h16 hq]
  · rw [bigEndianUint16_be16, h16 hq]
  · exact littleEndianUint32_le32 q
  · exact bigEndianUint32_be32 q

/-- The reader's raw value of a pixel's bytes is the converter's. -/
theorem bytesToPixel_eq_pixelValue {pf : PixelFormat} (hv : pf.validate = .ok ()) (cm : ColorMap)
    {chunk : Bytes} (hc : chunk.length = bytesPerPixel pf) :
    (newPixelReader pf cm).bytesToPixel chunk = pixelValue pf chunk := by
  rcases ((PixelFormat.validate_eq_ok pf).mp hv).1 with h | h | h
  · have hb : bytesPerPixel pf = 1 := by rw [bytesPerPixel, h]; rfl
    rw [hb] at hc
    match chunk, hc with
    | [b], _ =>
      simp only [PixelReader.bytesToPixel, newPixelReader, pixelValue, h, hb, ↓reduceIte, ite_self]
      exact UInt32.ext (Nat.mod_eq_of_lt (Nat.lt_trans b.toNat_lt (by decide)))
  · have hb : bytesPerPixel pf = 2 := by rw [bytesPerPixel, h]; rfl
    rw [hb] at hc
    match chunk, hc with
    | [b0, b1], _ =>
      have := b0.toNat_lt; have := b1.toNat_lt
      have e : ∀ x : UInt16, x.toUInt32.toNat = x.toNat := fun _ => rfl
      simp only [PixelReader.bytesToPixel, newPixelReader, pixelValue, h, hb,
        show (16 : UInt8) ≠ 8 by decide, ↓reduceIte]
      apply UInt32.ext
      split_ifs <;> simp only [ByteOrder.value, List.foldl, List.foldr, bigEndianUint16,
        littleEndianUint16, List.getD_cons_zero, List.getD_cons_succ, toNat_uint32_ofNat,
        toNat_uint16_ofNat, e] <;> omega
  · have hb : bytesPerPixel pf = 4 := by rw [bytesPerPixel, h]; rfl
    rw [hb] at hc
    match chunk, hc with
    | [b0, b1, b2, b3], _ =>
      simp only [PixelReader.bytesToPixel, newPixelReader, pixelValue, h, hb,
        show (32 : UInt8) ≠ 8 by decide, show (32 : UInt8) ≠ 16 by decide, ↓reduceIte]
      split_ifs <;> simp only [ByteOrder.value, List.foldl, List.foldr, bigEndianUint32,
        littleEndianUint32, List.getD_cons_zero, List.getD_cons_succ, Nat.mul_zero, Nat.add_zero]
      congr 1
      omega

theorem bpp_eq_of_validate {pf : PixelFormat} (hv : pf.validate = .ok ()) :
    pf.bpp.toNat = 8 * bytesPerPixel pf := by
  rcases ((PixelFormat.validate_eq_ok pf).mp hv).1 with h | h | h <;> rw [bytesPerPixel, h] <;> rfl

/-- `len(pixel)` bytes of a valid true-colour format are a pixel of the reader's colour. -/
theorem pixelWire_channels {pf : PixelFormat} (hv : pf.validate = .ok ()) (htc : pf.trueColor = true)
    (cm : ColorMap) {chunk : Bytes} (hc : chunk.length = bytesPerPixel pf) :
    PixelWire pf cm chunk (pf.channels (pixelValue pf chunk)) :=
  ⟨hc, by rw [bytesToPixel_eq_pixelValue hv cm hc, pixelToColor_trueColor htc]⟩

/-- A converted pixel, as `WritePixel` writes it, is a pixel of the destination format whose
colour is the source colour rescaled. -/
theorem pixelWire_convertPixel {f g : PixelFormat} (hf : f.validate = .ok ())
    (htf : f.trueColor = true) (hg : g.validate = .ok ()) (htg : g.trueColor = true)
    (hsep : g.SeparateFields) (cm : ColorMap) (p : UInt32) :
    PixelWire g cm (writePixel g (convertPixel f g p)) ((f.channels p).requantize f g) := by
  have hb := bytesPerPixel_of_validate hg
  obtain ⟨hlt, hread⟩ := pixelToColor_convertPixel hf htf hg htg hsep cm p
  rw [bpp_eq_of_validate hg] at hlt
  refine ⟨writePixel_length hb _, ?_⟩
  rw [bytesToPixel_eq_pixelValue hg cm (writePixel_length hb _), pixelValue_writePixel_of_lt hb hlt,
    hread]

/-! ## Raw rectangles -/

/-- A maximum 1, 3, 15 or 255 divides 255. -/
theorem dvd_255_of_exact {m : UInt16}
    (h : ∃ k, (k = 1 ∨ k = 2 ∨ k = 4 ∨ k = 8) ∧ m.toNat = 2 ^ k - 1) : m.toNat ∣ 255 := by
  obtain ⟨k, hk, hm⟩ := h
  rw [hm]
  rcases hk with rfl | rfl | rfl | rfl <;> decide

/-- Through 8 bits and back to the same maximum, a maximum dividing 255 loses nothing. -/
theorem scaleChannel_self {m v : UInt16} (hm : m.toNat ∣ 255) (hv : v ≤ m) :
    scaleChannel m m v = v := by
  apply UInt16.ext
  rw [(scaleChannel_toNat hv).2 (Nat.pos_of_dvd_of_pos hm (by decide)), Nat.mul_div_assoc _ hm,
    Nat.mul_assoc, Nat.div_mul_cancel hm, Nat.mul_div_cancel _ (by decide)]

theorem Color.requantize_self {f g : PixelFormat} (hmax : f.ExactMaxima) (hr : g.redMax = f.redMax)
    (hg : g.greenMax = f.greenMax) (hb : g.blueMax = f.blueMax) {c : Color}
    (hc : c.r ≤ f.redMax ∧ c.g ≤ f.greenMax ∧ c.b ≤ f.blueMax) : c.requantize f g = c := by
  rw [Color.requantize, hr, hg, hb, scaleChannel_self (dvd_255_of_exact (hmax _ (by simp))) hc.1,
    scaleChannel_self (dvd_255_of_exact (hmax _ (by simp))) hc.2.1,
    scaleChannel_self (dvd_255_of_exact (hmax _ (by simp))) hc.2.2]

/-- `n` whole pixels of a true-colour format: the reader's loop reads them as colours within
the maxima, and reads their conversion to a format with separate fields as those colours
rescaled. -/
theorem readPixelColors_converted {f g : PixelFormat} (hf : f.validate = .ok ())
    (htf : f.trueColor = true) (hg : g.validate = .ok ()) (htg : g.trueColor = true)
    (hsep : g.SeparateFields) (cm cm' : ColorMap) :
    ∀ (n : Nat) (d : Bytes), d.length = n * bytesPerPixel f →
      ∃ cs : List Color, (∀ c ∈ cs, c.r ≤ f.redMax ∧ c.g ≤ f.greenMax ∧ c.b ≤ f.blueMax) ∧
        (replicate n (readPixelColor f cm)).Reads d cs ∧
        (replicate n (readPixelColor g cm')).Reads
          ((pixelsOf f n d).flatMap fun p => writePixel g (convertPixel f g p))
          (cs.map (Color.requantize f g))
  | 0, d, h => by
    rw [Nat.zero_mul, List.length_eq_zero] at h
    subst h
    exact ⟨[], nofun, Reads.pure [], Reads.pure []⟩
  | n + 1, d, h => by
    rw [Nat.succ_mul] at h
    obtain ⟨cs, hle, hsrc, hdst⟩ := readPixelColors_converted hf htf hg htg hsep cm cm' n
      (d.drop (bytesPerPixel f)) (by rw [List.length_drop]; omega)
    have hc : (d.take (bytesPerPixel f)).length = bytesPerPixel f := by
      rw [List.length_take]; omega
    refine ⟨f.channels (pixelValue f (d.take (bytesPerPixel f))) :: cs, ?_, ?_, ?_⟩
    · intro c hc'
      rcases List.mem_cons.mp hc' with rfl | hc'
      · exact ⟨channel_le _ _ _, channel_le _ _ _, channel_le _ _ _⟩
      · exact hle c hc'
    · have hr : (replicate (n + 1) (readPixelColor f cm)).Reads
          (d.take (bytesPerPixel f) ++ (d.drop (bytesPerPixel f) ++ []))
          (f.channels (pixelValue f (d.take (bytesPerPixel f))) :: cs) :=
        (readPixelColor_reads (pixelWire_channels hf htf cm hc)).bind (hsrc.bind (Reads.pure _))
      rwa [List.append_nil, List.take_append_drop] at hr
    · rw [pixelsOf, List.flatMap_cons, ← List.append_nil (List.flatMap _ _)]
      exact (readPixelColor_reads (pixelWire_convertPixel hf htf hg htg hsep cm' _)).bind
        (hdst.bind (Reads.pure _))

/-- `ConvertPixelFormat` between valid true-colour formats `f` and `g`, where `g`'s channels
have maxima `2^k - 1` in disjoint fields inside its `BPP` bits, applied with a live context to
the data of a Raw rectangle in `f`. It returns data that the Raw decoder of a session in `g`
reads as the colours the Raw decoder of a session in `f` reads from the original, each channel
`v` of maximum `m` rescaled to `g`'s maximum `m'` as `⌊⌊v·255/m⌋·m'/255⌋`. When `f`'s maxima
are 1, 3, 15 or 255 and `g` has the same, it reads the same colours. -/
theorem convertPixelFormat_requantizes {f g : PixelFormat} (hf : f.validate = .ok ())
    (htf : f.trueColor = true) (hg : g.validate = .ok ()) (htg : g.trueColor = true)
    (hsep : g.SeparateFields) (c : ClientConn) (rect : RectHeader) (d : Bytes)
    (hd : d.length = rect.height.toNat * rect.width.toNat * (f.bpp.toNat / 8)) :
    ∃ colors out, convertPixelFormat (fun _ => false) d f g = .ok out ∧
      (RawEncoding.read { c with pixelFormat := f } rect).Reads d (.raw colors) ∧
      (RawEncoding.read { c with pixelFormat := g } rect).Reads out
        (.raw (colors.map (Color.requantize f g))) ∧
      (f.ExactMaxima → g.redMax = f.redMax → g.greenMax = f.greenMax → g.blueMax = f.blueMax →
        colors.map (Color.requantize f g) = colors) := by
  obtain ⟨cs, hle, hsrc, hdst⟩ :=
    readPixelColors_converted hf htf hg htg hsep c.colorMap c.colorMap _ d hd
  have hpos : 0 < bytesPerPixel f := by
    rcases bytesPerPixel_of_validate hf with h | h | h <;> omega
  have hmod : d.length % bytesPerPixel f = 0 := by rw [hd]; exact Nat.mul_mod_left _ _
  have hn : d.length / bytesPerPixel f = rect.height.toNat * rect.width.toNat := by
    rw [hd]; exact Nat.mul_div_cancel _ hpos
  refine ⟨cs, (pixelsOf f (rect.height.toNat * rect.width.toNat) d).flatMap
    fun p => writePixel g (convertPixel f g p), ?_, ?_, ?_,
    fun hmax hr hgr hb => ?_⟩
  · rw [(convertPixelFormat_valid hf hg _ d).2 hmod, hn,
      convertPixels_live f g _ _ _ (Nat.le_of_eq hd.symm)]
  · exact (hsrc.orFail _).bind_nil (Reads.pure _)
  · exact (hdst.orFail _).bind_nil (Reads.pure _)
  · exact (List.map_congr_left fun c hc => Color.requantize_self hmax hr hgr hb (hle c hc)).trans
      (List.map_id cs)

/-- A 1×1 Raw rectangle of `rgb888`, red 255, green 128, blue 32, converted to `rgb565`. -/
theorem convertPixelFormat_requantizes_rgb565 :
    rgb888.validate = .ok () ∧ rgb888.trueColor = true ∧ rgb565.validate = .ok () ∧
      rgb565.trueColor = true ∧ rgb565.SeparateFields ∧
      [0x20, 0x80, 0xFF, 0].length = (1 : UInt16).toNat * (1 : UInt16).toNat * (rgb888.bpp.toNat / 8) ∧
      ∃ colors out, convertPixelFormat (fun _ => false) [0x20, 0x80, 0xFF, 0] rgb888 rgb565 = .ok out ∧
        (RawEncoding.read { pixelFormat := rgb888 } ⟨0, 0, 1, 1⟩).Reads [0x20, 0x80, 0xFF, 0]
          (.raw colors) ∧
        (RawEncoding.read { pixelFormat := rgb565 } ⟨0, 0, 1, 1⟩).Reads out
          (.raw (colors.map (Color.requantize rgb888 rgb565))) ∧
        (rgb888.ExactMaxima → rgb565.redMax = rgb888.redMax → rgb565.greenMax = rgb888.greenMax →
          rgb565.blueMax = rgb888.blueMax → colors.map (Color.requantize rgb888 rgb565) = colors) :=
  ⟨by decide, rfl, by decide, rfl, by decide, rfl,
    convertPixelFormat_requantizes (by decide) rfl (by decide) rfl (by decide) {} ⟨0, 0, 1, 1⟩
      [0x20, 0x80, 0xFF, 0] rfl⟩

/-- The pixel `0x00FF8020` of `rgb888` becomes `0xFBE3` in `rgb565`: red 255 to 31, green 128
to 31, blue 32 to 3. -/
example : convertPixelFormat (fun _ => false) [0x20, 0x80, 0xFF, 0] rgb888 rgb565 = .ok [0xE3, 0xFB] ∧
    RawEncoding.read { pixelFormat := rgb888 } ⟨0, 0, 1, 1⟩ [0x20, 0x80, 0xFF, 0] =
      .ok (.raw [⟨255, 128, 32⟩], []) ∧
    RawEncoding.read { pixelFormat := rgb565 } ⟨0, 0, 1, 1⟩ [0xE3, 0xFB] =
      .ok (.raw [⟨31, 31, 3⟩], []) ∧
    Color.requantize rgb888 rgb565 ⟨255, 128, 32⟩ = ⟨31, 31, 3⟩ :=
  ⟨by decide, rfl, rfl, by decide⟩

end GoVnc
