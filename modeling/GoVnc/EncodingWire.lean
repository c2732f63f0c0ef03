import GoVnc.HextileGrid

/-!
What a server may send as the data of a FramebufferUpdate rectangle, encoding by encoding,
and that the encoding's `Read` reads exactly that data, whatever follows it on the stream.
Each relation says what the bytes are (pixels in the session's format, big-endian fields,
Hextile's subencoding bits and nibbles) and keeps the bounds the reader checks.

* `readPixelColor_reads`: a pixel of the session's format.
* `RREEncoding.read_reads`, `CursorPseudoEncoding.read_reads`, and the other encodings.
* `HextileEncoding.read_reads`: a Hextile rectangle of fewer than 65536 tiles, tile by tile in
  raster order, each tile's background and foreground carried over from the tile before.
* `EncodingWire.reads`: any encoding's data, read by the `Read` of any encoding with the same
  `Read`; for an encoding implemented outside the package its data is what its own `Read` reads.
-/

namespace GoVnc

open Decoder InputValidator

/-! ## Pixels -/

/-- `px` is a pixel of format `pf` that `ReadPixelColor` maps to `col` with colour map `cm`:
`BPP/8` bytes whose raw value has a colour. -/
def PixelWire (pf : PixelFormat) (cm : ColorMap) (px : Bytes) (col : Color) : Prop :=
  px.length = (pf.bpp / 8).toNat ∧
    (newPixelReader pf cm).pixelToColor ((newPixelReader pf cm).bytesToPixel px) = .ok col

theorem readPixelColor_reads {pf : PixelFormat} {cm : ColorMap} {px : Bytes} {col : Color}
    (h : PixelWire pf cm px col) : (readPixelColor pf cm).Reads px col := fun rest => by
  have hn : (newPixelReader pf cm).bytesPerPixel = px.length := h.1.symm
  unfold readPixelColor PixelReader.readPixelColor
  rw [hn, readFull_append]
  simp only [h.2]

/-- Pixels read one after the other by a loop of `ReadPixelColor`. -/
theorem readPixelColors_reads {pf : PixelFormat} {cm : ColorMap} {pixels : List Bytes}
    {colors : List Color} (h : List.Forall₂ (PixelWire pf cm) pixels colors) :
    (replicate colors.length (readPixelColor pf cm)).Reads pixels.flatten colors :=
  Reads.replicate (h.imp fun _ _ => readPixelColor_reads)

/-- The guard of the RRE and Hextile `Read` passes for a rectangle inside the framebuffer. -/
theorem checkInFramebuffer_reads {c : ClientConn} {rect : RectHeader} (op : String)
    (h : InBox rect.x.toNat rect.y.toNat rect.width.toNat rect.height.toNat
      c.frameBufferWidth.toNat c.frameBufferHeight.toNat) :
    (checkInFramebuffer c rect op).Reads [] () := by
  unfold checkInFramebuffer
  split_ifs
  · exact Reads.check ((validateRectangle_ok_iff ..).mpr h) _
  · exact Reads.pure ()

/-! ## Raw and CopyRect -/

/-- Raw: `height × width` pixels. -/
theorem RawEncoding.read_reads {c : ClientConn} {rect : RectHeader} {pixels : List Bytes}
    {colors : List Color} (hp : List.Forall₂ (PixelWire c.pixelFormat c.colorMap) pixels colors)
    (hn : colors.length = rect.height.toNat * rect.width.toNat) :
    (RawEncoding.read c rect).Reads pixels.flatten (.raw colors) := by
  unfold RawEncoding.read
  rw [← hn]
  exact ((readPixelColors_reads hp).orFail _).bind_nil (Reads.pure _)

/-- CopyRect: the source position, each coordinate at most 32767. -/
theorem CopyRectEncoding.read_reads {srcX srcY : UInt16} (hx : srcX.toNat ≤ 32767)
    (hy : srcY.toNat ≤ 32767) :
    CopyRectEncoding.read.Reads (be16 srcX ++ be16 srcY) (.copyRect srcX srcY) := by
  refine ((readU16_reads srcX).orFail _).bind (((readU16_reads srcY).orFail _).bind_nil ?_)
  rw [if_neg (by omega)]
  exact Reads.pure _

/-! ## RRE -/

/-- An RRE sub-rectangle on the wire: its pixel, then `x`, `y`, `width` and `height`, a
non-empty rectangle inside the rectangle it belongs to. -/
def RRESubrectWire (c : ClientConn) (rect : RectHeader) (w : Bytes) (sub : RRESubrectangle) :
    Prop :=
  ∃ px, PixelWire c.pixelFormat c.colorMap px sub.color ∧
    w = px ++ be16 sub.x ++ be16 sub.y ++ be16 sub.width ++ be16 sub.height ∧
    InBox sub.x.toNat sub.y.toNat sub.width.toNat sub.height.toNat rect.width.toNat
      rect.height.toNat

theorem RREEncoding.readSubrect_reads {c : ClientConn} {rect : RectHeader} {w : Bytes}
    {sub : RRESubrectangle} (h : RRESubrectWire c rect w sub) :
    (RREEncoding.readSubrect c rect).Reads w sub := by
  obtain ⟨px, hpx, rfl, hbox⟩ := h
  simp only [List.append_assoc]
  exact ((readPixelColor_reads hpx).orFail _).bind <| ((readU16_reads _).orFail _).bind <|
    ((readU16_reads _).orFail _).bind <| ((readU16_reads _).orFail _).bind <|
    ((readU16_reads _).orFail _).bind_nil <|
    (Reads.check ((validateRectangle_ok_iff ..).mpr hbox) _).bind_nil (Reads.pure _)

/-- RRE: the sub-rectangle count (at most 1000000), the background pixel, the
sub-rectangles. -/
theorem RREEncoding.read_reads {c : ClientConn} {rect : RectHeader} {bg : Bytes}
    {background : Color} {ws : List Bytes} {subs : List RRESubrectangle}
    (hfb : InBox rect.x.toNat rect.y.toNat rect.width.toNat rect.height.toNat
      c.frameBufferWidth.toNat c.frameBufferHeight.toNat)
    (hbg : PixelWire c.pixelFormat c.colorMap bg background)
    (hs : List.Forall₂ (RRESubrectWire c rect) ws subs) (hn : subs.length ≤ 1000000) :
    (RREEncoding.read c rect).Reads (be32 (UInt32.ofNat subs.length) ++ bg ++ ws.flatten)
      (.rre background subs) := by
  have hcount : (UInt32.ofNat subs.length).toNat = subs.length := by
    rw [toNat_uint32_ofNat]; omega
  rw [← List.nil_append (be32 _), List.append_assoc, List.append_assoc]
  refine (checkInFramebuffer_reads _ hfb).bind ((readU32_reads _).orFail _ |>.bind ?_)
  rw [if_neg (by omega), hcount]
  exact ((readPixelColor_reads hbg).orFail _).bind <|
    (Reads.replicate (hs.imp fun _ _ => RREEncoding.readSubrect_reads)).bind_nil (Reads.pure _)

/-! ## Pseudo-encodings -/

/-- The mask row of a cursor of width at most 256, in bytes: `(width + 7) / 8` in `uint16`
does not wrap. -/
theorem cursorMaskRow_toNat {width : UInt16} (h : width.toNat ≤ 256) :
    ((width + 7) / 8).toNat = (width.toNat + 7) / 8 := by
  rw [UInt16.toNat_div, toNat_uint16_add, show (7 : UInt16).toNat = 7 from rfl,
    show (8 : UInt16).toNat = 8 from rfl]
  omega

/-- Cursor: `width × height × BPP/8` pixel bytes and `⌈width/8⌉ × height` mask bytes, for a
cursor of at most 256 × 256; a `0 × 0` cursor sends neither. -/
theorem CursorPseudoEncoding.read_reads {c : ClientConn} {rect : RectHeader}
    {pixelData maskData : Bytes} (hw : rect.width.toNat ≤ 256) (hh : rect.height.toNat ≤ 256)
    (hp : pixelData.length = rect.width.toNat * rect.height.toNat * (c.pixelFormat.bpp / 8).toNat)
    (hm : maskData.length = (rect.width.toNat + 7) / 8 * rect.height.toNat) :
    (CursorPseudoEncoding.read c rect).Reads (pixelData ++ maskData)
      (.cursorPseudo rect.width rect.height rect.x rect.y pixelData maskData) := by
  unfold CursorPseudoEncoding.read
  split_ifs with h0 h1
  · have hw0 : rect.width.toNat = 0 := by rw [h0.1]; rfl
    have hh0 : rect.height.toNat = 0 := by rw [h0.2]; rfl
    obtain rfl : pixelData = [] := List.length_eq_zero.mp (by rw [hp, hw0, Nat.zero_mul, Nat.zero_mul])
    obtain rfl : maskData = [] := List.length_eq_zero.mp (by rw [hm, hh0, Nat.mul_zero])
    exact Reads.pure _
  · omega
  · rw [← cursorMaskRow_toNat hw] at hm
    exact ((readFull_reads hp).orFail _).bind (((readFull_reads hm).orFail _).bind_nil (Reads.pure _))

/-- DesktopSize: no data, for a non-empty size of at most 32767 × 32767 and 100 Mi pixels. -/
theorem DesktopSizePseudoEncoding.read_reads {rect : RectHeader} (hw : 0 < rect.width.toNat)
    (hh : 0 < rect.height.toNat) (hw' : rect.width.toNat ≤ 32767) (hh' : rect.height.toNat ≤ 32767)
    (harea : rect.width.toNat * rect.height.toNat ≤ 100 * 1024 * 1024) :
    (DesktopSizePseudoEncoding.read rect).Reads [] (.desktopSizePseudo rect.width rect.height) := by
  have hw0 : rect.width ≠ 0 := fun h => by rw [h] at hw; exact absurd hw (by decide)
  have hh0 : rect.height ≠ 0 := fun h => by rw [h] at hh; exact absurd hh (by decide)
  unfold DesktopSizePseudoEncoding.read
  rw [if_neg (by tauto), if_neg (by omega), if_neg (by omega)]
  exact Reads.pure _

/-! ## Hextile -/

/-- `tileWidth` and `tileHeight` of `HextileEncoding.Read` for the tile at index `t` along a
side `extent`: 16, or what is left at the rectangle's edge. -/
def hextileTileSide (extent t : UInt16) : UInt16 :=
  if t * 16 + 16 > extent then extent - t * 16 else 16

/-- A colour that a subencoding bit announces: a pixel when `flag` is set, otherwise nothing
on the wire and the colour `current` carried over. -/
def FlaggedWire (c : ClientConn) (subencoding flag : UInt8) (current : Color) (w : Bytes)
    (col : Color) : Prop :=
  if subencoding &&& flag ≠ 0 then PixelWire c.pixelFormat c.colorMap w col
  else w = [] ∧ col = current

/-- A Hextile sub-rectangle on the wire: its pixel when the tile's sub-rectangles are coloured
(16), then `x` and `y` in the high and low nibbles of one byte and `width - 1` and
`height - 1` in those of the next; a non-empty rectangle inside the tile. -/
def HextileSubrectWire (c : ClientConn) (subencoding : UInt8) (foreground : Color)
    (tileWidth tileHeight : UInt16) (w : Bytes) (sub : HextileSubrectangle) : Prop :=
  ∃ px, FlaggedWire c subencoding 16 foreground px sub.color ∧
    w = px ++ [sub.x * 16 + sub.y, (sub.width - 1) * 16 + (sub.height - 1)] ∧
    InBox sub.x.toNat sub.y.toNat sub.width.toNat sub.height.toNat tileWidth.toNat
      tileHeight.toNat

/-- The sub-rectangles of a tile on the wire: with `AnySubrects` (8), their count in one byte
and then each of them; otherwise nothing, and none. -/
def HextileSubrectsWire (c : ClientConn) (subencoding : UInt8) (foreground : Color)
    (tileWidth tileHeight : UInt16) (w : Bytes) (subs : List HextileSubrectangle) : Prop :=
  if subencoding &&& 8 ≠ 0 then
    ∃ ws, w = UInt8.ofNat subs.length :: ws.flatten ∧ subs.length ≤ 255 ∧
      List.Forall₂ (HextileSubrectWire c subencoding foreground tileWidth tileHeight) ws subs
  else w = [] ∧ subs = []

/-- A Hextile tile on the wire at column `tileX` and row `tileY`, after tiles that left `st`:
its subencoding byte, then its pixels when the byte has `Raw` (1); otherwise the background
(2) and foreground (4) the byte announces, and its sub-rectangles. `st'` is what the tile
leaves for the next one: a raw tile leaves the colours as they were. -/
inductive TileWire (c : ClientConn) (rect : RectHeader) (tileX tileY : UInt16)
    (st : HextileState) : Bytes → HextileTile → HextileState → Prop
  | raw {subencoding : UInt8} {pixels : List Bytes} {colors : List Color}
      (hraw : subencoding &&& 1 ≠ 0)
      (hp : List.Forall₂ (PixelWire c.pixelFormat c.colorMap) pixels colors)
      (hn : colors.length =
        (hextileTileSide rect.width tileX).toNat * (hextileTileSide rect.height tileY).toNat) :
      TileWire c rect tileX tileY st (subencoding :: pixels.flatten)
        { width := hextileTileSide rect.width tileX, height := hextileTileSide rect.height tileY,
          colors }
        { st with tileIndex := st.tileIndex + 1 }
  | coded {subencoding : UInt8} {bgw fgw sw : Bytes} {background foreground : Color}
      {subs : List HextileSubrectangle} (hraw : subencoding &&& 1 = 0)
      (hbg : FlaggedWire c subencoding 2 st.background bgw background)
      (hfg : FlaggedWire c subencoding 4 st.foreground fgw foreground)
      (hs : HextileSubrectsWire c subencoding foreground (hextileTileSide rect.width tileX)
        (hextileTileSide rect.height tileY) sw subs) :
      TileWire c rect tileX tileY st (subencoding :: (bgw ++ fgw ++ sw))
        { width := hextileTileSide rect.width tileX, height := hextileTileSide rect.height tileY,
          background, foreground, subrectangles := subs }
        ⟨st.tileIndex + 1, background, foreground⟩

/-- Tiles on the wire at the positions `ps`, in order, each after the state the one before
it left. -/
inductive TilesWire (c : ClientConn) (rect : RectHeader) :
    List (UInt16 × UInt16) → HextileState → Bytes → List HextileTile → Prop
  | nil (st : HextileState) : TilesWire c rect [] st [] []
  | cons {tileX tileY : UInt16} {ps : List (UInt16 × UInt16)} {st st' : HextileState}
      {w ws : Bytes} {t : HextileTile} {ts : List HextileTile}
      (h : TileWire c rect tileX tileY st w t st') (hs : TilesWire c rect ps st' ws ts) :
      TilesWire c rect ((tileX, tileY) :: ps) st (w ++ ws) (t :: ts)

theorem TileWire.tileIndex {c : ClientConn} {rect : RectHeader} {tileX tileY : UInt16}
    {st st' : HextileState} {w : Bytes} {t : HextileTile} (h : TileWire c rect tileX tileY st w t st') :
    st'.tileIndex = st.tileIndex + 1 := by
  cases h <;> rfl

/-- The high nibble of a byte, as the sub-rectangle loop takes it. -/
theorem uint8_highNibble_toNat (v : UInt8) : (v >>> 4 &&& 0x0F).toNat = v.toNat / 16 := by
  rw [UInt8.and_toNat, show (v >>> 4).toNat = v.toNat >>> 4 from rfl, Nat.shiftRight_eq_div_pow,
    show (0x0F : UInt8).toNat = 2 ^ 4 - 1 from rfl, Nat.and_pow_two_sub_one_eq_mod]
  have := v.toNat_lt
  omega

theorem uint8_lowNibble_toNat (v : UInt8) : (v &&& 0x0F).toNat = v.toNat % 16 := by
  rw [UInt8.and_toNat]; exact Nat.and_pow_two_sub_one_eq_mod _ 4

/-- Two nibbles packed high and low into a byte are read back by `>> 4 & 0x0F` and
`& 0x0F`. -/
theorem nibbles_unpack (hi lo : UInt8) (hhi : hi.toNat < 16) (hlo : lo.toNat < 16) :
    (hi * 16 + lo) >>> 4 &&& 0x0F = hi ∧ (hi * 16 + lo) &&& 0x0F = lo := by
  have hpack : (hi * 16 + lo).toNat = hi.toNat * 16 + lo.toNat := by
    rw [UInt8.toNat_add, UInt8.toNat_mul, show (16 : UInt8).toNat = 16 from rfl, UInt8.size]
    omega
  constructor <;> apply UInt8.toNat.inj
  · rw [uint8_highNibble_toNat, hpack]; omega
  · rw [uint8_lowNibble_toNat, hpack]; omega

/-- A Hextile sub-rectangle's size is sent as one less than itself, which a non-zero byte
survives. -/
theorem uint8_pred_toNat {v : UInt8} (h : 0 < v.toNat) : (v - 1).toNat = v.toNat - 1 := by
  rw [UInt8.toNat_sub_of_le _ _ (by rw [uint8_le_iff]; exact h)]
  rfl

theorem uint8_pred_add_one {v : UInt8} (h : 0 < v.toNat) : v - 1 + 1 = v := by
  apply UInt8.toNat.inj
  rw [UInt8.toNat_add, uint8_pred_toNat h, show (1 : UInt8).toNat = 1 from rfl, UInt8.size]
  have := v.toNat_lt
  omega

/-- `v + 1 - 1 = v` below the top of a byte. -/
theorem uint8_succ_sub_one {v : UInt8} (h : v.toNat < 255) : v + 1 - 1 = v := by
  have h1 : (v + 1).toNat = v.toNat + 1 := by
    rw [UInt8.toNat_add, show (1 : UInt8).toNat = 1 from rfl, UInt8.size]; omega
  apply UInt8.toNat.inj
  rw [UInt8.toNat_sub_of_le _ _ (by rw [uint8_le_iff, h1]; exact Nat.le_add_left 1 _), h1]
  rfl

/-- And every byte is its two nibbles packed. -/
theorem nibbles_pack (v : UInt8) : (v >>> 4 &&& 0x0F) * 16 + (v &&& 0x0F) = v := by
  apply UInt8.toNat.inj
  rw [UInt8.toNat_add, UInt8.toNat_mul, uint8_highNibble_toNat, uint8_lowNibble_toNat,
    show (16 : UInt8).toNat = 16 from rfl, UInt8.size]
  have := v.toNat_lt
  omega

theorem HextileEncoding.readFlaggedColor_reads {c : ClientConn} {subencoding flag : UInt8}
    {current col : Color} {w : Bytes} (e : VNCError) (h : FlaggedWire c subencoding flag current w col) :
    (HextileEncoding.readFlaggedColor c subencoding flag current e).Reads w col := by
  unfold HextileEncoding.readFlaggedColor
  unfold FlaggedWire at h
  split_ifs at h ⊢
  · exact (readPixelColor_reads h).orFail e
  · obtain ⟨rfl, rfl⟩ := h
    exact Reads.pure _

theorem HextileEncoding.readSubrect_reads {c : ClientConn} {subencoding : UInt8} {fg : Color}
    {tw th : UInt16} {w : Bytes} {sub : HextileSubrectangle} (htw : tw.toNat ≤ 16)
    (hth : th.toNat ≤ 16) (h : HextileSubrectWire c subencoding fg tw th w sub) :
    (HextileEncoding.readSubrect c subencoding fg tw th).Reads w sub := by
  obtain ⟨px, hpx, rfl, hbox⟩ := h
  unfold InBox at hbox
  obtain ⟨hx, hy⟩ := nibbles_unpack sub.x sub.y (by omega) (by omega)
  obtain ⟨hw, hh⟩ := nibbles_unpack (sub.width - 1) (sub.height - 1)
    (by rw [uint8_pred_toNat hbox.1]; omega) (by rw [uint8_pred_toNat hbox.2.1]; omega)
  rw [show [sub.x * 16 + sub.y, (sub.width - 1) * 16 + (sub.height - 1)] =
    [sub.x * 16 + sub.y] ++ [(sub.width - 1) * 16 + (sub.height - 1)] from rfl]
  refine (HextileEncoding.readFlaggedColor_reads _ hpx).bind
    (((readU8_reads _).orFail _).bind (((readU8_reads _).orFail _).bind_nil ?_))
  dsimp only
  rw [hx, hy, hw, hh, uint8_pred_add_one hbox.1, uint8_pred_add_one hbox.2.1]
  have htw8 : (UInt16.toUInt8 tw).toNat = tw.toNat := Nat.mod_eq_of_lt (by omega)
  have hth8 : (UInt16.toUInt8 th).toNat = th.toNat := Nat.mod_eq_of_lt (by omega)
  have hinside : ¬(sub.x ≥ tw.toUInt8 ∨ sub.y ≥ th.toUInt8) := by
    rw [ge_iff_le, ge_iff_le, uint8_le_iff, uint8_le_iff, htw8, hth8]; omega
  have hfits : ¬(sub.x.toUInt16 + sub.width.toUInt16 > tw ∨
      sub.y.toUInt16 + sub.height.toUInt16 > th) := by
    simp only [gt_iff_lt, uint16_lt_iff, toNat_uint16_add, UInt8.toUInt16_toNat]; omega
  rw [if_neg hinside, if_neg hfits]
  exact Reads.pure _

theorem HextileEncoding.readSubrects_reads {c : ClientConn} {subencoding : UInt8} {fg : Color}
    {tw th : UInt16} {w : Bytes} {subs : List HextileSubrectangle} (htw : tw.toNat ≤ 16)
    (hth : th.toNat ≤ 16) (h : HextileSubrectsWire c subencoding fg tw th w subs) :
    (HextileEncoding.readSubrects c subencoding fg tw th).Reads w subs := by
  unfold HextileEncoding.readSubrects
  unfold HextileSubrectsWire at h
  split_ifs at h ⊢
  · obtain ⟨ws, rfl, hn, hs⟩ := h
    have hcount : (UInt8.ofNat subs.length).toNat = subs.length := by
      rw [toNat_uint8_ofNat]; omega
    refine ((readU8_reads _).orFail _).bind ?_
    rw [if_neg (by omega), hcount]
    exact Reads.replicate (hs.imp fun _ _ => HextileEncoding.readSubrect_reads htw hth)
  · obtain ⟨rfl, rfl⟩ := h
    exact Reads.pure _

theorem HextileEncoding.readTile_reads {c : ClientConn} {rect : RectHeader} {total : Nat}
    {tileX tileY : UInt16} {st st' : HextileState} {w : Bytes} {t : HextileTile}
    (h : TileWire c rect tileX tileY st w t st') (hlt : st.tileIndex < total)
    (htw : (hextileTileSide rect.width tileX).toNat ≤ 16)
    (hth : (hextileTileSide rect.height tileY).toNat ≤ 16) :
    (HextileEncoding.readTile c rect total tileX tileY st).Reads w (t, st') := by
  unfold HextileEncoding.readTile
  rw [if_neg (by omega)]
  cases h with
  | raw hraw hp hn =>
    rw [← List.singleton_append]
    refine ((readU8_reads _).orFail _).bind ?_
    have harea : (hextileTileSide rect.width tileX * hextileTileSide rect.height tileY).toNat =
        (hextileTileSide rect.width tileX).toNat * (hextileTileSide rect.height tileY).toNat :=
      by rw [toNat_uint16_mul]; exact Nat.mod_eq_of_lt (lt_of_le_of_lt (Nat.mul_le_mul htw hth) (by decide))
    unfold hextileTileSide at harea hn
    rw [if_pos hraw, harea, ← hn]
    exact (((readPixelColors_reads hp).orFail _).bind_nil (Reads.pure _))
  | coded hraw hbg hfg hs =>
    rw [← List.singleton_append]
    refine ((readU8_reads _).orFail _).bind ?_
    rw [if_neg (by simpa using hraw), List.append_assoc]
    exact (HextileEncoding.readFlaggedColor_reads _ hbg).bind <|
      (HextileEncoding.readFlaggedColor_reads _ hfg).bind <|
      (HextileEncoding.readSubrects_reads htw hth hs).bind_nil (Reads.pure _)

/-- The tile loop reads the tiles of its positions in order, while the slice has room. -/
theorem HextileEncoding.readTiles_reads {c : ClientConn} {rect : RectHeader} {total : Nat}
    {ps : List (UInt16 × UInt16)} {st : HextileState} {w : Bytes} {ts : List HextileTile}
    (h : TilesWire c rect ps st w ts) (hroom : st.tileIndex + ps.length ≤ total)
    (hsides : ∀ p ∈ ps, (hextileTileSide rect.width p.1).toNat ≤ 16 ∧
      (hextileTileSide rect.height p.2).toNat ≤ 16) :
    (HextileEncoding.readTiles c rect total ps st).Reads w ts := by
  induction h with
  | nil => exact Reads.pure []
  | cons ht _ ih =>
    rw [List.length_cons] at hroom
    have hsides' := hsides _ (List.mem_cons_self _ _)
    refine (HextileEncoding.readTile_reads ht (by omega) hsides'.1 hsides'.2).bind ?_
    refine (ih (by rw [ht.tileIndex]; omega)
      fun p hp => hsides p (List.mem_cons_of_mem _ hp)).bind_nil (Reads.pure _)

/-- Every tile of a side of at most 32768 is at most 16 long. -/
theorem hextileTileSide_le {side : UInt16} {i : Nat} (hs : side.toNat ≤ 32768)
    (hi : i < (side.toNat + 15) / 16) : (hextileTileSide side (UInt16.ofNat i)).toNat ≤ 16 := by
  have := tileSide_toNat hs hi
  unfold hextileTileSide
  omega

/-- Every tile of a rectangle of at most 32768 × 32768 is at most 16 × 16. -/
theorem tilePositions_sides {rect : RectHeader} (hw : rect.width.toNat ≤ 32768)
    (hh : rect.height.toNat ≤ 32768) :
    ∀ p ∈ tilePositions ((rect.width + 16 - 1) / 16) ((rect.height + 16 - 1) / 16),
      (hextileTileSide rect.width p.1).toNat ≤ 16 ∧ (hextileTileSide rect.height p.2).toNat ≤ 16 := by
  intro p hp
  simp only [tilePositions, List.mem_flatMap, List.mem_map, List.mem_range] at hp
  obtain ⟨j, hj, i, hi, rfl⟩ := hp
  rw [tilesAcross_toNat hw] at hi; rw [tilesAcross_toNat hh] at hj
  exact ⟨hextileTileSide_le hw hi, hextileTileSide_le hh hj⟩

/-- Hextile: the tiles of a rectangle of at most 32768 × 32768 and fewer than 65536 tiles, in
raster order from a black background and foreground. -/
theorem HextileEncoding.read_reads {c : ClientConn} {rect : RectHeader} {w : Bytes}
    {tiles : List HextileTile}
    (hfb : InBox rect.x.toNat rect.y.toNat rect.width.toNat rect.height.toNat
      c.frameBufferWidth.toNat c.frameBufferHeight.toNat)
    (hw : rect.width.toNat ≤ 32768) (hh : rect.height.toNat ≤ 32768)
    (hcount : (rect.width.toNat + 15) / 16 * ((rect.height.toNat + 15) / 16) < 65536)
    (ht : TilesWire c rect (tilePositions ((rect.width + 16 - 1) / 16) ((rect.height + 16 - 1) / 16))
      ⟨0, {}, {}⟩ w tiles) :
    (HextileEncoding.read c rect).Reads w (.hextile tiles) := by
  have hx := tilesAcross_toNat hw
  have hy := tilesAcross_toNat hh
  have htotal : ((rect.width + 16 - 1) / 16 * ((rect.height + 16 - 1) / 16)).toNat =
      (rect.width.toNat + 15) / 16 * ((rect.height.toNat + 15) / 16) := by
    rw [toNat_uint16_mul, hx, hy]; exact Nat.mod_eq_of_lt hcount
  have hlen := tilePositions_length ((rect.width + 16 - 1) / 16) ((rect.height + 16 - 1) / 16)
  rw [hx, hy] at hlen
  rw [← List.nil_append w]
  refine (checkInFramebuffer_reads _ hfb).bind ?_
  dsimp only
  rw [htotal, if_neg (by omega)]
  exact (HextileEncoding.readTiles_reads ht (by rw [hlen]; exact Nat.le_of_eq (Nat.zero_add _))
    (tilePositions_sides hw hh)).bind_nil (Reads.pure _)

/-! ## Any encoding -/

/-- `data` is what a server may send as the data of a rectangle `rect` whose decoded encoding
is `enc`, on session `c`. -/
inductive EncodingWire (c : ClientConn) (rect : RectHeader) : Bytes → Encoding → Prop
  | raw {pixels : List Bytes} {colors : List Color}
      (hp : List.Forall₂ (PixelWire c.pixelFormat c.colorMap) pixels colors)
      (hn : colors.length = rect.height.toNat * rect.width.toNat) :
      EncodingWire c rect pixels.flatten (.raw colors)
  | copyRect {srcX srcY : UInt16} (hx : srcX.toNat ≤ 32767) (hy : srcY.toNat ≤ 32767) :
      EncodingWire c rect (be16 srcX ++ be16 srcY) (.copyRect srcX srcY)
  | rre {bg : Bytes} {background : Color} {ws : List Bytes} {subs : List RRESubrectangle}
      (hbg : PixelWire c.pixelFormat c.colorMap bg background)
      (hs : List.Forall₂ (RRESubrectWire c rect) ws subs) (hn : subs.length ≤ 1000000) :
      EncodingWire c rect (be32 (UInt32.ofNat subs.length) ++ bg ++ ws.flatten)
        (.rre background subs)
  | hextile {w : Bytes} {tiles : List HextileTile} (hw : rect.width.toNat ≤ 32768)
      (hh : rect.height.toNat ≤ 32768)
      (hcount : (rect.width.toNat + 15) / 16 * ((rect.height.toNat + 15) / 16) < 65536)
      (ht : TilesWire c rect
        (tilePositions ((rect.width + 16 - 1) / 16) ((rect.height + 16 - 1) / 16)) ⟨0, {}, {}⟩
        w tiles) :
      EncodingWire c rect w (.hextile tiles)
  | cursor {pixelData maskData : Bytes} (hw : rect.width.toNat ≤ 256) (hh : rect.height.toNat ≤ 256)
      (hp : pixelData.length =
        rect.width.toNat * rect.height.toNat * (c.pixelFormat.bpp / 8).toNat)
      (hm : maskData.length = (rect.width.toNat + 7) / 8 * rect.height.toNat) :
      EncodingWire c rect (pixelData ++ maskData)
        (.cursorPseudo rect.width rect.height rect.x rect.y pixelData maskData)
  | desktopSize (hw : 0 < rect.width.toNat) (hh : 0 < rect.height.toNat)
      (hw' : rect.width.toNat ≤ 32767) (hh' : rect.height.toNat ≤ 32767)
      (harea : rect.width.toNat * rect.height.toNat ≤ 100 * 1024 * 1024) :
      EncodingWire c rect [] (.desktopSizePseudo rect.width rect.height)
  | other {typeBits : UInt32} {impl : ForeignRead} {w d : Bytes}
      (h : (impl.read c.view rect).Reads w d) : EncodingWire c rect w (.other typeBits impl d)

/-- An encoding implemented outside the package reads what its own `Read` reads. -/
theorem ForeignRead.decode_reads {typeBits : UInt32} {impl : ForeignRead} {c : ClientConn}
    {rect : RectHeader} {w d : Bytes} (h : (impl.read c.view rect).Reads w d) :
    (ForeignRead.decode typeBits impl c rect).Reads w (.other typeBits impl d) :=
  h.bind_nil (Reads.pure _)

/-- The data of any encoding is read by the `Read` of any encoding with the same `Read`, when a
rectangle of non-negative type lies inside the framebuffer. -/
theorem EncodingWire.reads {c : ClientConn} {rect : RectHeader} {data : Bytes} {enc e : Encoding}
    (h : EncodingWire c rect data enc) (he : e.read = enc.read)
    (hfb : 0 ≤ enc.type → InBox rect.x.toNat rect.y.toNat rect.width.toNat rect.height.toNat
      c.frameBufferWidth.toNat c.frameBufferHeight.toNat) :
    (e.read c rect).Reads data enc := by
  rw [he]
  cases h with
  | raw hp hn => exact RawEncoding.read_reads hp hn
  | copyRect hx hy => exact CopyRectEncoding.read_reads hx hy
  | rre hbg hs hn => exact RREEncoding.read_reads (hfb (by decide : (0 : Int) ≤ 2)) hbg hs hn
  | hextile hw hh hcount ht => exact HextileEncoding.read_reads (hfb (by decide : (0 : Int) ≤ 5)) hw hh hcount ht
  | cursor hw hh hp hm => exact CursorPseudoEncoding.read_reads hw hh hp hm
  | desktopSize hw hh hw' hh' harea => exact DesktopSizePseudoEncoding.read_reads hw hh hw' hh' harea
  | other h => exact ForeignRead.decode_reads h

end GoVnc
