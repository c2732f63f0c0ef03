import GoVnc.PixelReader

/-!
The session state of a connection (`ClientConn`) and the six encodings of the
package: Raw, CopyRect, RRE, Hextile and the Cursor and DesktopSize
pseudo-encodings, beside an encoding a caller implements, of any `int32` type and with its
own `Read`. Each `Read` takes the session and the rectangle header and
reads its data from the stream; pixels are decoded with the session's current
pixel format and colour map.

Hextile computes its tile grid in `uint16`, as the source does:
`tilesX * tilesY` wraps at 65536, and the tile slice is allocated with the
wrapped count, so a tile past its end is an index-out-of-range panic.

* `HextileEncoding.readTile_eq_ok`: what one tile read that returns did, the inversion the
  grid and bounds results start from.
-/

namespace GoVnc

open Decoder InputValidator

/-- `RRESubrectangle`. -/
structure RRESubrectangle where
  color : Color
  x : UInt16
  y : UInt16
  width : UInt16
  height : UInt16
  deriving DecidableEq, Repr

/-- `HextileSubrectangle`. -/
structure HextileSubrectangle where
  color : Color
  x : UInt8
  y : UInt8
  width : UInt8
  height : UInt8
  deriving DecidableEq, Repr

/-- `HextileTile`; the fields a tile's subencoding does not set keep Go's zero value. -/
structure HextileTile where
  width : UInt16
  height : UInt16
  background : Color := {}
  foreground : Color := {}
  colors : List Color := []
  subrectangles : List HextileSubrectangle := []
  deriving DecidableEq, Repr

/-- The header of a `Rectangle`, which is what an encoding's `Read` looks at. -/
structure RectHeader where
  x : UInt16
  y : UInt16
  width : UInt16
  height : UInt16
  deriving DecidableEq, Repr

/-- What a `Read` implemented outside the package sees of the session: every field of
`ClientConn` but the encodings. -/
structure SessionView where
  colorMap : ColorMap
  frameBufferWidth : UInt16
  frameBufferHeight : UInt16
  desktopName : Bytes
  pixelFormat : PixelFormat

/-- The `Read` of an encoding implemented outside the package, which returns what it decoded,
here as bytes. It consumes an `io.Reader`: it takes a prefix of the stream, and what it returns
depends on that prefix only. -/
structure ForeignRead where
  read : SessionView → RectHeader → Decoder Bytes
  takes_prefix : ∀ view rect s d s', read view rect s = .ok (d, s') →
    ∃ w, s = w ++ s' ∧ (read view rect).Reads w d

/-- The implementations of `Encoding`: the package's, each with the data it decodes, and one
implemented outside the package, of any `int32` type (`typeBits`, its two's complement bits),
with its own `Read` and the data that `Read` returned. -/
inductive Encoding
  | raw (colors : List Color)
  | copyRect (srcX srcY : UInt16)
  | rre (backgroundColor : Color) (subrectangles : List RRESubrectangle)
  | hextile (tiles : List HextileTile)
  | cursorPseudo (width height hotspotX hotspotY : UInt16) (pixelData maskData : Bytes)
  | desktopSizePseudo (width height : UInt16)
  | other (typeBits : UInt32) (impl : ForeignRead) (data : Bytes)

/-- `Type()`. -/
def Encoding.type : Encoding → Int
  | .raw _ => 0
  | .copyRect .. => 1
  | .rre .. => 2
  | .hextile _ => 5
  | .cursorPseudo .. => -239
  | .desktopSizePseudo .. => -223
  | .other typeBits .. => int32OfBits typeBits

/-- `Rectangle`: a header and its decoded encoding. -/
structure Rectangle extends RectHeader where
  enc : Encoding

/-- The session fields of `ClientConn`; the defaults are those of a new connection. -/
structure ClientConn where
  colorMap : ColorMap := zeroColorMap
  encs : List Encoding := []
  frameBufferWidth : UInt16 := 0
  frameBufferHeight : UInt16 := 0
  desktopName : Bytes := []
  pixelFormat : PixelFormat := {}

/-- The session as a `Read` implemented outside the package sees it. -/
def ClientConn.view (c : ClientConn) : SessionView :=
  ⟨c.colorMap, c.frameBufferWidth, c.frameBufferHeight, c.desktopName, c.pixelFormat⟩

/-- The guard at the start of the RRE and Hextile `Read`: when the session has a
framebuffer size, the rectangle must lie inside it. -/
def checkInFramebuffer (c : ClientConn) (rect : RectHeader) (op : String) : Decoder Unit :=
  if c.frameBufferWidth.toNat > 0 ∧ c.frameBufferHeight.toNat > 0 then
    check (validateRectangle rect.x rect.y rect.width rect.height c.frameBufferWidth
      c.frameBufferHeight) (encodingError op "invalid rectangle dimensions")
  else pure ()

/-! ## Raw and CopyRect -/

/-- `RawEncoding.Read`: `height × width` pixels; the nested loop fills `colors` at
`y * width + x`, that is in the order they are read. -/
def RawEncoding.read (c : ClientConn) (rect : RectHeader) : Decoder Encoding := do
  let pixelReader := newPixelReader c.pixelFormat c.colorMap
  let colors ← (replicate (rect.height.toNat * rect.width.toNat) pixelReader.readPixelColor).orFail
    (encodingError "RawEncoding.Read" "failed to read pixel data")
  pure (.raw colors)

/-- `CopyRectEncoding.Read`. -/
def CopyRectEncoding.read : Decoder Encoding := do
  let srcX ← readU16.orFail (encodingError "CopyRectEncoding.Read" "failed to read source X coordinate")
  let srcY ← readU16.orFail (encodingError "CopyRectEncoding.Read" "failed to read source Y coordinate")
  if srcX.toNat > 32767 ∨ srcY.toNat > 32767 then
    fail (.err (encodingError "CopyRectEncoding.Read" "source coordinates appear invalid (too large)"))
  else pure (.copyRect srcX srcY)

/-! ## RRE -/

/-- One iteration of the sub-rectangle loop of `RREEncoding.Read`. -/
def RREEncoding.readSubrect (c : ClientConn) (rect : RectHeader) : Decoder RRESubrectangle := do
  let color ← (readPixelColor c.pixelFormat c.colorMap).orFail
    (encodingError "RREEncoding.Read" "failed to read subrectangle color")
  let geometry := encodingError "RREEncoding.Read" "failed to read subrectangle geometry"
  let x ← readU16.orFail geometry
  let y ← readU16.orFail geometry
  let width ← readU16.orFail geometry
  let height ← readU16.orFail geometry
  check (validateRectangle x y width height rect.width rect.height)
    (encodingError "RREEncoding.Read" "invalid subrectangle bounds")
  pure ⟨color, x, y, width, height⟩

/-- `RREEncoding.Read`. -/
def RREEncoding.read (c : ClientConn) (rect : RectHeader) : Decoder Encoding := do
  checkInFramebuffer c rect "RREEncoding.Read"
  let numSubrects ← readU32.orFail
    (encodingError "RREEncoding.Read" "failed to read number of subrectangles")
  if numSubrects.toNat > 1000000 then
    fail (.err (encodingError "RREEncoding.Read"
      s!"too many subrectangles: {numSubrects} (max 1000000)"))
  else
    let backgroundColor ← (readPixelColor c.pixelFormat c.colorMap).orFail
      (encodingError "RREEncoding.Read" "failed to read background color")
    let subrects ← replicate numSubrects.toNat (RREEncoding.readSubrect c rect)
    pure (.rre backgroundColor subrects)

/-! ## Hextile -/

/-- The values the tile loop of `HextileEncoding.Read` carries from tile to tile. -/
structure HextileState where
  tileIndex : Nat
  background : Color
  foreground : Color

/-- A colour that a subencoding bit announces (background 2, foreground 4, coloured
sub-rectangles 16): a pixel read when the bit is set, else `current` kept. -/
def HextileEncoding.readFlaggedColor (c : ClientConn) (subencoding flag : UInt8) (current : Color)
    (e : VNCError) : Decoder Color :=
  if subencoding &&& flag ≠ 0 then (readPixelColor c.pixelFormat c.colorMap).orFail e
  else pure current

/-- One iteration of the sub-rectangle loop of a Hextile tile. -/
def HextileEncoding.readSubrect (c : ClientConn) (subencoding : UInt8) (foreground : Color)
    (tileWidth tileHeight : UInt16) : Decoder HextileSubrectangle := do
  let op := "HextileEncoding.Read"
  let color ← HextileEncoding.readFlaggedColor c subencoding 16 foreground
    (encodingError op "failed to read subrectangle color")
  let xyData ← readU8.orFail (encodingError op "failed to read subrectangle position")
  let whData ← readU8.orFail (encodingError op "failed to read subrectangle dimensions")
  let x := (xyData >>> 4) &&& 0x0F
  let y := xyData &&& 0x0F
  let width := ((whData >>> 4) &&& 0x0F) + 1
  let height := (whData &&& 0x0F) + 1
  if x ≥ tileWidth.toUInt8 ∨ y ≥ tileHeight.toUInt8 then
    fail (.err (encodingError op "subrectangle position outside tile bounds"))
  else if x.toUInt16 + width.toUInt16 > tileWidth ∨ y.toUInt16 + height.toUInt16 > tileHeight then
    fail (.err (encodingError op "subrectangle extends outside tile bounds"))
  else pure ⟨color, x, y, width, height⟩

/-- The sub-rectangles of a tile whose subencoding has `AnySubrects` (8): a count, then
that many sub-rectangles. -/
def HextileEncoding.readSubrects (c : ClientConn) (subencoding : UInt8) (foreground : Color)
    (tileWidth tileHeight : UInt16) : Decoder (List HextileSubrectangle) :=
  if subencoding &&& 8 ≠ 0 then do
    let numSubrects ← readU8.orFail
      (encodingError "HextileEncoding.Read" "failed to read subrectangle count")
    if numSubrects.toNat > 255 then
      fail (.err (encodingError "HextileEncoding.Read" "too many subrectangles in tile"))
    else
      replicate numSubrects.toNat
        (HextileEncoding.readSubrect c subencoding foreground tileWidth tileHeight)
  else pure []

/-- One iteration of the tile loop: the tile at column `tileX` and row `tileY`, stored at
`tiles[tileIndex]` of a slice of `totalTiles` tiles. -/
def HextileEncoding.readTile (c : ClientConn) (rect : RectHeader) (totalTiles : Nat)
    (tileX tileY : UInt16) (st : HextileState) : Decoder (HextileTile × HextileState) := do
  let op := "HextileEncoding.Read"
  let tileWidth : UInt16 := if tileX * 16 + 16 > rect.width then rect.width - tileX * 16 else 16
  let tileHeight : UInt16 :=
    if tileY * 16 + 16 > rect.height then rect.height - tileY * 16 else 16
  if st.tileIndex ≥ totalTiles then fail (.panic (.indexOutOfRange st.tileIndex totalTiles))
  else
    let subencoding ← readU8.orFail (encodingError op "failed to read tile subencoding")
    if subencoding &&& 1 ≠ 0 then
      let colors ← (replicate (tileWidth * tileHeight).toNat
        (readPixelColor c.pixelFormat c.colorMap)).orFail
          (encodingError op "failed to read raw tile pixel")
      pure ({ width := tileWidth, height := tileHeight, colors },
        { st with tileIndex := st.tileIndex + 1 })
    else
      let background ← HextileEncoding.readFlaggedColor c subencoding 2 st.background
        (encodingError op "failed to read background color")
      let foreground ← HextileEncoding.readFlaggedColor c subencoding 4 st.foreground
        (encodingError op "failed to read foreground color")
      let subrectangles ← HextileEncoding.readSubrects c subencoding foreground tileWidth tileHeight
      pure ({ width := tileWidth, height := tileHeight, background, foreground, subrectangles },
        ⟨st.tileIndex + 1, background, foreground⟩)

/-- A tile read that returns was stored inside the slice, moves the index on by one, has the
size of its position (the edge tiles cut at the rectangle's edge), and has no sub-rectangles
(a raw tile) or those `readSubrects` read at its size. -/
theorem HextileEncoding.readTile_eq_ok {c : ClientConn} {rect : RectHeader} {total : Nat}
    {tileX tileY : UInt16} {st st' : HextileState} {s s' : Bytes} {t : HextileTile}
    (h : HextileEncoding.readTile c rect total tileX tileY st s = .ok ((t, st'), s')) :
    st.tileIndex < total ∧ st'.tileIndex = st.tileIndex + 1 ∧
      t.width = (if tileX * 16 + 16 > rect.width then rect.width - tileX * 16 else 16) ∧
      t.height = (if tileY * 16 + 16 > rect.height then rect.height - tileY * 16 else 16) ∧
      (t.subrectangles = [] ∨ ∃ subencoding s₁ s₂, HextileEncoding.readSubrects c subencoding
        t.foreground t.width t.height s₁ = .ok (t.subrectangles, s₂)) := by
  unfold HextileEncoding.readTile at h
  split at h
  · cases h
  rename_i hlt
  obtain ⟨subencoding, _, -, h⟩ := bind_eq_ok.mp h
  split at h
  · obtain ⟨_, _, -, h⟩ := bind_eq_ok.mp h
    rw [pure_apply, Except.ok.injEq, Prod.mk.injEq, Prod.mk.injEq] at h
    obtain ⟨⟨rfl, rfl⟩, -⟩ := h
    exact ⟨Nat.lt_of_not_le hlt, rfl, rfl, rfl, .inl rfl⟩
  · simp only [bind_eq_ok] at h
    obtain ⟨_, _, -, _, _, -, _, _, hs, h⟩ := h
    rw [pure_apply, Except.ok.injEq, Prod.mk.injEq, Prod.mk.injEq] at h
    obtain ⟨⟨rfl, rfl⟩, -⟩ := h
    exact ⟨Nat.lt_of_not_le hlt, rfl, rfl, rfl, .inr ⟨subencoding, _, _, hs⟩⟩

/-- The tile loop over the tile positions, in raster order. -/
def HextileEncoding.readTiles (c : ClientConn) (rect : RectHeader) (totalTiles : Nat) :
    List (UInt16 × UInt16) → HextileState → Decoder (List HextileTile)
  | [], _ => pure []
  | (tileX, tileY) :: rest, st => do
    let (tile, st') ← HextileEncoding.readTile c rect totalTiles tileX tileY st
    let tiles ← HextileEncoding.readTiles c rect totalTiles rest st'
    pure (tile :: tiles)

/-- The positions `(tileX, tileY)` visited by the two nested loops. -/
def tilePositions (tilesX tilesY : UInt16) : List (UInt16 × UInt16) :=
  (List.range tilesY.toNat).flatMap fun tileY =>
    (List.range tilesX.toNat).map fun tileX => (UInt16.ofNat tileX, UInt16.ofNat tileY)

/-- `HextileEncoding.Read`. -/
def HextileEncoding.read (c : ClientConn) (rect : RectHeader) : Decoder Encoding := do
  checkInFramebuffer c rect "HextileEncoding.Read"
  let tilesX : UInt16 := (rect.width + 16 - 1) / 16
  let tilesY : UInt16 := (rect.height + 16 - 1) / 16
  let totalTiles := (tilesX * tilesY).toNat
  if totalTiles > 100000 then
    fail (.err (encodingError "HextileEncoding.Read" "too many tiles for rectangle"))
  else
    let tiles ← HextileEncoding.readTiles c rect totalTiles (tilePositions tilesX tilesY)
      ⟨0, {}, {}⟩
    pure (.hextile tiles)

/-! ## Pseudo-encodings -/

/-- `CursorPseudoEncoding.Read`: `width × height × BPP/8` pixel bytes, then
`⌈width/8⌉ × height` mask bytes; `0 × 0` hides the cursor and reads nothing. -/
def CursorPseudoEncoding.read (c : ClientConn) (rect : RectHeader) : Decoder Encoding := do
  let op := "CursorPseudoEncoding.Read"
  if rect.width = 0 ∧ rect.height = 0 then
    pure (.cursorPseudo rect.width rect.height rect.x rect.y [] [])
  else if rect.width.toNat > 256 ∨ rect.height.toNat > 256 then
    fail (.err (encodingError op "cursor dimensions too large"))
  else
    let pixelDataSize := rect.width.toNat * rect.height.toNat * (c.pixelFormat.bpp / 8).toNat
    let maskDataSize := ((rect.width + 7) / 8).toNat * rect.height.toNat
    let pixelData ← (readFull pixelDataSize).orFail (encodingError op "failed to read cursor pixel data")
    let maskData ← (readFull maskDataSize).orFail (encodingError op "failed to read cursor mask data")
    pure (.cursorPseudo rect.width rect.height rect.x rect.y pixelData maskData)

/-- `DesktopSizePseudoEncoding.Read`: the new size is the rectangle's, and reads nothing. -/
def DesktopSizePseudoEncoding.read (rect : RectHeader) : Decoder Encoding :=
  let op := "DesktopSizePseudoEncoding.Read"
  if rect.width = 0 ∨ rect.height = 0 then
    fail (.err (validationError op "desktop dimensions cannot be zero"))
  else if rect.width.toNat > 32767 ∨ rect.height.toNat > 32767 then
    fail (.err (validationError op "desktop dimensions too large"))
  else if rect.width.toNat * rect.height.toNat > 100 * 1024 * 1024 then
    fail (.err (validationError op "desktop size would require too much memory"))
  else pure (.desktopSizePseudo rect.width rect.height)

/-- `Read` of an encoding implemented outside the package: its own reader, whose data becomes a
value of the same implementation. -/
def ForeignRead.decode (typeBits : UInt32) (impl : ForeignRead) (c : ClientConn)
    (rect : RectHeader) : Decoder Encoding := do
  let data ← impl.read c.view rect
  pure (.other typeBits impl data)

/-- `Read` of each implementation; the data a package encoding carries plays no part. -/
def Encoding.read : Encoding → ClientConn → RectHeader → Decoder Encoding
  | .raw _, c, rect => RawEncoding.read c rect
  | .copyRect .., _, _ => CopyRectEncoding.read
  | .rre .., c, rect => RREEncoding.read c rect
  | .hextile _, c, rect => HextileEncoding.read c rect
  | .cursorPseudo .., c, rect => CursorPseudoEncoding.read c rect
  | .desktopSizePseudo .., _, rect => DesktopSizePseudoEncoding.read rect
  | .other typeBits impl _, c, rect => ForeignRead.decode typeBits impl c rect

/-- `Handle` of the implementations of `PseudoEncoding`, `none` for the others, those
implemented outside the package among them. Only DesktopSize changes the session: it installs
the new framebuffer size. -/
def Encoding.handle : Encoding → ClientConn → Option ClientConn
  | .cursorPseudo .., c => some c
  | .desktopSizePseudo width height, c =>
    some { c with frameBufferWidth := width, frameBufferHeight := height }
  | _, _ => none

end GoVnc
