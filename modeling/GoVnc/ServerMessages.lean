import GoVnc.Encodings

/-!
The server-to-client messages (`server_messages.go`). `Read` runs after the
type byte. Reading a message can change the session while it reads: a
DesktopSize rectangle installs a new framebuffer size through `Handle`, and
SetColorMapEntries writes each colour into the map as soon as it is read.
Those changes stay when a later part of the message fails, so every reader
returns the session it leaves together with its result.
-/

namespace GoVnc

open Decoder InputValidator

/-- The messages of the package's type table. -/
inductive ServerMessage
  | framebufferUpdate (rectangles : List Rectangle)
  | setColorMapEntries (firstColor : UInt16) (colors : List Color)
  | bell
  | serverCutText (text : Bytes)

/-- `Type()`. -/
def ServerMessage.type : ServerMessage → UInt8
  | .framebufferUpdate _ => 0
  | .setColorMapEntries .. => 1
  | .bell => 2
  | .serverCutText _ => 3

/-- A step of a reader that may change the session: the session afterwards, and the result
with the bytes left. -/
abbrev SessionRead (α : Type) := ClientConn × Except Fault (α × Bytes)

/-- A value computed from the value of a session read; the session and the bytes left stay. -/
def SessionRead.map {α β : Type} (f : α → β) (r : SessionRead α) : SessionRead β :=
  (r.1, r.2.map fun (a, s) => (f a, s))

@[simp] theorem SessionRead.map_fst {α β : Type} (f : α → β) (r : SessionRead α) :
    (r.map f).1 = r.1 := rfl

theorem SessionRead.map_eq_ok {α β : Type} {f : α → β} {r : SessionRead α} {b : β} {s : Bytes} :
    (r.map f).2 = .ok (b, s) ↔ ∃ a, r.2 = .ok (a, s) ∧ f a = b := by
  rcases r with ⟨c, _ | ⟨a, s'⟩⟩ <;> simp [SessionRead.map, Except.map]
  constructor
  · rintro ⟨rfl, rfl⟩; exact ⟨a, ⟨rfl, rfl⟩, rfl⟩
  · rintro ⟨_, ⟨rfl, rfl⟩, rfl⟩; exact ⟨rfl, rfl⟩

theorem SessionRead.map_snd_ok {α β : Type} {f : α → β} {r : SessionRead α} {a : α} {s : Bytes}
    (h : r.2 = .ok (a, s)) : (r.map f).2 = .ok (f a, s) := by
  simp [SessionRead.map, h, Except.map]

theorem SessionRead.map_snd_error {α β : Type} {f : α → β} {r : SessionRead α} {e : Fault}
    (h : r.2 = .error e) : (r.map f).2 = .error e := by
  simp [SessionRead.map, h, Except.map]

/-! ## FramebufferUpdate -/

/-- The encoder table of `FramebufferUpdateMessage.Read`: the session's encodings by type
(a later one replacing an earlier one of the same type), then Raw, Cursor and DesktopSize. -/
def encMap (encs : List Encoding) (encodingType : Int) : Option Encoding :=
  if encodingType = 0 then some (.raw [])
  else if encodingType = -239 then some (.cursorPseudo 0 0 0 0 [] [])
  else if encodingType = -223 then some (.desktopSizePseudo 0 0)
  else encs.reverse.find? (·.type = encodingType)

/-- The bounds check of `FramebufferUpdateMessage.Read`, made for non-negative types only. -/
def checkBounds (c : ClientConn) (i : Nat) (rect : RectHeader) (encodingType : Int) :
    Decoder Unit :=
  if encodingType ≥ 0 then
    check (validateRectangle rect.x rect.y rect.width rect.height c.frameBufferWidth
      c.frameBufferHeight) (protocolError "FramebufferUpdateMessage.Read" s!"invalid rectangle {i}")
  else pure ()

/-- One rectangle of `FramebufferUpdateMessage.Read`: its header, the encoding-type check,
the bounds check for a non-negative type, the table lookup and the encoding's `Read`. -/
def readRectangle (c : ClientConn) (i : Nat) : Decoder Rectangle := do
  let op := "FramebufferUpdateMessage.Read"
  let header := networkError op "failed to read rectangle header"
  let x ← readU16.orFail header
  let y ← readU16.orFail header
  let width ← readU16.orFail header
  let height ← readU16.orFail header
  let encodingType ← readI32.orFail header
  check (validateEncodingType encodingType)
    (protocolError op s!"invalid encoding type for rectangle {i}")
  checkBounds c i ⟨x, y, width, height⟩ encodingType
  match encMap c.encs encodingType with
  | none => fail (.err (unsupportedError op s!"unsupported encoding type: {encodingType}"))
  | some enc =>
    let decoded ← (enc.read c ⟨x, y, width, height⟩).orFail
      (encodingError op "failed to read rectangle encoding data")
    pure ⟨⟨x, y, width, height⟩, decoded⟩

/-- The session after a rectangle: `Handle` of a pseudo-encoding. -/
def afterRectangle (c : ClientConn) (rect : Rectangle) : ClientConn :=
  (rect.enc.handle c).getD c

/-- The rectangle loop, from rectangle `i`, `n` rectangles to go. -/
def readRectangles : Nat → Nat → ClientConn → Bytes → SessionRead (List Rectangle)
  | 0, _, c, s => (c, .ok ([], s))
  | n + 1, i, c, s =>
    match readRectangle c i s with
    | .error f => (c, .error f)
    | .ok (rect, s') => (readRectangles n (i + 1) (afterRectangle c rect) s').map (rect :: ·)

/-- The start of `FramebufferUpdateMessage.Read`: a padding byte and at most 10000
rectangles. -/
def FramebufferUpdateMessage.readHeader : Decoder UInt16 := do
  let op := "FramebufferUpdateMessage.Read"
  let _ ← (readFull 1).orFail (networkError op "failed to read padding")
  let numRects ← readU16.orFail (networkError op "failed to read number of rectangles")
  if numRects.toNat > 10000 then
    fail (.err (protocolError op s!"too many rectangles in update: {numRects} (max 10000)"))
  else pure numRects

/-- `FramebufferUpdateMessage.Read`. -/
def FramebufferUpdateMessage.read (c : ClientConn) (s : Bytes) : SessionRead ServerMessage :=
  match FramebufferUpdateMessage.readHeader s with
  | .error f => (c, .error f)
  | .ok (numRects, s') => (readRectangles numRects.toNat 0 c s').map .framebufferUpdate

/-- A 4096×4096 session that asked for Hextile. -/
def hextileSession : ClientConn :=
  { frameBufferWidth := 4096, frameBufferHeight := 4096, pixelFormat := rgb888,
    encs := [.hextile []] }

/-- The start of an update of one Hextile rectangle covering the 4096×4096 framebuffer:
256 × 256 = 65536 tiles, a count that is 0 in `uint16`. -/
def hextileUpdateHeader : Bytes := [0, 0, 1, 0, 0, 0, 0, 16, 0, 16, 0, 0, 0, 0, 5]

/-- On a valid session the update panics at its first tile, whatever tile data follows. -/
theorem FramebufferUpdateMessage.read_hextile_panics (rest : Bytes) :
    validateFramebufferDimensions 4096 4096 = .ok () ∧
      validatePixelFormat (some rgb888) = .ok () ∧
      (FramebufferUpdateMessage.read hextileSession (hextileUpdateHeader ++ rest)).2 =
        .error (.panic (.indexOutOfRange 0 0)) :=
  ⟨by decide, by decide, rfl⟩

/-! ## SetColorMapEntries, Bell, ServerCutText -/

/-- The colour loop of `SetColorMapEntriesMessage.Read`: colour `i` is read and written to
`ColorMap[firstColor + i]` before colour `i + 1` is read. -/
def readColorEntries (firstColor : UInt16) : Nat → Nat → ClientConn → Bytes → SessionRead (List Color)
  | 0, _, c, s => (c, .ok ([], s))
  | n + 1, i, c, s =>
    let colorData := networkError "SetColorMapEntriesMessage.Read" "failed to read color data"
    match (do
        let r ← readU16.orFail colorData
        let g ← readU16.orFail colorData
        let b ← readU16.orFail colorData
        pure (Color.mk r g b) : Decoder Color) s with
    | .error f => (c, .error f)
    | .ok (color, s') =>
      let index := (firstColor + UInt16.ofNat i).toNat
      if h : index < 256 then
        let c' := { c with colorMap := Function.update c.colorMap ⟨index, h⟩ color }
        (readColorEntries firstColor n (i + 1) c' s').map (color :: ·)
      else (c, .error (.panic (.indexOutOfRange index 256)))

/-- The start of `SetColorMapEntriesMessage.Read`: a padding byte, the first index and the
count, checked against the 256-entry map. -/
def SetColorMapEntriesMessage.readHeader : Decoder (UInt16 × UInt16) := do
  let op := "SetColorMapEntriesMessage.Read"
  let _ ← (readFull 1).orFail (networkError op "failed to read padding")
  let firstColor ← readU16.orFail (networkError op "failed to read first color index")
  let numColors ← readU16.orFail (networkError op "failed to read number of colors")
  check (validateColorMapEntries firstColor numColors 256)
    (protocolError op "invalid color map entries")
  pure (firstColor, numColors)

/-- `SetColorMapEntriesMessage.Read`. -/
def SetColorMapEntriesMessage.read (c : ClientConn) (s : Bytes) : SessionRead ServerMessage :=
  match SetColorMapEntriesMessage.readHeader s with
  | .error f => (c, .error f)
  | .ok ((firstColor, numColors), s') =>
    (readColorEntries firstColor numColors.toNat 0 c s').map (.setColorMapEntries firstColor)

/-- `BellMessage.Read`: no payload. -/
def BellMessage.read (c : ClientConn) (s : Bytes) : SessionRead ServerMessage := (c, .ok (.bell, s))

/-- `ServerCutTextMessage.Read`: one padding byte, a length of at most 10 MiB, the text,
sanitised when `ValidateTextData` refuses it. -/
def ServerCutTextMessage.read (U : UnicodeTables) (c : ClientConn) (s : Bytes) :
    SessionRead ServerMessage :=
  let op := "ServerCutTextMessage.Read"
  (c, (do
    let _ ← (readFull 1).orFail (networkError op "failed to read padding")
    let textLength ← readU32.orFail (networkError op "failed to read text length")
    check (validateMessageLength textLength (10 * 1024 * 1024))
      (protocolError op "invalid clipboard text length")
    let textBytes ← (readFull textLength.toNat).orFail (networkError op "failed to read text data")
    pure (.serverCutText (validateOrSanitize U textBytes (10 * 1024 * 1024))) : Decoder ServerMessage) s)

/-! ## The type table -/

/-- An implementation of the `ServerMessage` interface as `mainLoop` uses it: its `Type()`
and its `Read`. -/
structure MessageReader where
  type : UInt8
  read : ClientConn → Bytes → SessionRead ServerMessage

/-- The package's four messages, which `mainLoop` registers first. -/
def defaultMessages (U : UnicodeTables) : List MessageReader :=
  [⟨0, FramebufferUpdateMessage.read⟩, ⟨1, SetColorMapEntriesMessage.read⟩, ⟨2, BellMessage.read⟩,
    ⟨3, ServerCutTextMessage.read U⟩]

/-- `typeMap` after registering `msgs` in order: a later message replaces an earlier one of
the same type. -/
def typeMap (msgs : List MessageReader) (messageType : UInt8) :
    Option (ClientConn → Bytes → SessionRead ServerMessage) :=
  (msgs.reverse.find? (·.type = messageType)).map (·.read)

end GoVnc
