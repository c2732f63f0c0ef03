import GoVnc.Connection
import GoVnc.ClientMessages
import GoVnc.UpdateBounds
import GoVnc.MainLoop

/-!
The session as a state machine. A session starts from a handshake and then
changes by reader steps, each reading one server message of the package's table
from any stream (a read that fails leaves what it changed before it failed), and
by the client's calls, in any interleaving. Only a DesktopSize rectangle changes
the framebuffer size, and nothing changes the pixel format.

* `reachable_sessionInv`: every reachable session has sides in 1..32768, so an
  area of at most 2³⁰, and a pixel format that `ValidatePixelFormat` accepts.
-/

namespace GoVnc

open Decoder InputValidator

/-- The invariant of a session. -/
structure SessionInv (c : ClientConn) : Prop where
  width_pos : 0 < c.frameBufferWidth.toNat
  width_le : c.frameBufferWidth.toNat ≤ 32768
  height_pos : 0 < c.frameBufferHeight.toNat
  height_le : c.frameBufferHeight.toNat ≤ 32768
  pixelFormat_valid : validatePixelFormat (some c.pixelFormat) = .ok ()

/-- The invariant reads only the framebuffer size and the pixel format. -/
theorem SessionInv.congr {c c' : ClientConn} (h : SessionInv c)
    (hw : c'.frameBufferWidth = c.frameBufferWidth) (hh : c'.frameBufferHeight = c.frameBufferHeight)
    (hp : c'.pixelFormat = c.pixelFormat) : SessionInv c' :=
  ⟨hw ▸ h.1, hw ▸ h.2, hh ▸ h.3, hh ▸ h.4, hp ▸ h.5⟩

theorem SessionInv.area_le {c : ClientConn} (h : SessionInv c) :
    c.frameBufferWidth.toNat * c.frameBufferHeight.toNat ≤ 2 ^ 30 :=
  le_of_le_of_eq (Nat.mul_le_mul h.width_le h.height_le) rfl

/-! ## The handshake -/

theorem clientWithContext_eq_session {U : UnicodeTables} {cfg : Option ClientConfig} {B : Bytes}
    {c : ClientConn} {written rest : Bytes} (h : clientWithContext U cfg B = .session c written rest) :
    ∃ r, handshakeWithContext U cfg B = .ok (r, rest) ∧ c = r.session := by
  unfold clientWithContext at h
  split at h <;> cases h
  exact ⟨_, ‹_›, rfl⟩

/-- A session a handshake opens satisfies the invariant: ServerInit is checked. -/
theorem clientWithContext_sessionInv {U : UnicodeTables} {cfg : ClientConfig} {B : Bytes}
    {c : ClientConn} {written rest : Bytes}
    (h : clientWithContext U (some cfg) B = .session c written rest) : SessionInv c := by
  obtain ⟨r, hr, rfl⟩ := clientWithContext_eq_session h
  obtain ⟨_, _, _, _, _, _, _, _, _, _, _, _, _, -, -, -, -, -, -, -, -, -, -, -, -, -, hw0, hw, hh0,
    hh, -, -, hpf, -, -, rfl⟩ := opening_of_handshakeWithContext hr
  exact ⟨hw0, hw, hh0, hh, hpf⟩

/-! ## Reader steps -/

/-- A DesktopSize rectangle carries a size of 1..32767 on each side. -/
theorem Encoding.read_desktopSize {e : Encoding} {c : ClientConn} {rect : RectHeader}
    {s s' : Bytes} {width height : UInt16}
    (h : e.read c rect s = .ok (.desktopSizePseudo width height, s')) :
    0 < width.toNat ∧ width.toNat ≤ 32767 ∧ 0 < height.toNat ∧ height.toNat ≤ 32767 := by
  rw [← (Encoding.read_spec h).2.1] at h
  simp only [Encoding.read, DesktopSizePseudoEncoding.read] at h
  split_ifs at h with h0 h1 h2 <;> cases h
  simp only [UInt16.ext_iff, UInt16.toNat_zero] at h0
  omega

/-- The session after a rectangle read from a session that satisfies the invariant. -/
theorem afterRectangle_sessionInv {c : ClientConn} {i : Nat} {s s' : Bytes} {r : Rectangle}
    (h : readRectangle c i s = .ok (r, s')) (hc : SessionInv c) :
    SessionInv (afterRectangle c r) := by
  obtain ⟨-, e, _, -, -, hd⟩ := readRectangle_eq_ok h
  rcases r with ⟨_, enc⟩
  cases enc with
  | desktopSizePseudo width height =>
    obtain ⟨hw0, hw, hh0, hh⟩ := Encoding.read_desktopSize hd
    simp only [afterRectangle, Encoding.handle, Option.getD_some]
    exact ⟨hw0, Nat.le_succ_of_le hw, hh0, Nat.le_succ_of_le hh, hc.5⟩
  | _ => exact hc

theorem readRectangles_sessionInv :
    ∀ (n i : Nat) (c : ClientConn) (s : Bytes), SessionInv c → SessionInv (readRectangles n i c s).1
  | 0, _, _, _, hc => hc
  | n + 1, i, c, s, hc => by
    simp only [readRectangles]
    split
    · exact hc
    · exact readRectangles_sessionInv n (i + 1) _ _ (afterRectangle_sessionInv ‹_› hc)

theorem readColorEntries_sessionInv (firstColor : UInt16) :
    ∀ (n i : Nat) (c : ClientConn) (s : Bytes), SessionInv c →
      SessionInv (readColorEntries firstColor n i c s).1
  | 0, _, _, _, hc => hc
  | n + 1, i, c, s, hc => by
    simp only [readColorEntries]
    split
    · exact hc
    · split
      · exact readColorEntries_sessionInv firstColor n (i + 1) _ _ (hc.congr rfl rfl rfl)
      · exact hc

/-- The readers of the package's table. -/
theorem typeMap_defaultMessages {U : UnicodeTables} {b : UInt8} {read : MessageRead}
    (h : typeMap (defaultMessages U) b = some read) :
    read = FramebufferUpdateMessage.read ∨ read = SetColorMapEntriesMessage.read ∨
      read = BellMessage.read ∨ read = ServerCutTextMessage.read U := by
  obtain ⟨m, hm, rfl⟩ := Option.map_eq_some'.mp h
  have hmem := List.mem_reverse.mp (List.mem_of_find?_eq_some hm)
  simp only [defaultMessages, List.mem_cons, List.mem_singleton, List.not_mem_nil, or_false] at hmem
  rcases hmem with rfl | rfl | rfl | rfl <;> simp

/-- One server message of the package's table, read from any stream, keeps the invariant,
whether or not the read succeeds. -/
theorem serverMessage_sessionInv {U : UnicodeTables} {b : UInt8} {read : MessageRead}
    (h : typeMap (defaultMessages U) b = some read) {c : ClientConn} (s : Bytes)
    (hc : SessionInv c) : SessionInv (read c s).1 := by
  rcases typeMap_defaultMessages h with rfl | rfl | rfl | rfl
  · unfold FramebufferUpdateMessage.read
    split
    · exact hc
    · exact readRectangles_sessionInv _ _ _ _ hc
  · unfold SetColorMapEntriesMessage.read
    split
    · exact hc
    · exact readColorEntries_sessionInv _ _ _ _ _ hc
  · exact hc
  · exact hc

/-! ## Client calls -/

theorem ClientConn.send_sessionInv {c after : ClientConn} (writeOk : Bool) (frame : Bytes)
    (e : VNCError) (hc : SessionInv c) (ha : SessionInv after) :
    SessionInv (c.send after writeOk frame e).conn := by
  unfold ClientConn.send
  split
  · exact ha
  · exact hc

theorem ClientConn.setPixelFormat_sessionInv {c : ClientConn} (writeOk : Bool)
    (format : Option PixelFormat) (hc : SessionInv c) :
    SessionInv (c.setPixelFormat writeOk format).conn := by
  unfold ClientConn.setPixelFormat
  split
  · exact ClientConn.send_sessionInv _ _ _ hc (hc.congr rfl rfl rfl)
  · exact hc

theorem ClientConn.setEncodings_sessionInv {c : ClientConn} (writeOk : Bool)
    (encs : List Encoding) (hc : SessionInv c) : SessionInv (c.setEncodings writeOk encs).conn := by
  unfold ClientConn.setEncodings
  dsimp only
  split
  · exact hc
  · split
    · exact hc
    · exact ClientConn.send_sessionInv _ _ _ hc (hc.congr rfl rfl rfl)

theorem ClientConn.keyEvent_sessionInv {c : ClientConn} (writeOk : Bool) (keysym : UInt32)
    (down : Bool) (hc : SessionInv c) : SessionInv (c.keyEvent writeOk keysym down).conn := by
  unfold ClientConn.keyEvent
  split
  · exact hc
  · exact ClientConn.send_sessionInv _ _ _ hc hc

theorem ClientConn.pointerEvent_sessionInv {c : ClientConn} (writeOk : Bool) (mask : UInt8)
    (x y : UInt16) (hc : SessionInv c) : SessionInv (c.pointerEvent writeOk mask x y).conn := by
  unfold ClientConn.pointerEvent
  split
  · exact hc
  · exact ClientConn.send_sessionInv _ _ _ hc hc

/-! ## Runs -/

/-- The steps of a session: a reader step, or a client call. `CutText` assigns no field of
the session. -/
inductive Step (U : UnicodeTables) : ClientConn → ClientConn → Prop
  | serverMessage (c : ClientConn) (b : UInt8) (read : MessageRead) (s : Bytes)
      (h : typeMap (defaultMessages U) b = some read) : Step U c (read c s).1
  | setPixelFormat (c : ClientConn) (writeOk : Bool) (format : Option PixelFormat) :
      Step U c (c.setPixelFormat writeOk format).conn
  | setEncodings (c : ClientConn) (writeOk : Bool) (encs : List Encoding) :
      Step U c (c.setEncodings writeOk encs).conn
  | keyEvent (c : ClientConn) (writeOk : Bool) (keysym : UInt32) (down : Bool) :
      Step U c (c.keyEvent writeOk keysym down).conn
  | pointerEvent (c : ClientConn) (writeOk : Bool) (mask : UInt8) (x y : UInt16) :
      Step U c (c.pointerEvent writeOk mask x y).conn
  | framebufferUpdateRequest (c : ClientConn) (writeOk incremental : Bool)
      (x y width height : UInt16) :
      Step U c (c.framebufferUpdateRequest writeOk incremental x y width height).conn
  | cutText (c : ClientConn) : Step U c c

/-- The sessions of a configuration on server stream `B`: opened by the handshake on `B`, then
stepped. -/
inductive Reachable (U : UnicodeTables) (cfg : ClientConfig) (B : Bytes) : ClientConn → Prop
  | handshake (c : ClientConn) (written rest : Bytes)
      (h : clientWithContext U (some cfg) B = .session c written rest) : Reachable U cfg B c
  | step (c c' : ClientConn) (hc : Reachable U cfg B c) (hs : Step U c c') : Reachable U cfg B c'

theorem Step.sessionInv {U : UnicodeTables} {c c' : ClientConn} (h : Step U c c')
    (hc : SessionInv c) : SessionInv c' := by
  cases h with
  | serverMessage _ _ s h => exact serverMessage_sessionInv h s hc
  | setPixelFormat => exact ClientConn.setPixelFormat_sessionInv _ _ hc
  | setEncodings => exact ClientConn.setEncodings_sessionInv _ _ hc
  | keyEvent => exact ClientConn.keyEvent_sessionInv _ _ _ hc
  | pointerEvent => exact ClientConn.pointerEvent_sessionInv _ _ _ _ hc
  | framebufferUpdateRequest => exact ClientConn.send_sessionInv _ _ _ hc hc
  | cutText => exact hc

theorem Reachable.sessionInv {U : UnicodeTables} {cfg : ClientConfig} {B : Bytes} {c : ClientConn}
    (h : Reachable U cfg B c) : SessionInv c := by
  induction h with
  | handshake _ _ _ h => exact clientWithContext_sessionInv h
  | step _ _ _ hs ih => exact hs.sessionInv ih

/-- Every reachable session has sides in 1..32768, hence an area of at most 2³⁰, and a pixel
format that `ValidatePixelFormat` accepts. -/
theorem reachable_sessionInv {U : UnicodeTables} {cfg : ClientConfig} {B : Bytes} {c : ClientConn}
    (h : Reachable U cfg B c) :
    0 < c.frameBufferWidth.toNat ∧ c.frameBufferWidth.toNat ≤ 32768 ∧
      0 < c.frameBufferHeight.toNat ∧ c.frameBufferHeight.toNat ≤ 32768 ∧
      c.frameBufferWidth.toNat * c.frameBufferHeight.toNat ≤ 2 ^ 30 ∧
      validatePixelFormat (some c.pixelFormat) = .ok () :=
  have hi := h.sessionInv
  ⟨hi.1, hi.2, hi.3, hi.4, hi.area_le, hi.5⟩

/-! ## What the steps change -/

/-- A rectangle changes the framebuffer size at most: `Handle` of DesktopSize. -/
theorem afterRectangle_eq (c : ClientConn) (r : Rectangle) :
    ∃ w h, afterRectangle c r = { c with frameBufferWidth := w, frameBufferHeight := h } := by
  rcases r with ⟨_, enc⟩
  cases enc with
  | desktopSizePseudo w h => exact ⟨w, h, rfl⟩
  | _ => exact ⟨_, _, rfl⟩

theorem readRectangles_fst : ∀ (n i : Nat) (c : ClientConn) (s : Bytes),
    ∃ w h, (readRectangles n i c s).1 = { c with frameBufferWidth := w, frameBufferHeight := h }
  | 0, _, _, _ => ⟨_, _, rfl⟩
  | n + 1, i, c, s => by
    simp only [readRectangles]
    split
    · exact ⟨_, _, rfl⟩
    · rename_i r s' _
      obtain ⟨w₀, h₀, he₀⟩ := afterRectangle_eq c r
      obtain ⟨w, h, he⟩ := readRectangles_fst n (i + 1) (afterRectangle c r) s'
      rw [SessionRead.map_fst, he, he₀]
      exact ⟨w, h, rfl⟩

theorem readColorEntries_fst (firstColor : UInt16) : ∀ (n i : Nat) (c : ClientConn) (s : Bytes),
    ∃ cm, (readColorEntries firstColor n i c s).1 = { c with colorMap := cm }
  | 0, _, _, _ => ⟨_, rfl⟩
  | n + 1, i, c, s => by
    simp only [readColorEntries]
    split
    · exact ⟨_, rfl⟩
    · split
      · obtain ⟨cm, he⟩ := readColorEntries_fst firstColor n (i + 1) _ _
        rw [SessionRead.map_fst, he]
        exact ⟨cm, rfl⟩
      · exact ⟨_, rfl⟩

/-- A reader step, whether or not its read succeeds, changes the framebuffer size and the
colour map at most. -/
theorem serverMessage_fst {U : UnicodeTables} {b : UInt8} {read : MessageRead}
    (h : typeMap (defaultMessages U) b = some read) (c : ClientConn) (s : Bytes) :
    ∃ w h cm, (read c s).1 =
      { c with frameBufferWidth := w, frameBufferHeight := h, colorMap := cm } := by
  rcases typeMap_defaultMessages h with rfl | rfl | rfl | rfl
  · unfold FramebufferUpdateMessage.read
    split
    · exact ⟨_, _, _, rfl⟩
    · obtain ⟨w, h, he⟩ := readRectangles_fst _ 0 c _
      rw [SessionRead.map_fst, he]
      exact ⟨w, h, _, rfl⟩
  · unfold SetColorMapEntriesMessage.read
    split
    · exact ⟨_, _, _, rfl⟩
    · obtain ⟨cm, he⟩ := readColorEntries_fst _ _ 0 c _
      rw [SessionRead.map_fst, he]
      exact ⟨_, _, cm, rfl⟩
  · exact ⟨_, _, _, rfl⟩
  · exact ⟨_, _, _, rfl⟩

/-- A write keeps what both the session before and the session after it keep. -/
theorem ClientConn.send_keeps {c after : ClientConn} (hp : after.pixelFormat = c.pixelFormat)
    (hd : after.desktopName = c.desktopName) (writeOk : Bool) (frame : Bytes) (e : VNCError) :
    (c.send after writeOk frame e).conn.pixelFormat = c.pixelFormat ∧
      (c.send after writeOk frame e).conn.desktopName = c.desktopName := by
  cases writeOk
  · exact ⟨rfl, rfl⟩
  · exact ⟨hp, hd⟩

/-- No step changes the pixel format pixels are decoded in, or the desktop name: a reader
step changes the framebuffer size and the colour map, `SetPixelFormat` the colour map and
`SetEncodings` the encodings. -/
theorem Step.keeps {U : UnicodeTables} {c c' : ClientConn} (h : Step U c c') :
    c'.pixelFormat = c.pixelFormat ∧ c'.desktopName = c.desktopName := by
  cases h with
  | serverMessage _ _ s h =>
    obtain ⟨_, _, _, he⟩ := serverMessage_fst h c s
    rw [he]
    exact ⟨rfl, rfl⟩
  | cutText => exact ⟨rfl, rfl⟩
  | _ =>
    simp only [ClientConn.setPixelFormat, ClientConn.setEncodings, ClientConn.keyEvent,
      ClientConn.pointerEvent, ClientConn.framebufferUpdateRequest]
    repeat' split
    all_goals first | exact ⟨rfl, rfl⟩ | (apply ClientConn.send_keeps <;> rfl)

/-- A server that offers no authentication and a 640×480 `rgb888` desktop named "vnc". -/
def noAuthServer : Bytes :=
  versionMessage (asciiBytes "003") (asciiBytes "008") ++ [1, 1] ++ be32 0 ++
    serverInitMessage 640 480 (writePixelFormat rgb888) (asciiBytes "vnc")

/-- The session it opens for the default configuration. -/
def noAuthSession : ClientConn :=
  { frameBufferWidth := 640, frameBufferHeight := 480, pixelFormat := rgb888,
    desktopName := asciiBytes "vnc" }

theorem reachable_sessionInv_noAuth :
    Reachable latin1Only {} noAuthServer noAuthSession ∧
      0 < noAuthSession.frameBufferWidth.toNat ∧ noAuthSession.frameBufferWidth.toNat ≤ 32768 ∧
      0 < noAuthSession.frameBufferHeight.toNat ∧ noAuthSession.frameBufferHeight.toNat ≤ 32768 ∧
      noAuthSession.frameBufferWidth.toNat * noAuthSession.frameBufferHeight.toNat ≤ 2 ^ 30 ∧
      validatePixelFormat (some noAuthSession.pixelFormat) = .ok () :=
  have h : Reachable latin1Only {} noAuthServer noAuthSession :=
    .handshake _ (asciiBytes "RFB 003.008\n" ++ [1] ++ [] ++ [1]) [] rfl
  ⟨h, reachable_sessionInv h⟩

end GoVnc
