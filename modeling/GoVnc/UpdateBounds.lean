import GoVnc.ServerMessages

/-!
The bounds a decoded FramebufferUpdate carries. `ValidateRectangle` is applied
to every rectangle of non-negative encoding type against the framebuffer size
of the session at that moment, and to every RRE sub-rectangle against its
rectangle; Hextile checks each sub-rectangle against its tile. A DesktopSize
rectangle changes the size for the rectangles after it.

* `Encoding.read_spec`: every `Read` returns data of its own type and implementation, parts in
  bounds.
* `readRectangles_inBounds`: the loop's rectangles, each against the size in effect.
* `FramebufferUpdateMessage.read_inBounds`: the bounds of a whole update.
-/

namespace GoVnc

open Decoder InputValidator

/-! ## Sub-rectangles -/

theorem RREEncoding.readSubrect_inBox {c : ClientConn} {rect : RectHeader} {s s' : Bytes}
    {sub : RRESubrectangle} (h : RREEncoding.readSubrect c rect s = .ok (sub, s')) :
    InBox sub.x.toNat sub.y.toNat sub.width.toNat sub.height.toNat rect.width.toNat
      rect.height.toNat := by
  simp only [RREEncoding.readSubrect, bind_eq_ok] at h
  obtain ⟨_, _, -, _, _, -, _, _, -, _, _, -, _, _, -, _, _, hc, h⟩ := h
  cases h
  exact (validateRectangle_ok_iff ..).mp (check_eq_ok.mp hc).1

/-- A Hextile nibble. -/
private theorem low_nibble_le (v : UInt8) : (v &&& 0x0F).toNat ≤ 15 := by
  rw [UInt8.and_toNat]; exact Nat.and_le_right

theorem HextileEncoding.readSubrect_inBox {c : ClientConn} {subencoding : UInt8} {fg : Color}
    {tw th : UInt16} {s s' : Bytes} {sub : HextileSubrectangle}
    (h : HextileEncoding.readSubrect c subencoding fg tw th s = .ok (sub, s')) :
    InBox sub.x.toNat sub.y.toNat sub.width.toNat sub.height.toNat tw.toNat th.toNat := by
  simp only [HextileEncoding.readSubrect, bind_eq_ok] at h
  obtain ⟨_, _, -, xy, _, -, wh, _, -, h⟩ := h
  split at h
  · cases h
  split at h
  · cases h
  cases h
  rename_i h2
  have := low_nibble_le (xy >>> 4); have := low_nibble_le xy
  have := low_nibble_le (wh >>> 4); have := low_nibble_le wh
  simp only [not_or, UInt16.not_lt, uint16_le_iff, UInt16.toNat_add, UInt8.toUInt16_toNat,
    UInt8.toNat_add, UInt8.size, UInt16.size, show (1 : UInt8).toNat = 1 from rfl] at h2 ⊢
  unfold InBox
  omega

theorem HextileEncoding.readSubrects_inBox {c : ClientConn} {subencoding : UInt8} {fg : Color}
    {tw th : UInt16} {s s' : Bytes} {subs : List HextileSubrectangle}
    (h : HextileEncoding.readSubrects c subencoding fg tw th s = .ok (subs, s')) :
    ∀ sub ∈ subs, InBox sub.x.toNat sub.y.toNat sub.width.toNat sub.height.toNat tw.toNat
      th.toNat := by
  unfold HextileEncoding.readSubrects at h
  split at h
  · obtain ⟨n, _, -, h⟩ := bind_eq_ok.mp h
    split at h
    · cases h
    · exact replicate_forall (fun _ _ _ => HextileEncoding.readSubrect_inBox) _ _ _ _ h
  · cases h; simp

/-! ## Tiles and encodings -/

/-- Every sub-rectangle of a tile lies inside the tile. -/
def HextileTile.SubrectsInTile (t : HextileTile) : Prop :=
  ∀ sub ∈ t.subrectangles,
    InBox sub.x.toNat sub.y.toNat sub.width.toNat sub.height.toNat t.width.toNat t.height.toNat

theorem HextileEncoding.readTile_inTile {c : ClientConn} {rect : RectHeader} {total : Nat}
    {tileX tileY : UInt16} {st st' : HextileState} {s s' : Bytes} {t : HextileTile}
    (h : HextileEncoding.readTile c rect total tileX tileY st s = .ok ((t, st'), s')) :
    t.SubrectsInTile := by
  obtain ⟨-, -, -, -, hsub | ⟨_, _, _, hs⟩⟩ := HextileEncoding.readTile_eq_ok h
  · intro sub hmem
    rw [hsub] at hmem
    cases hmem
  · exact HextileEncoding.readSubrects_inBox hs

theorem HextileEncoding.readTiles_inTile {c : ClientConn} {rect : RectHeader} {total : Nat} :
    ∀ (ps : List (UInt16 × UInt16)) (st : HextileState) (s s' : Bytes) (tiles : List HextileTile),
      HextileEncoding.readTiles c rect total ps st s = .ok (tiles, s') →
        ∀ t ∈ tiles, t.SubrectsInTile
  | [], _, _, _, _, h => by cases h; simp
  | (tileX, tileY) :: ps, st, s, s', tiles, h => by
    simp only [HextileEncoding.readTiles, bind_eq_ok] at h
    obtain ⟨⟨t, st'⟩, _, ht, tiles', _, hts, h⟩ := h
    cases h
    intro t' ht'
    rcases List.mem_cons.mp ht' with rfl | ht'
    · exact HextileEncoding.readTile_inTile ht
    · exact HextileEncoding.readTiles_inTile ps st' _ _ _ hts t' ht'


/-- What the decoded data of one rectangle promises: RRE sub-rectangles inside the
rectangle, Hextile sub-rectangles inside their tile. -/
def Encoding.PartsInBounds (rect : RectHeader) : Encoding → Prop
  | .rre _ subrects => ∀ sub ∈ subrects,
    InBox sub.x.toNat sub.y.toNat sub.width.toNat sub.height.toNat rect.width.toNat
      rect.height.toNat
  | .hextile tiles => ∀ t ∈ tiles, t.SubrectsInTile
  | _ => True

theorem checkInFramebuffer_eq_ok {c : ClientConn} {rect : RectHeader} {op : String}
    {s s' : Bytes} {u : Unit} (h : checkInFramebuffer c rect op s = .ok (u, s')) : s' = s := by
  unfold checkInFramebuffer at h
  split at h
  · exact (check_eq_ok.mp h).2
  · cases h; rfl

theorem RREEncoding.read_spec {c : ClientConn} {rect : RectHeader} {s s' : Bytes} {d : Encoding}
    (h : RREEncoding.read c rect s = .ok (d, s')) :
    (∃ bg subs, d = .rre bg subs) ∧ d.PartsInBounds rect := by
  simp only [RREEncoding.read, bind_eq_ok] at h
  obtain ⟨_, _, -, _, _, -, h⟩ := h
  split at h
  · cases h
  simp only [bind_eq_ok] at h
  obtain ⟨_, _, -, subs, _, hs, h⟩ := h
  cases h
  exact ⟨⟨_, _, rfl⟩, replicate_forall (fun _ _ _ => RREEncoding.readSubrect_inBox) _ _ _ _ hs⟩

theorem HextileEncoding.read_spec {c : ClientConn} {rect : RectHeader} {s s' : Bytes}
    {d : Encoding} (h : HextileEncoding.read c rect s = .ok (d, s')) :
    (∃ tiles, d = .hextile tiles) ∧ d.PartsInBounds rect := by
  simp only [HextileEncoding.read, bind_eq_ok] at h
  obtain ⟨_, _, -, h⟩ := h
  split at h
  · cases h
  obtain ⟨tiles, _, hts, h⟩ := bind_eq_ok.mp h
  cases h
  exact ⟨⟨_, rfl⟩, HextileEncoding.readTiles_inTile _ _ _ _ _ hts⟩

/-- Every encoding's `Read` returns data of its own type and implementation, with its parts in
bounds. -/
theorem Encoding.read_spec {e d : Encoding} {c : ClientConn} {rect : RectHeader} {s s' : Bytes}
    (h : e.read c rect s = .ok (d, s')) :
    d.type = e.type ∧ d.read = e.read ∧ d.PartsInBounds rect := by
  cases e with
  | raw =>
    simp only [Encoding.read, RawEncoding.read, bind_eq_ok] at h
    obtain ⟨_, _, -, h⟩ := h
    cases h; exact ⟨rfl, rfl, trivial⟩
  | copyRect =>
    simp only [Encoding.read, CopyRectEncoding.read, bind_eq_ok] at h
    obtain ⟨_, _, -, _, _, -, h⟩ := h
    split at h <;> cases h; exact ⟨rfl, rfl, trivial⟩
  | rre =>
    obtain ⟨⟨_, _, rfl⟩, hp⟩ := RREEncoding.read_spec h
    exact ⟨rfl, rfl, hp⟩
  | hextile =>
    obtain ⟨⟨_, rfl⟩, hp⟩ := HextileEncoding.read_spec h
    exact ⟨rfl, rfl, hp⟩
  | cursorPseudo =>
    simp only [Encoding.read, CursorPseudoEncoding.read] at h
    split at h
    · cases h; exact ⟨rfl, rfl, trivial⟩
    split at h
    · cases h
    simp only [bind_eq_ok] at h
    obtain ⟨_, _, -, _, _, -, h⟩ := h
    cases h; exact ⟨rfl, rfl, trivial⟩
  | desktopSizePseudo =>
    simp only [Encoding.read, DesktopSizePseudoEncoding.read] at h
    split at h
    · cases h
    split at h
    · cases h
    split at h <;> cases h; exact ⟨rfl, rfl, trivial⟩
  | other =>
    simp only [Encoding.read, ForeignRead.decode, bind_eq_ok] at h
    obtain ⟨_, _, -, h⟩ := h
    cases h; exact ⟨rfl, rfl, trivial⟩

theorem encMap_type {encs : List Encoding} {t : Int} {e : Encoding} (h : encMap encs t = some e) :
    e.type = t := by
  unfold encMap at h
  split_ifs at h with h0 h1 h2 <;> try (cases h; subst_vars; rfl)
  simpa using List.find?_some h


/-! ## The rectangle loop -/

theorem checkBounds_eq_ok {c : ClientConn} {i : Nat} {rect : RectHeader} {t : Int} {s s' : Bytes}
    {u : Unit} (h : checkBounds c i rect t s = .ok (u, s')) :
    s' = s ∧ (0 ≤ t → InBox rect.x.toNat rect.y.toNat rect.width.toNat rect.height.toNat
      c.frameBufferWidth.toNat c.frameBufferHeight.toNat) := by
  unfold checkBounds at h
  split at h
  · obtain ⟨hv, rfl⟩ := check_eq_ok.mp h
    exact ⟨rfl, fun _ => (validateRectangle_ok_iff ..).mp hv⟩
  · cases h
    exact ⟨rfl, fun h' => absurd h' ‹_›⟩

/-- What a rectangle read that succeeds did: its type named an encoding of the table, a
non-negative type passed the bounds check, and the encoding's `Read` decoded the data. -/
theorem readRectangle_eq_ok {c : ClientConn} {i : Nat} {s s' : Bytes} {r : Rectangle}
    (h : readRectangle c i s = .ok (r, s')) :
    ∃ t e s₁, encMap c.encs t = some e ∧
      (0 ≤ t → InBox r.x.toNat r.y.toNat r.width.toNat r.height.toNat
        c.frameBufferWidth.toNat c.frameBufferHeight.toNat) ∧
      e.read c r.toRectHeader s₁ = .ok (r.enc, s') := by
  simp only [readRectangle, bind_eq_ok] at h
  obtain ⟨_, _, -, _, _, -, _, _, -, _, _, -, t, _, -, _, _, -, _, _, hb, h⟩ := h
  cases he : encMap c.encs t with
  | none => rw [he] at h; cases h
  | some e =>
  rw [he] at h
  obtain ⟨d, _, hd, h⟩ := bind_eq_ok.mp h
  cases h
  exact ⟨t, e, _, he, (checkBounds_eq_ok hb).2, orFail_eq_ok.mp hd⟩

theorem readRectangle_spec {c : ClientConn} {i : Nat} {s s' : Bytes} {r : Rectangle}
    (h : readRectangle c i s = .ok (r, s')) :
    (0 ≤ r.enc.type → InBox r.x.toNat r.y.toNat r.width.toNat r.height.toNat
      c.frameBufferWidth.toNat c.frameBufferHeight.toNat) ∧ r.enc.PartsInBounds r.toRectHeader := by
  obtain ⟨t, e, _, he, hb, hd⟩ := readRectangle_eq_ok h
  obtain ⟨hty, -, hparts⟩ := Encoding.read_spec hd
  exact ⟨fun h0 => hb (by rwa [hty, encMap_type he] at h0), hparts⟩

/-- The framebuffer size in effect after a rectangle: the size a DesktopSize rectangle
carries, else the size before it. -/
def sizeAfter (size : UInt16 × UInt16) (r : Rectangle) : UInt16 × UInt16 :=
  match r.enc with
  | .desktopSizePseudo width height => (width, height)
  | _ => size

theorem afterRectangle_size (c : ClientConn) (r : Rectangle) :
    ((afterRectangle c r).frameBufferWidth, (afterRectangle c r).frameBufferHeight) =
      sizeAfter (c.frameBufferWidth, c.frameBufferHeight) r := by
  rcases r with ⟨_, enc⟩
  cases enc <;> rfl

/-- The bounds of a decoded update, rectangle by rectangle, each against the framebuffer
size in effect when it was read. -/
def UpdateInBounds : UInt16 × UInt16 → List Rectangle → Prop
  | _, [] => True
  | size, r :: rs =>
    (0 ≤ r.enc.type → InBox r.x.toNat r.y.toNat r.width.toNat r.height.toNat size.1.toNat
      size.2.toNat) ∧ r.enc.PartsInBounds r.toRectHeader ∧ UpdateInBounds (sizeAfter size r) rs

theorem readRectangles_inBounds :
    ∀ (n i : Nat) (c : ClientConn) (s s' : Bytes) (rects : List Rectangle),
      (readRectangles n i c s).2 = .ok (rects, s') →
        UpdateInBounds (c.frameBufferWidth, c.frameBufferHeight) rects
  | 0, _, _, _, _, _, h => by cases h; trivial
  | n + 1, i, c, s, s', rects, h => by
    simp only [readRectangles] at h
    split at h
    · cases h
    rename_i rect s₁ hr
    obtain ⟨rects', hrs, rfl⟩ := SessionRead.map_eq_ok.mp h
    have ih := readRectangles_inBounds n (i + 1) _ _ _ _ hrs
    rw [afterRectangle_size] at ih
    exact ⟨(readRectangle_spec hr).1, (readRectangle_spec hr).2, ih⟩

theorem FramebufferUpdateMessage.read_eq_ok {c : ClientConn} {s s' : Bytes} {msg : ServerMessage}
    (h : (FramebufferUpdateMessage.read c s).2 = .ok (msg, s')) :
    ∃ n s₁ rects, msg = .framebufferUpdate rects ∧ (readRectangles n 0 c s₁).2 = .ok (rects, s') := by
  unfold FramebufferUpdateMessage.read at h
  split at h
  · cases h
  obtain ⟨rects, hrs, rfl⟩ := SessionRead.map_eq_ok.mp h
  exact ⟨_, _, rects, rfl, hrs⟩

theorem FramebufferUpdateMessage.read_inBounds {c : ClientConn} {s s' : Bytes} {msg : ServerMessage}
    (h : (FramebufferUpdateMessage.read c s).2 = .ok (msg, s')) :
    ∃ rects, msg = .framebufferUpdate rects ∧
      UpdateInBounds (c.frameBufferWidth, c.frameBufferHeight) rects := by
  obtain ⟨n, s₁, rects, rfl, hr⟩ := FramebufferUpdateMessage.read_eq_ok h
  exact ⟨rects, rfl, readRectangles_inBounds n 0 c s₁ s' rects hr⟩

/-- An 8×8 session that asked for RRE. -/
def rreSession : ClientConn :=
  { frameBufferWidth := 8, frameBufferHeight := 8, pixelFormat := bgr233, encs := [.rre {} []] }

/-- An update of one 4×3 RRE rectangle at (1, 2) with one 2×2 sub-rectangle at (1, 1). -/
def rreUpdate : Bytes :=
  [0, 0, 1, 0, 1, 0, 2, 0, 4, 0, 3, 0, 0, 0, 2, 0, 0, 0, 1, 0xFF, 0x1C, 0, 1, 0, 1, 0, 2, 0, 2]

theorem FramebufferUpdateMessage.read_inBounds_rre :
    let msg := ServerMessage.framebufferUpdate
      [⟨⟨1, 2, 4, 3⟩, .rre ⟨7, 7, 3⟩ [⟨⟨0, 7, 0⟩, 1, 1, 2, 2⟩]⟩]
    (FramebufferUpdateMessage.read rreSession rreUpdate).2 = .ok (msg, []) ∧
      ∃ rects, msg = .framebufferUpdate rects ∧ UpdateInBounds (8, 8) rects :=
  have h : (FramebufferUpdateMessage.read rreSession rreUpdate).2 = .ok (.framebufferUpdate
      [⟨⟨1, 2, 4, 3⟩, .rre ⟨7, 7, 3⟩ [⟨⟨0, 7, 0⟩, 1, 1, 2, 2⟩]⟩], []) := rfl
  ⟨h, FramebufferUpdateMessage.read_inBounds h⟩

end GoVnc
