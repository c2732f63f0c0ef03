import Mathlib.Data.List.Forall2
import GoVnc.Encodings

/-!
The tile grid of `HextileEncoding.Read`. The read takes `⌈w/16⌉` columns and `⌈h/16⌉`
rows of 16 × 16 tiles, visits them row by row, each row left to right, and stores tile
`k` at `tiles[k]` of a slice of `int(tilesX * tilesY)` tiles. That product is taken in
`uint16`: from 65536 tiles on it wraps, the slice is too short for the grid, and the
100000-tile cap compares the wrapped count, which is never above 65535.

* `HextileEncoding.readTiles_eq_ok`: a tile loop that returns stored one tile per position,
  all within the slice, each of the size its position gives.
* `HextileEncoding.read_tileCount_wraps`: for every rectangle of at most 32768 × 32768, a
  read that returns has fewer than 65536 tiles, in raster order, the tile in column `i` and
  row `j` of width `min 16 (w - 16 i)` and height `min 16 (h - 16 j)`; when the tile count
  is a non-zero multiple of 65536 the first tile indexes an empty slice.
-/

namespace GoVnc

open Decoder

/-! ## One tile -/

theorem HextileEncoding.readTile_full {c : ClientConn} {rect : RectHeader} {total : Nat}
    {tileX tileY : UInt16} {st : HextileState} (h : total ≤ st.tileIndex) (s : Bytes) :
    HextileEncoding.readTile c rect total tileX tileY st s =
      .error (.panic (.indexOutOfRange st.tileIndex total)) := by
  unfold HextileEncoding.readTile
  rw [if_pos h]
  rfl

/-! ## The tile loop -/

/-- A tile loop that returns read one tile per position, each stored inside the slice, each
of the size of its position. -/
theorem HextileEncoding.readTiles_eq_ok {c : ClientConn} {rect : RectHeader} {total : Nat} :
    ∀ (ps : List (UInt16 × UInt16)) (st : HextileState) (s s' : Bytes) (tiles : List HextileTile),
      HextileEncoding.readTiles c rect total ps st s = .ok (tiles, s') →
        ps.length ≤ total - st.tileIndex ∧
        List.Forall₂ (fun t p =>
          t.width = (if p.1 * 16 + 16 > rect.width then rect.width - p.1 * 16 else 16) ∧
          t.height = (if p.2 * 16 + 16 > rect.height then rect.height - p.2 * 16 else 16))
          tiles ps
  | [], _, _, _, _, h => by cases h; exact ⟨by simp, .nil⟩
  | (tileX, tileY) :: ps, st, s, s', tiles, h => by
    simp only [HextileEncoding.readTiles, bind_eq_ok] at h
    obtain ⟨⟨t, st'⟩, _, ht, tiles', _, hts, h⟩ := h
    cases h
    obtain ⟨hlt, hnext, hw, hh, -⟩ := HextileEncoding.readTile_eq_ok ht
    obtain ⟨hle, hrest⟩ := HextileEncoding.readTiles_eq_ok ps st' _ _ _ hts
    exact ⟨by simp only [List.length_cons]; omega, .cons ⟨hw, hh⟩ hrest⟩

/-- `tilePositions` is the raster order of the grid, row by row, each row left to right. -/
theorem tilePositions_eq (tilesX tilesY : UInt16) :
    tilePositions tilesX tilesY =
      ((List.range tilesY.toNat).flatMap fun j => (List.range tilesX.toNat).map fun i => (i, j)).map
        fun p => (UInt16.ofNat p.1, UInt16.ofNat p.2) := by
  simp only [tilePositions, List.map_flatMap, List.map_map]
  rfl

theorem tilePositions_length (tilesX tilesY : UInt16) :
    (tilePositions tilesX tilesY).length = tilesX.toNat * tilesY.toNat := by
  suffices h : ∀ l : List Nat, (l.flatMap fun tileY => (List.range tilesX.toNat).map
      fun tileX => (UInt16.ofNat tileX, UInt16.ofNat tileY)).length = tilesX.toNat * l.length by
    rw [tilePositions, h, List.length_range]
  intro l
  induction l with
  | nil => rfl
  | cons j l ih =>
    rw [List.flatMap_cons, List.length_append, ih, List.length_map, List.length_range,
      List.length_cons, Nat.mul_succ, Nat.add_comm]

/-! ## Grid arithmetic -/

/-- `(side + 16 - 1) / 16` does not wrap for a side of at most 32768. -/
theorem tilesAcross_toNat {side : UInt16} (h : side.toNat ≤ 32768) :
    ((side + 16 - 1) / 16).toNat = (side.toNat + 15) / 16 := by
  have h1 : (1 : UInt16).toNat = 1 := rfl
  have h16 : (16 : UInt16).toNat = 16 := rfl
  rw [UInt16.toNat_div, toNat_uint16_sub, toNat_uint16_add, h1, h16]
  omega

/-- The side of the tile at index `i` along a side of at most 32768. -/
theorem tileSide_toNat {side : UInt16} {i : Nat} (hs : side.toNat ≤ 32768)
    (hi : i < (side.toNat + 15) / 16) :
    (if UInt16.ofNat i * 16 + 16 > side then side - UInt16.ofNat i * 16 else 16 : UInt16).toNat =
      min 16 (side.toNat - 16 * i) := by
  have h16 : (16 : UInt16).toNat = 16 := rfl
  have hm : (UInt16.ofNat i * 16).toNat = 16 * i := by
    rw [toNat_uint16_mul, toNat_uint16_ofNat, h16]
    omega
  split_ifs with h
  · have h' := uint16_lt_iff.mp h
    rw [toNat_uint16_add, hm, h16] at h'
    rw [toNat_uint16_sub, hm]
    omega
  · have h' := mt uint16_lt_iff.mpr h
    rw [toNat_uint16_add, hm, h16] at h'
    rw [h16]
    omega

/-! ## The read -/

/-- For a rectangle of at most 32768 × 32768: a read that returns has fewer than 65536 tiles,
in raster order, each of the size its column and row give; and when the tile count is a
non-zero multiple of 65536, the slice is empty and the first tile panics. So no rectangle of
more than 100000 tiles meets the cap: each fails in the tile loop. -/
theorem HextileEncoding.read_tileCount_wraps {c : ClientConn} {rect : RectHeader}
    (hw : rect.width.toNat ≤ 32768) (hh : rect.height.toNat ≤ 32768) (s : Bytes) :
    (∀ d s', HextileEncoding.read c rect s = .ok (d, s') →
      (rect.width.toNat + 15) / 16 * ((rect.height.toNat + 15) / 16) < 65536 ∧
      ∃ tiles, d = .hextile tiles ∧
        List.Forall₂ (fun (t : HextileTile) (p : Nat × Nat) =>
            t.width.toNat = min 16 (rect.width.toNat - 16 * p.1) ∧
            t.height.toNat = min 16 (rect.height.toNat - 16 * p.2)) tiles
          ((List.range ((rect.height.toNat + 15) / 16)).flatMap fun j =>
            (List.range ((rect.width.toNat + 15) / 16)).map fun i => (i, j))) ∧
    (0 < (rect.width.toNat + 15) / 16 * ((rect.height.toNat + 15) / 16) →
      (rect.width.toNat + 15) / 16 * ((rect.height.toNat + 15) / 16) % 65536 = 0 →
      checkInFramebuffer c rect "HextileEncoding.Read" s = .ok ((), s) →
      HextileEncoding.read c rect s = .error (.panic (.indexOutOfRange 0 0))) := by
  have hx := tilesAcross_toNat hw
  have hy := tilesAcross_toNat hh
  have hlen := tilePositions_length ((rect.width + 16 - 1) / 16) ((rect.height + 16 - 1) / 16)
  rw [hx, hy] at hlen
  have htotal : ((rect.width + 16 - 1) / 16 * ((rect.height + 16 - 1) / 16)).toNat =
      (rect.width.toNat + 15) / 16 * ((rect.height.toNat + 15) / 16) % 65536 := by
    rw [toNat_uint16_mul, hx, hy]
  refine ⟨fun d s' h => ?_, fun hpos hwrap hchk => ?_⟩
  · simp only [HextileEncoding.read, bind_eq_ok] at h
    obtain ⟨_, _, -, h⟩ := h
    split at h
    · cases h
    obtain ⟨tiles, _, hts, h⟩ := bind_eq_ok.mp h
    cases h
    obtain ⟨hle, hf⟩ := HextileEncoding.readTiles_eq_ok _ _ _ _ _ hts
    rw [hlen, htotal] at hle
    rw [tilePositions_eq, hx, hy, List.forall₂_map_right_iff, List.forall₂_iff_zip] at hf
    refine ⟨by simp only at hle; omega, tiles, rfl, List.forall₂_iff_zip.mpr ⟨hf.1, ?_⟩⟩
    intro t p hp
    obtain ⟨hpw, hph⟩ := hf.2 hp
    obtain ⟨i, j⟩ := p
    have hmem := (List.of_mem_zip hp).2
    simp only [List.mem_flatMap, List.mem_map, List.mem_range, Prod.mk.injEq] at hmem
    obtain ⟨j', hj, i', hi, rfl, rfl⟩ := hmem
    rw [hpw, hph]
    exact ⟨tileSide_toNat hw hi, tileSide_toNat hh hj⟩
  · have hps : tilePositions ((rect.width + 16 - 1) / 16) ((rect.height + 16 - 1) / 16) ≠ [] :=
      fun he => by rw [he, List.length_nil] at hlen; omega
    obtain ⟨⟨tileX, tileY⟩, ps, hcons⟩ := List.exists_cons_of_ne_nil hps
    simp only [HextileEncoding.read, bind_apply, hchk, htotal, hwrap]
    rw [if_neg (by omega), bind_apply, hcons]
    simp only [HextileEncoding.readTiles, bind_apply]
    rw [HextileEncoding.readTile_full (Nat.zero_le _)]

/-- A 32768 × 32768 rectangle, 4194304 tiles, on a session of that size: the count wraps to
0, and where the cap should refuse it the read panics at the first tile. -/
theorem HextileEncoding.read_fullScreen_panics :
    HextileEncoding.read { frameBufferWidth := 32768, frameBufferHeight := 32768 }
      ⟨0, 0, 32768, 32768⟩ [] = .error (.panic (.indexOutOfRange 0 0)) :=
  (HextileEncoding.read_tileCount_wraps (by decide) (by decide) []).2 (by decide) (by decide) rfl

end GoVnc
