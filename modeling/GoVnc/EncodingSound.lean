import GoVnc.EncodingWire
import GoVnc.UpdateBounds

/-!
The converse of `EncodingWire`: an encoding's `Read` that returns took off the stream data of
the encoding it decoded, as the relation describes it. With `EncodingWire.reads` the
relations are exactly what the readers accept.

* `readPixelColor_takes`, `RREEncoding.readSubrect_takes`, `HextileEncoding.readTile_takes`:
  one pixel, sub-rectangle or tile.
* `Encoding.read_takes`: any `Read`, a Hextile one for a rectangle of at most 32768 × 32768.
-/

namespace GoVnc

open Decoder InputValidator

/-! ## Pixels and the plain encodings -/

theorem readPixelColor_takes {pf : PixelFormat} {cm : ColorMap} :
    (readPixelColor pf cm).Takes (PixelWire pf cm) := by
  intro s col s' h
  unfold readPixelColor PixelReader.readPixelColor at h
  split at h
  · rename_i px s₁ hpx
    split at h
    · rename_i hcol
      cases h
      obtain ⟨hlen, rfl⟩ := readFull_eq_ok hpx
      exact ⟨px, rfl, hlen, hcol⟩
    · cases h
  · cases h

theorem RawEncoding.read_takes {c : ClientConn} {rect : RectHeader} {s s' : Bytes} {d : Encoding}
    (h : RawEncoding.read c rect s = .ok (d, s')) : ∃ data, s = data ++ s' ∧ EncodingWire c rect data d := by
  obtain ⟨colors, _, hc, h⟩ := bind_eq_ok.mp h
  cases h
  have hn := replicate_length _ _ _ _ (orFail_eq_ok.mp hc)
  obtain ⟨_, rfl, pixels, rfl, hp⟩ := (Takes.replicate readPixelColor_takes _).orFail _ hc
  exact ⟨_, rfl, .raw hp hn⟩

theorem CopyRectEncoding.read_takes {c : ClientConn} {rect : RectHeader} {s s' : Bytes}
    {d : Encoding} (h : CopyRectEncoding.read s = .ok (d, s')) :
    ∃ data, s = data ++ s' ∧ EncodingWire c rect data d := by
  simp only [CopyRectEncoding.read, bind_eq_ok, orFail_eq_ok] at h
  obtain ⟨srcX, _, hx, srcY, _, hy, h⟩ := h
  split at h
  · cases h
  · rename_i hle
    cases h
    rw [readU16_eq_ok hx, readU16_eq_ok hy, ← List.append_assoc]
    exact ⟨_, rfl, .copyRect (by omega) (by omega)⟩

/-! ## RRE -/

theorem RREEncoding.readSubrect_takes {c : ClientConn} {rect : RectHeader} :
    (RREEncoding.readSubrect c rect).Takes (RRESubrectWire c rect) := by
  intro s sub s' h
  have hbox := RREEncoding.readSubrect_inBox h
  simp only [RREEncoding.readSubrect, bind_eq_ok, orFail_eq_ok] at h
  obtain ⟨_, _, hcol, _, _, hx, _, _, hy, _, _, hw, _, _, hh, _, _, hchk, h⟩ := h
  cases h
  obtain ⟨-, rfl⟩ := check_eq_ok.mp hchk
  obtain ⟨px, rfl, hpx⟩ := readPixelColor_takes hcol
  rw [readU16_eq_ok hx, readU16_eq_ok hy, readU16_eq_ok hw, readU16_eq_ok hh]
  exact ⟨_, by simp only [List.append_assoc], px, hpx, rfl, hbox⟩

theorem RREEncoding.read_takes {c : ClientConn} {rect : RectHeader} {s s' : Bytes} {d : Encoding}
    (h : RREEncoding.read c rect s = .ok (d, s')) : ∃ data, s = data ++ s' ∧ EncodingWire c rect data d := by
  simp only [RREEncoding.read, bind_eq_ok, orFail_eq_ok] at h
  obtain ⟨_, _, hchk, n, _, hn, h⟩ := h
  split at h
  · cases h
  rename_i hle
  simp only [bind_eq_ok, orFail_eq_ok] at h
  obtain ⟨_, _, hbg, subs, _, hsubs, h⟩ := h
  cases h
  have hlen := replicate_length _ _ _ _ hsubs
  obtain ⟨_, rfl, ws, rfl, hs⟩ := Takes.replicate RREEncoding.readSubrect_takes _ hsubs
  obtain ⟨bg, rfl, hpx⟩ := readPixelColor_takes hbg
  obtain rfl := checkInFramebuffer_eq_ok hchk
  rw [readU32_eq_ok hn, ← uint32_ofNat_toNat n, ← hlen]
  exact ⟨_, by simp only [List.append_assoc], .rre hpx hs (by omega)⟩

/-! ## Hextile -/

theorem HextileEncoding.readFlaggedColor_takes {c : ClientConn} {subencoding flag : UInt8}
    {current : Color} (e : VNCError) :
    (HextileEncoding.readFlaggedColor c subencoding flag current e).Takes
      (FlaggedWire c subencoding flag current) := by
  intro s col s' h
  unfold HextileEncoding.readFlaggedColor at h
  unfold FlaggedWire
  split_ifs at h ⊢
  · exact readPixelColor_takes.orFail e h
  · cases h
    exact ⟨[], rfl, rfl, rfl⟩

theorem HextileEncoding.readSubrect_takes {c : ClientConn} {subencoding : UInt8} {fg : Color}
    {tw th : UInt16} :
    (HextileEncoding.readSubrect c subencoding fg tw th).Takes
      (HextileSubrectWire c subencoding fg tw th) := by
  intro s sub s' h
  have hbox := HextileEncoding.readSubrect_inBox h
  simp only [HextileEncoding.readSubrect, bind_eq_ok, orFail_eq_ok] at h
  obtain ⟨_, _, hcol, xy, _, hxy, wh, _, hwh, h⟩ := h
  split at h
  · cases h
  split at h
  · cases h
  cases h
  obtain ⟨px, rfl, hpx⟩ := HextileEncoding.readFlaggedColor_takes _ hcol
  rw [readU8_eq_ok hxy, readU8_eq_ok hwh]
  refine ⟨px ++ [xy, wh], by simp only [List.append_assoc]; rfl, px, hpx, ?_, hbox⟩
  have hhi := uint8_highNibble_toNat wh
  have hlo := uint8_lowNibble_toNat wh
  have := wh.toNat_lt
  rw [uint8_succ_sub_one (by omega), uint8_succ_sub_one (by omega), nibbles_pack, nibbles_pack]

theorem HextileEncoding.readSubrects_takes {c : ClientConn} {subencoding : UInt8} {fg : Color}
    {tw th : UInt16} :
    (HextileEncoding.readSubrects c subencoding fg tw th).Takes
      (HextileSubrectsWire c subencoding fg tw th) := by
  intro s subs s' h
  unfold HextileEncoding.readSubrects at h
  unfold HextileSubrectsWire
  split_ifs at h ⊢
  · obtain ⟨n, _, hn, h⟩ := bind_eq_ok.mp h
    split at h
    · cases h
    have hlen := replicate_length _ _ _ _ h
    obtain ⟨_, rfl, ws, rfl, hs⟩ := Takes.replicate HextileEncoding.readSubrect_takes _ h
    rw [readU8_eq_ok (orFail_eq_ok.mp hn)]
    exact ⟨_, rfl, ws, by rw [hlen, uint8_ofNat_toNat], by omega, hs⟩
  · cases h
    exact ⟨[], rfl, rfl, rfl⟩

theorem HextileEncoding.readTile_takes {c : ClientConn} {rect : RectHeader} {total : Nat}
    {tileX tileY : UInt16} {st st' : HextileState} {s s' : Bytes} {t : HextileTile}
    (htw : (hextileTileSide rect.width tileX).toNat ≤ 16)
    (hth : (hextileTileSide rect.height tileY).toNat ≤ 16)
    (h : HextileEncoding.readTile c rect total tileX tileY st s = .ok ((t, st'), s')) :
    ∃ w, s = w ++ s' ∧ TileWire c rect tileX tileY st w t st' := by
  unfold HextileEncoding.readTile at h
  by_cases hfull : st.tileIndex ≥ total
  · rw [if_pos hfull] at h; cases h
  rw [if_neg hfull] at h
  obtain ⟨subencoding, _, hsub, h⟩ := bind_eq_ok.mp h
  rw [readU8_eq_ok (orFail_eq_ok.mp hsub)]
  by_cases hraw : subencoding &&& 1 ≠ 0
  · rw [if_pos hraw] at h
    obtain ⟨colors, _, hc, h⟩ := bind_eq_ok.mp h
    rw [pure_apply, Except.ok.injEq, Prod.mk.injEq, Prod.mk.injEq] at h
    obtain ⟨⟨rfl, rfl⟩, rfl⟩ := h
    have harea : (hextileTileSide rect.width tileX * hextileTileSide rect.height tileY).toNat =
        (hextileTileSide rect.width tileX).toNat * (hextileTileSide rect.height tileY).toNat := by
      rw [toNat_uint16_mul]
      exact Nat.mod_eq_of_lt (lt_of_le_of_lt (Nat.mul_le_mul htw hth) (by decide))
    have hn := replicate_length _ _ _ _ (orFail_eq_ok.mp hc)
    obtain ⟨_, rfl, pixels, rfl, hp⟩ := (Takes.replicate readPixelColor_takes _).orFail _ hc
    exact ⟨_, rfl, .raw hraw hp (hn.trans harea)⟩
  · rw [if_neg hraw] at h
    obtain ⟨_, _, hbg, h⟩ := bind_eq_ok.mp h
    obtain ⟨_, _, hfg, h⟩ := bind_eq_ok.mp h
    obtain ⟨_, _, hs, h⟩ := bind_eq_ok.mp h
    rw [pure_apply, Except.ok.injEq, Prod.mk.injEq, Prod.mk.injEq] at h
    obtain ⟨⟨rfl, rfl⟩, rfl⟩ := h
    obtain ⟨_, rfl, hbgw⟩ := HextileEncoding.readFlaggedColor_takes _ hbg
    obtain ⟨_, rfl, hfgw⟩ := HextileEncoding.readFlaggedColor_takes _ hfg
    obtain ⟨_, rfl, hsw⟩ := HextileEncoding.readSubrects_takes hs
    exact ⟨_, by simp only [List.cons_append, List.append_assoc],
      .coded (not_not.mp hraw) hbgw hfgw hsw⟩

theorem HextileEncoding.readTiles_takes {c : ClientConn} {rect : RectHeader} {total : Nat} :
    ∀ {ps : List (UInt16 × UInt16)} {st : HextileState} {s s' : Bytes} {ts : List HextileTile},
      (∀ p ∈ ps, (hextileTileSide rect.width p.1).toNat ≤ 16 ∧
        (hextileTileSide rect.height p.2).toNat ≤ 16) →
      HextileEncoding.readTiles c rect total ps st s = .ok (ts, s') →
      ∃ w, s = w ++ s' ∧ TilesWire c rect ps st w ts
  | [], _, _, _, _, _, h => by cases h; exact ⟨[], rfl, .nil _⟩
  | (tileX, tileY) :: ps, st, s, s', ts, hsides, h => by
    simp only [HextileEncoding.readTiles, bind_eq_ok] at h
    obtain ⟨⟨t, st'⟩, _, ht, tiles, _, hts, h⟩ := h
    cases h
    have hp := hsides _ (List.mem_cons_self _ _)
    obtain ⟨w, rfl, hw⟩ := HextileEncoding.readTile_takes hp.1 hp.2 ht
    obtain ⟨ws, rfl, hws⟩ :=
      HextileEncoding.readTiles_takes (fun p hp => hsides p (List.mem_cons_of_mem _ hp)) hts
    exact ⟨w ++ ws, (List.append_assoc _ _ _).symm, .cons hw hws⟩

theorem HextileEncoding.read_takes {c : ClientConn} {rect : RectHeader} {s s' : Bytes}
    {d : Encoding} (hw : rect.width.toNat ≤ 32768) (hh : rect.height.toNat ≤ 32768)
    (h : HextileEncoding.read c rect s = .ok (d, s')) :
    ∃ data, s = data ++ s' ∧ EncodingWire c rect data d := by
  simp only [HextileEncoding.read, bind_eq_ok] at h
  obtain ⟨_, _, hchk, h⟩ := h
  split at h
  · cases h
  obtain ⟨tiles, _, hts, h⟩ := bind_eq_ok.mp h
  cases h
  obtain rfl := checkInFramebuffer_eq_ok hchk
  have hroom := (HextileEncoding.readTiles_eq_ok _ _ _ _ _ hts).1
  rw [tilePositions_length, tilesAcross_toNat hw, tilesAcross_toNat hh, toNat_uint16_mul,
    tilesAcross_toNat hw, tilesAcross_toNat hh] at hroom
  obtain ⟨w, rfl, ht⟩ := HextileEncoding.readTiles_takes (tilePositions_sides hw hh) hts
  exact ⟨w, rfl, .hextile hw hh (by simp only at hroom; omega) ht⟩

/-! ## Pseudo-encodings and any encoding -/

theorem CursorPseudoEncoding.read_takes {c : ClientConn} {rect : RectHeader} {s s' : Bytes}
    {d : Encoding} (h : CursorPseudoEncoding.read c rect s = .ok (d, s')) :
    ∃ data, s = data ++ s' ∧ EncodingWire c rect data d := by
  unfold CursorPseudoEncoding.read at h
  split_ifs at h with h0 h1
  · cases h
    have hw0 : rect.width.toNat = 0 := by rw [h0.1]; rfl
    have hh0 : rect.height.toNat = 0 := by rw [h0.2]; rfl
    exact ⟨[] ++ [], by rw [List.nil_append, List.nil_append], .cursor (by omega) (by omega) (by simp [hw0]) (by simp [hh0])⟩
  · cases h
  · simp only [bind_eq_ok, orFail_eq_ok] at h
    obtain ⟨_, _, hp, _, _, hm, h⟩ := h
    cases h
    obtain ⟨hplen, rfl⟩ := readFull_eq_ok hp
    obtain ⟨hmlen, rfl⟩ := readFull_eq_ok hm
    rw [cursorMaskRow_toNat (by omega)] at hmlen
    exact ⟨_, (List.append_assoc _ _ _).symm, .cursor (by omega) (by omega) hplen hmlen⟩

theorem DesktopSizePseudoEncoding.read_takes {c : ClientConn} {rect : RectHeader} {s s' : Bytes}
    {d : Encoding} (h : DesktopSizePseudoEncoding.read rect s = .ok (d, s')) :
    ∃ data, s = data ++ s' ∧ EncodingWire c rect data d := by
  unfold DesktopSizePseudoEncoding.read at h
  split_ifs at h with h0 h1 h2
  · cases h
  · cases h
  · cases h
  · cases h
    have hw : rect.width.toNat ≠ 0 := fun hz => h0 (.inl (UInt16.toNat.inj hz))
    have hh : rect.height.toNat ≠ 0 := fun hz => h0 (.inr (UInt16.toNat.inj hz))
    exact ⟨[], rfl, .desktopSize (by omega) (by omega) (by omega) (by omega) (by omega)⟩

/-- An encoding implemented outside the package took what its own `Read` took. -/
theorem ForeignRead.decode_takes {typeBits : UInt32} {impl : ForeignRead} {c : ClientConn}
    {rect : RectHeader} {s s' : Bytes} {d : Encoding}
    (h : ForeignRead.decode typeBits impl c rect s = .ok (d, s')) :
    ∃ data, s = data ++ s' ∧ EncodingWire c rect data d := by
  obtain ⟨_, _, hr, h⟩ := bind_eq_ok.mp h
  cases h
  obtain ⟨w, rfl, hw⟩ := impl.takes_prefix _ _ _ _ _ hr
  exact ⟨w, rfl, .other hw⟩

/-- Any `Read` that returns took the data of the encoding it decoded, when a rectangle of
non-negative type is at most 32768 × 32768. -/
theorem Encoding.read_takes {e d : Encoding} {c : ClientConn} {rect : RectHeader} {s s' : Bytes}
    (hsides : 0 ≤ e.type → rect.width.toNat ≤ 32768 ∧ rect.height.toNat ≤ 32768)
    (h : e.read c rect s = .ok (d, s')) : ∃ data, s = data ++ s' ∧ EncodingWire c rect data d := by
  cases e
  · exact RawEncoding.read_takes h
  · exact CopyRectEncoding.read_takes h
  · exact RREEncoding.read_takes h
  · have hwh := hsides (by decide : (0 : Int) ≤ 5)
    exact HextileEncoding.read_takes hwh.1 hwh.2 h
  · exact CursorPseudoEncoding.read_takes h
  · exact DesktopSizePseudoEncoding.read_takes h
  · exact ForeignRead.decode_takes h

end GoVnc
