import GoVnc.ServerMessages

/-!
What `SetColorMapEntriesMessage.Read` does to the session's colour map. After the header
(a padding byte, the first index and the count, checked by `ValidateColorMapEntries`) the
read takes one RGB triple at a time and stores each in `ColorMap[FirstColor+i]` as soon as
it is read. A read that returns has replaced exactly the entries `[first, first+n)`; a
stream that ends inside the colours leaves the entries of the triples read before it
replaced, and the read fails.

* `readColorEntries_spec`: the colour loop from any entry, on any stream.
* `SetColorMapEntriesMessage.read_colorMap`: the colour map after a read, whether it returns
  or fails.
* `SetColorMapEntriesMessage.read_truncated`: a message cut after its first colour fails and
  leaves that colour in entry 0.
-/

namespace GoVnc

open Decoder InputValidator

/-- The six bytes of a colour on the wire: red, green, blue, each big-endian. -/
def Color.wire (col : Color) : Bytes := be16 col.r ++ be16 col.g ++ be16 col.b

/-- `M` with the entries from index `first` on replaced by `colors`, in order. -/
def ColorMap.replace (M : ColorMap) (first : Nat) (colors : List Color) : ColorMap := fun j =>
  if first ≤ j.val ∧ j.val < first + colors.length then colors.getD (j.val - first) {} else M j

@[simp] theorem ColorMap.replace_nil (M : ColorMap) (first : Nat) : M.replace first [] = M := by
  funext j
  simp only [ColorMap.replace, List.length_nil, Nat.add_zero]
  rw [if_neg (by omega)]

theorem ColorMap.replace_cons (M : ColorMap) {first : Nat} (h : first < 256) (col : Color)
    (colors : List Color) :
    ColorMap.replace (Function.update M ⟨first, h⟩ col) (first + 1) colors =
      M.replace first (col :: colors) := by
  funext j
  simp only [ColorMap.replace, List.length_cons]
  by_cases hj : j.val = first
  · obtain rfl : j = ⟨first, h⟩ := Fin.ext hj
    rw [if_neg (by simp), if_pos (by simp), Function.update_same, Nat.sub_self, List.getD_cons_zero]
  · rw [Function.update_noteq fun he => hj (congrArg Fin.val he)]
    split_ifs with h1 h2 h2
    · rw [show j.val - first = j.val - (first + 1) + 1 by omega, List.getD_cons_succ]
    · omega
    · omega
    · rfl

/-- One RGB triple of the colour loop. -/
private theorem readRGB_eq_ok {e : VNCError} {s s' : Bytes} {col : Color}
    (h : (do
        let r ← readU16.orFail e
        let g ← readU16.orFail e
        let b ← readU16.orFail e
        pure (Color.mk r g b) : Decoder Color) s = .ok (col, s')) : s = col.wire ++ s' := by
  simp only [bind_eq_ok, orFail_eq_ok] at h
  obtain ⟨r, _, hr, g, _, hg, b, _, hb, h⟩ := h
  cases h
  rw [readU16_eq_ok hr, readU16_eq_ok hg, readU16_eq_ok hb]
  simp [Color.wire]

/-- A triple is read when the stream holds six bytes; otherwise the loop's error. -/
private theorem readRGB_cases (e : VNCError) : ∀ s : Bytes,
    (∃ col s', s = col.wire ++ s' ∧ (do
        let r ← readU16.orFail e
        let g ← readU16.orFail e
        let b ← readU16.orFail e
        pure (Color.mk r g b) : Decoder Color) s = .ok (col, s')) ∨
    (s.length < 6 ∧ (do
        let r ← readU16.orFail e
        let g ← readU16.orFail e
        let b ← readU16.orFail e
        pure (Color.mk r g b) : Decoder Color) s = .error (.err e))
  | _ :: _ :: _ :: _ :: _ :: _ :: _ => .inl ⟨_, _, @readRGB_eq_ok e _ _ _ rfl, rfl⟩
  | [] | [_] | [_, _] | [_, _, _] | [_, _, _, _] | [_, _, _, _, _] => .inr ⟨by simp, rfl⟩

/-- The colour loop from entry `i`, on any stream: it reads whole triples while the stream
has them, and stores each, in order, as it is read; it returns after `n` of them, or fails
on a stream that ends inside a triple, with the triples read so far stored. -/
theorem readColorEntries_spec (first : UInt16) : ∀ (n i : Nat) (c : ClientConn) (s : Bytes),
    first.toNat + i + n ≤ 256 →
    ∃ colors tail, s = colors.flatMap Color.wire ++ tail ∧
      (readColorEntries first n i c s).1 =
        { c with colorMap := c.colorMap.replace (first.toNat + i) colors } ∧
      ((readColorEntries first n i c s).2 = .ok (colors, tail) ∧ colors.length = n ∨
        (readColorEntries first n i c s).2 =
            .error (.err (networkError "SetColorMapEntriesMessage.Read" "failed to read color data")) ∧
          colors.length < n ∧ tail.length < 6)
  | 0, i, c, s, _ => ⟨[], s, rfl, by simp [readColorEntries], .inl ⟨rfl, rfl⟩⟩
  | n + 1, i, c, s, h => by
    have hidx : (first + UInt16.ofNat i).toNat = first.toNat + i := by
      rw [toNat_uint16_add, toNat_uint16_ofNat]; omega
    rcases readRGB_cases (networkError "SetColorMapEntriesMessage.Read" "failed to read color data")
      s with ⟨col, s', hs, hr⟩ | ⟨hlen, hr⟩
    · have hstep : readColorEntries first (n + 1) i c s =
          (readColorEntries first n (i + 1)
            { c with colorMap := Function.update c.colorMap ⟨first.toNat + i, by omega⟩ col } s').map
            (col :: ·) := by
        simp only [readColorEntries, hr, hidx, dif_pos (show first.toNat + i < 256 by omega)]
      obtain ⟨colors, tail, hs', hc, hres⟩ := readColorEntries_spec first n (i + 1)
        { c with colorMap := Function.update c.colorMap ⟨first.toNat + i, by omega⟩ col } s' (by omega)
      refine ⟨col :: colors, tail, by rw [hs, hs']; simp, ?_, ?_⟩
      · rw [hstep, SessionRead.map_fst, hc]
        exact congrArg (fun M => { c with colorMap := M })
          (ColorMap.replace_cons c.colorMap (show first.toNat + i < 256 by omega) col colors)
      · rw [hstep]
        rcases hres with ⟨hok, hn⟩ | ⟨herr, hn, ht⟩
        · exact .inl ⟨SessionRead.map_snd_ok hok, by simp [hn]⟩
        · exact .inr ⟨SessionRead.map_snd_error herr, by simp; omega, ht⟩
    · have hstep : readColorEntries first (n + 1) i c s =
          (c, .error (.err (networkError "SetColorMapEntriesMessage.Read" "failed to read color data"))) := by
        simp only [readColorEntries, hr]
      exact ⟨[], s, rfl, by rw [hstep]; simp, .inr ⟨by rw [hstep], by simp, hlen⟩⟩

theorem SetColorMapEntriesMessage.readHeader_eq_ok {s s' : Bytes} {first numColors : UInt16}
    (h : SetColorMapEntriesMessage.readHeader s = .ok ((first, numColors), s')) :
    ∃ pad, s = pad :: (be16 first ++ be16 numColors ++ s') ∧ 0 < numColors.toNat ∧
      first.toNat + numColors.toNat ≤ 256 := by
  simp only [SetColorMapEntriesMessage.readHeader, bind_eq_ok, orFail_eq_ok] at h
  obtain ⟨padding, _, hpad, _, _, hf, _, _, hn, _, _, hchk, h⟩ := h
  cases h
  obtain ⟨hv, rfl⟩ := check_eq_ok.mp hchk
  obtain ⟨hp, rfl⟩ := readFull_eq_ok hpad
  obtain ⟨pad, rfl⟩ := List.length_eq_one.mp hp
  refine ⟨pad, by rw [readU16_eq_ok hf, readU16_eq_ok hn]; simp, ?_⟩
  exact (validateColorMapEntries_ok_iff _ _ _).mp hv

/-- What a `SetColorMapEntries` read leaves in the colour map. A read that returns the
message `(first, colors)` consumed the header and the `n ≥ 1` colours, `5 + 6n` bytes, and
replaced exactly the entries `[first, first+n)` by `colors`. A read that fails left the
session alone when the header failed, and otherwise stored the whole triples the stream held
before it ended inside one: the colour map is replaced on `[first, first+j)` for those `j`
colours. -/
theorem SetColorMapEntriesMessage.read_colorMap (c : ClientConn) (s : Bytes) :
    (∀ m s', (SetColorMapEntriesMessage.read c s).2 = .ok (m, s') →
      ∃ pad first colors, m = .setColorMapEntries first colors ∧ 0 < colors.length ∧
        first.toNat + colors.length ≤ 256 ∧
        s = pad :: (be16 first ++ be16 (UInt16.ofNat colors.length) ++
          colors.flatMap Color.wire ++ s') ∧
        (SetColorMapEntriesMessage.read c s).1 =
          { c with colorMap := c.colorMap.replace first.toNat colors }) ∧
    (∀ f, (SetColorMapEntriesMessage.read c s).2 = .error f →
      (SetColorMapEntriesMessage.read c s).1 = c ∨
      ∃ pad first numColors colors tail,
        s = pad :: (be16 first ++ be16 numColors ++ colors.flatMap Color.wire ++ tail) ∧
        first.toNat + numColors.toNat ≤ 256 ∧ colors.length < numColors.toNat ∧
        tail.length < 6 ∧
        (SetColorMapEntriesMessage.read c s).1 =
          { c with colorMap := c.colorMap.replace first.toNat colors }) := by
  unfold SetColorMapEntriesMessage.read
  split
  · exact ⟨(fun _ _ h => nomatch h), fun _ _ => .inl rfl⟩
  rename_i first numColors s₁ hh
  obtain ⟨pad, hs, hpos, hle⟩ := SetColorMapEntriesMessage.readHeader_eq_ok hh
  obtain ⟨colors, tail, hs₁, hc, hres⟩ := readColorEntries_spec first numColors.toNat 0 c s₁
    (by omega)
  rw [SessionRead.map_fst, hc]
  rcases hres with ⟨hok, hn⟩ | ⟨herr, hn, ht⟩
  · rw [SessionRead.map_snd_ok hok]
    refine ⟨fun m s' h => ?_, fun _ h => nomatch h⟩
    cases h
    have hofNat : UInt16.ofNat colors.length = numColors := by
      apply UInt16.ext; rw [toNat_uint16_ofNat, hn]; exact Nat.mod_eq_of_lt numColors.toNat_lt
    exact ⟨pad, first, colors, rfl, by omega, by omega, by rw [hs, hs₁, hofNat]; simp, rfl⟩
  · rw [SessionRead.map_snd_error herr]
    exact ⟨(fun _ _ h => nomatch h), fun _ _ =>
      .inr ⟨pad, first, numColors, colors, tail, by rw [hs, hs₁]; simp, hle, hn, ht, rfl⟩⟩

/-- Two colours announced, one sent, then the stream ends: the read fails, and entry 0 holds
the colour that arrived. -/
theorem SetColorMapEntriesMessage.read_truncated :
    (SetColorMapEntriesMessage.read {} [0, 0, 0, 0, 2, 0xFF, 0xFF, 0, 0, 0, 0]).2 =
        .error (.err (networkError "SetColorMapEntriesMessage.Read" "failed to read color data")) ∧
      (SetColorMapEntriesMessage.read {} [0, 0, 0, 0, 2, 0xFF, 0xFF, 0, 0, 0, 0]).1.colorMap 0 =
        ⟨0xFFFF, 0, 0⟩ ∧
      ({} : ClientConn).colorMap 0 = ⟨0, 0, 0⟩ :=
  ⟨rfl, rfl, rfl⟩

end GoVnc
