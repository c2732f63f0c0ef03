import GoVnc.ColorMapUpdate

/-!
The `ColorMap` type of `color.go`: the 256 colours of an indexed palette behind a read-write
mutex. Every method holds the lock for its whole body, so each is one step on the array,
which is the `ColorMap` of this model (`[ColorMapSize]Color`); a method that writes returns
the array after it. An array index that the checks do not keep below 256 would panic.

* `ColorMap.setRange_spec` and `ColorMap.getRange_spec`: `SetRange` writes the slice over the
  entries from the start index on, and `GetRange` reads `count` entries from there, exactly
  when the start is at most 255 and the range ends by entry 256; otherwise both return a
  `ColorMapValidationError` at the start index and `SetRange` leaves the map as it was.
  Neither loop panics.
* `ColorMap.setRange_getRange_spec`: when `SetRange` returns `nil`, the entries it writes and
  keeps, `GetRange` of the written range, when `GetRange` succeeds, and that `Copy`,
  `ToArray` and `FromArray` keep every entry.
* `ColorMap.setRange_singleton`: `Set` is `SetRange` of one colour.
* `newColorMap_get`: the grey `uint16(i * 257)` of `NewColorMap` never wraps.
-/

namespace GoVnc

/-! ## The methods -/

/-- `ColorMapValidationError`. Its `Value` is an `interface{}` that holds the start index or
the length of the range, a number in every use. -/
structure ColorMapValidationError where
  index : UInt16
  value : Nat
  rule : String
  message : String
  deriving DecidableEq, Repr

/-- `ColorMapValidationError.Error`. -/
def ColorMapValidationError.error (e : ColorMapValidationError) : String :=
  let index := e.index
  let message := e.message
  let value := e.value
  s!"color map validation failed at index {index}: {message} (value: {value})"

/-- `NewColorMap`: entry `i` is the grey `uint16(i * 257)` in all three components. -/
def newColorMap : ColorMap := fun i =>
  let value := UInt16.ofNat (i.val * 257)
  { r := value, g := value, b := value }

/-- `ColorMap.Get`. -/
def ColorMap.get (cm : ColorMap) (index : UInt8) : Color := cm ⟨index.toNat, index.toNat_lt⟩

/-- `ColorMap.Set`. -/
def ColorMap.set (cm : ColorMap) (index : UInt8) (color : Color) : ColorMap :=
  Function.update cm ⟨index.toNat, index.toNat_lt⟩ color

/-- `cm.colors[index] = color` at a `uint16` index. -/
def ColorMap.store (cm : ColorMap) (index : UInt16) (color : Color) : Except Panic ColorMap :=
  if h : index.toNat < 256 then .ok (Function.update cm ⟨index.toNat, h⟩ color)
  else .error (.indexOutOfRange index.toNat 256)

/-- `cm.colors[index]` at a `uint16` index. -/
def ColorMap.load (cm : ColorMap) (index : UInt16) : Except Panic Color :=
  if h : index.toNat < 256 then .ok (cm ⟨index.toNat, h⟩)
  else .error (.indexOutOfRange index.toNat 256)

/-- The loop of `SetRange`: colour `i` of the slice goes to entry `startIndex + uint16(i)`. -/
def ColorMap.setRangeLoop (startIndex : UInt16) : Nat → List Color → ColorMap → Except Panic ColorMap
  | _, [], cm => .ok cm
  | i, color :: colors, cm => do
    let cm ← cm.store (startIndex + UInt16.ofNat i) color
    ColorMap.setRangeLoop startIndex (i + 1) colors cm

/-- `ColorMap.SetRange`: the map after the call and the `error` it returns. -/
def ColorMap.setRange (cm : ColorMap) (startIndex : UInt16) (colors : List Color) :
    Except Panic (ColorMap × Option ColorMapValidationError) :=
  if startIndex.toNat > 255 then
    .ok (cm, some { index := startIndex, value := startIndex.toNat,
                    rule := "Color map index must be 0-255",
                    message := "start index exceeds color map bounds" })
  else if startIndex.toNat + colors.length > 256 then
    let last : Int := (startIndex.toNat + colors.length : Int) - 1
    .ok (cm, some { index := startIndex, value := colors.length,
                    rule := "Color range must not exceed color map bounds",
                    message := s!"color range [{startIndex}:{last}] exceeds color map bounds" })
  else (fun cm => (cm, none)) <$> ColorMap.setRangeLoop startIndex 0 colors cm

/-- The loop of `GetRange`: `n` entries from `startIndex + i` on, in order. -/
def ColorMap.getRangeLoop (cm : ColorMap) (startIndex : UInt16) : Nat → Nat → Except Panic (List Color)
  | 0, _ => .ok []
  | n + 1, i => do
    let color ← cm.load (startIndex + UInt16.ofNat i)
    let colors ← cm.getRangeLoop startIndex n (i + 1)
    pure (color :: colors)

/-- `ColorMap.GetRange`. -/
def ColorMap.getRange (cm : ColorMap) (startIndex count : UInt16) :
    Except Panic (Except ColorMapValidationError (List Color)) :=
  if startIndex.toNat > 255 then
    .ok (.error { index := startIndex, value := startIndex.toNat,
                  rule := "Color map index must be 0-255",
                  message := "start index exceeds color map bounds" })
  else if startIndex.toNat + count.toNat > 256 then
    let last : Int := (startIndex.toNat + count.toNat : Int) - 1
    .ok (.error { index := startIndex, value := count.toNat,
                  rule := "Color range must not exceed color map bounds",
                  message := s!"color range [{startIndex}:{last}] exceeds color map bounds" })
  else .ok <$> cm.getRangeLoop startIndex count.toNat 0

/-- `ColorMap.Copy`: a new map holding a copy of the array. -/
def ColorMap.copy (cm : ColorMap) : ColorMap := cm

/-- `ColorMap.ToArray`. -/
def ColorMap.toArray (cm : ColorMap) : Fin 256 → Color := cm

/-- The map after `ColorMap.FromArray(colors)`: its array is `colors`, whatever it held. -/
def ColorMap.fromArray (colors : Fin 256 → Color) : ColorMap := colors

/-! ## The loops -/

private theorem rangeIndex_toNat {startIndex : UInt16} {i : Nat} (h : startIndex.toNat + i < 256) :
    (startIndex + UInt16.ofNat i).toNat = startIndex.toNat + i := by
  rw [toNat_uint16_add, toNat_uint16_ofNat]
  omega

theorem ColorMap.store_eq (cm : ColorMap) {index : UInt16} {k : Nat} (he : index.toNat = k)
    (hk : k < 256) (color : Color) :
    cm.store index color = .ok (Function.update cm ⟨k, hk⟩ color) := by
  subst he
  exact dif_pos hk

theorem ColorMap.load_eq (cm : ColorMap) {index : UInt16} {k : Nat} (he : index.toNat = k)
    (hk : k < 256) : cm.load index = .ok (cm.get (UInt8.ofNat k)) := by
  subst he
  rw [ColorMap.load, dif_pos hk, ColorMap.get]
  congr
  rw [toNat_uint8_ofNat, Nat.mod_eq_of_lt hk]

/-- Entry `j` of a map with a range replaced. -/
theorem ColorMap.get_replace (cm : ColorMap) (first : Nat) (colors : List Color) (j : UInt8) :
    (cm.replace first colors).get j =
      if first ≤ j.toNat ∧ j.toNat < first + colors.length then colors.getD (j.toNat - first) {}
      else cm.get j := rfl

/-- A `SetRange` loop whose range ends by entry 256 replaces that range and does not panic. -/
theorem ColorMap.setRangeLoop_eq (startIndex : UInt16) :
    ∀ (colors : List Color) (i : Nat) (cm : ColorMap), startIndex.toNat + i + colors.length ≤ 256 →
      ColorMap.setRangeLoop startIndex i colors cm = .ok (cm.replace (startIndex.toNat + i) colors)
  | [], _, cm, _ => by rw [ColorMap.replace_nil]; rfl
  | color :: colors, i, cm, h => by
    have hlt : startIndex.toNat + i < 256 := by simp only [List.length_cons] at h; omega
    calc ColorMap.setRangeLoop startIndex i (color :: colors) cm
        = ColorMap.setRangeLoop startIndex (i + 1) colors (Function.update cm ⟨_, hlt⟩ color) := by
          rw [ColorMap.setRangeLoop, ColorMap.store_eq cm (rangeIndex_toNat hlt) hlt]; rfl
      _ = .ok (ColorMap.replace (Function.update cm ⟨_, hlt⟩ color) (startIndex.toNat + i + 1) colors) :=
          ColorMap.setRangeLoop_eq startIndex colors (i + 1) _ (by simp only [List.length_cons] at h; omega)
      _ = .ok (cm.replace (startIndex.toNat + i) (color :: colors)) := by rw [ColorMap.replace_cons]

/-- A `GetRange` loop whose range ends by entry 256 reads that range and does not panic. -/
theorem ColorMap.getRangeLoop_eq (cm : ColorMap) (startIndex : UInt16) :
    ∀ (n i : Nat), startIndex.toNat + i + n ≤ 256 →
      cm.getRangeLoop startIndex n i =
        .ok ((List.range n).map fun k => cm.get (UInt8.ofNat (startIndex.toNat + i + k)))
  | 0, _, _ => rfl
  | n + 1, i, h => by
    rw [ColorMap.getRangeLoop, ColorMap.load_eq cm (rangeIndex_toNat (by omega)) (by omega),
      ColorMap.getRangeLoop_eq cm startIndex n (i + 1) (by omega), List.range_succ_eq_map,
      List.map_cons, List.map_map]
    simp only [Nat.add_zero, Function.comp_def, Nat.add_succ, Nat.succ_add]
    rfl

/-! ## SetRange and GetRange -/

/-- `SetRange` in range replaces the entries from the start index on by the slice. -/
theorem ColorMap.setRange_spec (cm : ColorMap) {startIndex : UInt16} {colors : List Color}
    (h : startIndex.toNat ≤ 255 ∧ startIndex.toNat + colors.length ≤ 256) :
    cm.setRange startIndex colors = .ok (cm.replace startIndex.toNat colors, none) := by
  rw [ColorMap.setRange, if_neg (by omega), if_neg (by omega),
    ColorMap.setRangeLoop_eq startIndex colors 0 cm (by omega)]
  rfl

/-- `SetRange` out of range returns an error at the start index and leaves the map alone. -/
theorem ColorMap.setRange_refused (cm : ColorMap) {startIndex : UInt16} {colors : List Color}
    (h : ¬(startIndex.toNat ≤ 255 ∧ startIndex.toNat + colors.length ≤ 256)) :
    ∃ e, cm.setRange startIndex colors = .ok (cm, some e) ∧ e.index = startIndex := by
  unfold ColorMap.setRange
  split_ifs with h1 h2
  · exact ⟨_, rfl, rfl⟩
  · exact ⟨_, rfl, rfl⟩
  · omega

/-- `GetRange` in range reads `count` entries from the start index on. -/
theorem ColorMap.getRange_spec (cm : ColorMap) {startIndex count : UInt16}
    (h : startIndex.toNat ≤ 255 ∧ startIndex.toNat + count.toNat ≤ 256) :
    cm.getRange startIndex count =
      .ok (.ok ((List.range count.toNat).map fun k => cm.get (UInt8.ofNat (startIndex.toNat + k)))) := by
  rw [ColorMap.getRange, if_neg (by omega), if_neg (by omega),
    ColorMap.getRangeLoop_eq cm startIndex count.toNat 0 (by omega)]
  rfl

/-- `GetRange` out of range returns an error at the start index. -/
theorem ColorMap.getRange_refused (cm : ColorMap) {startIndex count : UInt16}
    (h : ¬(startIndex.toNat ≤ 255 ∧ startIndex.toNat + count.toNat ≤ 256)) :
    ∃ e, cm.getRange startIndex count = .ok (.error e) ∧ e.index = startIndex := by
  unfold ColorMap.getRange
  split_ifs with h1 h2
  · exact ⟨_, rfl, rfl⟩
  · exact ⟨_, rfl, rfl⟩
  · omega

/-- Entry `first + i` of a replaced range is colour `i` of the slice. -/
theorem ColorMap.get_replace_of_lt (cm : ColorMap) {first i : Nat} {colors : List Color}
    (h : first + colors.length ≤ 256) (hi : i < colors.length) :
    (cm.replace first colors).get (UInt8.ofNat (first + i)) = colors[i] := by
  rw [ColorMap.get_replace, toNat_uint8_ofNat, Nat.mod_eq_of_lt (by omega), if_pos (by omega),
    Nat.add_sub_cancel_left, List.getD_eq_getElem?_getD, List.getElem?_eq_getElem hi,
    Option.getD_some]

/-- `GetRange` over a replaced range reads the slice back. -/
theorem ColorMap.getRange_replace (cm : ColorMap) {first : Nat} {colors : List Color}
    (h : first + colors.length ≤ 256) :
    (List.range colors.length).map (fun k => (cm.replace first colors).get (UInt8.ofNat (first + k))) =
      colors :=
  List.ext_getElem (by simp) fun k _ hk => by
    rw [List.getElem_map, List.getElem_range, ColorMap.get_replace_of_lt cm h hk]

/-- `Set` is `SetRange` of one colour at the same index. -/
theorem ColorMap.setRange_singleton (cm : ColorMap) (index : UInt8) (color : Color) :
    cm.setRange index.toUInt16 [color] = .ok (cm.set index color, none) := by
  have hi : index.toUInt16.toNat = index.toNat := rfl
  have hlt := index.toNat_lt
  rw [ColorMap.setRange_spec cm (by rw [hi, List.length_singleton]; omega), hi]
  congr
  funext j
  simp only [ColorMap.replace, ColorMap.set, List.length_singleton]
  by_cases hj : j = ⟨index.toNat, hlt⟩
  · subst hj
    rw [if_pos ⟨Nat.le_refl _, Nat.lt_succ_self _⟩, Function.update_same, Nat.sub_self,
      List.getD_cons_zero]
  · rw [Function.update_noteq hj, if_neg fun h => hj (Fin.ext (by simp only; omega))]

/-- `NewColorMap`'s grey `uint16(i * 257)` never wraps: entry `i` has `i * 257` in each
component, from 0 for black to 65535 for white. -/
theorem newColorMap_get (i : UInt8) :
    (newColorMap.get i).r.toNat = i.toNat * 257 ∧ (newColorMap.get i).g.toNat = i.toNat * 257 ∧
      (newColorMap.get i).b.toNat = i.toNat * 257 := by
  have h : (UInt16.ofNat (i.toNat * 257)).toNat = i.toNat * 257 := by
    rw [toNat_uint16_ofNat]; have := i.toNat_lt; omega
  exact ⟨h, h, h⟩

/-! ## The range laws -/

/-- For every map, start index and slice: `SetRange` returns, without a panic, `nil` exactly
when the start is at most 255 and the range ends by entry 256; then `Get(s + i)` is the
slice's colour `i`, every other entry is the old one, and `GetRange(s, len)` returns the
slice; on an error the map is unchanged. `GetRange(s, n)` succeeds exactly when the start is
at most 255 and `s + n ≤ 256`. `Copy`, `ToArray` and `FromArray` keep all 256 entries. -/
theorem ColorMap.setRange_getRange_spec :
    (∀ (cm : ColorMap) (startIndex : UInt16) (colors : List Color),
      ∃ (cm' : ColorMap) (err : Option ColorMapValidationError),
        cm.setRange startIndex colors = .ok (cm', err) ∧
        (err = none ↔ startIndex.toNat ≤ 255 ∧ startIndex.toNat + colors.length ≤ 256) ∧
        (err = none →
          (∀ (i : Nat) (hi : i < colors.length),
            cm'.get (UInt8.ofNat (startIndex.toNat + i)) = colors[i]) ∧
          (∀ j : UInt8, j.toNat < startIndex.toNat ∨ startIndex.toNat + colors.length ≤ j.toNat →
            cm'.get j = cm.get j) ∧
          cm'.getRange startIndex (UInt16.ofNat colors.length) = .ok (.ok colors)) ∧
        (err ≠ none → cm' = cm)) ∧
    (∀ (cm : ColorMap) (startIndex count : UInt16),
      ∃ r, cm.getRange startIndex count = .ok r ∧
        ((∃ colors, r = .ok colors) ↔
          startIndex.toNat ≤ 255 ∧ startIndex.toNat + count.toNat ≤ 256)) ∧
    (∀ (cm : ColorMap) (colors : Fin 256 → Color),
      ColorMap.copy cm = cm ∧ ColorMap.toArray cm = cm ∧ ColorMap.fromArray colors = colors) := by
  refine ⟨fun cm startIndex colors => ?_, fun cm startIndex count => ?_,
    fun _ _ => ⟨rfl, rfl, rfl⟩⟩
  · by_cases h : startIndex.toNat ≤ 255 ∧ startIndex.toNat + colors.length ≤ 256
    · have hlen : (UInt16.ofNat colors.length).toNat = colors.length := by
        rw [toNat_uint16_ofNat]; omega
      refine ⟨_, none, ColorMap.setRange_spec cm h, iff_of_true rfl h,
        fun _ => ⟨fun i hi => ?_, fun j hj => ?_, ?_⟩, fun h' => absurd rfl h'⟩
      · exact ColorMap.get_replace_of_lt cm h.2 hi
      · rw [ColorMap.get_replace, if_neg (by omega)]
      · rw [ColorMap.getRange_spec _ (by rw [hlen]; exact h), hlen,
          ColorMap.getRange_replace cm h.2]
    · obtain ⟨e, he, -⟩ := ColorMap.setRange_refused cm h
      exact ⟨cm, some e, he, iff_of_false nofun h, nofun, fun _ => rfl⟩
  · by_cases h : startIndex.toNat ≤ 255 ∧ startIndex.toNat + count.toNat ≤ 256
    · exact ⟨_, ColorMap.getRange_spec cm h, iff_of_true ⟨_, rfl⟩ h⟩
    · obtain ⟨e, he, -⟩ := ColorMap.getRange_refused cm h
      exact ⟨_, he, iff_of_false (fun ⟨_, h'⟩ => nomatch h') h⟩

end GoVnc
