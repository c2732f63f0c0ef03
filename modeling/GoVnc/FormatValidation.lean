import Mathlib.Data.Nat.Size
import GoVnc.Validator

/-!
`PixelFormat.Validate` and its error type, beside `InputValidator.ValidatePixelFormat`, and the
invariant the specification gives a pixel format. The two validators count the bits of a
colour maximum differently: `InputValidator.countBits` clears the lowest set bit until none is
left (a popcount), `countBits` of `pixel_format.go` shifts right until the value is 0 (the bits
needed to write it). `Validate` refuses only all three maxima being 0, and compares shifts with
`BPP - 1` by `>`; `ValidatePixelFormat` refuses any zero maximum, and compares by `>=`.

* `InputValidator.countBits_toUInt32`: the popcount loop counts the ones of a `uint16`.
* `countBits_toNat`: `countBits` is `Nat.size`.
* `PixelFormat.validate_invariant`: what `Validate` accepts; `ValidatePixelFormat` accepts only
  formats that keep the invariant, and all that keep it with no shift at `BPP - 1`.
* `PixelFormat.validate_disagrees`: `Validate` passes a format that breaks the invariant and
  refuses one that keeps it.
-/

namespace GoVnc

/-! ## Counting bits -/

/-- The number of ones among the low `w` bits of `n`. -/
def onesBelow : Nat → Nat → Nat
  | 0, _ => 0
  | w + 1, n => n % 2 + onesBelow w (n / 2)

theorem onesBelow_zero : ∀ w, onesBelow w 0 = 0
  | 0 => rfl
  | w + 1 => by rw [onesBelow, onesBelow_zero w]

theorem onesBelow_le : ∀ w n, onesBelow w n ≤ w
  | 0, _ => Nat.le_refl 0
  | w + 1, n => by
    have := onesBelow_le w (n / 2)
    have := Nat.mod_lt n (by decide : 0 < 2)
    rw [onesBelow]
    omega

theorem onesBelow_of_lt : ∀ w k x, x < 2 ^ w → onesBelow (w + k) x = onesBelow w x
  | 0, k, x, h => by
    rw [Nat.pow_zero, Nat.lt_one_iff] at h
    rw [h, onesBelow_zero, onesBelow_zero]
  | w + 1, k, x, h => by
    rw [Nat.add_right_comm, onesBelow, onesBelow,
      onesBelow_of_lt w k (x / 2) (by rw [Nat.pow_succ] at h; omega)]

/-- `x &&& (x - 1)` clears the lowest one of `x`. -/
theorem onesBelow_and_pred : ∀ w x, 0 < x → x < 2 ^ w →
    onesBelow w (x &&& (x - 1)) + 1 = onesBelow w x
  | 0, x, h0, hw => by rw [Nat.pow_zero] at hw; omega
  | w + 1, x, h0, hw => by
    have hmod : (x &&& (x - 1)) % 2 = 0 := by
      rcases Nat.mod_two_eq_zero_or_one (x &&& (x - 1)) with h | h
      · exact h
      · have := Nat.and_mod_two_eq_one.mp h; omega
    rw [onesBelow, onesBelow, Nat.and_div_two, hmod]
    rcases Nat.mod_two_eq_zero_or_one x with h | h
    · rw [show (x - 1) / 2 = x / 2 - 1 by omega, h,
        ← onesBelow_and_pred w (x / 2) (by omega) (by rw [Nat.pow_succ] at hw; omega)]
      omega
    · rw [show (x - 1) / 2 = x / 2 by omega, Nat.and_self, h]
      omega

/-- The number of ones in a `uint16`: what the specification calls its popcount. -/
def popcount (v : UInt16) : Nat := onesBelow 16 v.toNat

theorem InputValidator.countBitsLoop_eq : ∀ (n : Nat) (v : UInt32), onesBelow 32 v.toNat ≤ n →
    InputValidator.countBitsLoop n v = onesBelow 32 v.toNat
  | 0, v, h => by rw [InputValidator.countBitsLoop]; omega
  | n + 1, v, h => by
    rw [InputValidator.countBitsLoop]
    split_ifs with hv
    · rw [hv, UInt32.toNat_zero, onesBelow_zero]
    · have hpos : 0 < v.toNat := Nat.pos_of_ne_zero fun h => hv (UInt32.ext h)
      have hand : (v &&& (v - 1)).toNat = v.toNat &&& (v.toNat - 1) := by
        rw [UInt32.and_toNat, UInt32.toNat_sub_of_le _ _ hpos]
        rfl
      have key := onesBelow_and_pred 32 v.toNat hpos v.toNat_lt
      rw [InputValidator.countBitsLoop_eq n _ (by rw [hand]; omega), hand]
      exact key

/-- `InputValidator.countBits` of a widened `uint16` is its popcount. -/
theorem InputValidator.countBits_toUInt32 (v : UInt16) :
    InputValidator.countBits v.toUInt32 = popcount v := by
  have hv : v.toUInt32.toNat = v.toNat := rfl
  rw [InputValidator.countBits, InputValidator.countBitsLoop_eq 32 _ (onesBelow_le _ _), hv, popcount,
    ← onesBelow_of_lt 16 16 _ v.toNat_lt]

/-- The loop of `countBits`: `maxVal >>= 1; bits++` while `maxVal > 0`, at most sixteen
times on a `uint16`. -/
def countBitsLoop : Nat → UInt16 → UInt8
  | 0, _ => 0
  | n + 1, maxVal => if maxVal > 0 then countBitsLoop n (maxVal >>> 1) + 1 else 0

/-- `countBits` of `pixel_format.go`, counted in `uint8`. -/
def countBits (maxVal : UInt16) : UInt8 := if maxVal = 0 then 0 else countBitsLoop 16 maxVal

theorem size_eq_size_div_two {v : Nat} (h : 0 < v) : v.size = (v / 2).size + 1 := by
  conv_lhs => rw [← Nat.bit_decomp v]
  rw [Nat.size_bit (by rw [Nat.bit_decomp]; omega), Nat.div2_val]

theorem uint16_shiftRight_one (v : UInt16) : (v >>> 1).toNat = v.toNat / 2 := by
  have h1 : (UInt16.mod 1 16).toBitVec.toNat = 1 := rfl
  show (v.toBitVec >>> (UInt16.mod 1 16).toBitVec.toNat).toNat = _
  rw [h1, BitVec.toNat_ushiftRight, Nat.shiftRight_eq_div_pow, Nat.pow_one]
  rfl

theorem countBitsLoop_toNat : ∀ (n : Nat) (v : UInt16), v.toNat < 2 ^ n →
    (countBitsLoop n v).toNat = v.toNat.size
  | 0, v, h => by
    rw [Nat.pow_zero, Nat.lt_one_iff] at h
    rw [countBitsLoop, h, Nat.size_zero]; rfl
  | n + 1, v, h => by
    rw [countBitsLoop]
    split_ifs with hv
    · have hv' : 0 < v.toNat := hv
      have ih := countBitsLoop_toNat n (v >>> 1) (by rw [uint16_shiftRight_one, Nat.pow_succ] at *; omega)
      have hs : (v.toNat / 2).size ≤ 16 := Nat.size_le.mpr (by have := v.toNat_lt; omega)
      rw [uint16_shiftRight_one] at ih
      rw [UInt8.toNat_add, ih, size_eq_size_div_two hv']
      show ((v.toNat / 2).size + 1) % 256 = _
      omega
    · have hv' : v.toNat = 0 := by have : ¬ 0 < v.toNat := hv; omega
      rw [hv', Nat.size_zero]; rfl

/-- `countBits` is the number of bits needed to write the value. -/
theorem countBits_toNat (maxVal : UInt16) : (countBits maxVal).toNat = maxVal.toNat.size := by
  unfold countBits
  split_ifs with h
  · rw [h, UInt16.toNat_zero, Nat.size_zero]; rfl
  · exact countBitsLoop_toNat 16 maxVal maxVal.toNat_lt


/-! ## `PixelFormat.Validate` -/

/-- `PixelFormatValidationError`: the field that failed, its value as `%v` prints it, the rule
and the message. -/
structure PixelFormatValidationError where
  field : String
  value : String
  rule : String
  message : String
  deriving DecidableEq, Repr

/-- The check `Validate` makes of one shift: at most `maxShift`. -/
def checkShift (field name : String) (shift maxShift bpp : UInt8) :
    Except PixelFormatValidationError Unit :=
  if shift > maxShift then
    .error { field, value := s!"{shift}",
             rule := s!"{field} cannot exceed {maxShift} for {bpp}-bit pixels",
             message := s!"{name} shift ({shift}) exceeds maximum for {bpp}-bit pixels" }
  else .ok ()

/-- `PixelFormat.Validate`. -/
def PixelFormat.validate (pf : PixelFormat) : Except PixelFormatValidationError Unit :=
  let bpp := pf.bpp
  let depth := pf.depth
  if pf.bpp = 0 then
    .error { field := "BPP", value := s!"{bpp}", rule := "BPP must be greater than 0",
             message := "bits per pixel cannot be zero" }
  else if pf.bpp ≠ 8 ∧ pf.bpp ≠ 16 ∧ pf.bpp ≠ 32 then
    .error { field := "BPP", value := s!"{bpp}", rule := "BPP must be 8, 16, or 32",
             message := "bits per pixel must be 8, 16, or 32" }
  else if pf.depth = 0 then
    .error { field := "Depth", value := s!"{depth}", rule := "Depth must be greater than 0",
             message := "color depth cannot be zero" }
  else if pf.depth > pf.bpp then
    .error { field := "Depth", value := s!"{depth}", rule := "Depth cannot exceed BPP",
             message := s!"color depth ({depth}) cannot exceed bits per pixel ({bpp})" }
  else if pf.trueColor then
    let redMax := pf.redMax
    let greenMax := pf.greenMax
    let blueMax := pf.blueMax
    if pf.redMax = 0 ∧ pf.greenMax = 0 ∧ pf.blueMax = 0 then
      .error { field := "ColorMax", value := s!"R:{redMax} G:{greenMax} B:{blueMax}",
               rule := "At least one color component must have non-zero maximum in TrueColor mode",
               message := "all color maximums cannot be zero in true color mode" }
    else do
      let maxShift := pf.bpp - 1
      checkShift "RedShift" "red" pf.redShift maxShift pf.bpp
      checkShift "GreenShift" "green" pf.greenShift maxShift pf.bpp
      checkShift "BlueShift" "blue" pf.blueShift maxShift pf.bpp
      let redBits := countBits pf.redMax
      let greenBits := countBits pf.greenMax
      let blueBits := countBits pf.blueMax
      let total := redBits + greenBits + blueBits
      if total > pf.depth then
        .error { field := "ColorBits", value := s!"R:{redBits} G:{greenBits} B:{blueBits} (total:{total})",
                 rule := s!"Total color bits cannot exceed depth ({depth})",
                 message := s!"total color component bits ({total}) exceed color depth ({depth})" }
      else .ok ()
  else .ok ()

/-- The data-model invariant of a pixel format, in the specification's words: BPP 8, 16 or 32,
depth from 1 to BPP, and with true colour non-zero maxima, shifts below BPP and at most
`depth` ones across the three maxima. -/
def PixelFormat.Invariant (pf : PixelFormat) : Prop :=
  (pf.bpp = 8 ∨ pf.bpp = 16 ∨ pf.bpp = 32) ∧ 1 ≤ pf.depth.toNat ∧ pf.depth.toNat ≤ pf.bpp.toNat ∧
  (pf.trueColor = true → pf.redMax ≠ 0 ∧ pf.greenMax ≠ 0 ∧ pf.blueMax ≠ 0 ∧
    pf.redShift.toNat < pf.bpp.toNat ∧ pf.greenShift.toNat < pf.bpp.toNat ∧
    pf.blueShift.toNat < pf.bpp.toNat ∧
    popcount pf.redMax + popcount pf.greenMax + popcount pf.blueMax ≤ pf.depth.toNat)

instance instDecidableInvariant (pf : PixelFormat) : Decidable pf.Invariant := inferInstanceAs (Decidable (_ ∧ _))

theorem checkShift_eq_ok {field name : String} {shift maxShift bpp : UInt8} :
    checkShift field name shift maxShift bpp = .ok () ↔ shift.toNat ≤ maxShift.toNat := by
  unfold checkShift
  split_ifs with h <;> simp only [uint8_lt_iff] at h <;> simp <;> omega

theorem except_bind_eq_ok {ε : Type} {x : Except ε Unit} {f : Unit → Except ε Unit} :
    x >>= f = .ok () ↔ x = .ok () ∧ f () = .ok () := by
  cases x <;> simp [bind, Except.bind]

theorem ite_error_eq_ok {ε : Type} {c : Prop} [Decidable c] {e : ε} :
    (if c then .error e else .ok ()) = (.ok () : Except ε Unit) ↔ ¬c := by
  split_ifs with h <;> simp [h]

/-- `PixelFormat.Validate` passes exactly on BPP 8, 16 or 32, depth from 1 to BPP, and with true
colour some non-zero maximum, shifts below BPP and at most `Depth` bits needed across the
maxima. -/
theorem PixelFormat.validate_eq_ok (pf : PixelFormat) :
    pf.validate = .ok () ↔
      (pf.bpp = 8 ∨ pf.bpp = 16 ∨ pf.bpp = 32) ∧ 1 ≤ pf.depth.toNat ∧ pf.depth.toNat ≤ pf.bpp.toNat ∧
      (pf.trueColor = true → (pf.redMax ≠ 0 ∨ pf.greenMax ≠ 0 ∨ pf.blueMax ≠ 0) ∧
        pf.redShift.toNat < pf.bpp.toNat ∧ pf.greenShift.toNat < pf.bpp.toNat ∧
        pf.blueShift.toNat < pf.bpp.toNat ∧
        pf.redMax.toNat.size + pf.greenMax.toNat.size + pf.blueMax.toNat.size ≤ pf.depth.toNat) := by
  unfold PixelFormat.validate
  dsimp only
  by_cases hbpp : pf.bpp = 8 ∨ pf.bpp = 16 ∨ pf.bpp = 32
  swap
  · refine iff_of_false ?_ fun h => hbpp h.1
    by_cases h0 : pf.bpp = 0
    · rw [if_pos h0]; exact nofun
    · rw [if_neg h0, if_pos (by simpa only [not_or] using hbpp)]; exact nofun
  have hb : 8 ≤ pf.bpp.toNat ∧ pf.bpp.toNat ≤ 32 := by
    rcases hbpp with h | h | h <;> rw [h] <;> decide
  rw [if_neg fun h => by rw [h] at hb; exact absurd hb.1 (by decide),
    if_neg fun h => by rcases hbpp with h' | h' | h' <;> simp [h'] at h]
  have hd0 : pf.depth = 0 ↔ pf.depth.toNat = 0 := UInt8.ext_iff
  by_cases hd : 1 ≤ pf.depth.toNat ∧ pf.depth.toNat ≤ pf.bpp.toNat
  swap
  · refine iff_of_false ?_ fun h => hd ⟨h.2.1, h.2.2.1⟩
    by_cases hz : pf.depth.toNat = 0
    · rw [if_pos (hd0.mpr hz)]; exact nofun
    · rw [if_neg (mt hd0.mp hz), if_pos (by rw [gt_iff_lt, uint8_lt_iff]; omega)]; exact nofun
  rw [if_neg (by rw [hd0]; omega), if_neg (by rw [gt_iff_lt, uint8_lt_iff]; omega)]
  by_cases htc : pf.trueColor = true
  swap
  · rw [if_neg htc]
    exact iff_of_true rfl ⟨hbpp, hd.1, hd.2, fun h => absurd h htc⟩
  rw [if_pos htc]
  by_cases hz : pf.redMax = 0 ∧ pf.greenMax = 0 ∧ pf.blueMax = 0
  · rw [if_pos hz]
    refine iff_of_false nofun fun h => ?_
    obtain ⟨hr, hg, hb⟩ := hz
    rcases (h.2.2.2 htc).1 with h' | h' | h' <;> contradiction
  rw [if_neg hz]
  have hm : (pf.bpp - 1).toNat = pf.bpp.toNat - 1 := UInt8.toNat_sub_of_le _ _ (by
    rw [uint8_le_iff]; exact Nat.le_trans (by decide) hb.1)
  have hr : pf.redMax.toNat.size ≤ 16 := Nat.size_le.mpr pf.redMax.toNat_lt
  have hg : pf.greenMax.toNat.size ≤ 16 := Nat.size_le.mpr pf.greenMax.toNat_lt
  have hb' : pf.blueMax.toNat.size ≤ 16 := Nat.size_le.mpr pf.blueMax.toNat_lt
  have htotal : (countBits pf.redMax + countBits pf.greenMax + countBits pf.blueMax).toNat =
      pf.redMax.toNat.size + pf.greenMax.toNat.size + pf.blueMax.toNat.size := by
    have hs : UInt8.size = 256 := rfl
    rw [UInt8.toNat_add, UInt8.toNat_add, countBits_toNat, countBits_toNat, countBits_toNat, hs]
    omega
  simp only [except_bind_eq_ok, checkShift_eq_ok, ite_error_eq_ok, gt_iff_lt, uint8_lt_iff, htotal,
    hm, not_and_or, ne_eq] at hz ⊢
  simp only [hz, hbpp, hd, true_and, forall_const, htc]
  omega

example : bgr233.validate = .ok () := by decide

/-! ## The two validators and the invariant -/

/-- `InputValidator.ValidatePixelFormat` passes exactly on BPP 8, 16 or 32, depth from 1 to BPP,
and with true colour non-zero maxima, shifts below `BPP - 1` and at most `Depth` ones across
the maxima. -/
theorem InputValidator.validatePixelFormat_eq_ok (pf : PixelFormat) :
    InputValidator.validatePixelFormat (some pf) = .ok () ↔
      (pf.bpp = 8 ∨ pf.bpp = 16 ∨ pf.bpp = 32) ∧ 1 ≤ pf.depth.toNat ∧ pf.depth.toNat ≤ pf.bpp.toNat ∧
      (pf.trueColor = true → pf.redMax ≠ 0 ∧ pf.greenMax ≠ 0 ∧ pf.blueMax ≠ 0 ∧
        pf.redShift.toNat + 1 < pf.bpp.toNat ∧ pf.greenShift.toNat + 1 < pf.bpp.toNat ∧
        pf.blueShift.toNat + 1 < pf.bpp.toNat ∧
        popcount pf.redMax + popcount pf.greenMax + popcount pf.blueMax ≤ pf.depth.toNat) := by
  unfold InputValidator.validatePixelFormat
  dsimp only
  by_cases hbpp : pf.bpp = 8 ∨ pf.bpp = 16 ∨ pf.bpp = 32
  swap
  · rw [if_pos hbpp]
    exact iff_of_false nofun fun h => hbpp h.1
  rw [if_neg (not_not_intro hbpp)]
  have hb : 8 ≤ pf.bpp.toNat ∧ pf.bpp.toNat ≤ 32 := by
    rcases hbpp with h | h | h <;> rw [h] <;> decide
  have hd0 : pf.depth = 0 ↔ pf.depth.toNat = 0 := UInt8.ext_iff
  by_cases hd : 1 ≤ pf.depth.toNat ∧ pf.depth.toNat ≤ pf.bpp.toNat
  swap
  · rw [if_pos (by rw [hd0, gt_iff_lt, uint8_lt_iff]; omega)]
    exact iff_of_false nofun fun h => hd ⟨h.2.1, h.2.2.1⟩
  rw [if_neg (by rw [hd0, gt_iff_lt, uint8_lt_iff]; omega)]
  by_cases htc : pf.trueColor = true
  swap
  · rw [if_neg htc]
    exact iff_of_true rfl ⟨hbpp, hd.1, hd.2, fun h => absurd h htc⟩
  rw [if_pos htc]
  have hm : (pf.bpp - 1).toNat = pf.bpp.toNat - 1 := UInt8.toNat_sub_of_le _ _ (by
    rw [uint8_le_iff]; exact Nat.le_trans (by decide) hb.1)
  simp only [InputValidator.countBits_toUInt32, ge_iff_le, uint8_le_iff, gt_iff_lt, hm]
  split_ifs with hz hs hc
  · refine iff_of_false nofun fun h => ?_
    obtain ⟨hr, hg, hbl, -⟩ := h.2.2.2 htc
    rcases hz with hz | hz | hz <;> contradiction
  · refine iff_of_false nofun fun h => ?_
    have := (h.2.2.2 htc).2.2.2
    omega
  · refine iff_of_false nofun fun h => ?_
    have := (h.2.2.2 htc).2.2.2
    omega
  · simp only [not_or] at hz hs hc
    exact iff_of_true rfl ⟨hbpp, hd.1, hd.2, fun _ => ⟨hz.1, hz.2.1, hz.2.2, by omega⟩⟩

/-- The two validators against the data-model invariant. `PixelFormat.Validate` passes exactly
on BPP 8, 16 or 32, depth from 1 to BPP, and with true colour some non-zero maximum, shifts
below BPP and at most `Depth` bits needed to write the three maxima. What
`InputValidator.ValidatePixelFormat` passes keeps the invariant, and it passes every format
that keeps the invariant with no shift equal to `BPP - 1`. -/
theorem PixelFormat.validate_invariant (pf : PixelFormat) :
    (pf.validate = .ok () ↔
      (pf.bpp = 8 ∨ pf.bpp = 16 ∨ pf.bpp = 32) ∧ 1 ≤ pf.depth.toNat ∧ pf.depth.toNat ≤ pf.bpp.toNat ∧
      (pf.trueColor = true → (pf.redMax ≠ 0 ∨ pf.greenMax ≠ 0 ∨ pf.blueMax ≠ 0) ∧
        pf.redShift.toNat < pf.bpp.toNat ∧ pf.greenShift.toNat < pf.bpp.toNat ∧
        pf.blueShift.toNat < pf.bpp.toNat ∧
        pf.redMax.toNat.size + pf.greenMax.toNat.size + pf.blueMax.toNat.size ≤ pf.depth.toNat)) ∧
    (InputValidator.validatePixelFormat (some pf) = .ok () → pf.Invariant) ∧
    (pf.Invariant →
      (pf.trueColor = true → pf.redShift.toNat ≠ pf.bpp.toNat - 1 ∧
        pf.greenShift.toNat ≠ pf.bpp.toNat - 1 ∧ pf.blueShift.toNat ≠ pf.bpp.toNat - 1) →
      InputValidator.validatePixelFormat (some pf) = .ok ()) := by
  refine ⟨PixelFormat.validate_eq_ok pf, fun h => ?_, fun ⟨hb, hd1, hd2, hinv⟩ hs => ?_⟩
  · obtain ⟨hb, hd1, hd2, htc⟩ := (InputValidator.validatePixelFormat_eq_ok pf).mp h
    refine ⟨hb, hd1, hd2, fun h => ?_⟩
    obtain ⟨hr, hg, hbl, hrs, hgs, hbs, hc⟩ := htc h
    exact ⟨hr, hg, hbl, by omega, by omega, by omega, hc⟩
  · refine (InputValidator.validatePixelFormat_eq_ok pf).mpr ⟨hb, hd1, hd2, fun h => ?_⟩
    obtain ⟨hr, hg, hbl, hrs, hgs, hbs, hc⟩ := hinv h
    obtain ⟨hrs', hgs', hbs'⟩ := hs h
    exact ⟨hr, hg, hbl, by omega, by omega, by omega, hc⟩

/-- A 32-bit true-colour format whose red maximum is 0. -/
def zeroRedMax : PixelFormat :=
  { bpp := 32, depth := 24, trueColor := true, greenMax := 255, blueMax := 255,
    redShift := 16, greenShift := 8 }

/-- A 16-bit true-colour format whose maxima are 256: one bit set, nine bits needed. -/
def wideMaxima : PixelFormat :=
  { bpp := 16, depth := 16, trueColor := true, redMax := 256, greenMax := 256, blueMax := 256 }

/-- `zeroRedMax` passes `Validate` and breaks the invariant, which `ValidatePixelFormat`
enforces; `wideMaxima` keeps the invariant and passes `ValidatePixelFormat`, but `Validate`
counts nine bits for each maximum. -/
theorem PixelFormat.validate_disagrees :
    zeroRedMax.validate = .ok () ∧ ¬zeroRedMax.Invariant ∧
      InputValidator.validatePixelFormat (some zeroRedMax) ≠ .ok () ∧
      wideMaxima.Invariant ∧ InputValidator.validatePixelFormat (some wideMaxima) = .ok () ∧
      wideMaxima.validate ≠ .ok () := by
  decide

end GoVnc
