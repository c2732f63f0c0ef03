import GoVnc.Wire

/-!
The parts of Go's `unicode/utf8` and `unicode` that the validator relies on.
A Go `string` is a byte string; `for i, r := range s` and `[]rune(s)` decode it
with `utf8.DecodeRune`, which turns each byte that does not start a valid
encoding into `RuneError` (U+FFFD) and moves on by one byte; `string(runes)`
encodes runes back.

`unicode.IsDigit` and `unicode.IsPrint` read a property table on Latin-1 and
Unicode range tables above it. The Latin-1 part is written out here; the range
tables above U+00FF are a parameter of the model (`UnicodeTables`), so results
about text hold for every content of those tables.
-/

namespace GoVnc

/-- `utf8.RuneError`. -/
def runeError : Nat := 0xFFFD

/-- The first-byte table of `utf8.DecodeRune`: the length of the encoding a lead byte
starts and the range its second byte must lie in; `none` for an invalid lead byte. -/
def leadRange (c0 : Nat) : Option (Nat × Nat × Nat) :=
  if 0xC2 ≤ c0 ∧ c0 ≤ 0xDF then some (2, 0x80, 0xBF)
  else if c0 = 0xE0 then some (3, 0xA0, 0xBF)
  else if c0 = 0xED then some (3, 0x80, 0x9F)
  else if 0xE1 ≤ c0 ∧ c0 ≤ 0xEF then some (3, 0x80, 0xBF)
  else if c0 = 0xF0 then some (4, 0x90, 0xBF)
  else if 0xF1 ≤ c0 ∧ c0 ≤ 0xF3 then some (4, 0x80, 0xBF)
  else if c0 = 0xF4 then some (4, 0x80, 0x8F)
  else none

/-- A continuation byte, `0x80 ≤ b ≤ 0xBF`. -/
def IsCont (b : UInt8) : Prop := 0x80 ≤ b.toNat ∧ b.toNat ≤ 0xBF

instance (b : UInt8) : Decidable (IsCont b) := inferInstanceAs (Decidable (_ ∧ _))

/-- `utf8.DecodeRune` on a non-empty buffer: the rune, its size and the rest, or `none`
where Go returns `(RuneError, 1)`. -/
def decodeRune? : Bytes → Option (Nat × Nat × Bytes)
  | [] => none
  | b0 :: s =>
    if b0.toNat < 0x80 then some (b0.toNat, 1, s)
    else match leadRange b0.toNat, s with
      | some (2, lo, hi), b1 :: s =>
        if lo ≤ b1.toNat ∧ b1.toNat ≤ hi then
          some (b0.toNat % 32 * 64 + b1.toNat % 64, 2, s)
        else none
      | some (3, lo, hi), b1 :: b2 :: s =>
        if lo ≤ b1.toNat ∧ b1.toNat ≤ hi ∧ IsCont b2 then
          some ((b0.toNat % 16 * 64 + b1.toNat % 64) * 64 + b2.toNat % 64, 3, s)
        else none
      | some (4, lo, hi), b1 :: b2 :: b3 :: s =>
        if lo ≤ b1.toNat ∧ b1.toNat ≤ hi ∧ IsCont b2 ∧ IsCont b3 then
          some (((b0.toNat % 8 * 64 + b1.toNat % 64) * 64 + b2.toNat % 64) * 64 + b3.toNat % 64,
            4, s)
        else none
      | _, _ => none

/-- The runes of `for i, r := range s`, each with its byte offset `i`. Every step consumes
at least one byte, so `s.length` steps reach the end. -/
def decodeRunesFrom : Nat → Nat → Bytes → List (Nat × Nat)
  | 0, _, _ => []
  | _ + 1, _, [] => []
  | n + 1, i, b :: s =>
    match decodeRune? (b :: s) with
    | some (r, size, rest) => (i, r) :: decodeRunesFrom n (i + size) rest
    | none => (i, runeError) :: decodeRunesFrom n (i + 1) s

/-- `for i, r := range s`: offsets and runes. -/
def rangeString (s : Bytes) : List (Nat × Nat) := decodeRunesFrom s.length 0 s

/-- `[]rune(s)`. -/
def runesOf (s : Bytes) : List Nat := (rangeString s).map Prod.snd

/-- A Go string of valid UTF-8 as a Lean string, for the texts of error messages. -/
def textOf (s : Bytes) : String := String.mk ((runesOf s).map Char.ofNat)

theorem decodeRune?_ascii {b : UInt8} (h : b.toNat < 0x80) (s : Bytes) :
    decodeRune? (b :: s) = some (b.toNat, 1, s) :=
  if_pos h

/-- Over ASCII bytes `range` yields one rune per byte, at the byte's offset. -/
theorem decodeRunesFrom_ascii_append :
    ∀ (p s : Bytes) (n i : Nat), (∀ b ∈ p, b.toNat < 0x80) →
      decodeRunesFrom (p.length + n) i (p ++ s) =
        (p.enumFrom i).map (fun (j, b) => (j, b.toNat)) ++ decodeRunesFrom n (i + p.length) s
  | [], _, _, _, _ => by simp
  | b :: p, s, n, i, h => by
    have hb : b.toNat < 0x80 := h b (List.mem_cons_self b p)
    rw [List.length_cons, Nat.add_right_comm, List.cons_append]
    simp only [decodeRunesFrom, decodeRune?_ascii hb, List.enumFrom_cons, List.map_cons,
      List.cons_append, decodeRunesFrom_ascii_append p s n (i + 1) (fun x hx => h x (List.mem_cons_of_mem b hx))]
    simp only [Nat.add_comm 1, Nat.add_assoc, List.length_cons]

theorem rangeString_ascii {p : Bytes} (hp : ∀ d ∈ p, d.toNat < 0x80) :
    rangeString p = (p.enumFrom 0).map fun (j, b) => (j, b.toNat) := by
  have := decodeRunesFrom_ascii_append p [] 0 0 hp
  simpa [decodeRunesFrom, rangeString] using this

/-- `utf8.ValidString`: no step of the decoding meets an invalid encoding. -/
def validStringFrom : Nat → Bytes → Bool
  | 0, _ => true
  | _ + 1, [] => true
  | n + 1, b :: s =>
    match decodeRune? (b :: s) with
    | some (_, _, rest) => validStringFrom n rest
    | none => false

def validString (s : Bytes) : Bool := validStringFrom s.length s

/-- `utf8.EncodeRune` (through `string([]rune)`): surrogates and values past U+10FFFF are
written as `RuneError`. -/
def encodeRune (r : Nat) : Bytes :=
  if r < 0x80 then [UInt8.ofNat r]
  else if r < 0x800 then [UInt8.ofNat (0xC0 + r / 64), UInt8.ofNat (0x80 + r % 64)]
  else if (0xD800 ≤ r ∧ r ≤ 0xDFFF) ∨ 0x10FFFF < r then [0xEF, 0xBF, 0xBD]
  else if r < 0x10000 then
    [UInt8.ofNat (0xE0 + r / 4096), UInt8.ofNat (0x80 + r / 64 % 64), UInt8.ofNat (0x80 + r % 64)]
  else
    [UInt8.ofNat (0xF0 + r / 262144), UInt8.ofNat (0x80 + r / 4096 % 64),
      UInt8.ofNat (0x80 + r / 64 % 64), UInt8.ofNat (0x80 + r % 64)]

/-- `string(runes)`. -/
def stringOfRunes (rs : List Nat) : Bytes := rs.flatMap encodeRune

/-! ## Round trips

`string(runes)` followed by `[]rune` gives the runes back, an unencodable one as
`RuneError`, and its bytes are valid UTF-8; valid UTF-8 is `string` of its runes. -/

/-- The rune that `string([]rune{r})` carries: `r`, or `RuneError` for a surrogate or a value
past U+10FFFF. -/
def encodedRune (r : Nat) : Nat :=
  if (0xD800 ≤ r ∧ r ≤ 0xDFFF) ∨ 0x10FFFF < r then runeError else r

theorem encodeRune_length_pos (r : Nat) : 0 < (encodeRune r).length := by
  unfold encodeRune
  split_ifs <;> simp

theorem leadRange_of_two {c : Nat} (h : 0xC2 ≤ c ∧ c ≤ 0xDF) :
    leadRange c = some (2, 0x80, 0xBF) := by
  rw [leadRange, if_pos h]

theorem leadRange_of_three {c : Nat} (h : 0xE0 ≤ c ∧ c ≤ 0xEF) :
    leadRange c = some (3, if c = 0xE0 then 0xA0 else 0x80, if c = 0xED then 0x9F else 0xBF) := by
  rw [leadRange, if_neg (by omega)]
  by_cases h0 : c = 0xE0
  · subst h0; rfl
  by_cases h1 : c = 0xED
  · subst h1; rfl
  rw [if_neg h0, if_neg h1, if_pos ⟨by omega, h.2⟩, if_neg h0, if_neg h1]

theorem leadRange_of_four {c : Nat} (h : 0xF0 ≤ c ∧ c ≤ 0xF4) :
    leadRange c = some (4, if c = 0xF0 then 0x90 else 0x80, if c = 0xF4 then 0x8F else 0xBF) := by
  rw [leadRange, if_neg (by omega), if_neg (by omega), if_neg (by omega), if_neg (by omega)]
  by_cases h0 : c = 0xF0
  · subst h0; rfl
  by_cases h1 : c = 0xF4
  · subst h1; rfl
  rw [if_neg h0, if_neg h1, if_pos ⟨by omega, by omega⟩, if_neg h0, if_neg h1]

/-- What a lead byte's entry in the table says about it. -/
theorem leadRange_eq_some {c k lo hi : Nat} (h : leadRange c = some (k, lo, hi)) :
    (k = 2 ∧ 0xC2 ≤ c ∧ c ≤ 0xDF ∧ lo = 0x80 ∧ hi = 0xBF) ∨
    (k = 3 ∧ 0xE0 ≤ c ∧ c ≤ 0xEF ∧ lo = (if c = 0xE0 then 0xA0 else 0x80) ∧
      hi = (if c = 0xED then 0x9F else 0xBF)) ∨
    (k = 4 ∧ 0xF0 ≤ c ∧ c ≤ 0xF4 ∧ lo = (if c = 0xF0 then 0x90 else 0x80) ∧
      hi = (if c = 0xF4 then 0x8F else 0xBF)) := by
  by_cases h2 : 0xC2 ≤ c ∧ c ≤ 0xDF
  · rw [leadRange_of_two h2] at h
    cases h
    exact .inl ⟨rfl, h2.1, h2.2, rfl, rfl⟩
  by_cases h3 : 0xE0 ≤ c ∧ c ≤ 0xEF
  · rw [leadRange_of_three h3] at h
    cases h
    exact .inr (.inl ⟨rfl, h3.1, h3.2, rfl, rfl⟩)
  by_cases h4 : 0xF0 ≤ c ∧ c ≤ 0xF4
  · rw [leadRange_of_four h4] at h
    cases h
    exact .inr (.inr ⟨rfl, h4.1, h4.2, rfl, rfl⟩)
  rw [leadRange, if_neg h2, if_neg (by omega), if_neg (by omega), if_neg (by omega),
    if_neg (by omega), if_neg (by omega), if_neg (by omega)] at h
  cases h

private theorem decodeRune?_two {b0 b1 : UInt8} {lo hi : Nat} (s : Bytes) (h0 : 0x80 ≤ b0.toNat)
    (hl : leadRange b0.toNat = some (2, lo, hi)) (h1 : lo ≤ b1.toNat ∧ b1.toNat ≤ hi) :
    decodeRune? (b0 :: b1 :: s) = some (b0.toNat % 32 * 64 + b1.toNat % 64, 2, s) := by
  unfold decodeRune?
  dsimp only
  rw [if_neg (Nat.not_lt.mpr h0)]
  simp only [hl]
  exact if_pos h1

private theorem decodeRune?_three {b0 b1 b2 : UInt8} {lo hi : Nat} (s : Bytes)
    (h0 : 0x80 ≤ b0.toNat) (hl : leadRange b0.toNat = some (3, lo, hi))
    (h1 : lo ≤ b1.toNat ∧ b1.toNat ≤ hi) (h2 : IsCont b2) :
    decodeRune? (b0 :: b1 :: b2 :: s) =
      some ((b0.toNat % 16 * 64 + b1.toNat % 64) * 64 + b2.toNat % 64, 3, s) := by
  unfold decodeRune?
  dsimp only
  rw [if_neg (Nat.not_lt.mpr h0)]
  simp only [hl]
  exact if_pos ⟨h1.1, h1.2, h2⟩

private theorem decodeRune?_four {b0 b1 b2 b3 : UInt8} {lo hi : Nat} (s : Bytes)
    (h0 : 0x80 ≤ b0.toNat) (hl : leadRange b0.toNat = some (4, lo, hi))
    (h1 : lo ≤ b1.toNat ∧ b1.toNat ≤ hi) (h2 : IsCont b2) (h3 : IsCont b3) :
    decodeRune? (b0 :: b1 :: b2 :: b3 :: s) =
      some (((b0.toNat % 8 * 64 + b1.toNat % 64) * 64 + b2.toNat % 64) * 64 + b3.toNat % 64,
        4, s) := by
  unfold decodeRune?
  dsimp only
  rw [if_neg (Nat.not_lt.mpr h0)]
  simp only [hl]
  exact if_pos ⟨h1.1, h1.2, h2, h3⟩

/-- The payload bits of a continuation byte and of the lead bytes of two, three and four
byte encodings. -/
private theorem payload_mod {x : Nat} :
    (x < 64 → (0x80 + x) % 256 % 64 = x) ∧ (x < 32 → (0xC0 + x) % 256 % 32 = x) ∧
      (x < 16 → (0xE0 + x) % 256 % 16 = x) ∧ (x < 8 → (0xF0 + x) % 256 % 8 = x) := by
  omega

private theorem decodeRune?_encodeRune_two {r : Nat} (s : Bytes) (h1 : 0x80 ≤ r) (h2 : r < 0x800) :
    decodeRune? ([UInt8.ofNat (0xC0 + r / 64), UInt8.ofNat (0x80 + r % 64)] ++ s) =
      some (r, 2, s) := by
  rw [List.cons_append, List.cons_append, List.nil_append,
    decodeRune?_two s (by simp only [toNat_uint8_ofNat]; omega)
      (leadRange_of_two (by simp only [toNat_uint8_ofNat]; omega))
      (by simp only [toNat_uint8_ofNat]; omega)]
  simp only [toNat_uint8_ofNat, Option.some.injEq, Prod.mk.injEq, and_true]
  rw [payload_mod.2.1 (by omega), payload_mod.1 (by omega)]
  omega

private theorem decodeRune?_encodeRune_three {r : Nat} (s : Bytes) (h1 : 0x800 ≤ r)
    (h2 : r < 0x10000) (hs : ¬(0xD800 ≤ r ∧ r ≤ 0xDFFF)) :
    decodeRune? ([UInt8.ofNat (0xE0 + r / 4096), UInt8.ofNat (0x80 + r / 64 % 64),
      UInt8.ofNat (0x80 + r % 64)] ++ s) = some (r, 3, s) := by
  rw [List.cons_append, List.cons_append, List.cons_append, List.nil_append,
    decodeRune?_three s (by simp only [toNat_uint8_ofNat]; omega)
      (leadRange_of_three (by simp only [toNat_uint8_ofNat]; omega))
      (by simp only [toNat_uint8_ofNat]; split_ifs <;> omega)
      (by simp only [IsCont, toNat_uint8_ofNat]; omega)]
  simp only [toNat_uint8_ofNat, Option.some.injEq, Prod.mk.injEq, and_true]
  rw [payload_mod.2.2.1 (by omega), payload_mod.1 (by omega), payload_mod.1 (by omega)]
  omega

private theorem decodeRune?_encodeRune_four {r : Nat} (s : Bytes) (h1 : 0x10000 ≤ r)
    (h2 : r ≤ 0x10FFFF) :
    decodeRune? ([UInt8.ofNat (0xF0 + r / 262144), UInt8.ofNat (0x80 + r / 4096 % 64),
      UInt8.ofNat (0x80 + r / 64 % 64), UInt8.ofNat (0x80 + r % 64)] ++ s) = some (r, 4, s) := by
  rw [List.cons_append, List.cons_append, List.cons_append, List.cons_append, List.nil_append,
    decodeRune?_four s (by simp only [toNat_uint8_ofNat]; omega)
      (leadRange_of_four (by simp only [toNat_uint8_ofNat]; omega))
      (by simp only [toNat_uint8_ofNat]; split_ifs <;> omega)
      (by simp only [IsCont, toNat_uint8_ofNat]; omega)
      (by simp only [IsCont, toNat_uint8_ofNat]; omega)]
  simp only [toNat_uint8_ofNat, Option.some.injEq, Prod.mk.injEq, and_true]
  rw [payload_mod.2.2.2 (by omega), payload_mod.1 (by omega), payload_mod.1 (by omega),
    payload_mod.1 (by omega)]
  omega

/-- `utf8.DecodeRune` reads back what `utf8.EncodeRune` wrote, whatever follows it. -/
theorem decodeRune?_encodeRune (r : Nat) (s : Bytes) :
    decodeRune? (encodeRune r ++ s) = some (encodedRune r, (encodeRune r).length, s) := by
  by_cases hbad : (0xD800 ≤ r ∧ r ≤ 0xDFFF) ∨ 0x10FFFF < r
  · rw [encodeRune, encodedRune, if_neg (by omega), if_neg (by omega), if_pos hbad, if_pos hbad]
    rfl
  rw [encodedRune, if_neg hbad, encodeRune]
  by_cases h1 : r < 0x80
  · rw [if_pos h1, List.singleton_append, decodeRune?_ascii (by simp only [toNat_uint8_ofNat]; omega)]
    simp only [toNat_uint8_ofNat, Nat.mod_eq_of_lt (by omega : r < 256), List.length_singleton]
  by_cases h2 : r < 0x800
  · rw [if_neg h1, if_pos h2, decodeRune?_encodeRune_two s (by omega) h2]; rfl
  by_cases h3 : r < 0x10000
  · rw [if_neg h1, if_neg h2, if_neg hbad, if_pos h3,
      decodeRune?_encodeRune_three s (by omega) h3 (by omega)]; rfl
  · rw [if_neg h1, if_neg h2, if_neg hbad, if_neg h3,
      decodeRune?_encodeRune_four s (by omega) (by omega)]; rfl

/-! The encodings of a rune given by its base-64 digits, the payloads of the bytes. -/

private theorem encodeRune_digits_two {x a : Nat} (ha : a < 64) (h1 : 0x80 ≤ x * 64 + a)
    (h2 : x * 64 + a < 0x800) :
    encodeRune (x * 64 + a) = [UInt8.ofNat (0xC0 + x), UInt8.ofNat (0x80 + a)] := by
  rw [encodeRune, if_neg (by omega), if_pos h2]
  simp only [List.cons.injEq, and_true]
  refine ⟨congrArg _ ?_, congrArg _ ?_⟩ <;> omega

private theorem encodeRune_digits_three {x a b : Nat} (ha : a < 64) (hb : b < 64)
    (h1 : 0x800 ≤ (x * 64 + a) * 64 + b) (h2 : (x * 64 + a) * 64 + b < 0x10000)
    (hs : ¬(0xD800 ≤ (x * 64 + a) * 64 + b ∧ (x * 64 + a) * 64 + b ≤ 0xDFFF)) :
    encodeRune ((x * 64 + a) * 64 + b) =
      [UInt8.ofNat (0xE0 + x), UInt8.ofNat (0x80 + a), UInt8.ofNat (0x80 + b)] := by
  rw [encodeRune, if_neg (by omega), if_neg (by omega), if_neg (by omega), if_pos h2]
  simp only [List.cons.injEq, and_true]
  refine ⟨congrArg _ ?_, congrArg _ ?_, congrArg _ ?_⟩ <;> omega

private theorem encodeRune_digits_four {x a b c : Nat} (ha : a < 64) (hb : b < 64) (hc : c < 64)
    (h1 : 0x10000 ≤ ((x * 64 + a) * 64 + b) * 64 + c)
    (h2 : ((x * 64 + a) * 64 + b) * 64 + c ≤ 0x10FFFF) :
    encodeRune (((x * 64 + a) * 64 + b) * 64 + c) = [UInt8.ofNat (0xF0 + x),
      UInt8.ofNat (0x80 + a), UInt8.ofNat (0x80 + b), UInt8.ofNat (0x80 + c)] := by
  rw [encodeRune, if_neg (by omega), if_neg (by omega), if_neg (by omega), if_neg (by omega)]
  simp only [List.cons.injEq, and_true]
  refine ⟨congrArg _ ?_, congrArg _ ?_, congrArg _ ?_, congrArg _ ?_⟩ <;> omega

private theorem uint8_ofNat_eq {b : UInt8} {n : Nat} (h : n % 256 = b.toNat) : UInt8.ofNat n = b :=
  UInt8.ext (by simpa using h)

private theorem encodeRune_two {b0 b1 : UInt8} (h0 : 0xC2 ≤ b0.toNat ∧ b0.toNat ≤ 0xDF)
    (h1 : IsCont b1) : encodeRune (b0.toNat % 32 * 64 + b1.toNat % 64) = [b0, b1] := by
  unfold IsCont at h1
  rw [encodeRune_digits_two (Nat.mod_lt _ (by decide)) (by omega) (by omega)]
  simp only [List.cons.injEq, and_true]
  exact ⟨uint8_ofNat_eq (by omega), uint8_ofNat_eq (by omega)⟩

private theorem encodeRune_three {b0 b1 b2 : UInt8} (h0 : 0xE0 ≤ b0.toNat ∧ b0.toNat ≤ 0xEF)
    (h1 : IsCont b1) (hE0 : b0.toNat = 0xE0 → 0xA0 ≤ b1.toNat)
    (hED : b0.toNat = 0xED → b1.toNat ≤ 0x9F) (h2 : IsCont b2) :
    encodeRune ((b0.toNat % 16 * 64 + b1.toNat % 64) * 64 + b2.toNat % 64) = [b0, b1, b2] := by
  unfold IsCont at h1 h2
  rw [encodeRune_digits_three (Nat.mod_lt _ (by decide)) (Nat.mod_lt _ (by decide)) (by omega)
    (by omega) (by omega)]
  simp only [List.cons.injEq, and_true]
  exact ⟨uint8_ofNat_eq (by omega), uint8_ofNat_eq (by omega), uint8_ofNat_eq (by omega)⟩

private theorem encodeRune_four {b0 b1 b2 b3 : UInt8} (h0 : 0xF0 ≤ b0.toNat ∧ b0.toNat ≤ 0xF4)
    (h1 : IsCont b1) (hF0 : b0.toNat = 0xF0 → 0x90 ≤ b1.toNat)
    (hF4 : b0.toNat = 0xF4 → b1.toNat ≤ 0x8F) (h2 : IsCont b2) (h3 : IsCont b3) :
    encodeRune (((b0.toNat % 8 * 64 + b1.toNat % 64) * 64 + b2.toNat % 64) * 64 + b3.toNat % 64) =
      [b0, b1, b2, b3] := by
  unfold IsCont at h1 h2 h3
  rw [encodeRune_digits_four (Nat.mod_lt _ (by decide)) (Nat.mod_lt _ (by decide))
    (Nat.mod_lt _ (by decide)) (by omega) (by omega)]
  simp only [List.cons.injEq, and_true]
  exact ⟨uint8_ofNat_eq (by omega), uint8_ofNat_eq (by omega), uint8_ofNat_eq (by omega),
    uint8_ofNat_eq (by omega)⟩

/-- A valid encoding that `utf8.DecodeRune` reads is the one `utf8.EncodeRune` writes. -/
theorem encodeRune_of_decodeRune? {s rest : Bytes} {r n : Nat}
    (h : decodeRune? s = some (r, n, rest)) : encodeRune r ++ rest = s := by
  match s with
  | [] => cases h
  | b0 :: s =>
  unfold decodeRune? at h
  dsimp only at h
  split_ifs at h with ha
  · cases h
    simp [encodeRune, ha, uint8_ofNat_eq (Nat.mod_eq_of_lt (by omega : b0.toNat < 256))]
  split at h
  · rename_i lo hi b1 s hl
    split_ifs at h with hb
    cases h
    rcases leadRange_eq_some hl with ⟨-, h0, h0', rfl, rfl⟩ | ⟨h3, -⟩ | ⟨h4, -⟩ <;> try omega
    rw [encodeRune_two ⟨h0, h0'⟩ hb]; rfl
  · rename_i lo hi b1 b2 s hl
    split_ifs at h with hb
    cases h
    rcases leadRange_eq_some hl with ⟨h2, -⟩ | ⟨-, h0, h0', rfl, rfl⟩ | ⟨h4, -⟩ <;> try omega
    obtain ⟨hlo, hhi, hc2⟩ := hb
    rw [encodeRune_three ⟨h0, h0'⟩ ⟨by split_ifs at hlo <;> omega, by split_ifs at hhi <;> omega⟩
      (fun he => by simpa [he] using hlo) (fun he => by simpa [he] using hhi) hc2]
    rfl
  · rename_i lo hi b1 b2 b3 s hl
    split_ifs at h with hb
    cases h
    rcases leadRange_eq_some hl with ⟨h2, -⟩ | ⟨h3, -⟩ | ⟨-, h0, h0', rfl, rfl⟩ <;> try omega
    obtain ⟨hlo, hhi, hc2, hc3⟩ := hb
    rw [encodeRune_four ⟨h0, h0'⟩ ⟨by split_ifs at hlo <;> omega, by split_ifs at hhi <;> omega⟩
      (fun he => by simpa [he] using hlo) (fun he => by simpa [he] using hhi) hc2 hc3]
    rfl
  · cases h

private theorem stringOfRunes_cons_eq (r : Nat) (rs : List Nat) :
    ∃ b tl, encodeRune r = b :: tl ∧ stringOfRunes (r :: rs) = b :: (tl ++ stringOfRunes rs) := by
  obtain ⟨b, tl, he⟩ := List.exists_cons_of_length_pos (encodeRune_length_pos r)
  exact ⟨b, tl, he, by simp [stringOfRunes, he]⟩

theorem decodeRunesFrom_stringOfRunes :
    ∀ (rs : List Nat) (n i : Nat), (stringOfRunes rs).length ≤ n →
      (decodeRunesFrom n i (stringOfRunes rs)).map Prod.snd = rs.map encodedRune
  | [], n, _, _ => by cases n <;> rfl
  | r :: rs, n, i, hn => by
    obtain ⟨b, tl, he, hs⟩ := stringOfRunes_cons_eq r rs
    have hd := decodeRune?_encodeRune r (stringOfRunes rs)
    rw [he, List.cons_append] at hd
    rw [hs] at hn ⊢
    obtain ⟨m, rfl⟩ : ∃ m, n = m + 1 := ⟨n - 1, by simp at hn; omega⟩
    simp only [decodeRunesFrom, hd, List.map_cons]
    rw [decodeRunesFrom_stringOfRunes rs m _ (by simp at hn; omega)]

theorem validStringFrom_stringOfRunes :
    ∀ (rs : List Nat) (n : Nat), validStringFrom n (stringOfRunes rs) = true
  | [], n => by cases n <;> rfl
  | _ :: _, 0 => rfl
  | r :: rs, n + 1 => by
    obtain ⟨b, tl, he, hs⟩ := stringOfRunes_cons_eq r rs
    have hd := decodeRune?_encodeRune r (stringOfRunes rs)
    rw [he, List.cons_append] at hd
    rw [hs]
    simp only [validStringFrom, hd]
    exact validStringFrom_stringOfRunes rs n

theorem stringOfRunes_decodeRunesFrom :
    ∀ (n i : Nat) (s : Bytes), s.length ≤ n → validStringFrom n s = true →
      stringOfRunes ((decodeRunesFrom n i s).map Prod.snd) = s
  | 0, _, s, hn, _ => by rw [List.eq_nil_of_length_eq_zero (Nat.le_zero.mp hn)]; rfl
  | _ + 1, _, [], _, _ => rfl
  | n + 1, i, b :: s, hn, hv => by
    simp only [validStringFrom] at hv
    split at hv
    · rename_i r k rest hd
      have he := encodeRune_of_decodeRune? hd
      have hlen : rest.length ≤ n := by
        have := congrArg List.length he
        simp only [List.length_append, List.length_cons] at this hn
        have := encodeRune_length_pos r
        omega
      simp only [decodeRunesFrom, hd, List.map_cons, stringOfRunes, List.flatMap_cons]
      conv => rhs; rw [← he]
      rw [← stringOfRunes, stringOfRunes_decodeRunesFrom n _ rest hlen hv]
    · cases hv

theorem runesOf_stringOfRunes (rs : List Nat) : runesOf (stringOfRunes rs) = rs.map encodedRune :=
  decodeRunesFrom_stringOfRunes rs _ 0 le_rfl

theorem validString_stringOfRunes (rs : List Nat) : validString (stringOfRunes rs) = true :=
  validStringFrom_stringOfRunes rs _

theorem stringOfRunes_runesOf {s : Bytes} (h : validString s = true) :
    stringOfRunes (runesOf s) = s :=
  stringOfRunes_decodeRunesFrom _ 0 s le_rfl h

/-- The range tables of `unicode` above U+00FF: category Nd for `IsDigit`, and categories
L, M, N, P, S for `IsPrint`. -/
structure UnicodeTables where
  digit : Nat → Bool
  print : Nat → Bool

/-- Tables with nothing above U+00FF, for runs on concrete text. -/
def latin1Only : UnicodeTables := ⟨fun _ => false, fun _ => false⟩

/-- `unicode.IsDigit`. -/
def isDigit (U : UnicodeTables) (r : Nat) : Bool :=
  if r ≤ 0xFF then 0x30 ≤ r && r ≤ 0x39 else U.digit r

/-- `unicode.IsPrint`: on Latin-1 the `pp` bit of `properties`, set from U+0020 to U+007E
and from U+00A1 to U+00FF except the soft hyphen U+00AD. -/
def isPrint (U : UnicodeTables) (r : Nat) : Bool :=
  if r ≤ 0xFF then (0x20 ≤ r && r ≤ 0x7E) || (0xA1 ≤ r && r != 0xAD) else U.print r

end GoVnc
