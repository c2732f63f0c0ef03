import GoVnc.Wire

/-!
`TimingProtection`, the delay `PasswordAuth` wraps its DES answer in. A duration is a
`time.Duration`, a signed count of nanoseconds; the four bytes `rand.Read` gives are a
parameter, `none` when it fails. `ConstantTimeDelay` sleeps `baseDelay + jitter` with
`jitter = jitterValue % uint32(baseDelay/10)`: when `baseDelay/10` has no bit in its low 32,
below 10 ns in particular, the divisor is 0 and the modulo panics.

* `TimingProtection.constantTimeDelay_spec`: for every base delay `d > 0`, the delay panics
  exactly when the random bytes were read and `d/10` is a multiple of 2^32; otherwise it
  sleeps between `d` and `d + d/10`. `ConstantTimeAuthentication` returns the function's
  error, or panics exactly when that delay does on the time left.
-/

namespace GoVnc

/-- `int64` arithmetic: the value modulo 2^64, in `[-2^63, 2^63)`. -/
def int64Wrap (i : Int) : Int :=
  (i + 9223372036854775808) % 18446744073709551616 - 9223372036854775808

theorem int64Wrap_of_lt {i : Int} (h0 : -9223372036854775808 ≤ i) (h1 : i < 9223372036854775808) :
    int64Wrap i = i := by
  unfold int64Wrap
  omega

/-- `TimingProtection.ConstantTimeDelay`: the duration handed to `time.Sleep`. The divisor
`uint32(baseDelay/10)` keeps the low 32 bits of the truncated quotient. -/
def TimingProtection.constantTimeDelay (baseDelay : Int)
    (jitterBytes : Option (UInt8 × UInt8 × UInt8 × UInt8)) : Except Panic Int :=
  match jitterBytes with
  | some (b0, b1, b2, b3) =>
    let jitterValue : UInt32 :=
      b0.toUInt32 <<< 24 ||| b1.toUInt32 <<< 16 ||| b2.toUInt32 <<< 8 ||| b3.toUInt32
    let divisor := bitsOfInt32 (baseDelay.tdiv 10)
    if divisor = 0 then .error .integerDivideByZero
    else .ok (int64Wrap (baseDelay + (jitterValue % divisor).toNat))
  | none => .ok (int64Wrap (baseDelay + baseDelay.tdiv 20))

/-- `TimingProtection.ConstantTimeAuthentication`: the function's result, after the delay for
the time left when the function took `elapsed` (a monotonic clock, never negative). -/
def TimingProtection.constantTimeAuthentication {α : Type} (result : α) (elapsed : Nat)
    (baseDelay : Int) (jitterBytes : Option (UInt8 × UInt8 × UInt8 × UInt8)) : Except Panic α :=
  if (elapsed : Int) < baseDelay then
    match TimingProtection.constantTimeDelay (baseDelay - elapsed) jitterBytes with
    | .error p => .error p
    | .ok _ => .ok result
  else .ok result

/-- The only panic of the delay is its modulo by zero. -/
theorem TimingProtection.constantTimeDelay_error {baseDelay : Int}
    {jitterBytes : Option (UInt8 × UInt8 × UInt8 × UInt8)} {p : Panic}
    (h : TimingProtection.constantTimeDelay baseDelay jitterBytes = .error p) :
    p = .integerDivideByZero := by
  unfold TimingProtection.constantTimeDelay at h
  split at h
  · dsimp only at h
    split_ifs at h
    cases h; rfl
  · cases h

/-- A delay below 10 ns panics once the random bytes are read: `uint32(baseDelay/10)` is 0. -/
theorem TimingProtection.constantTimeDelay_lt_ten {d : Int} (h0 : 0 ≤ d) (h : d < 10)
    (bytes : UInt8 × UInt8 × UInt8 × UInt8) :
    TimingProtection.constantTimeDelay d (some bytes) = .error .integerDivideByZero := by
  simp only [TimingProtection.constantTimeDelay, Int.tdiv_eq_zero_of_lt h0 h]
  rfl

/-- `ConstantTimeAuthentication` returns the function's result or the delay's panic. -/
theorem TimingProtection.constantTimeAuthentication_eq {α : Type} (result : α) (elapsed : Nat)
    (baseDelay : Int) (jitterBytes : Option (UInt8 × UInt8 × UInt8 × UInt8)) :
    TimingProtection.constantTimeAuthentication result elapsed baseDelay jitterBytes = .ok result ∨
      TimingProtection.constantTimeAuthentication result elapsed baseDelay jitterBytes =
        .error .integerDivideByZero := by
  unfold TimingProtection.constantTimeAuthentication
  split_ifs
  · split
    · rename_i h; exact .inr (by rw [TimingProtection.constantTimeDelay_error h])
    · exact .inl rfl
  · exact .inl rfl

private theorem bitsOfInt32_eq_zero (q : Int) : bitsOfInt32 q = 0 ↔ q % 4294967296 = 0 := by
  rw [bitsOfInt32, UInt32.ext_iff, toNat_uint32_ofNat, UInt32.toNat_zero]
  omega

private theorem bitsOfInt32_toNat_le {q : Int} (hq : 0 ≤ q) : ((bitsOfInt32 q).toNat : Int) ≤ q := by
  rw [bitsOfInt32, toNat_uint32_ofNat]
  omega

/-- For a base delay `d > 0` that `d + d/10` does not overflow: with the random bytes read,
the delay panics exactly when `d/10` is a multiple of 2^32 (every `d` below 10 ns among
them), and otherwise it sleeps between `d` and `d + d/10`; without them it sleeps
`d + d/20`. `ConstantTimeAuthentication` returns the function's result unless it ran for
less than the base delay and that delay panics on the time left. -/
theorem TimingProtection.constantTimeDelay_spec {d : Int} (hd : 0 < d)
    (hmax : d + d / 10 < 9223372036854775808) :
    (∀ bytes, TimingProtection.constantTimeDelay d (some bytes) = .error .integerDivideByZero ↔
      d / 10 % 4294967296 = 0) ∧
    (∀ jitterBytes t, TimingProtection.constantTimeDelay d jitterBytes = .ok t →
      d ≤ t ∧ t ≤ d + d / 10) ∧
    (∀ {α : Type} (result : α) (elapsed : Nat) (baseDelay : Int) jitterBytes,
      baseDelay - elapsed = d →
      TimingProtection.constantTimeAuthentication result elapsed baseDelay jitterBytes =
        match TimingProtection.constantTimeDelay d jitterBytes with
        | .error p => .error p
        | .ok _ => .ok result) := by
  have htdiv10 : d.tdiv 10 = d / 10 := Int.tdiv_eq_ediv (by omega) (by omega)
  have htdiv20 : d.tdiv 20 = d / 20 := Int.tdiv_eq_ediv (by omega) (by omega)
  refine ⟨fun ⟨b0, b1, b2, b3⟩ => ?_, fun jitterBytes t h => ?_, ?_⟩
  · simp only [TimingProtection.constantTimeDelay, htdiv10]
    rw [← bitsOfInt32_eq_zero]
    split_ifs with h0 <;> simp [h0]
  · unfold TimingProtection.constantTimeDelay at h
    split at h
    · rename_i b0 b1 b2 b3
      dsimp only at h
      rw [htdiv10] at h
      split_ifs at h with h0
      cases h
      have hle := bitsOfInt32_toNat_le (show 0 ≤ d / 10 by omega)
      have hpos : 0 < (bitsOfInt32 (d / 10)).toNat :=
        Nat.pos_of_ne_zero fun h => h0 (UInt32.ext h)
      generalize b0.toUInt32 <<< 24 ||| b1.toUInt32 <<< 16 ||| b2.toUInt32 <<< 8 ||| b3.toUInt32 = jv
      have hj : (jv % bitsOfInt32 (d / 10)).toNat < (bitsOfInt32 (d / 10)).toNat := by
        rw [UInt32.toNat_mod]; exact Nat.mod_lt _ hpos
      rw [int64Wrap_of_lt (by omega) (by omega)]
      omega
    · cases h
      rw [htdiv20, int64Wrap_of_lt (by omega) (by omega)]
      omega
  · intro α result elapsed baseDelay jitterBytes he
    unfold TimingProtection.constantTimeAuthentication
    rw [if_pos (by omega), he]

/-- A delay of 5 ns panics, and so does a 50 ms `ConstantTimeAuthentication` whose function ran
for 49 999 995 ns. -/
theorem TimingProtection.constantTimeAuthentication_panics :
    TimingProtection.constantTimeDelay 5 (some (0, 0, 0, 0)) = .error .integerDivideByZero ∧
      TimingProtection.constantTimeAuthentication () 49999995 50000000 (some (0, 0, 0, 0)) =
        .error .integerDivideByZero :=
  have h := @TimingProtection.constantTimeDelay_spec 5 (by decide) (by decide)
  have hp := (h.1 (0, 0, 0, 0)).mpr (by decide)
  ⟨hp, by rw [h.2.2 () 49999995 50000000 (some (0, 0, 0, 0)) (by decide), hp]⟩

end GoVnc
