import GoVnc.Auth
import GoVnc.Timing

/-!
The answer of VNC authentication: `SecureDESCipher.EncryptVNCChallenge`, and
`PasswordAuth.encrypt`, which runs it under `ConstantTimeAuthentication` with a 50 ms base
delay. The key is the first eight password bytes, each bit-reversed by the table of
`reverseBitsSecure`, padded with zeros; the two halves of the 16-byte challenge are
encrypted separately. The block cipher of `crypto/des` is a parameter, `DESCipher`.

* `reverseBitsSecure_testBit`: the table reverses the bits of every byte.
* `SecureDESCipher.encryptVNCChallenge_spec`: the answer for every password and challenge,
  which depends on the first eight password bytes only, and what `PasswordAuth.Handshake`
  reads and writes with it; `PasswordAuth.encrypt` gives that answer, or its delay panics,
  as it does when the encryption took 49 999 995 ns, and the handshake then panics with it.
-/

namespace GoVnc

/-- `crypto/des`: `Encrypt` of one 8-byte block under an 8-byte key, which gives 8 bytes. -/
structure DESCipher where
  encrypt : Bytes → Bytes → Bytes
  encrypt_length : ∀ key block, (encrypt key block).length = 8

/-- The table of `reverseBitsSecure`. -/
def reverseLookup : List UInt8 := [
  0x00, 0x80, 0x40, 0xc0, 0x20, 0xa0, 0x60, 0xe0,
  0x10, 0x90, 0x50, 0xd0, 0x30, 0xb0, 0x70, 0xf0,
  0x08, 0x88, 0x48, 0xc8, 0x28, 0xa8, 0x68, 0xe8,
  0x18, 0x98, 0x58, 0xd8, 0x38, 0xb8, 0x78, 0xf8,
  0x04, 0x84, 0x44, 0xc4, 0x24, 0xa4, 0x64, 0xe4,
  0x14, 0x94, 0x54, 0xd4, 0x34, 0xb4, 0x74, 0xf4,
  0x0c, 0x8c, 0x4c, 0xcc, 0x2c, 0xac, 0x6c, 0xec,
  0x1c, 0x9c, 0x5c, 0xdc, 0x3c, 0xbc, 0x7c, 0xfc,
  0x02, 0x82, 0x42, 0xc2, 0x22, 0xa2, 0x62, 0xe2,
  0x12, 0x92, 0x52, 0xd2, 0x32, 0xb2, 0x72, 0xf2,
  0x0a, 0x8a, 0x4a, 0xca, 0x2a, 0xaa, 0x6a, 0xea,
  0x1a, 0x9a, 0x5a, 0xda, 0x3a, 0xba, 0x7a, 0xfa,
  0x06, 0x86, 0x46, 0xc6, 0x26, 0xa6, 0x66, 0xe6,
  0x16, 0x96, 0x56, 0xd6, 0x36, 0xb6, 0x76, 0xf6,
  0x0e, 0x8e, 0x4e, 0xce, 0x2e, 0xae, 0x6e, 0xee,
  0x1e, 0x9e, 0x5e, 0xde, 0x3e, 0xbe, 0x7e, 0xfe,
  0x01, 0x81, 0x41, 0xc1, 0x21, 0xa1, 0x61, 0xe1,
  0x11, 0x91, 0x51, 0xd1, 0x31, 0xb1, 0x71, 0xf1,
  0x09, 0x89, 0x49, 0xc9, 0x29, 0xa9, 0x69, 0xe9,
  0x19, 0x99, 0x59, 0xd9, 0x39, 0xb9, 0x79, 0xf9,
  0x05, 0x85, 0x45, 0xc5, 0x25, 0xa5, 0x65, 0xe5,
  0x15, 0x95, 0x55, 0xd5, 0x35, 0xb5, 0x75, 0xf5,
  0x0d, 0x8d, 0x4d, 0xcd, 0x2d, 0xad, 0x6d, 0xed,
  0x1d, 0x9d, 0x5d, 0xdd, 0x3d, 0xbd, 0x7d, 0xfd,
  0x03, 0x83, 0x43, 0xc3, 0x23, 0xa3, 0x63, 0xe3,
  0x13, 0x93, 0x53, 0xd3, 0x33, 0xb3, 0x73, 0xf3,
  0x0b, 0x8b, 0x4b, 0xcb, 0x2b, 0xab, 0x6b, 0xeb,
  0x1b, 0x9b, 0x5b, 0xdb, 0x3b, 0xbb, 0x7b, 0xfb,
  0x07, 0x87, 0x47, 0xc7, 0x27, 0xa7, 0x67, 0xe7,
  0x17, 0x97, 0x57, 0xd7, 0x37, 0xb7, 0x77, 0xf7,
  0x0f, 0x8f, 0x4f, 0xcf, 0x2f, 0xaf, 0x6f, 0xef,
  0x1f, 0x9f, 0x5f, 0xdf, 0x3f, 0xbf, 0x7f, 0xff]

/-- `SecureDESCipher.reverseBitsSecure`. -/
def SecureDESCipher.reverseBitsSecure (b : UInt8) : UInt8 := reverseLookup.getD b.toNat 0

/-- The low `w` bits of `n` in reverse order. -/
def bitRev : Nat → Nat → Nat
  | 0, _ => 0
  | w + 1, n => n % 2 * 2 ^ w + bitRev w (n / 2)

theorem bitRev_lt : ∀ (w n : Nat), bitRev w n < 2 ^ w
  | 0, _ => Nat.one_pos
  | w + 1, n => by
    have := bitRev_lt w (n / 2)
    rcases Nat.mod_two_eq_zero_or_one n with h | h <;> rw [bitRev, Nat.pow_succ, h] <;> omega

/-- Bit `i` of the reversal is bit `w - 1 - i` of `n`. -/
theorem bitRev_testBit : ∀ {w i : Nat} (n : Nat), i < w →
    (bitRev w n).testBit i = n.testBit (w - 1 - i)
  | w + 1, i, n, hi => by
    rw [bitRev, Nat.mul_comm, Nat.testBit_mul_pow_two_add _ (bitRev_lt w (n / 2))]
    split_ifs with h
    · rw [bitRev_testBit (n / 2) h, Nat.testBit_div_two, show w - 1 - i + 1 = w + 1 - 1 - i by omega]
    · rw [show i - w = 0 by omega, show w + 1 - 1 - i = 0 by omega, Nat.testBit_zero,
        Nat.testBit_zero, Nat.mod_mod]

set_option maxRecDepth 4000 in
/-- Entry `n` of the table is `n` with its eight bits reversed. -/
theorem reverseLookup_eq_bitRev :
    reverseLookup = (List.range 256).map fun n => UInt8.ofNat (bitRev 8 n) := by
  decide

/-- `reverseBitsSecure` is bit reversal on every byte. -/
theorem reverseBitsSecure_testBit (b : UInt8) {i : Nat} (hi : i < 8) :
    (SecureDESCipher.reverseBitsSecure b).toNat.testBit i = b.toNat.testBit (7 - i) := by
  rw [SecureDESCipher.reverseBitsSecure, reverseLookup_eq_bitRev, List.getD_eq_getElem?_getD,
    List.getElem?_map, List.getElem?_range b.toNat_lt, Option.map_some', Option.getD_some,
    toNat_uint8_ofNat, Nat.mod_eq_of_lt (show bitRev 8 b.toNat < 256 from bitRev_lt 8 _),
    bitRev_testBit _ hi]

/-- `SecureDESCipher.EncryptVNCChallenge`. `des.NewCipher` refuses a key that is not 8 bytes;
none of the checks after the first can fail. -/
def SecureDESCipher.encryptVNCChallenge (des : DESCipher) (password challenge : Bytes) :
    Except VNCError Bytes :=
  let op := "SecureDESCipher.EncryptVNCChallenge"
  if challenge.length ≠ 16 then .error (validationError op "challenge must be exactly 16 bytes")
  else
    let keyLen := min password.length 8
    let keyBytes := (List.range 8).map fun i =>
      if i < keyLen then SecureDESCipher.reverseBitsSecure (password.getD i 0) else 0
    let size := challenge.length
    if keyBytes.length ≠ 8 then .error (authenticationError op "failed to create DES cipher")
    else if challenge.length ≠ 16 then
      .error (authenticationError op s!"invalid challenge size: expected 16, got {size}")
    else if 8 > 16 ∨ 8 > challenge.length then
      .error (authenticationError op "invalid DES key size for encryption")
    else if 16 > 16 ∨ 16 > challenge.length ∨ 8 ≥ 16 then
      .error (authenticationError op "invalid challenge size for second DES block")
    else .ok (des.encrypt keyBytes (challenge.take 8) ++ des.encrypt keyBytes ((challenge.drop 8).take 8))

/-- `PasswordAuth.encrypt`: `EncryptVNCChallenge` under `ConstantTimeAuthentication` with a
50 ms base delay, the encryption having taken `elapsed` nanoseconds. -/
def PasswordAuth.encrypt (des : DESCipher) (elapsed : Nat)
    (jitterBytes : Option (UInt8 × UInt8 × UInt8 × UInt8)) (key bytes : Bytes) :
    Except Panic (Except VNCError Bytes) :=
  TimingProtection.constantTimeAuthentication (SecureDESCipher.encryptVNCChallenge des key bytes)
    elapsed 50000000 jitterBytes

/-- `PasswordAuth.encrypt` returns the answer of `EncryptVNCChallenge`, unless its delay
panics: the `encrypt` of `passwordAuth` is this answer. -/
theorem PasswordAuth.encrypt_eq (des : DESCipher) (elapsed : Nat)
    (jitterBytes : Option (UInt8 × UInt8 × UInt8 × UInt8)) (key bytes : Bytes) :
    PasswordAuth.encrypt des elapsed jitterBytes key bytes =
        .ok (SecureDESCipher.encryptVNCChallenge des key bytes) ∨
      PasswordAuth.encrypt des elapsed jitterBytes key bytes = .error .integerDivideByZero :=
  TimingProtection.constantTimeAuthentication_eq _ _ _ _

/-- With 49 999 995 ns spent, the 5 ns left make the jitter's divisor 0, whatever the key, the
challenge and the random bytes. -/
theorem PasswordAuth.encrypt_late (des : DESCipher) (jitterBytes : UInt8 × UInt8 × UInt8 × UInt8)
    (key challenge : Bytes) :
    PasswordAuth.encrypt des 49999995 (some jitterBytes) key challenge = .error .integerDivideByZero := by
  unfold PasswordAuth.encrypt TimingProtection.constantTimeAuthentication
  rw [if_pos (by decide), TimingProtection.constantTimeDelay_lt_ten (by decide) (by decide) jitterBytes]

/-- The key depends on the first eight password bytes only. -/
private theorem vncKey_take (password : Bytes) :
    ((List.range 8).map fun i => if i < min (password.take 8).length 8 then
        SecureDESCipher.reverseBitsSecure ((password.take 8).getD i 0) else 0) =
      (List.range 8).map fun i => if i < min password.length 8 then
        SecureDESCipher.reverseBitsSecure (password.getD i 0) else 0 := by
  refine List.map_congr_left fun i hi => ?_
  have hi : i < 8 := List.mem_range.mp hi
  have hmin : min (min 8 password.length) 8 = min password.length 8 := by omega
  rw [List.length_take, hmin, List.getD_eq_getElem?_getD, List.getD_eq_getElem?_getD,
    List.getElem?_take_of_lt hi]

/-- For every password and challenge: `EncryptVNCChallenge` fails exactly on a challenge that is
not 16 bytes, and otherwise answers the DES encryptions of the two halves under the key of the
first eight password bytes, bit-reversed, zero-padded. So the answer depends on those eight
bytes only. `PasswordAuth.Handshake` with it reads 16 challenge bytes and writes the 16-byte
answer, or fails on a shorter stream. `PasswordAuth.encrypt` hands that answer on, except that
its delay panics when the encryption took between 49 999 990 and 50 000 000 ns: at 49 999 995,
say, the 5 ns left make the jitter's divisor 0, and `PasswordAuth.Handshake` panics with it. -/
theorem SecureDESCipher.encryptVNCChallenge_spec (des : DESCipher) (password : Bytes) :
    (∀ (b : UInt8) (i : Nat), i < 8 →
      (SecureDESCipher.reverseBitsSecure b).toNat.testBit i = b.toNat.testBit (7 - i)) ∧
    (∀ challenge, challenge.length ≠ 16 →
      SecureDESCipher.encryptVNCChallenge des password challenge =
        .error (validationError "SecureDESCipher.EncryptVNCChallenge"
          "challenge must be exactly 16 bytes")) ∧
    (∀ challenge, challenge.length = 16 →
      SecureDESCipher.encryptVNCChallenge des password challenge =
        .ok (des.encrypt ((List.range 8).map fun i => if i < min password.length 8 then
              SecureDESCipher.reverseBitsSecure (password.getD i 0) else 0) (challenge.take 8) ++
          des.encrypt ((List.range 8).map fun i => if i < min password.length 8 then
              SecureDESCipher.reverseBitsSecure (password.getD i 0) else 0) (challenge.drop 8))) ∧
    (∀ challenge, SecureDESCipher.encryptVNCChallenge des (password.take 8) challenge =
      SecureDESCipher.encryptVNCChallenge des password challenge) ∧
    (∀ s, 16 ≤ s.length →
      (passwordAuth (fun key c => .ok (SecureDESCipher.encryptVNCChallenge des key c))
          password).handshake s =
        .ok (des.encrypt ((List.range 8).map fun i => if i < min password.length 8 then
              SecureDESCipher.reverseBitsSecure (password.getD i 0) else 0) (s.take 8) ++
          des.encrypt ((List.range 8).map fun i => if i < min password.length 8 then
              SecureDESCipher.reverseBitsSecure (password.getD i 0) else 0) ((s.take 16).drop 8),
          s.drop 16)) ∧
    (∀ s elapsed jitterBytes, s.length < 16 →
      (passwordAuth (PasswordAuth.encrypt des elapsed jitterBytes) password).handshake s =
        .error (.err (networkError "PasswordAuth.Handshake"
          "failed to read authentication challenge"))) ∧
    (∀ challenge elapsed jitterBytes,
      PasswordAuth.encrypt des elapsed jitterBytes password challenge =
          .ok (SecureDESCipher.encryptVNCChallenge des password challenge) ∨
        PasswordAuth.encrypt des elapsed jitterBytes password challenge =
          .error .integerDivideByZero) ∧
    (∀ s elapsed jitterBytes, 16 ≤ s.length →
      (passwordAuth (PasswordAuth.encrypt des elapsed jitterBytes) password).handshake s =
          (passwordAuth (fun key c => .ok (SecureDESCipher.encryptVNCChallenge des key c))
            password).handshake s ∨
        (passwordAuth (PasswordAuth.encrypt des elapsed jitterBytes) password).handshake s =
          .error (.panic .integerDivideByZero)) ∧
    (∀ challenge jitterBytes,
      PasswordAuth.encrypt des 49999995 (some jitterBytes) password challenge =
        .error .integerDivideByZero) ∧
    (∀ s jitterBytes, 16 ≤ s.length →
      (passwordAuth (PasswordAuth.encrypt des 49999995 (some jitterBytes)) password).handshake s =
        .error (.panic .integerDivideByZero)) := by
  have hvalue : ∀ (pw challenge : Bytes), challenge.length = 16 →
      SecureDESCipher.encryptVNCChallenge des pw challenge =
        .ok (des.encrypt ((List.range 8).map fun i => if i < min pw.length 8 then
              SecureDESCipher.reverseBitsSecure (pw.getD i 0) else 0) (challenge.take 8) ++
          des.encrypt ((List.range 8).map fun i => if i < min pw.length 8 then
              SecureDESCipher.reverseBitsSecure (pw.getD i 0) else 0) (challenge.drop 8)) := by
    intro pw challenge h
    simp only [SecureDESCipher.encryptVNCChallenge, h, List.length_map, List.length_range]
    simp only [ne_eq, not_true_eq_false, if_false, gt_iff_lt]
    have hd : (challenge.drop 8).take 8 = challenge.drop 8 :=
      List.take_of_length_le (by simp only [List.length_drop]; omega)
    rw [if_neg (by omega), if_neg (by omega), hd]
  have hread : ∀ s : Bytes, 16 ≤ s.length → readFull 16 s = .ok (s.take 16, s.drop 16) :=
    fun s hs => by rw [readFull_spec, if_pos hs]
  refine ⟨fun b i hi => reverseBitsSecure_testBit b hi, fun challenge h => ?_, hvalue password,
    fun challenge => ?_, fun s hs => ?_, fun s _ _ hs => ?_,
    fun challenge elapsed jitterBytes => PasswordAuth.encrypt_eq des elapsed jitterBytes _ _,
    fun s elapsed jitterBytes hs => ?_, fun _ jitterBytes => PasswordAuth.encrypt_late des jitterBytes _ _,
    fun s jitterBytes hs => ?_⟩
  · simp only [SecureDESCipher.encryptVNCChallenge, if_pos h]
  · by_cases h : challenge.length = 16
    · rw [hvalue _ _ h, hvalue _ _ h, vncKey_take]
    · simp only [SecureDESCipher.encryptVNCChallenge, if_pos h]
  · simp only [passwordAuth, hread s hs, hvalue password (s.take 16) (by simp; omega), List.take_take]
    rfl
  · simp only [passwordAuth, readFull_short 16 s hs]
  · rcases PasswordAuth.encrypt_eq des elapsed jitterBytes password (s.take 16) with he | he
    · exact .inl (passwordAuth_handshake_congr (hread s hs) he)
    · exact .inr (passwordAuth_handshake_panics (hread s hs) he)
  · exact passwordAuth_handshake_panics (hread s hs) (PasswordAuth.encrypt_late des jitterBytes _ _)

end GoVnc
