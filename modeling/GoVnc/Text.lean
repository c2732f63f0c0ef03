import GoVnc.ServerMessages

/-!
The text a server sends: the desktop name of ServerInit, the reason of a failed
handshake and the text of ServerCutText. Each goes through `validateOrSanitize`:
the bytes as they are when `ValidateTextData` accepts them, `SanitizeText` of them
otherwise. `ValidateTextData` only refuses runes below U+0020, while `SanitizeText`
also replaces every rune `unicode.IsPrint` refuses, so the two paths part on text
with DEL, a C1 control or a format character.

* `validateOrSanitize_text`: delivered text is valid UTF-8 with no control rune; it
  is `SanitizeText` of the bytes exactly when they fail validation or every rune is
  one `SanitizeText` keeps.
* `ServerCutTextMessage.read_misframes`: `Read` skips one padding byte where the wire form has
  three, so it takes its length from the wrong bytes and never ends a well-framed message at
  the byte after it.
-/

namespace GoVnc

open Decoder InputValidator

/-- A rune that `SanitizeText` keeps: tab, newline, carriage return, a printable rune, or
`RuneError`. -/
def SanitizedRune (U : UnicodeTables) (r : Nat) : Prop :=
  r = 9 ∨ r = 10 ∨ r = 13 ∨ isPrint U r = true ∨ r = runeError

theorem isPrint_ge {U : UnicodeTables} {r : Nat} (h : isPrint U r = true) : 32 ≤ r := by
  unfold isPrint at h
  split_ifs at h with hr
  · simp only [Bool.or_eq_true, Bool.and_eq_true, decide_eq_true_eq, bne_iff_ne] at h
    omega
  · omega

theorem SanitizedRune.not_isControl {U : UnicodeTables} {r : Nat} (h : SanitizedRune U r) :
    ¬IsControl r := by
  unfold IsControl
  rcases h with h | h | h | h | h
  all_goals first | omega | exact fun hc => absurd hc.1 (by have hp := isPrint_ge h; omega) | (subst h; decide)

theorem sanitizedRune_sanitizeRune (U : UnicodeTables) (r : Nat) :
    SanitizedRune U (sanitizeRune U r) := by
  unfold sanitizeRune SanitizedRune
  split_ifs with h1 h2 h3
  · omega
  · exact .inr (.inr (.inr (.inl rfl)))
  · exact .inr (.inr (.inr (.inl h3)))
  · exact .inr (.inr (.inr (.inr rfl)))

/-- `SanitizeText` leaves a rune alone exactly when it is one it keeps. -/
theorem sanitizeRune_eq_self_iff {U : UnicodeTables} {r : Nat} :
    sanitizeRune U r = r ↔ SanitizedRune U r := by
  unfold sanitizeRune
  split_ifs with h1 h2 h3
  · exact iff_of_true rfl (by unfold SanitizedRune; omega)
  · exact iff_of_false (by omega) fun h => h.not_isControl (by unfold IsControl; omega)
  · exact iff_of_true rfl (.inr (.inr (.inr (.inl h3))))
  · refine ⟨fun h => .inr (.inr (.inr (.inr h.symm))), ?_⟩
    rintro (h | h | h | h | h)
    all_goals first | omega | exact absurd h h3

theorem SanitizedRune.encodedRune {U : UnicodeTables} {r : Nat} (h : SanitizedRune U r) :
    SanitizedRune U (encodedRune r) := by
  unfold GoVnc.encodedRune
  split_ifs
  · exact .inr (.inr (.inr (.inr rfl)))
  · exact h

theorem encodedRune_sanitizeRune_eq_self {U : UnicodeTables} {r : Nat}
    (h : encodedRune (sanitizeRune U r) = r) : SanitizedRune U r := by
  unfold GoVnc.encodedRune at h
  split_ifs at h
  · exact .inr (.inr (.inr (.inr h.symm)))
  · exact sanitizeRune_eq_self_iff.mp h

/-! ## The validator and the sanitiser -/

theorem validateTextData_ok_iff (text : Bytes) (maxLength : Nat) :
    validateTextData text maxLength = .ok () ↔
      text.length ≤ maxLength ∧ validString text = true ∧ ∀ r ∈ runesOf text, ¬IsControl r := by
  unfold validateTextData runesOf
  dsimp only
  split_ifs with hlen hv
  · simp only [reduceCtorEq, false_iff]; omega
  · simp_all
  · split
    · rename_i i r hf
      simp only [reduceCtorEq, false_iff, not_and, not_forall, not_not]
      intro _ _
      have := List.find?_some hf
      exact ⟨r, List.mem_map.mpr ⟨(i, r), List.mem_of_find?_eq_some hf, rfl⟩, by simpa using this⟩
    · rename_i hf
      simp only [List.find?_eq_none, decide_eq_true_eq] at hf
      simp only [List.mem_map, true_iff]
      refine ⟨by omega, by simpa using hv, ?_⟩
      rintro _ ⟨⟨i, r⟩, hm, rfl⟩
      exact hf _ hm

/-- What `SanitizeText` returns is valid UTF-8 made of runes it keeps. -/
theorem sanitizeText_runes (U : UnicodeTables) (text : Bytes) :
    validString (sanitizeText U text) = true ∧
      ∀ r ∈ runesOf (sanitizeText U text), SanitizedRune U r := by
  unfold sanitizeText
  split
  · subst text; exact ⟨rfl, fun _ h => nomatch h⟩
  · refine ⟨validString_stringOfRunes _, fun r hr => ?_⟩
    rw [runesOf_stringOfRunes, List.map_map] at hr
    obtain ⟨r', -, rfl⟩ := List.mem_map.mp hr
    exact (sanitizedRune_sanitizeRune U r').encodedRune

/-- On valid UTF-8, `SanitizeText` changes nothing exactly when every rune is one it keeps. -/
theorem sanitizeText_eq_self_iff (U : UnicodeTables) {text : Bytes} (h : validString text = true) :
    sanitizeText U text = text ↔ ∀ r ∈ runesOf text, SanitizedRune U r := by
  unfold sanitizeText
  split
  · subst text; exact ⟨(fun _ _ h => nomatch h), fun _ => rfl⟩
  constructor
  · intro he r hr
    have hrunes := congrArg runesOf he
    rw [runesOf_stringOfRunes, List.map_map, ← List.map_id (runesOf text), List.map_id] at hrunes
    exact encodedRune_sanitizeRune_eq_self
      (List.map_eq_map_iff.mp (hrunes.trans (List.map_id _).symm) r hr)
  · intro hall
    conv => rhs; rw [← stringOfRunes_runesOf h]
    congr 1
    exact List.map_congr_left (fun r hr => sanitizeRune_eq_self_iff.mpr (hall r hr)) |>.trans
      (List.map_id _)

/-! ## Delivered text -/

/-- The text delivered for server bytes `b`: `b` itself when `ValidateTextData` accepts it, else
`SanitizeText(b)`, whose runes are all kept ones; valid UTF-8 with no control rune either way.
It equals `SanitizeText(b)` exactly when `b` fails validation or every rune of `b` is one
`SanitizeText` keeps. -/
theorem validateOrSanitize_text (U : UnicodeTables) (b : Bytes) (maxLength : Nat) :
    (validateTextData b maxLength = .ok () → validateOrSanitize U b maxLength = b) ∧
    (validateTextData b maxLength ≠ .ok () →
      validateOrSanitize U b maxLength = sanitizeText U b ∧
        ∀ r ∈ runesOf (validateOrSanitize U b maxLength), SanitizedRune U r) ∧
    validString (validateOrSanitize U b maxLength) = true ∧
    (∀ r ∈ runesOf (validateOrSanitize U b maxLength), ¬IsControl r) ∧
    (validateOrSanitize U b maxLength = sanitizeText U b ↔
      validateTextData b maxLength ≠ .ok () ∨ ∀ r ∈ runesOf b, SanitizedRune U r) := by
  unfold validateOrSanitize
  split
  · rename_i hv
    obtain ⟨-, hvalid, hctl⟩ := (validateTextData_ok_iff b maxLength).mp hv
    refine ⟨fun _ => rfl, fun h => absurd hv h, hvalid, hctl, ?_⟩
    rw [eq_comm, sanitizeText_eq_self_iff U hvalid]
    simp [hv]
  · rename_i e hv
    have hs := sanitizeText_runes U b
    refine ⟨(fun h => by rw [hv] at h; cases h), fun _ => ⟨rfl, hs.2⟩, hs.1,
      fun r hr => (hs.2 r hr).not_isControl, iff_of_true rfl (.inl (by simp [hv]))⟩

/-- DEL passes `ValidateTextData` but not `unicode.IsPrint`: a clipboard text "\x7F" is delivered
as it is, where `SanitizeText` would have made it `RuneError`. -/
example :
    (ServerCutTextMessage.read latin1Only {} [0, 0, 0, 0, 1, 0x7F]).2 =
        .ok (.serverCutText [0x7F], []) ∧
      sanitizeText latin1Only [0x7F] = [0xEF, 0xBF, 0xBD] :=
  ⟨rfl, rfl⟩

/-! ## Framing -/

/-- Two bytes early, `binary.Read` of a `uint32` takes the high half of the value. -/
theorem readU32_two_early (v : UInt32) (s : Bytes) :
    readU32 (0 :: 0 :: (be32 v ++ s)) =
      .ok (UInt32.ofNat (v.toNat / 65536), (be32 v).drop 2 ++ s) := by
  have hv := v.toNat_lt
  simp only [readU32, be32, List.cons_append, List.nil_append, bind_of_ok (readU8_cons _ _),
    pure_apply, List.drop, Except.ok.injEq, Prod.mk.injEq, and_true]
  apply UInt32.ext
  simp only [toNat_uint8_ofNat, toNat_uint32_ofNat, UInt8.toNat_zero]
  omega

/-- The big-endian bytes of a value below 65536 start with two zeros. -/
theorem be32_small {n : Nat} (h : n < 65536) :
    be32 (UInt32.ofNat n) = [0, 0, UInt8.ofNat (n / 256), UInt8.ofNat (n % 256)] := by
  simp only [be32, toNat_uint32_ofNat, List.cons.injEq, and_true]
  refine ⟨?_, ?_, ?_, ?_⟩ <;> apply UInt8.ext <;>
    simp only [toNat_uint8_ofNat, UInt8.toNat_zero] <;> omega

/-- On the RFC 6143 form of a clipboard text `t` (three padding bytes, `be32(n)`, the `n`
bytes) `Read` takes one padding byte and reads the length from the next four bytes, the
high half of `n`: it never returns with the stream just past the message, and below 65536
bytes it refuses the length as zero. -/
theorem ServerCutTextMessage.read_misframes (U : UnicodeTables) (c : ClientConn) (t rest : Bytes)
    (hpos : 0 < t.length) (hmax : t.length ≤ 10 * 1024 * 1024) :
    (∀ m, (ServerCutTextMessage.read U c
      ([0, 0, 0] ++ be32 (UInt32.ofNat t.length) ++ t ++ rest)).2 ≠ .ok (m, rest)) ∧
    (t.length < 65536 →
      (ServerCutTextMessage.read U c ([0, 0, 0] ++ be32 (UInt32.ofNat t.length) ++ t ++ rest)).2 =
        .error (.err (protocolError "ServerCutTextMessage.Read" "invalid clipboard text length"))) := by
  refine ⟨fun m h => ?_, fun hsmall => by rw [be32_small hsmall]; rfl⟩
  simp only [ServerCutTextMessage.read, bind_eq_ok, orFail_eq_ok] at h
  obtain ⟨_, _, hpad, len, _, hlen, _, _, hchk, text, _, htext, h⟩ := h
  cases h
  obtain ⟨hp, hs⟩ := readFull_eq_ok hpad
  obtain ⟨x, rfl⟩ := List.length_eq_one.mp hp
  simp only [List.cons_append, List.nil_append, List.singleton_append, List.append_assoc,
    List.cons.injEq] at hs
  rw [← hs.2, readU32_two_early] at hlen
  cases hlen
  obtain ⟨hlt, heq⟩ := readFull_eq_ok htext
  rw [(check_eq_ok.mp hchk).2] at heq
  have := congrArg List.length heq
  simp only [List.length_append, List.length_drop, be32_length, toNat_uint32_ofNat,
    Nat.reducePow, Nat.mod_eq_of_lt (by omega : t.length < 4294967296)] at this hlt
  omega

/-- The one-byte text "A": its length field is read as zero. -/
theorem ServerCutTextMessage.read_misframes_one :
    (ServerCutTextMessage.read latin1Only {} [0, 0, 0, 0, 0, 0, 1, 0x41]).2 =
      .error (.err (protocolError "ServerCutTextMessage.Read" "invalid clipboard text length")) :=
  (ServerCutTextMessage.read_misframes latin1Only {} [0x41] [] (by decide) (by decide)).2 (by decide)

end GoVnc
