import GoVnc.Auth
import GoVnc.ServerMessages

/-!
The RFB 3.8 handshake of `ClientConn.handshakeWithContext` and `ClientWithContext`,
with a live context. The handshake reads the server's side of the connection in
five phases (version, security types, authentication and security result,
ServerInit); what the client writes in between is collected in the result.
Writes are taken to succeed.

`ClientWithContext` closes the connection and returns no session when the
handshake returns an error; a panic inside the handshake returns nothing.
-/

namespace GoVnc

open Decoder InputValidator

/-- The bytes of an ASCII string literal. -/
def asciiBytes (s : String) : Bytes := s.toList.map fun ch => UInt8.ofNat ch.toNat

/-- `%#v` of a `[]uint8`. -/
def goSyntaxBytes (bs : Bytes) : String :=
  "[]byte\x7b" ++ ", ".intercalate (bs.map fun b => "0x" ++ String.mk (Nat.toDigits 16 b.toNat)) ++
    "\x7d"

/-! ## Protocol version -/

/-- An ASCII decimal digit. -/
def IsAsciiDigit (b : UInt8) : Prop := 0x30 ≤ b.toNat ∧ b.toNat ≤ 0x39

instance (b : UInt8) : Decidable (IsAsciiDigit b) := inferInstanceAs (Decidable (_ ∧ _))

theorem IsAsciiDigit.lt {b : UInt8} (h : IsAsciiDigit b) : b.toNat < 0x80 := by
  unfold IsAsciiDigit at h; omega

theorem isDigit_ascii_iff (U : UnicodeTables) {b : UInt8} (h : b.toNat < 0x80) :
    isDigit U b.toNat = true ↔ IsAsciiDigit b := by
  simp [isDigit, IsAsciiDigit, show b.toNat ≤ 0xFF by omega]

theorem not_isAsciiDigit_dot : ¬IsAsciiDigit 0x2E := by decide

theorem not_isAsciiDigit_newline : ¬IsAsciiDigit 0x0A := by decide

/-- The value of a run of decimal digits. -/
def decimalValue (ds : Bytes) : Nat := ds.foldl (fun n d => 10 * n + (d.toNat - 0x30)) 0

/-- `%d` into a `uint`: a maximal run of ASCII digits, at least one. The blanks `Sscanf`
skips first never reach it: the validator has refused them. -/
def scanUint (s : Bytes) : Option (Nat × Bytes) :=
  match s.span (fun b => decide (IsAsciiDigit b)) with
  | ([], _) => none
  | (ds, rest) => some (decimalValue ds, rest)

theorem scanUint_digits_append {ds : Bytes} {b : UInt8} (rest : Bytes) (hne : ds ≠ [])
    (hd : ∀ d ∈ ds, IsAsciiDigit d) (hb : ¬IsAsciiDigit b) :
    scanUint (ds ++ b :: rest) = some (decimalValue ds, b :: rest) := by
  have hd' : ∀ d ∈ ds, decide (IsAsciiDigit d) = true := fun d h => decide_eq_true (hd d h)
  have hb' : ¬ decide (IsAsciiDigit b) = true := by simpa using hb
  unfold scanUint
  rw [List.span_eq_take_drop, List.takeWhile_append_of_pos hd', List.dropWhile_append_of_pos hd']
  simp only [List.takeWhile_cons, List.dropWhile_cons, hb', Bool.false_eq_true, if_false,
    List.append_nil]

theorem scanUint_eq_some {s rest : Bytes} {n : Nat} (h : scanUint s = some (n, rest)) :
    ∃ ds, s = ds ++ rest ∧ ds ≠ [] ∧ (∀ d ∈ ds, IsAsciiDigit d) ∧ n = decimalValue ds ∧
      ∀ b r, rest = b :: r → ¬IsAsciiDigit b := by
  unfold scanUint at h
  rw [List.span_eq_take_drop] at h
  split at h
  · cases h
  rename_i ds r hne hs
  cases h
  obtain ⟨rfl, rfl⟩ := Prod.mk.inj hs
  refine ⟨_, (List.takeWhile_append_dropWhile _ _).symm, hne,
    fun d hd => by simpa using List.mem_takeWhile_imp hd, rfl, fun b r hr => ?_⟩
  have := List.head_dropWhile_not (fun b => decide (IsAsciiDigit b)) s (by simp [hr])
  simp only [hr, List.head_cons, decide_eq_false_iff_not] at this
  exact this

/-- `parseProtocolVersion`: `fmt.Sscanf(pv, "RFB %d.%d\n", &major, &minor)`. Fewer than two
numbers scanned is an invalid format; two numbers without the newline is a parse error. -/
def parseProtocolVersion (pv : Bytes) : Except VNCError (Nat × Nat) :=
  let op := "parseProtocolVersion"
  let invalid := protocolError op "invalid protocol version format"
  if pv.length < 12 then
    .error (protocolError op s!"protocol version message too short ({pv.length} < 12)")
  else
    match pv with
    | 0x52 :: 0x46 :: 0x42 :: 0x20 :: s =>
      match scanUint s with
      | some (major, 0x2E :: s) =>
        match scanUint s with
        | some (minor, 0x0A :: _) => .ok (major, minor)
        | some _ => .error (protocolError op "failed to parse protocol version")
        | none => .error invalid
      | _ => .error invalid
    | _ => .error invalid

/-- `"RFB xxx.yyy\n"`. -/
def versionMessage (major minor : Bytes) : Bytes :=
  asciiBytes "RFB " ++ major ++ 0x2E :: minor ++ [0x0A]

/-- Three ASCII digits. -/
def ThreeDigits (ds : Bytes) : Prop := ds.length = 3 ∧ ∀ d ∈ ds, IsAsciiDigit d

instance (ds : Bytes) : Decidable (ThreeDigits ds) := inferInstanceAs (Decidable (_ ∧ _))

theorem versionMessage_length (major minor : Bytes) :
    (versionMessage major minor).length = major.length + minor.length + 6 := by
  simp [versionMessage, asciiBytes]; omega

theorem ThreeDigits.ne_nil {ds : Bytes} (h : ThreeDigits ds) : ds ≠ [] := by
  intro hn; have := h.1; simp [hn] at this

theorem parseProtocolVersion_versionMessage {major minor : Bytes} (hM : ThreeDigits major)
    (hm : ThreeDigits minor) :
    parseProtocolVersion (versionMessage major minor) = .ok (decimalValue major, decimalValue minor) := by
  have hlen : ¬(versionMessage major minor).length < 12 := by
    rw [versionMessage_length, hM.1, hm.1]; omega
  unfold parseProtocolVersion
  rw [if_neg hlen]
  simp only [show versionMessage major minor =
    0x52 :: 0x46 :: 0x42 :: 0x20 :: (major ++ 0x2E :: (minor ++ [0x0A])) by
      simp [versionMessage, asciiBytes]]
  rw [scanUint_digits_append _ hM.ne_nil hM.2 not_isAsciiDigit_dot]
  simp [scanUint_digits_append [] hm.ne_nil hm.2 not_isAsciiDigit_newline]

theorem validateProtocolVersion_versionMessage (U : UnicodeTables) {major minor : Bytes}
    (hM : ThreeDigits major) (hm : ThreeDigits minor) :
    validateProtocolVersion U (versionMessage major minor) = .ok () := by
  obtain ⟨hMl, hMd⟩ := hM
  obtain ⟨hml, hmd⟩ := hm
  match major, minor, hMl, hml with
  | [a1, a2, a3], [b1, b2, b3], _, _ =>
    simp only [List.mem_cons, List.mem_singleton, forall_eq_or_imp, forall_eq, List.not_mem_nil,
      or_false] at hMd hmd
    obtain ⟨ha1, ha2, ha3⟩ := hMd
    obtain ⟨hb1, hb2, hb3⟩ := hmd
    have hvp : ∀ d ∈ [a1, a2, a3, 0x2E, b1, b2, b3], d.toNat < 0x80 := by
      simp only [List.mem_cons, List.mem_singleton, forall_eq_or_imp, forall_eq, List.not_mem_nil,
        or_false]
      exact ⟨ha1.lt, ha2.lt, ha3.lt, by decide, hb1.lt, hb2.lt, hb3.lt⟩
    unfold validateProtocolVersion
    simp only [show versionMessage [a1, a2, a3] [b1, b2, b3] =
      [0x52, 0x46, 0x42, 0x20, a1, a2, a3, 0x2E, b1, b2, b3, 0x0A] from rfl]
    simp [rangeString_ascii hvp, isDigit_ascii_iff U ha1.lt, isDigit_ascii_iff U ha2.lt,
      isDigit_ascii_iff U ha3.lt, isDigit_ascii_iff U hb1.lt, isDigit_ascii_iff U hb2.lt,
      isDigit_ascii_iff U hb3.lt, ha1, ha2, ha3, hb1, hb2, hb3]

theorem validateProtocolVersion_digits {U : UnicodeTables} {v : Bytes}
    (h : validateProtocolVersion U v = .ok ()) :
    (rangeString ((v.drop 4).take 7)).all (fun (i, r) => i = 3 || isDigit U r) = true := by
  unfold validateProtocolVersion at h
  dsimp only at h
  split_ifs at h
  assumption

theorem digit_check_offset (U : UnicodeTables) {p q : Bytes} {b : UInt8}
    (hp : ∀ d ∈ p, d.toNat < 0x80) (hb : b.toNat < 0x80) (hnd : ¬IsAsciiDigit b)
    (h : (rangeString (p ++ b :: q)).all (fun (i, r) => i = 3 || isDigit U r) = true) :
    p.length = 3 := by
  have hascii : ∀ d ∈ p ++ [b], d.toNat < 0x80 := by
    simpa only [List.mem_append, List.mem_singleton, or_imp, forall_and, forall_eq] using
      And.intro hp hb
  have hr := decodeRunesFrom_ascii_append (p ++ [b]) q q.length 0 hascii
  rw [List.append_assoc, List.singleton_append] at hr
  unfold rangeString at h
  rw [show (p ++ b :: q).length = (p ++ [b]).length + q.length by simp; omega, hr, List.all_append,
    Bool.and_eq_true, List.all_eq_true] at h
  have := h.1 (p.length, b.toNat) (by simp [List.enumFrom_append])
  simpa [isDigit_ascii_iff U hb, hnd] using this

private theorem take_append_cons {p r : Bytes} {n : Nat} (b : UInt8) (h : p.length < n) :
    (p ++ b :: r).take n = p ++ b :: r.take (n - p.length - 1) := by
  rw [List.take_append_eq_append_take, List.take_of_length_le (by omega)]
  obtain ⟨k, hk⟩ : ∃ k, n - p.length = k + 1 := ⟨n - p.length - 1, by omega⟩
  rw [hk, List.take_succ_cons, Nat.add_sub_cancel]

theorem version_of_parse {U : UnicodeTables} {pv : Bytes} {maj min : Nat} (hlen : pv.length = 12)
    (hv : validateProtocolVersion U pv = .ok ()) (hp : parseProtocolVersion pv = .ok (maj, min)) :
    ∃ major minor, ThreeDigits major ∧ ThreeDigits minor ∧ pv = versionMessage major minor ∧
      maj = decimalValue major ∧ min = decimalValue minor := by
  unfold parseProtocolVersion at hp
  rw [if_neg (by omega)] at hp
  split at hp
  · rename_i t
    split at hp
    · rename_i t2 h1
      split at hp
      · rename_i t3 h2
        cases hp
        obtain ⟨ds1, rfl, -, hd1, rfl, -⟩ := scanUint_eq_some h1
        obtain ⟨ds2, rfl, -, hd2, rfl, -⟩ := scanUint_eq_some h2
        have hall := validateProtocolVersion_digits hv
        simp only [List.drop_succ_cons, List.drop_zero] at hall
        simp only [List.length_cons, List.length_append] at hlen
        have ha1 : ∀ d ∈ ds1, d.toNat < 0x80 := fun d hd => (hd1 d hd).lt
        have ha2 : ∀ d ∈ ds2, d.toNat < 0x80 := fun d hd => (hd2 d hd).lt
        have h3 : ds1.length = 3 := by
          rw [take_append_cons _ (by omega)] at hall
          exact digit_check_offset U ha1 (by decide) not_isAsciiDigit_dot hall
        have h3' : ds2.length = 3 := by
          by_contra hne
          rw [take_append_cons _ (by omega), take_append_cons _ (by omega),
            show ∀ q, ds1 ++ 46 :: (ds2 ++ 10 :: q) = (ds1 ++ 46 :: ds2) ++ 10 :: q by simp] at hall
          have := digit_check_offset U (by simpa [or_imp, forall_and] using ⟨ha1, by decide, ha2⟩)
            (by decide) not_isAsciiDigit_newline hall
          simp at this
          omega
        have ht3 : t3 = [] := List.eq_nil_of_length_eq_zero (by omega)
        subst ht3
        exact ⟨ds1, ds2, ⟨h3, hd1⟩, ⟨h3', hd2⟩, by simp [versionMessage, asciiBytes], rfl, rfl⟩
      · cases hp
      · cases hp
    · cases hp
  · cases hp

/-! ## Phases -/

/-- `readErrorReason`: a length of at most 64 KiB and that many bytes, checked and
sanitised; any failure becomes the reason's text. -/
def readErrorReason (U : UnicodeTables) : Decoder Bytes := fun s =>
  match readU32 s with
  | .error _ => .ok (asciiBytes "<failed to read error reason length>", [])
  | .ok (reasonLen, s) =>
    match validateMessageLength reasonLen (64 * 1024) with
    | .error _ => .ok (asciiBytes "<invalid error reason length>", s)
    | .ok () =>
      match readFull reasonLen.toNat s with
      | .error _ => .ok (asciiBytes "<failed to read error reason>", [])
      | .ok (reason, s) => .ok (validateOrSanitize U reason (64 * 1024), s)

theorem readErrorReason_noPanic (U : UnicodeTables) : (readErrorReason U).NoPanic := by
  intro s p h
  unfold readErrorReason at h
  repeat' split at h
  all_goals cases h

/-- The version phase: twelve bytes, `ValidateProtocolVersion`, `parseProtocolVersion` and
the 3.8 floor on each number. -/
def readVersion (U : UnicodeTables) : Decoder (Nat × Nat) := do
  let op := "handshake"
  let protocolVersion ← (readFull 12).orFail
    (networkError op "failed to read protocol version from server")
  check (validateProtocolVersion U protocolVersion)
    (protocolError op "server sent invalid protocol version format")
  let (maxMajor, maxMinor) ← lift (parseProtocolVersion protocolVersion)
  if maxMajor < 3 then
    fail (.err (unsupportedError op s!"unsupported major version, less than 3: {maxMajor}"))
  else if maxMinor < 8 then
    fail (.err (unsupportedError op s!"unsupported minor version, less than 8: {maxMinor}"))
  else pure (maxMajor, maxMinor)

theorem readVersion_versionMessage (U : UnicodeTables) {major minor : Bytes}
    (hM : ThreeDigits major) (hm : ThreeDigits minor) (h3 : 3 ≤ decimalValue major)
    (h8 : 8 ≤ decimalValue minor) (s : Bytes) :
    readVersion U (versionMessage major minor ++ s) =
      .ok ((decimalValue major, decimalValue minor), s) := by
  have hlen : (versionMessage major minor).length = 12 := by
    rw [versionMessage_length, hM.1, hm.1]
  have hread := readFull_append (versionMessage major minor) s
  rw [hlen] at hread
  simp only [readVersion, bind_apply, orFail_of_ok _ hread, bind_of_ok, 
    validateProtocolVersion_versionMessage U hM hm, check_ok, lift, parseProtocolVersion_versionMessage hM hm]
  simp [Nat.not_lt.mpr h3, Nat.not_lt.mpr h8]

theorem readVersion_eq_ok {U : UnicodeTables} {s s' : Bytes} {v : Nat × Nat}
    (h : readVersion U s = .ok (v, s')) :
    ∃ major minor, ThreeDigits major ∧ ThreeDigits minor ∧ 3 ≤ decimalValue major ∧
      8 ≤ decimalValue minor ∧ s = versionMessage major minor ++ s' := by
  simp only [readVersion, bind_eq_ok] at h
  obtain ⟨pv, _, hpv, _, _, hval, ⟨maj, min⟩, _, hparse, h⟩ := h
  obtain ⟨hlen, rfl⟩ := readFull_eq_ok (orFail_eq_ok.mp hpv)
  obtain ⟨hv, rfl⟩ := check_eq_ok.mp hval
  obtain ⟨hp, rfl⟩ := lift_eq_ok.mp hparse
  obtain ⟨major, minor, hM, hm, rfl, rfl, rfl⟩ := version_of_parse hlen hv hp
  split at h
  · cases h
  split at h
  · cases h
  cases h
  exact ⟨major, minor, hM, hm, by omega, by omega, rfl⟩

theorem readVersion_noPanic (U : UnicodeTables) : (readVersion U).NoPanic :=
  .bind (.orFail (readFull_noPanic _) _) fun _ => .bind (.check _ _) fun _ =>
    .bind (.lift _) fun _ => .ite (.fail_err _) (.ite (.fail_err _) (.pure _))

/-- The security-types phase: a count, with a failure reason when it is 0, then the types,
checked by `ValidateSecurityTypes`. -/
def readSecurityTypes (U : UnicodeTables) : Decoder (List UInt8) := do
  let op := "handshake"
  let numSecurityTypes ← readU8.orFail (networkError op "failed to read number of security types")
  if numSecurityTypes = 0 then
    let reason ← readErrorReason U
    fail (.err (authenticationError op s!"no security types available: {textOf reason}"))
  else
    let securityTypes ← (readFull numSecurityTypes.toNat).orFail
      (networkError op "failed to read security types")
    check (validateSecurityTypes securityTypes) (protocolError op "server sent invalid security types")
    pure securityTypes

theorem readSecurityTypes_append (U : UnicodeTables) {types : List UInt8}
    (h : validateSecurityTypes types = .ok ()) (s : Bytes) :
    readSecurityTypes U (UInt8.ofNat types.length :: types ++ s) = .ok (types, s) := by
  obtain ⟨h0, h255, -⟩ := (validateSecurityTypes_ok_iff types).mp h
  have hn : (UInt8.ofNat types.length).toNat = types.length := by simp; omega
  have hne : UInt8.ofNat types.length ≠ 0 := fun h' => by
    have : (UInt8.ofNat types.length).toNat = 0 := by rw [h']; rfl
    omega
  simp only [readSecurityTypes, bind_apply, List.cons_append, orFail_of_ok _ (readU8_cons _ _),
    bind_of_ok, if_neg hne, hn, orFail_of_ok _ (readFull_append types s), h, check_ok, pure_apply]

theorem readSecurityTypes_eq_ok {U : UnicodeTables} {s s' : Bytes} {types : List UInt8}
    (h : readSecurityTypes U s = .ok (types, s')) :
    validateSecurityTypes types = .ok () ∧ s = UInt8.ofNat types.length :: types ++ s' := by
  simp only [readSecurityTypes, bind_eq_ok] at h
  obtain ⟨n, _, hn, h⟩ := h
  split at h
  · obtain ⟨_, _, -, h⟩ := bind_eq_ok.mp h
    cases h
  simp only [bind_eq_ok] at h
  obtain ⟨ts, _, hts, _, _, hc, h⟩ := h
  cases h
  obtain ⟨hlen, rfl⟩ := readFull_eq_ok (orFail_eq_ok.mp hts)
  obtain ⟨hv, rfl⟩ := check_eq_ok.mp hc
  refine ⟨hv, ?_⟩
  rw [readU8_eq_ok (orFail_eq_ok.mp hn), List.cons_append, hlen]
  have := n.toNat_lt
  exact congrArg (· :: _) (UInt8.ext (by simp; omega))

theorem readSecurityTypes_noPanic (U : UnicodeTables) : (readSecurityTypes U).NoPanic :=
  .bind (.orFail readU8_noPanic _) fun _ =>
    .ite (.bind (readErrorReason_noPanic U) fun _ => .fail_err _)
      (.bind (.orFail (readFull_noPanic _) _) fun _ => .bind (.check _ _) fun _ => .pure _)

/-- `ClientConfig`, the fields the handshake and `mainLoop` read. `auth` and `serverMessageCh`
keep Go's difference between `nil` and a value. -/
structure ClientConfig where
  auth : Option (List ClientAuth) := none
  exclusive : Bool := false
  authRegistry : Option AuthRegistry := none
  serverMessageCh : Bool := false
  serverMessages : List MessageReader := []

/-- The choice of a method: `NegotiateAuth` over the configured methods' types when a
registry is set, else the legacy `FindAuth` over `Auth` (`ClientAuthNone` when `nil`). -/
def selectAuth (cfg : ClientConfig) (securityTypes : List UInt8) :
    Except VNCError (ClientAuth × UInt8) :=
  match cfg.authRegistry with
  | some registry =>
    match registry.negotiateAuth securityTypes (cfg.auth.map (·.map (·.securityType))) with
    | .ok found => .ok found
    | .error _ => .error (authenticationError "handshake" "authentication negotiation failed")
  | none =>
    match findAuth (cfg.auth.getD [clientAuthNone]) securityTypes with
    | some found => .ok found
    | none => .error (authenticationError "handshake"
        s!"no suitable auth schemes found. server supported: {goSyntaxBytes securityTypes}")

theorem selectAuth_mem {cfg : ClientConfig} {types : List UInt8} {auth : ClientAuth} {t : UInt8}
    (h : selectAuth cfg types = .ok (auth, t)) : t ∈ types := by
  unfold selectAuth at h
  split at h <;> split at h
  · cases h; exact AuthRegistry.negotiateAuth_mem ‹_›
  · cases h
  · cases h; exact findAuth_mem ‹_›
  · cases h

/-- `ValidateAuthMethod`, made only when a registry is set. -/
def checkAuthMethod (cfg : ClientConfig) (auth : ClientAuth) : Decoder Unit :=
  if cfg.authRegistry.isSome then
    check (AuthRegistry.validateAuthMethod auth)
      (authenticationError "handshake" "authentication method validation failed")
  else pure ()

/-- The methods the handshake goes on with once chosen: with a registry, those that
`ValidateAuthMethod` accepts. -/
def AuthAccepted (cfg : ClientConfig) (auth : ClientAuth) : Prop :=
  cfg.authRegistry.isSome → AuthRegistry.validateAuthMethod auth = .ok ()

theorem checkAuthMethod_noPanic (cfg : ClientConfig) (auth : ClientAuth) :
    (checkAuthMethod cfg auth).NoPanic :=
  .ite (.check _ _) (.pure _)

theorem checkAuthMethod_eq_ok {cfg : ClientConfig} {auth : ClientAuth} {s s' : Bytes} {u : Unit} :
    checkAuthMethod cfg auth s = .ok (u, s') ↔ AuthAccepted cfg auth ∧ s' = s := by
  unfold checkAuthMethod AuthAccepted
  split
  · rename_i h; simp [check_eq_ok, h]
  · rename_i h; simp [h, eq_comm]

/-- The security result: 1 is a failure with a reason, every other word a success. -/
def readSecurityResult (U : UnicodeTables) : Decoder Unit := do
  let op := "handshake"
  let securityResult ← readU32.orFail (networkError op "failed to read security result")
  if securityResult = 1 then
    let reason ← readErrorReason U
    fail (.err (authenticationError op s!"security handshake failed: {textOf reason}"))
  else pure ()

theorem readSecurityResult_append (U : UnicodeTables) {r : UInt32} (hr : r ≠ 1) (s : Bytes) :
    readSecurityResult U (be32 r ++ s) = .ok ((), s) := by
  simp [readSecurityResult, bind_apply, orFail_of_ok _ (readU32_be32 r s), hr]

theorem readSecurityResult_eq_ok {U : UnicodeTables} {s s' : Bytes} {u : Unit}
    (h : readSecurityResult U s = .ok (u, s')) : ∃ r, r ≠ 1 ∧ s = be32 r ++ s' := by
  simp only [readSecurityResult, bind_eq_ok] at h
  obtain ⟨r, _, hr, h⟩ := h
  split at h
  · obtain ⟨_, _, -, h⟩ := bind_eq_ok.mp h
    cases h
  · cases h
    exact ⟨r, ‹_›, readU32_eq_ok (orFail_eq_ok.mp hr)⟩

theorem readSecurityResult_noPanic (U : UnicodeTables) : (readSecurityResult U).NoPanic :=
  .bind (.orFail readU32_noPanic _) fun _ =>
    .ite (.bind (readErrorReason_noPanic U) fun _ => .fail_err _) (.pure _)

/-- The authentication phase: the selected method and type, `ValidateAuthMethod`, the
method's exchange and the security result. Returns the type and the bytes the method wrote. -/
def authenticate (U : UnicodeTables) (cfg : ClientConfig) (securityTypes : List UInt8) :
    Decoder (UInt8 × Bytes) := do
  let (auth, selectedSecurityType) ← lift (selectAuth cfg securityTypes)
  checkAuthMethod cfg auth
  let authWritten ← auth.handshake.orFail
    (authenticationError "handshake" "authentication handshake failed")
  readSecurityResult U
  pure (selectedSecurityType, authWritten)

theorem authenticate_of (U : UnicodeTables) {cfg : ClientConfig} {types : List UInt8}
    {auth : ClientAuth} {t : UInt8} {s s' authWritten : Bytes} {r : UInt32}
    (hsel : selectAuth cfg types = .ok (auth, t)) (hacc : AuthAccepted cfg auth)
    (hx : auth.handshake s = .ok (authWritten, be32 r ++ s')) (hr : r ≠ 1) :
    authenticate U cfg types s = .ok ((t, authWritten), s') := by
  have hc : checkAuthMethod cfg auth s = .ok ((), s) := checkAuthMethod_eq_ok.mpr ⟨hacc, rfl⟩
  simp only [authenticate, bind_apply, lift, hsel, bind_of_ok, hc,
    orFail_of_ok _ hx, readSecurityResult_append U hr s', pure_apply]

theorem authenticate_eq_ok {U : UnicodeTables} {cfg : ClientConfig} {types : List UInt8}
    {t : UInt8} {s s' authWritten : Bytes}
    (h : authenticate U cfg types s = .ok ((t, authWritten), s')) :
    ∃ auth r, selectAuth cfg types = .ok (auth, t) ∧ AuthAccepted cfg auth ∧ r ≠ 1 ∧
      auth.handshake s = .ok (authWritten, be32 r ++ s') := by
  simp only [authenticate, bind_eq_ok] at h
  obtain ⟨⟨auth, t'⟩, _, hsel, _, _, hc, w, _, hx, _, _, hres, h⟩ := h
  cases h
  obtain ⟨hsel', rfl⟩ := lift_eq_ok.mp hsel
  obtain ⟨hacc, rfl⟩ := checkAuthMethod_eq_ok.mp hc
  obtain ⟨r, hr, rfl⟩ := readSecurityResult_eq_ok hres
  exact ⟨auth, r, hsel', hacc, hr, orFail_eq_ok.mp hx⟩

/-- The authentication phase panics only in the exchange of the method it chose and accepted,
on the bytes it was given. -/
theorem authenticate_panics {U : UnicodeTables} {cfg : ClientConfig} {types : List UInt8}
    {s : Bytes} {p : Panic} (h : authenticate U cfg types s = .error (.panic p)) :
    ∃ auth t, selectAuth cfg types = .ok (auth, t) ∧ AuthAccepted cfg auth ∧
      auth.handshake s = .error (.panic p) := by
  simp only [authenticate, bind_eq_error] at h
  rcases h with h | ⟨⟨auth, t⟩, s₁, hsel, h | ⟨_, s₂, hc, h | ⟨_, _, -, h | ⟨_, _, -, h⟩⟩⟩⟩
  · exact absurd h (NoPanic.lift _ _ _)
  · exact absurd h (checkAuthMethod_noPanic cfg auth _ _)
  · obtain ⟨hsel', rfl⟩ := lift_eq_ok.mp hsel
    obtain ⟨hacc, rfl⟩ := checkAuthMethod_eq_ok.mp hc
    exact ⟨auth, t, hsel', hacc, orFail_eq_panic.mp h⟩
  · exact absurd h (readSecurityResult_noPanic U _ _)
  · cases h

/-- ServerInit: the framebuffer size, the pixel format and the desktop name, each checked. -/
def readServerInit (U : UnicodeTables) : Decoder (UInt16 × UInt16 × PixelFormat × Bytes) := do
  let op := "handshake"
  let width ← readU16.orFail (networkError op "failed to read framebuffer width")
  let height ← readU16.orFail (networkError op "failed to read framebuffer height")
  check (validateFramebufferDimensions width height)
    (protocolError op "server sent invalid framebuffer dimensions")
  let pixelFormat ← readPixelFormat.orFail (protocolError op "failed to read pixel format")
  check (validatePixelFormat (some pixelFormat)) (protocolError op "server sent invalid pixel format")
  let nameLength ← readU32.orFail (networkError op "failed to read desktop name length")
  check (validateMessageLength nameLength (1024 * 1024))
    (protocolError op "server sent invalid desktop name length")
  let nameBytes ← (readFull nameLength.toNat).orFail (networkError op "failed to read desktop name")
  pure (width, height, pixelFormat, validateOrSanitize U nameBytes (1024 * 1024))

/-- ServerInit as the server sends it. -/
def serverInitMessage (width height : UInt16) (pixelFormat name : Bytes) : Bytes :=
  be16 width ++ be16 height ++ pixelFormat ++ be32 (UInt32.ofNat name.length) ++ name

theorem readServerInit_append (U : UnicodeTables) {width height : UInt16} {raw name : Bytes}
    {pf : PixelFormat} (hdim : validateFramebufferDimensions width height = .ok ())
    (hlen : raw.length = 16) (hraw : readPixelFormat raw = .ok (pf, []))
    (hpf : validatePixelFormat (some pf) = .ok ()) (hname0 : 0 < name.length)
    (hname : name.length ≤ 1024 * 1024) (s : Bytes) :
    readServerInit U (serverInitMessage width height raw name ++ s) =
      .ok ((width, height, pf, validateOrSanitize U name (1024 * 1024)), s) := by
  have hn : (UInt32.ofNat name.length).toNat = name.length := by simp; omega
  have hml : validateMessageLength (UInt32.ofNat name.length) (1024 * 1024) = .ok () :=
    (validateMessageLength_ok_iff _ _).mpr ⟨by omega, by rw [hn]; exact hname⟩
  simp only [serverInitMessage, List.append_assoc]
  simp only [readServerInit, bind_apply, orFail_of_ok _ (readU16_be16 _ _), bind_of_ok, hdim,
    check_ok, orFail_of_ok _ (readPixelFormat_append hlen hraw _), hpf,
    orFail_of_ok _ (readU32_be32 _ _), hml, hn, orFail_of_ok _ (readFull_append name s), pure_apply]

theorem readServerInit_eq_ok {U : UnicodeTables} {s s' : Bytes} {width height : UInt16}
    {pf : PixelFormat} {desktopName : Bytes}
    (h : readServerInit U s = .ok ((width, height, pf, desktopName), s')) :
    ∃ raw name, validateFramebufferDimensions width height = .ok () ∧ raw.length = 16 ∧
      readPixelFormat raw = .ok (pf, []) ∧ validatePixelFormat (some pf) = .ok () ∧
      0 < name.length ∧ name.length ≤ 1024 * 1024 ∧
      desktopName = validateOrSanitize U name (1024 * 1024) ∧
      s = serverInitMessage width height raw name ++ s' := by
  simp only [readServerInit, bind_eq_ok] at h
  obtain ⟨w, _, hw, hh', _, hh, _, _, hd, pf', _, hp, _, _, hv, n, _, hn, _, _, hm, name, _, hname, h⟩ := h
  cases h
  obtain ⟨hdim, rfl⟩ := check_eq_ok.mp hd
  obtain ⟨hvpf, rfl⟩ := check_eq_ok.mp hv
  obtain ⟨hlen', rfl⟩ := check_eq_ok.mp hm
  obtain ⟨hlen, rfl⟩ := readFull_eq_ok (orFail_eq_ok.mp hname)
  obtain ⟨raw, hraw, rfl, hpf⟩ := readPixelFormat_eq_ok (orFail_eq_ok.mp hp)
  obtain ⟨hm0, hm1⟩ := (validateMessageLength_ok_iff _ _).mp hlen'
  have := n.toNat_lt
  refine ⟨raw, name, hdim, hraw, hpf, hvpf, by omega, by simpa [hlen] using hm1, rfl, ?_⟩
  rw [readU16_eq_ok (orFail_eq_ok.mp hw), readU16_eq_ok (orFail_eq_ok.mp hh),
    readU32_eq_ok (orFail_eq_ok.mp hn)]
  have hnn : n = UInt32.ofNat name.length := UInt32.ext (by simp; omega)
  simp [serverInitMessage, hnn]

theorem readServerInit_noPanic (U : UnicodeTables) : (readServerInit U).NoPanic :=
  .bind (.orFail readU16_noPanic _) fun _ => .bind (.orFail readU16_noPanic _) fun _ =>
    .bind (.check _ _) fun _ => .bind (.orFail readPixelFormat_noPanic _) fun _ =>
      .bind (.check _ _) fun _ => .bind (.orFail readU32_noPanic _) fun _ =>
        .bind (.check _ _) fun _ => .bind (.orFail (readFull_noPanic _) _) fun _ => .pure _

/-! ## The handshake -/

/-- What a handshake establishes: the ServerInit values and the bytes the client wrote. -/
structure HandshakeResult where
  width : UInt16
  height : UInt16
  pixelFormat : PixelFormat
  desktopName : Bytes
  written : Bytes

/-- `handshakeWithContext`. The configuration is first read when the method is chosen, so a
`nil` one is a nil dereference there. -/
def handshakeWithContext (U : UnicodeTables) (cfg : Option ClientConfig) :
    Decoder HandshakeResult := do
  let _ ← readVersion U
  let securityTypes ← readSecurityTypes U
  match cfg with
  | none => fail (.panic .nilDereference)
  | some cfg =>
    let (selectedSecurityType, authWritten) ← authenticate U cfg securityTypes
    let (width, height, pixelFormat, desktopName) ← readServerInit U
    let sharedFlag : UInt8 := if cfg.exclusive then 0 else 1
    pure { width, height, pixelFormat, desktopName,
           written := asciiBytes "RFB 003.008\n" ++ [selectedSecurityType] ++ authWritten ++
             [sharedFlag] }

/-- With a configuration the handshake panics only in the chosen method's exchange: after the
version and the security types were read, with a method chosen and accepted, on the bytes that
follow the types. -/
theorem handshakeWithContext_panics {U : UnicodeTables} {cfg : ClientConfig} {B : Bytes}
    {p : Panic} (h : handshakeWithContext U (some cfg) B = .error (.panic p)) :
    ∃ v s₁ types s₂ auth t, readVersion U B = .ok (v, s₁) ∧ readSecurityTypes U s₁ = .ok (types, s₂) ∧
      selectAuth cfg types = .ok (auth, t) ∧ AuthAccepted cfg auth ∧
      auth.handshake s₂ = .error (.panic p) := by
  simp only [handshakeWithContext, bind_eq_error] at h
  rcases h with h | ⟨v, s₁, hv, h | ⟨types, s₂, ht, h | ⟨_, _, -, h | ⟨_, _, -, h⟩⟩⟩⟩
  · exact absurd h (readVersion_noPanic U _ _)
  · exact absurd h (readSecurityTypes_noPanic U _ _)
  · obtain ⟨auth, t, hsel, hacc, hx⟩ := authenticate_panics h
    exact ⟨v, s₁, types, s₂, auth, t, hv, ht, hsel, hacc, hx⟩
  · exact absurd h (readServerInit_noPanic U _ _)
  · cases h

/-- The session a handshake leaves: the ServerInit values, an empty colour map and no
encodings. -/
def HandshakeResult.session (r : HandshakeResult) : ClientConn :=
  { frameBufferWidth := r.width, frameBufferHeight := r.height, pixelFormat := r.pixelFormat,
    desktopName := r.desktopName }

/-- What `ClientWithContext` leaves. -/
inductive ConnectResult
  /-- A session (its reader task started), the bytes written and the server bytes left. -/
  | session (conn : ClientConn) (written rest : Bytes)
  /-- The handshake's error, returned after `conn.Close()`. -/
  | closed (f : Fault)
  /-- A panic inside the handshake. -/
  | panicked (p : Panic)

/-- `ClientWithContext` on a server stream. -/
def clientWithContext (U : UnicodeTables) (cfg : Option ClientConfig) (s : Bytes) : ConnectResult :=
  match handshakeWithContext U cfg s with
  | .ok (r, rest) => .session r.session r.written rest
  | .error (.panic p) => .panicked p
  | .error f => .closed f

end GoVnc
