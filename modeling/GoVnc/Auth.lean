import GoVnc.Wire

/-!
Authentication (`color.go`). A `ClientAuth` is modelled by its security type and
its `Handshake`, a decoder of the server's side of the connection that returns the bytes the
method wrote, an error, or a panic; `ValidateAuthMethod` also looks at the dynamic
type of a method, and of that it only reads the password of a `*PasswordAuth`,
which is kept beside the exchange. The answer of `PasswordAuth` is
`PasswordAuth.encrypt`, a parameter `encrypt` here, which may panic: its constant-time
delay does (see `Security.lean`).

An `AuthRegistry` maps security types to factories; `NegotiateAuth` picks the
first type of the preferred order (the server's order when the preference is
`nil`) that the server offers and the registry knows.

* `AuthRegistry.negotiateAuth_spec`: for every registry, server list and preference,
  `NegotiateAuth` returns the first type of the order that the server offers and the
  registry knows, with its method, and the `Unsupported` error exactly when there is none.
  The order is the server's only for a `nil` preference: an empty one refuses every server.
-/

namespace GoVnc

/-- A `ClientAuth`: its `SecurityType()`, its `Handshake` as a decoder of the server's bytes
(the bytes it writes, or the error it returns, or its panic), and the password of a
`*PasswordAuth`. -/
structure ClientAuth where
  securityType : UInt8
  handshake : Decoder Bytes
  password? : Option Bytes := none

/-- `ClientAuthNone`: type 1, nothing exchanged. -/
def clientAuthNone : ClientAuth := { securityType := 1, handshake := fun s => .ok ([], s) }

/-- `PasswordAuth{Password: password}`: type 2; a 16-byte challenge, answered with
`encrypt(password, challenge)`. A panic of `encrypt` is the handshake's. -/
def passwordAuth (encrypt : Bytes → Bytes → Except Panic (Except VNCError Bytes))
    (password : Bytes) : ClientAuth where
  securityType := 2
  password? := some password
  handshake s :=
    match readFull 16 s with
    | .error _ => .error (.err (networkError "PasswordAuth.Handshake"
        "failed to read authentication challenge"))
    | .ok (challenge, rest) =>
      match encrypt password challenge with
      | .error p => .error (.panic p)
      | .ok (.error _) =>
        .error (.err (authenticationError "PasswordAuth.Handshake" "failed to encrypt password"))
      | .ok (.ok response) => .ok (response, rest)

/-- The handshake of `PasswordAuth` depends only on the answer of `encrypt` to the challenge it
read. -/
theorem passwordAuth_handshake_congr
    {encrypt encrypt' : Bytes → Bytes → Except Panic (Except VNCError Bytes)}
    {password s challenge rest : Bytes} (hr : readFull 16 s = .ok (challenge, rest))
    (he : encrypt password challenge = encrypt' password challenge) :
    (passwordAuth encrypt password).handshake s = (passwordAuth encrypt' password).handshake s := by
  simp only [passwordAuth, hr, he]

/-- A panic of `encrypt` on the challenge is the handshake's panic. -/
theorem passwordAuth_handshake_panics
    {encrypt : Bytes → Bytes → Except Panic (Except VNCError Bytes)}
    {password s challenge rest : Bytes} {p : Panic} (hr : readFull 16 s = .ok (challenge, rest))
    (he : encrypt password challenge = .error p) :
    (passwordAuth encrypt password).handshake s = .error (.panic p) := by
  simp only [passwordAuth, hr, he]

/-- `AuthRegistry`: the factory registered for each security type. -/
structure AuthRegistry where
  factories : UInt8 → Option ClientAuth

namespace AuthRegistry

/-- `Register`: a later factory replaces an earlier one of the same type. -/
def register (r : AuthRegistry) (securityType : UInt8) (factory : ClientAuth) : AuthRegistry :=
  ⟨fun t => if t = securityType then some factory else r.factories t⟩

/-- `NegotiateAuth` with a live context: the first preferred type that the server offers and
the registry supports, with the method its factory creates (`CreateAuth` cannot fail on a
supported type). The error's `%v` lists are not rendered: Go prints the registry's types
in map order. -/
def negotiateAuth (r : AuthRegistry) (serverTypes : List UInt8)
    (preferredOrder : Option (List UInt8)) : Except VNCError (ClientAuth × UInt8) :=
  let order := preferredOrder.getD serverTypes
  match order.findSome? (fun p => if serverTypes.any (· = p) then (r.factories p).map (·, p) else none) with
  | some found => .ok found
  | none => .error (unsupportedError "AuthRegistry.NegotiateAuth"
      "no mutual authentication method found")

theorem negotiateAuth_mem {r : AuthRegistry} {types : List UInt8}
    {pref : Option (List UInt8)} {auth : ClientAuth} {t : UInt8}
    (h : r.negotiateAuth types pref = .ok (auth, t)) : t ∈ types := by
  simp only [AuthRegistry.negotiateAuth] at h
  split at h
  · rename_i hf
    cases h
    obtain ⟨p, -, hp⟩ := List.exists_of_findSome?_eq_some hf
    split at hp
    · rename_i hmem
      cases hr : r.factories p <;> simp [hr] at hp
      obtain ⟨-, rfl⟩ := hp
      simpa using hmem
    · cases hp
  · cases h

/-- The test `NegotiateAuth` makes of one preferred type succeeds exactly on a type the
server offers and the registry knows. -/
private theorem negotiate_select_eq_some {r : AuthRegistry} {serverTypes : List UInt8}
    {p : UInt8} {auth : ClientAuth} {t : UInt8} :
    (if serverTypes.any (· = p) then (r.factories p).map (·, p) else none) = some (auth, t) ↔
      r.factories p = some auth ∧ p = t ∧ p ∈ serverTypes := by
  by_cases h : p ∈ serverTypes <;> cases r.factories p <;> simp [h]

private theorem negotiate_select_eq_none {r : AuthRegistry} {serverTypes : List UInt8}
    {p : UInt8} :
    (if serverTypes.any (· = p) then (r.factories p).map (·, p) else none) = none ↔
      p ∉ serverTypes ∨ r.factories p = none := by
  by_cases h : p ∈ serverTypes <;> simp [h]

/-- An empty preference that is not `nil`, what the handshake builds from an empty `Auth`
slice, refuses every server list. -/
theorem negotiateAuth_empty (r : AuthRegistry) (serverTypes : List UInt8) :
    r.negotiateAuth serverTypes (some []) = .error (unsupportedError "AuthRegistry.NegotiateAuth"
      "no mutual authentication method found") := rfl

/-- `NegotiateAuth` returns a type and its method exactly when the type is the first of the
order (the preference, or the server's list for a `nil` preference) that the server offers
and the registry knows; it returns its `Unsupported` error exactly when no type of the order
is both, and no other error. -/
theorem negotiateAuth_spec (r : AuthRegistry) (serverTypes : List UInt8)
    (preferredOrder : Option (List UInt8)) :
    (∀ auth t, r.negotiateAuth serverTypes preferredOrder = .ok (auth, t) ↔
      ∃ pre post, preferredOrder.getD serverTypes = pre ++ t :: post ∧ t ∈ serverTypes ∧
        r.factories t = some auth ∧ ∀ p ∈ pre, p ∉ serverTypes ∨ r.factories p = none) ∧
    (r.negotiateAuth serverTypes preferredOrder =
        .error (unsupportedError "AuthRegistry.NegotiateAuth" "no mutual authentication method found") ↔
      ∀ p ∈ preferredOrder.getD serverTypes, p ∉ serverTypes ∨ r.factories p = none) ∧
    (∀ e, r.negotiateAuth serverTypes preferredOrder = .error e →
      e = unsupportedError "AuthRegistry.NegotiateAuth" "no mutual authentication method found") := by
  unfold AuthRegistry.negotiateAuth
  dsimp only
  split
  · rename_i found hf
    obtain ⟨pre, a, post, horder, ha, hpre⟩ := List.findSome?_eq_some_iff.mp hf
    refine ⟨fun auth t => ⟨fun h => ?_, fun ⟨pre', post', horder', ht, hauth, hpre'⟩ => ?_⟩,
      iff_of_false (by simp) fun hall => ?_, fun e h => by cases h⟩
    · cases h
      obtain ⟨hfac, rfl, hmem⟩ := negotiate_select_eq_some.mp ha
      exact ⟨pre, post, horder, hmem, hfac, fun p hp => negotiate_select_eq_none.mp (hpre p hp)⟩
    · have hfound := List.findSome?_eq_some_iff.mpr ⟨pre', t, post', horder',
        negotiate_select_eq_some.mpr ⟨hauth, rfl, ht⟩,
        fun p hp => negotiate_select_eq_none.mpr (hpre' p hp)⟩
      rw [hf] at hfound
      cases hfound; rfl
    · have hnone := negotiate_select_eq_none.mpr (hall a (by rw [horder]; simp))
      rw [ha] at hnone
      cases hnone
  · rename_i hf
    have hall := List.findSome?_eq_none_iff.mp hf
    refine ⟨fun auth t => iff_of_false (by simp) fun ⟨pre, post, horder, ht, hauth, _⟩ => ?_,
      iff_of_true rfl fun p hp => negotiate_select_eq_none.mp (hall p hp), fun e h => by cases h; rfl⟩
    rcases negotiate_select_eq_none.mp (hall t (by rw [horder]; simp)) with h | h
    · exact h ht
    · rw [hauth] at h; cases h

/-- `ValidateAuthMethod`: type 0 is refused, and so is a `*PasswordAuth` with an empty
password. -/
def validateAuthMethod (auth : ClientAuth) : Except VNCError Unit :=
  let op := "AuthRegistry.ValidateAuthMethod"
  if auth.securityType = 0 then .error (validationError op "invalid security type 0")
  else if auth.password? = some [] then
    .error (validationError op "password authentication requires non-empty password")
  else .ok ()

end AuthRegistry

/-- `NewAuthRegistry`: None for type 1 and a `PasswordAuth{}`, whose password is empty, for
type 2. -/
def newAuthRegistry (encrypt : Bytes → Bytes → Except Panic (Except VNCError Bytes)) :
    AuthRegistry :=
  ((⟨fun _ => none⟩ : AuthRegistry).register 1 clientAuthNone).register 2 (passwordAuth encrypt [])

/-- An encryption that answers with the challenge itself. -/
def identityCipher (_ challenge : Bytes) : Except Panic (Except VNCError Bytes) := .ok (.ok challenge)

/-- With the default registry and a server that offers type 1 only, which is registered: a
`nil` preference takes the server's order and chooses type 1, an empty preference that is not
`nil` refuses it. -/
theorem newAuthRegistry_empty_preference :
    (newAuthRegistry identityCipher).factories 1 = some clientAuthNone ∧
      (newAuthRegistry identityCipher).negotiateAuth [1] none = .ok (clientAuthNone, 1) ∧
      (newAuthRegistry identityCipher).negotiateAuth [1] (some []) =
        .error (unsupportedError "AuthRegistry.NegotiateAuth" "no mutual authentication method found") :=
  ⟨rfl, rfl, AuthRegistry.negotiateAuth_empty _ _⟩

/-- The legacy selection of the handshake (`FindAuth`): the first client method, in the
client's order, whose type the server offers. -/
def findAuth (clientAuths : List ClientAuth) (securityTypes : List UInt8) :
    Option (ClientAuth × UInt8) :=
  (clientAuths.find? fun a => securityTypes.any (· = a.securityType)).map
    fun a => (a, a.securityType)

theorem findAuth_mem {auths : List ClientAuth} {types : List UInt8} {auth : ClientAuth} {t : UInt8}
    (h : findAuth auths types = some (auth, t)) : t ∈ types := by
  obtain ⟨a, ha, he⟩ := Option.map_eq_some'.mp h
  cases he
  simpa using List.find?_some ha

end GoVnc
