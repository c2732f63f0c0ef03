import GoVnc.Handshake
import GoVnc.Security

/-!
What `ClientWithContext` does with a server's opening, as a whole.

* `clientWithContext_opening`: with a configuration, the handshake returns a
  session exactly for the streams that open one (`Opening`), with a security
  result of 0 in one direction and of anything but 1 in the other; it panics only
  in the chosen method's exchange, and every other stream closes the connection.
* `clientWithContext_refuses_vnc_accepts_result_two`: the VNC method of `NewAuthRegistry`
  is refused after it is chosen, however the server answers; a security result of 2 opens
  a session; a `PasswordAuth` whose encryption took 49 999 995 ns panics and leaves the
  connection open.
* `clientWithContext_nil_config`: without a configuration, every stream that
  gets past the security types panics.
-/

namespace GoVnc

open Decoder InputValidator

/-! ## Openings -/

/-- A server stream that opens a session for `cfg`: the version, the security types, the
chosen method's exchange, the security result and ServerInit, then `rest`. `accepts` says
which chosen methods the client goes on with, `resultOk` which security results it takes as
success; `r` is what the handshake then establishes. -/
def Opening (U : UnicodeTables) (cfg : ClientConfig) (accepts : ClientAuth → Prop)
    (resultOk : UInt32 → Prop) (B : Bytes) (r : HandshakeResult) (rest : Bytes) : Prop :=
  ∃ major minor types auth t afterTypes authWritten result width height raw pf name,
    ThreeDigits major ∧ ThreeDigits minor ∧ 3 ≤ decimalValue major ∧ 8 ≤ decimalValue minor ∧
    0 < types.length ∧ types.length ≤ 255 ∧ 0 ∉ types ∧
    B = versionMessage major minor ++ UInt8.ofNat types.length :: types ++ afterTypes ∧
    selectAuth cfg types = .ok (auth, t) ∧ t ∈ types ∧ accepts auth ∧
    auth.handshake afterTypes =
      .ok (authWritten, be32 result ++ (serverInitMessage width height raw name ++ rest)) ∧
    resultOk result ∧
    0 < width.toNat ∧ width.toNat ≤ 32768 ∧ 0 < height.toNat ∧ height.toNat ≤ 32768 ∧
    raw.length = 16 ∧ readPixelFormat raw = .ok (pf, []) ∧ validatePixelFormat (some pf) = .ok () ∧
    0 < name.length ∧ name.length ≤ 1024 * 1024 ∧
    r = { width, height, pixelFormat := pf, desktopName := validateOrSanitize U name (1024 * 1024),
          written := asciiBytes "RFB 003.008\n" ++ [t] ++ authWritten ++
            [if cfg.exclusive then 0 else 1] }

theorem handshakeWithContext_of_opening {U : UnicodeTables} {cfg : ClientConfig}
    {resultOk : UInt32 → Prop} {B rest : Bytes} {r : HandshakeResult}
    (hres : ∀ x, resultOk x → x ≠ 1) (h : Opening U cfg (AuthAccepted cfg) resultOk B r rest) :
    handshakeWithContext U (some cfg) B = .ok (r, rest) := by
  obtain ⟨major, minor, types, auth, t, afterTypes, authWritten, result, width, height, raw, pf,
    name, hM, hm, h3, h8, h0, h255, hz, rfl, hsel, -, hacc, hx, hr, hw0, hw, hh0, hh, hlen, hraw,
    hpf, hn0, hn, rfl⟩ := h
  have hdim : validateFramebufferDimensions width height = .ok () :=
    (validateFramebufferDimensions_ok_iff _ _).mpr ⟨hw0, hw, hh0, hh⟩
  have htypes : validateSecurityTypes types = .ok () :=
    (validateSecurityTypes_ok_iff _).mpr ⟨h0, h255, hz⟩
  rw [List.append_assoc]
  simp only [handshakeWithContext, bind_apply, readVersion_versionMessage U hM hm h3 h8, bind_of_ok,
    readSecurityTypes_append U htypes, authenticate_of U hsel hacc hx (hres _ hr),
    readServerInit_append U hdim hlen hraw hpf hn0 hn, pure_apply]

theorem opening_of_handshakeWithContext {U : UnicodeTables} {cfg : ClientConfig} {B rest : Bytes}
    {r : HandshakeResult} (h : handshakeWithContext U (some cfg) B = .ok (r, rest)) :
    Opening U cfg (AuthAccepted cfg) (· ≠ 1) B r rest := by
  simp only [handshakeWithContext, bind_eq_ok] at h
  obtain ⟨_, _, hv, types, _, ht, ⟨t, authWritten⟩, _, ha, ⟨width, height, pf, _⟩, _, hi, h⟩ := h
  cases h
  obtain ⟨major, minor, hM, hm, h3, h8, rfl⟩ := readVersion_eq_ok hv
  obtain ⟨htv, rfl⟩ := readSecurityTypes_eq_ok ht
  obtain ⟨auth, res, hsel, hacc, hres, hx⟩ := authenticate_eq_ok ha
  obtain ⟨raw, name, hdim, hlen, hraw, hpf, hn0, hn, rfl, rfl⟩ := readServerInit_eq_ok hi
  obtain ⟨h0, h255, hz⟩ := (validateSecurityTypes_ok_iff _).mp htv
  obtain ⟨hw0, hw, hh0, hh⟩ := (validateFramebufferDimensions_ok_iff _ _).mp hdim
  exact ⟨major, minor, types, auth, t, _, authWritten, res, width, height, raw, pf, name, hM, hm,
    h3, h8, h0, h255, hz, (List.append_assoc _ _ _).symm, hsel, selectAuth_mem hsel, hacc, hx, hres, hw0, hw,
    hh0, hh, hlen, hraw, hpf, hn0, hn, rfl⟩

theorem clientWithContext_opening (U : UnicodeTables) (cfg : ClientConfig) (B : Bytes) :
    (∀ r rest, Opening U cfg (AuthAccepted cfg) (· = 0) B r rest →
      clientWithContext U (some cfg) B = .session r.session r.written rest) ∧
    (∀ c written rest, clientWithContext U (some cfg) B = .session c written rest →
      ∃ r, Opening U cfg (AuthAccepted cfg) (· ≠ 1) B r rest ∧ c = r.session ∧
        written = r.written) ∧
    (∀ p, clientWithContext U (some cfg) B = .panicked p →
      ∃ v s₁ types s₂ auth t, readVersion U B = .ok (v, s₁) ∧
        readSecurityTypes U s₁ = .ok (types, s₂) ∧ selectAuth cfg types = .ok (auth, t) ∧
        AuthAccepted cfg auth ∧ auth.handshake s₂ = .error (.panic p)) := by
  refine ⟨fun r rest h => ?_, fun c written rest h => ?_, fun p h => ?_⟩
  · rw [clientWithContext, handshakeWithContext_of_opening (fun x hx => by rw [hx]; decide) h]
  · unfold clientWithContext at h
    split at h
    · rename_i r rest' hr
      cases h
      exact ⟨r, opening_of_handshakeWithContext hr, rfl, rfl⟩
    · cases h
    · cases h
  · unfold clientWithContext at h
    split at h
    · cases h
    · cases h
      exact handshakeWithContext_panics ‹_›
    · cases h

/-- A server that offers VNC authentication only, with a well-formed 640×480 ServerInit. -/
def vncOnlyServer : Bytes :=
  versionMessage (asciiBytes "003") (asciiBytes "008") ++ [1, 2] ++ List.replicate 16 0 ++
    be32 0 ++ serverInitMessage 640 480 (writePixelFormat rgb888) (asciiBytes "vnc")

/-- A configuration with the default registry. -/
def registryConfig (encrypt : Bytes → Bytes → Except Panic (Except VNCError Bytes)) : ClientConfig :=
  { authRegistry := some (newAuthRegistry encrypt) }

/-- With the default registry, a server that offers only VNC authentication gets a session
refused: the chosen `PasswordAuth{}` has no password. The refusal comes before the exchange,
whatever the cipher answers. -/
theorem registry_refuses_vnc (U : UnicodeTables)
    (encrypt : Bytes → Bytes → Except Panic (Except VNCError Bytes)) (response : Bytes)
    (h : encrypt [] (List.replicate 16 0) = .ok (.ok response)) :
    (∃ r, Opening U (registryConfig encrypt) (fun _ => True) (· = 0) vncOnlyServer r []) ∧
      ∃ f, clientWithContext U (some (registryConfig encrypt)) vncOnlyServer = .closed f := by
  refine ⟨⟨_, asciiBytes "003", asciiBytes "008", [2], passwordAuth encrypt [], 2, _, response, 0,
    640, 480, writePixelFormat rgb888, rgb888, asciiBytes "vnc", by decide, by decide, by decide,
    by decide, by decide, by decide, by decide, rfl, rfl, by decide, trivial, ?_, rfl, by decide,
    by decide, by decide, by decide, rfl, by decide, by decide, by decide, by decide, rfl⟩, _, rfl⟩
  simp only [List.replicate] at h
  simp [passwordAuth, readFull, h]

/-- A server that offers no authentication and answers the security result with 2. -/
def resultTwoServer : Bytes :=
  versionMessage (asciiBytes "003") (asciiBytes "008") ++ [1, 1] ++ be32 2 ++
    serverInitMessage 640 480 (writePixelFormat rgb888) (asciiBytes "vnc")

/-- A stand-in for the DES block cipher that keeps the block; the answer plays no part where
it is used. -/
def keepCipher : DESCipher := ⟨fun _ block => (block ++ List.replicate 8 0).take 8, fun _ _ => by simp⟩

/-- The legacy selection with one `PasswordAuth`, whose encryption took 49 999 995 ns. -/
def lateConfig : ClientConfig :=
  { auth := some [passwordAuth (PasswordAuth.encrypt keepCipher 49999995 (some (0, 0, 0, 0)))
      (asciiBytes "secret")] }

/-- Three streams on which `ClientWithContext` does not do what a session exactly for openings
with a security result of 0, and a closed connection otherwise, would have it do: with the
default registry the VNC-only server is refused however it answers; a server that answers the
security result with 2 gets a session; and with a `PasswordAuth` whose encryption took
49 999 995 ns the handshake panics, leaving the connection open. -/
theorem clientWithContext_refuses_vnc_accepts_result_two :
    ((∃ r, Opening latin1Only (registryConfig identityCipher) (fun _ => True) (· = 0)
        vncOnlyServer r []) ∧
      ∃ f, clientWithContext latin1Only (some (registryConfig identityCipher)) vncOnlyServer =
        .closed f) ∧
    (∃ c written, clientWithContext latin1Only (some {}) resultTwoServer = .session c written []) ∧
    clientWithContext latin1Only (some lateConfig) vncOnlyServer = .panicked .integerDivideByZero :=
  ⟨registry_refuses_vnc latin1Only identityCipher _ rfl, ⟨_, _, rfl⟩, rfl⟩

/-! ## A `nil` configuration -/

/-- `Client(conn, nil)`: every stream that passes the version and security-type checks
reaches `c.config.AuthRegistry` and panics. -/
theorem clientWithContext_nil_config {U : UnicodeTables} {s s₁ s₂ : Bytes} {v : Nat × Nat}
    {types : List UInt8} (hv : readVersion U s = .ok (v, s₁))
    (ht : readSecurityTypes U s₁ = .ok (types, s₂)) :
    clientWithContext U none s = .panicked .nilDereference := by
  simp only [clientWithContext, handshakeWithContext, bind_apply, hv, ht, fail_apply]

theorem clientWithContext_nil_config_rfb38 :
    readVersion latin1Only (versionMessage (asciiBytes "003") (asciiBytes "008") ++ [1, 1]) =
        .ok ((3, 8), [1, 1]) ∧
      readSecurityTypes latin1Only [1, 1] = .ok ([1], []) ∧
      clientWithContext latin1Only none
        (versionMessage (asciiBytes "003") (asciiBytes "008") ++ [1, 1]) = .panicked .nilDereference :=
  have hv : readVersion latin1Only (versionMessage (asciiBytes "003") (asciiBytes "008") ++ [1, 1]) =
      .ok ((3, 8), [1, 1]) := by decide
  have ht : readSecurityTypes latin1Only [1, 1] = .ok ([1], []) := by decide
  ⟨hv, ht, clientWithContext_nil_config hv ht⟩

end GoVnc
