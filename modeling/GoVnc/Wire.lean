import Mathlib.Data.String.Basic

/-!
The wire layer of the RFB client: byte strings, the error taxonomy of the
package (`VNCError` and its categories), and `Decoder`, a reader over the
bytes the server has sent that the client has not read yet.

`io.ReadFull` and `binary.Read` either fill their buffer or fail with
`io.EOF`/`io.ErrUnexpectedEOF` (`Fault.eof`); every caller then returns its
own categorised error (`Decoder.orFail`). A Go runtime panic (an index out of
range, a nil dereference) is a `Fault` of its own: nothing in the package
recovers one, so it ends the goroutine and the program.
-/

namespace GoVnc

abbrev Bytes := List UInt8

/-- Results are compared by value, so that a decoder run on concrete bytes can be checked by
`decide`. -/
instance instDecidableEqExcept {ε α : Type} [DecidableEq ε] [DecidableEq α] :
    DecidableEq (Except ε α)
  | .ok a, .ok b => if h : a = b then isTrue (h ▸ rfl) else isFalse fun e => h (by cases e; rfl)
  | .error a, .error b => if h : a = b then isTrue (h ▸ rfl) else isFalse fun e => h (by cases e; rfl)
  | .ok _, .error _ => isFalse fun e => by cases e
  | .error _, .ok _ => isFalse fun e => by cases e

/-! ## Errors -/

/-- `ErrorCode`, the category of a `VNCError`. -/
inductive ErrorCode
  | protocol | authentication | encoding | network | configuration | timeout | validation
  | unsupported
  deriving DecidableEq, Repr

/-- `VNCError` with its operation tag, category and message (the wrapped cause is left out). -/
structure VNCError where
  op : String
  code : ErrorCode
  message : String
  deriving DecidableEq, Repr

/-- `NewVNCError`; the constructors below fix its category. -/
def newVNCError (op : String) (code : ErrorCode) (message : String) : VNCError :=
  ⟨op, code, message⟩

def protocolError (op message : String) : VNCError := newVNCError op .protocol message
def authenticationError (op message : String) : VNCError := newVNCError op .authentication message
def encodingError (op message : String) : VNCError := newVNCError op .encoding message
def networkError (op message : String) : VNCError := newVNCError op .network message
def timeoutError (op message : String) : VNCError := newVNCError op .timeout message
def validationError (op message : String) : VNCError := newVNCError op .validation message
def unsupportedError (op message : String) : VNCError := newVNCError op .unsupported message
def configurationError (op message : String) : VNCError :=
  newVNCError op .configuration message

/-- The runtime panics the package can reach: an index past a slice's length, a slice
expression past its capacity, a nil pointer, an integer division or modulo by zero. -/
inductive Panic
  | indexOutOfRange (index length : Nat)
  | nilDereference
  | sliceBoundsOutOfRange (high capacity : Nat)
  | integerDivideByZero
  deriving DecidableEq, Repr

/-- How a call fails: a short read, a returned `error`, or a runtime panic. -/
inductive Fault
  | eof
  | err (e : VNCError)
  | panic (p : Panic)
  deriving DecidableEq, Repr

/-- `if err != nil { return ..., e }`: an error becomes `e`; a panic is not an error. -/
def Fault.wrap (e : VNCError) : Fault → Fault
  | .panic p => .panic p
  | _ => .err e

/-! ## Decoder -/

/-- A reader over the bytes left in the stream. -/
def Decoder (α : Type) : Type := Bytes → Except Fault (α × Bytes)

namespace Decoder

instance : Monad Decoder where
  pure a := fun s => .ok (a, s)
  bind x f := fun s => match x s with
    | .ok (a, s') => f a s'
    | .error e => .error e

@[simp] theorem pure_apply {α : Type} (a : α) (s : Bytes) :
    (pure a : Decoder α) s = .ok (a, s) := rfl

theorem bind_apply {α β : Type} (x : Decoder α) (f : α → Decoder β) (s : Bytes) :
    (x >>= f) s = match x s with
      | .ok (a, s') => f a s'
      | .error e => .error e := rfl

@[simp] theorem bind_of_ok {α β : Type} {x : Decoder α} {f : α → Decoder β} {s s' : Bytes}
    {a : α} (h : x s = .ok (a, s')) : (x >>= f) s = f a s' := by
  rw [bind_apply, h]

theorem bind_eq_ok {α β : Type} {x : Decoder α} {f : α → Decoder β} {s s'' : Bytes} {b : β} :
    (x >>= f) s = .ok (b, s'') ↔ ∃ a s', x s = .ok (a, s') ∧ f a s' = .ok (b, s'') := by
  rw [bind_apply]
  constructor
  · intro h
    split at h
    · exact ⟨_, _, ‹_›, h⟩
    · cases h
  · rintro ⟨a, s', hx, hf⟩
    rw [hx]; exact hf

theorem bind_eq_error {α β : Type} {x : Decoder α} {f : α → Decoder β} {s : Bytes} {e : Fault} :
    (x >>= f) s = .error e ↔ x s = .error e ∨ ∃ a s', x s = .ok (a, s') ∧ f a s' = .error e := by
  rw [bind_apply]
  constructor
  · intro h
    split at h
    · exact .inr ⟨_, _, ‹_›, h⟩
    · cases h
      exact .inl ‹_›
  · rintro (hx | ⟨a, s', hx, hf⟩)
    · rw [hx]
    · rw [hx]; exact hf

/-- Fail without reading. -/
def fail {α : Type} (e : Fault) : Decoder α := fun _ => .error e

/-- Run `x` and wrap its error in `e`, the `if err != nil { return nil, e }` of every caller. -/
def orFail {α : Type} (x : Decoder α) (e : VNCError) : Decoder α := fun s =>
  match x s with
  | .ok r => .ok r
  | .error f => .error (f.wrap e)

@[simp] theorem fail_apply {α : Type} (e : Fault) (s : Bytes) :
    (fail e : Decoder α) s = .error e := rfl

@[simp] theorem orFail_of_ok {α : Type} {x : Decoder α} {s s' : Bytes} {a : α} (e : VNCError)
    (h : x s = .ok (a, s')) : x.orFail e s = .ok (a, s') := by
  simp [orFail, h]

theorem orFail_eq_ok {α : Type} {x : Decoder α} {e : VNCError} {s s' : Bytes} {a : α} :
    x.orFail e s = .ok (a, s') ↔ x s = .ok (a, s') := by
  unfold orFail
  split <;> simp_all

/-- `orFail` passes a panic on and turns every other failure into its error. -/
theorem orFail_eq_panic {α : Type} {x : Decoder α} {e : VNCError} {s : Bytes} {p : Panic} :
    x.orFail e s = .error (.panic p) ↔ x s = .error (.panic p) := by
  unfold orFail
  cases x s with
  | ok r => simp
  | error f => cases f <;> simp [Fault.wrap]

/-- `if err := check; err != nil { return nil, e }`. -/
def check (r : Except VNCError Unit) (e : VNCError) : Decoder Unit := fun s =>
  match r with
  | .ok () => .ok ((), s)
  | .error _ => .error (.err e)

@[simp] theorem check_ok (e : VNCError) (s : Bytes) : check (.ok ()) e s = .ok ((), s) := rfl

theorem check_eq_ok {r : Except VNCError Unit} {e : VNCError} {s s' : Bytes} {u : Unit} :
    check r e s = .ok (u, s') ↔ r = .ok () ∧ s' = s := by
  unfold check
  split <;> simp_all [eq_comm]

/-- `x` run `n` times, the body of a Go `for i := 0; i < n; i++` loop that stops at the
first error. -/
def replicate {α : Type} : Nat → Decoder α → Decoder (List α)
  | 0, _ => pure []
  | n + 1, x => do
    let a ← x
    let as ← replicate n x
    pure (a :: as)

/-- Every element a successful loop returns is a result of one successful run of the body. -/
theorem replicate_forall {α : Type} {P : α → Prop} {x : Decoder α}
    (hx : ∀ s a s', x s = .ok (a, s') → P a) :
    ∀ (n : Nat) (s s' : Bytes) (as : List α), replicate n x s = .ok (as, s') → ∀ a ∈ as, P a := by
  intro n
  induction n with
  | zero =>
    intro s s' as h
    cases h; simp
  | succ n ih =>
    intro s s' as h
    obtain ⟨a, s₁, ha, h⟩ := bind_eq_ok.mp h
    obtain ⟨as', s₂, has, h⟩ := bind_eq_ok.mp h
    cases h
    intro b hb
    rcases List.mem_cons.mp hb with rfl | hb
    · exact hx _ _ _ ha
    · exact ih _ _ _ has b hb

theorem replicate_length {α : Type} {x : Decoder α} :
    ∀ (n : Nat) (s s' : Bytes) (as : List α), replicate n x s = .ok (as, s') → as.length = n := by
  intro n
  induction n with
  | zero => intro s s' as h; cases h; rfl
  | succ n ih =>
    intro s s' as h
    obtain ⟨a, s₁, -, h⟩ := bind_eq_ok.mp h
    obtain ⟨as', s₂, has, h⟩ := bind_eq_ok.mp h
    cases h
    simp [ih _ _ _ has]

/-- A Go call that returns `(value, error)`, inside a decoder. -/
def lift {α : Type} (r : Except VNCError α) : Decoder α := fun s =>
  match r with
  | .ok a => .ok (a, s)
  | .error e => .error (.err e)

theorem lift_eq_ok {α : Type} {r : Except VNCError α} {s s' : Bytes} {a : α} :
    lift r s = .ok (a, s') ↔ r = .ok a ∧ s' = s := by
  unfold lift
  split <;> simp_all [eq_comm]

/-! ### Decoders that never panic -/

section NoPanic

variable {α β : Type}

/-- A decoder whose failures are errors or the end of the stream, never panics. -/
def NoPanic (d : Decoder α) : Prop := ∀ s p, d s ≠ .error (.panic p)

theorem NoPanic.bind {x : Decoder α} {f : α → Decoder β} (hx : x.NoPanic)
    (hf : ∀ a, (f a).NoPanic) : (x >>= f).NoPanic := by
  intro s p h
  rw [bind_apply] at h
  split at h
  · exact hf _ _ _ h
  · rename_i e he
    cases h
    exact hx s p he

theorem NoPanic.pure (a : α) : (Pure.pure a : Decoder α).NoPanic := fun _ _ h => by cases h

theorem NoPanic.fail_err (e : VNCError) : (fail (.err e) : Decoder α).NoPanic :=
  fun _ _ h => by cases h

theorem NoPanic.orFail {x : Decoder α} (hx : x.NoPanic) (e : VNCError) : (x.orFail e).NoPanic := by
  intro s p h
  unfold Decoder.orFail at h
  split at h
  · cases h
  · rename_i f hf
    cases f <;> simp [Fault.wrap] at h
    subst h
    exact hx s _ hf

theorem NoPanic.check (r : Except VNCError Unit) (e : VNCError) : (check r e).NoPanic := by
  intro s p h
  unfold Decoder.check at h
  split at h <;> cases h

theorem NoPanic.lift (r : Except VNCError α) : (lift r).NoPanic := by
  intro s p h
  unfold Decoder.lift at h
  split at h <;> cases h

theorem NoPanic.ite {c : Prop} [Decidable c] {a b : Decoder α} (ha : a.NoPanic) (hb : b.NoPanic) :
    (if c then a else b).NoPanic := by
  split
  · exact ha
  · exact hb

end NoPanic

/-! ### Decoders whose panics are known -/

section PanicsOnly

variable {α β : Type} {P Q : Panic → Prop}

/-- A decoder whose every panic is one that `P` allows. -/
def PanicsOnly (d : Decoder α) (P : Panic → Prop) : Prop :=
  ∀ ⦃s p⦄, d s = .error (.panic p) → P p

theorem NoPanic.panicsOnly {d : Decoder α} (h : d.NoPanic) : d.PanicsOnly P :=
  fun s p hs => absurd hs (h s p)

theorem PanicsOnly.bind {x : Decoder α} {f : α → Decoder β} (hx : x.PanicsOnly P)
    (hf : ∀ a, (f a).PanicsOnly P) : (x >>= f).PanicsOnly P := by
  intro s p h
  rw [bind_apply] at h
  split at h
  · exact hf _ h
  · cases h
    exact hx ‹_›

theorem PanicsOnly.orFail {x : Decoder α} (hx : x.PanicsOnly P) (e : VNCError) :
    (x.orFail e).PanicsOnly P := by
  intro s p h
  unfold Decoder.orFail at h
  split at h
  · cases h
  · rename_i f hf
    cases f <;> simp [Fault.wrap] at h
    subst h
    exact hx hf

theorem PanicsOnly.ite {c : Prop} [Decidable c] {a b : Decoder α} (ha : a.PanicsOnly P)
    (hb : b.PanicsOnly P) : (if c then a else b).PanicsOnly P := by
  split
  · exact ha
  · exact hb

theorem PanicsOnly.replicate {x : Decoder α} (hx : x.PanicsOnly P) :
    ∀ n, (Decoder.replicate n x).PanicsOnly P
  | 0 => (NoPanic.pure _).panicsOnly
  | n + 1 => hx.bind fun _ => (hx.replicate n).bind fun _ => (NoPanic.pure _).panicsOnly

end PanicsOnly

/-! ### What a decoder fails with -/

section FailsWith

variable {α β : Type} {F G : Fault → Prop}

/-- A decoder whose every failure is one that `F` allows. -/
def FailsWith (d : Decoder α) (F : Fault → Prop) : Prop :=
  ∀ ⦃s f⦄, d s = .error f → F f

theorem FailsWith.pure (a : α) : (Pure.pure a : Decoder α).FailsWith F := fun _ _ h => by cases h

theorem FailsWith.fail {f : Fault} (h : F f) : (Decoder.fail f : Decoder α).FailsWith F :=
  fun _ _ hs => by cases hs; exact h

theorem FailsWith.bind {x : Decoder α} {f : α → Decoder β} (hx : x.FailsWith F)
    (hf : ∀ a, (f a).FailsWith F) : (x >>= f).FailsWith F := by
  intro s e h
  rw [bind_apply] at h
  split at h
  · exact hf _ h
  · cases h
    exact hx ‹_›

theorem FailsWith.check (r : Except VNCError Unit) {e : VNCError} (he : F (.err e)) :
    (Decoder.check r e).FailsWith F := by
  intro s f h
  unfold Decoder.check at h
  split at h <;> cases h
  exact he

theorem FailsWith.lift {r : Except VNCError α} (h : ∀ e, r = .error e → F (.err e)) :
    (Decoder.lift r).FailsWith F := by
  intro s f hs
  unfold Decoder.lift at hs
  split at hs <;> cases hs
  exact h _ rfl

theorem FailsWith.ite {c : Prop} [Decidable c] {a b : Decoder α} (ha : a.FailsWith F)
    (hb : b.FailsWith F) : (if c then a else b).FailsWith F := by
  split
  · exact ha
  · exact hb

/-- `orFail e` turns every failure but a panic into `e`, and lets the panics through. -/
theorem PanicsOnly.orFail_failsWith {x : Decoder α} {P : Panic → Prop} (hx : x.PanicsOnly P)
    {e : VNCError} (he : F (.err e)) (hp : ∀ p, P p → F (.panic p)) : (x.orFail e).FailsWith F := by
  intro s f h
  unfold Decoder.orFail at h
  split at h
  · cases h
  · rename_i f' hf
    cases h
    cases f' with
    | panic p => exact hp p (hx hf)
    | _ => exact he

theorem NoPanic.orFail_failsWith {x : Decoder α} (hx : x.NoPanic) {e : VNCError}
    (he : F (.err e)) : (x.orFail e).FailsWith F :=
  have hx' : x.PanicsOnly fun _ => False := hx.panicsOnly
  hx'.orFail_failsWith he fun _ h => h.elim

/-- Whatever `x` is, `orFail e` fails with `e` or with a panic of `x`. -/
theorem FailsWith.orFail (x : Decoder α) {e : VNCError} (he : F (.err e))
    (hp : ∀ p, F (.panic p)) : (x.orFail e).FailsWith F :=
  have hx : x.PanicsOnly fun _ => True := fun _ _ _ => trivial
  hx.orFail_failsWith he fun p _ => hp p

end FailsWith

/-! ### Decoders that read what was written -/

/-- `x` reads the bytes `w` as `a`, whatever follows them. -/
def Reads {α : Type} (x : Decoder α) (w : Bytes) (a : α) : Prop :=
  ∀ rest, x (w ++ rest) = .ok (a, rest)

namespace Reads

variable {α β : Type}

theorem pure (a : α) : (Pure.pure a : Decoder α).Reads [] a := fun _ => rfl

theorem bind {x : Decoder α} {f : α → Decoder β} {w w' : Bytes} {a : α} {b : β}
    (hx : x.Reads w a) (hf : (f a).Reads w' b) : (x >>= f).Reads (w ++ w') b := fun rest => by
  rw [List.append_assoc, bind_of_ok (hx _), hf]

theorem bind_nil {x : Decoder α} {f : α → Decoder β} {w : Bytes} {a : α} {b : β}
    (hx : x.Reads w a) (hf : (f a).Reads [] b) : (x >>= f).Reads w b := by
  simpa only [List.append_nil] using hx.bind hf

theorem orFail {x : Decoder α} {w : Bytes} {a : α} (h : x.Reads w a) (e : VNCError) :
    (x.orFail e).Reads w a := fun rest => orFail_of_ok e (h rest)

theorem check {r : Except VNCError Unit} (h : r = .ok ()) (e : VNCError) :
    (Decoder.check r e).Reads [] () := fun _ => by rw [h]; rfl

/-- A loop reads the concatenation of what each of its iterations reads. -/
theorem replicate {x : Decoder α} :
    ∀ {ws : List Bytes} {as : List α}, List.Forall₂ x.Reads ws as →
      (Decoder.replicate as.length x).Reads ws.flatten as
  | [], [], .nil => Reads.pure []
  | _ :: _, a :: _, .cons h hs => by
    rw [List.flatten_cons, ← List.append_nil (List.flatten _)]
    exact h.bind ((replicate hs).bind (Reads.pure (a :: _)))

end Reads

/-! ### What a decoder takes -/

/-- Every read of `x` that returns took bytes `w` off the front of the stream, related to its
value by `R`: the converse of `Reads`. -/
def Takes {α : Type} (x : Decoder α) (R : Bytes → α → Prop) : Prop :=
  ∀ ⦃s a s'⦄, x s = .ok (a, s') → ∃ w, s = w ++ s' ∧ R w a

namespace Takes

variable {α : Type}

theorem orFail {x : Decoder α} {R : Bytes → α → Prop} (h : x.Takes R) (e : VNCError) :
    (x.orFail e).Takes R := fun _ _ _ hs => h (orFail_eq_ok.mp hs)

/-- A loop takes the concatenation of what its iterations take, one for each value. -/
theorem replicate {x : Decoder α} {R : Bytes → α → Prop} (h : x.Takes R) :
    ∀ n, (Decoder.replicate n x).Takes fun w as => ∃ ws, w = ws.flatten ∧ List.Forall₂ R ws as
  | 0 => fun _ _ _ hs => by cases hs; exact ⟨[], rfl, [], rfl, .nil⟩
  | n + 1 => fun _ _ _ hs => by
    obtain ⟨a, s₁, ha, hs⟩ := bind_eq_ok.mp hs
    obtain ⟨as, s₂, has, hs⟩ := bind_eq_ok.mp hs
    cases hs
    obtain ⟨w, rfl, hw⟩ := h ha
    obtain ⟨_, rfl, ws, rfl, hws⟩ := replicate h n has
    exact ⟨w ++ ws.flatten, (List.append_assoc _ _ _).symm, w :: ws, rfl, .cons hw hws⟩

end Takes

end Decoder

open Decoder

/-! ## Field readers -/

/-- `io.ReadFull` into a buffer of `n` bytes. -/
def readFull : Nat → Decoder Bytes
  | 0 => pure []
  | n + 1 => fun s => match s with
    | [] => .error .eof
    | b :: s => match readFull n s with
      | .ok (bs, s') => .ok (b :: bs, s')
      | .error e => .error e

theorem readFull_append (bs s : Bytes) : readFull bs.length (bs ++ s) = .ok (bs, s) := by
  induction bs with
  | nil => rfl
  | cons b bs ih => simp [readFull, ih]

/-- `readFull` reads exactly `n` bytes when there are that many, and fails on a short
stream. -/
theorem readFull_spec (n : Nat) (s : Bytes) :
    readFull n s = if n ≤ s.length then .ok (s.take n, s.drop n) else .error .eof := by
  induction n generalizing s with
  | zero => simp [readFull]
  | succ n ih =>
    cases s with
    | nil => rfl
    | cons b s => by_cases h : n ≤ s.length <;> simp [readFull, ih, h]

theorem readFull_short : ∀ (n : Nat) (s : Bytes), s.length < n → readFull n s = .error .eof
  | 0, _, h => absurd h (Nat.not_lt_zero _)
  | n + 1, [], _ => rfl
  | n + 1, b :: s, h => by
    simp only [readFull, readFull_short n s (by simp at h; omega)]

theorem readFull_eq_ok {n : Nat} {s bs s' : Bytes} (h : readFull n s = .ok (bs, s')) :
    bs.length = n ∧ s = bs ++ s' := by
  induction n generalizing s bs with
  | zero => cases h; simp
  | succ n ih =>
    match s, h with
    | b :: s, h =>
      simp only [readFull] at h
      split at h
      · cases h
        obtain ⟨h1, h2⟩ := ih ‹_›
        simp [h1, h2]
      · cases h

/-- `binary.Read` of a `uint8`. -/
def readU8 : Decoder UInt8
  | b :: s => .ok (b, s)
  | [] => .error .eof

/-- `binary.Read` of a big-endian `uint16`. -/
def readU16 : Decoder UInt16 := do
  let hi ← readU8
  let lo ← readU8
  pure (UInt16.ofNat (256 * hi.toNat + lo.toNat))

/-- `binary.Read` of a big-endian `uint32`. -/
def readU32 : Decoder UInt32 := do
  let b0 ← readU8
  let b1 ← readU8
  let b2 ← readU8
  let b3 ← readU8
  pure (UInt32.ofNat (((256 * b0.toNat + b1.toNat) * 256 + b2.toNat) * 256 + b3.toNat))

/-- An `int32` from its two's-complement bits. -/
def int32OfBits (u : UInt32) : Int :=
  if u.toNat < 2 ^ 31 then u.toNat else (u.toNat : Int) - 4294967296

/-- `binary.Read` of a big-endian `int32`. -/
def readI32 : Decoder Int := do
  let u ← readU32
  pure (int32OfBits u)

/-! ## Field writers -/

/-- `binary.BigEndian` bytes of a `uint16`. -/
def be16 (v : UInt16) : Bytes :=
  [UInt8.ofNat (v.toNat / 256), UInt8.ofNat (v.toNat % 256)]

/-- `binary.BigEndian` bytes of a `uint32`. -/
def be32 (v : UInt32) : Bytes :=
  [UInt8.ofNat (v.toNat / 2 ^ 24), UInt8.ofNat (v.toNat / 2 ^ 16 % 256),
    UInt8.ofNat (v.toNat / 256 % 256), UInt8.ofNat (v.toNat % 256)]

/-- `binary.LittleEndian` bytes of a `uint16` and of a `uint32`. -/
def le16 (v : UInt16) : Bytes := [UInt8.ofNat (v.toNat % 256), UInt8.ofNat (v.toNat / 256)]

def le32 (v : UInt32) : Bytes :=
  [UInt8.ofNat (v.toNat % 256), UInt8.ofNat (v.toNat / 256 % 256),
    UInt8.ofNat (v.toNat / 2 ^ 16 % 256), UInt8.ofNat (v.toNat / 2 ^ 24)]

/-- `binary.BigEndian.Uint16` and its kin, on a slice of two or four bytes. -/
def bigEndianUint16 (b : Bytes) : UInt16 :=
  UInt16.ofNat (256 * (b.getD 0 0).toNat + (b.getD 1 0).toNat)

def littleEndianUint16 (b : Bytes) : UInt16 :=
  UInt16.ofNat ((b.getD 0 0).toNat + 256 * (b.getD 1 0).toNat)

def bigEndianUint32 (b : Bytes) : UInt32 :=
  UInt32.ofNat (((256 * (b.getD 0 0).toNat + (b.getD 1 0).toNat) * 256 + (b.getD 2 0).toNat) * 256 +
    (b.getD 3 0).toNat)

def littleEndianUint32 (b : Bytes) : UInt32 :=
  UInt32.ofNat ((b.getD 0 0).toNat + 256 * ((b.getD 1 0).toNat + 256 * ((b.getD 2 0).toNat +
    256 * (b.getD 3 0).toNat)))

/-- The two's-complement bits of an `int32`. -/
def bitsOfInt32 (i : Int) : UInt32 := UInt32.ofNat (i % 4294967296).toNat

@[simp] theorem be16_length (v : UInt16) : (be16 v).length = 2 := rfl
@[simp] theorem be32_length (v : UInt32) : (be32 v).length = 4 := rfl

/-- Order on the fixed-width types is order on their values. -/
theorem uint8_lt_iff {a b : UInt8} : a < b ↔ a.toNat < b.toNat := Iff.rfl
theorem uint8_le_iff {a b : UInt8} : a ≤ b ↔ a.toNat ≤ b.toNat := Iff.rfl
theorem uint16_lt_iff {a b : UInt16} : a < b ↔ a.toNat < b.toNat := Iff.rfl
theorem uint16_le_iff {a b : UInt16} : a ≤ b ↔ a.toNat ≤ b.toNat := Iff.rfl
theorem uint32_lt_iff {a b : UInt32} : a < b ↔ a.toNat < b.toNat := Iff.rfl

/-- `math.MaxUint16 - w` never wraps. -/
theorem uint16_toNat_max_sub (w : UInt16) : (65535 - w).toNat = 65535 - w.toNat :=
  UInt16.toNat_sub_of_le _ _ (Nat.le_of_lt_succ w.toNat_lt)

/-- `UInt8.ofNat` and its wider versions keep the value modulo the width. -/
@[simp] theorem toNat_uint8_ofNat (n : Nat) : (UInt8.ofNat n).toNat = n % 256 := rfl
@[simp] theorem toNat_uint16_ofNat (n : Nat) : (UInt16.ofNat n).toNat = n % 65536 := rfl
@[simp] theorem toNat_uint32_ofNat (n : Nat) : (UInt32.ofNat n).toNat = n % 2 ^ 32 := rfl

theorem uint8_ofNat_toNat (v : UInt8) : UInt8.ofNat v.toNat = v :=
  UInt8.toNat.inj (Nat.mod_eq_of_lt v.toNat_lt)
theorem uint16_ofNat_toNat (v : UInt16) : UInt16.ofNat v.toNat = v :=
  UInt16.toNat.inj (Nat.mod_eq_of_lt v.toNat_lt)
theorem uint32_ofNat_toNat (v : UInt32) : UInt32.ofNat v.toNat = v :=
  UInt32.toNat.inj (Nat.mod_eq_of_lt v.toNat_lt)

/-- `uint16` arithmetic is arithmetic modulo 65536. -/
theorem toNat_uint16_add (a b : UInt16) : (a + b).toNat = (a.toNat + b.toNat) % 65536 := rfl
theorem toNat_uint16_sub (a b : UInt16) : (a - b).toNat = (65536 - b.toNat + a.toNat) % 65536 := rfl
theorem toNat_uint16_mul (a b : UInt16) : (a * b).toNat = a.toNat * b.toNat % 65536 := rfl

@[simp] theorem readU8_cons (b : UInt8) (s : Bytes) : readU8 (b :: s) = .ok (b, s) := rfl

theorem readU8_eq_ok {s s' : Bytes} {v : UInt8} (h : readU8 s = .ok (v, s')) : s = v :: s' := by
  match s, h with
  | _ :: _, h => cases h; rfl

/-- Every `uint16` is the big-endian value of two bytes, and `be16` gives those bytes back. -/
theorem be16_ofNat (hi lo : UInt8) : be16 (UInt16.ofNat (256 * hi.toNat + lo.toNat)) = [hi, lo] := by
  have := hi.toNat_lt; have := lo.toNat_lt
  simp only [be16, List.cons.injEq, and_true]
  constructor <;> apply UInt8.ext <;> simp only [toNat_uint8_ofNat, toNat_uint16_ofNat] <;> omega

theorem readU16_eq_ok {s s' : Bytes} {v : UInt16} (h : readU16 s = .ok (v, s')) :
    s = be16 v ++ s' := by
  simp only [readU16, bind_eq_ok] at h
  obtain ⟨hi, _, h1, lo, _, h2, h⟩ := h
  cases h
  rw [readU8_eq_ok h1, readU8_eq_ok h2, be16_ofNat]
  rfl

theorem exists_ofNat_bytes (v : UInt16) :
    ∃ hi lo : UInt8, v = UInt16.ofNat (256 * hi.toNat + lo.toNat) :=
  ⟨UInt8.ofNat (v.toNat / 256), UInt8.ofNat (v.toNat % 256), by
    have := v.toNat_lt
    apply UInt16.ext
    simp only [toNat_uint8_ofNat, toNat_uint16_ofNat]
    omega⟩

theorem readU16_be16 (v : UInt16) (s : Bytes) : readU16 (be16 v ++ s) = .ok (v, s) := by
  obtain ⟨hi, lo, rfl⟩ := exists_ofNat_bytes v
  rw [be16_ofNat]
  rfl

/-- `Put` after `Uint` gives the bytes back, in both byte orders. -/
theorem be16_bigEndianUint16 (b0 b1 : UInt8) : be16 (bigEndianUint16 [b0, b1]) = [b0, b1] :=
  be16_ofNat b0 b1

theorem le16_littleEndianUint16 (b0 b1 : UInt8) : le16 (littleEndianUint16 [b0, b1]) = [b0, b1] := by
  have := b0.toNat_lt; have := b1.toNat_lt
  simp only [le16, littleEndianUint16, List.getD_cons_zero, List.getD_cons_succ, List.cons.injEq,
    and_true]
  constructor <;> apply UInt8.ext <;> simp only [toNat_uint8_ofNat, toNat_uint16_ofNat] <;> omega

theorem be32_bigEndianUint32 (b0 b1 b2 b3 : UInt8) :
    be32 (bigEndianUint32 [b0, b1, b2, b3]) = [b0, b1, b2, b3] := by
  have := b0.toNat_lt; have := b1.toNat_lt; have := b2.toNat_lt; have := b3.toNat_lt
  simp only [be32, bigEndianUint32, List.getD_cons_zero, List.getD_cons_succ, List.cons.injEq,
    and_true]
  refine ⟨?_, ?_, ?_, ?_⟩ <;> apply UInt8.ext <;>
    simp only [toNat_uint8_ofNat, toNat_uint32_ofNat] <;> omega

theorem le32_littleEndianUint32 (b0 b1 b2 b3 : UInt8) :
    le32 (littleEndianUint32 [b0, b1, b2, b3]) = [b0, b1, b2, b3] := by
  have := b0.toNat_lt; have := b1.toNat_lt; have := b2.toNat_lt; have := b3.toNat_lt
  simp only [le32, littleEndianUint32, List.getD_cons_zero, List.getD_cons_succ, List.cons.injEq,
    and_true]
  refine ⟨?_, ?_, ?_, ?_⟩ <;> apply UInt8.ext <;>
    simp only [toNat_uint8_ofNat, toNat_uint32_ofNat] <;> omega

/-- `Uint32` after `PutUint32` gives the value back, in both byte orders. -/
theorem bigEndianUint32_be32 (v : UInt32) : bigEndianUint32 (be32 v) = v := by
  have := v.toNat_lt
  apply UInt32.ext
  simp only [bigEndianUint32, be32, List.getD_cons_zero, List.getD_cons_succ, toNat_uint8_ofNat,
    toNat_uint32_ofNat, Nat.reducePow] at *
  omega

theorem littleEndianUint32_le32 (v : UInt32) : littleEndianUint32 (le32 v) = v := by
  have := v.toNat_lt
  apply UInt32.ext
  simp only [littleEndianUint32, le32, List.getD_cons_zero, List.getD_cons_succ, toNat_uint8_ofNat,
    toNat_uint32_ofNat, Nat.reducePow] at *
  omega

theorem readU32_be32 (v : UInt32) (s : Bytes) : readU32 (be32 v ++ s) = .ok (v, s) := by
  simp only [readU32, be32, List.cons_append, List.nil_append, bind_of_ok (readU8_cons _ _),
    pure_apply, Except.ok.injEq, Prod.mk.injEq, and_true]
  exact bigEndianUint32_be32 v

theorem readU32_eq_ok {s s' : Bytes} {v : UInt32} (h : readU32 s = .ok (v, s')) :
    s = be32 v ++ s' := by
  simp only [readU32, bind_eq_ok] at h
  obtain ⟨b0, _, h0, b1, _, h1, b2, _, h2, b3, _, h3, h⟩ := h
  cases h
  rw [readU8_eq_ok h0, readU8_eq_ok h1, readU8_eq_ok h2, readU8_eq_ok h3]
  exact (congrArg (· ++ s') (be32_bigEndianUint32 b0 b1 b2 b3)).symm

theorem readFull_noPanic (n : Nat) : (readFull n).NoPanic := by
  intro s p h
  rw [readFull_spec] at h
  split at h <;> cases h

theorem readU8_noPanic : readU8.NoPanic := by
  intro s p h
  cases s <;> cases h

theorem readU16_noPanic : readU16.NoPanic :=
  .bind readU8_noPanic fun _ => .bind readU8_noPanic fun _ => .pure _

theorem readU32_noPanic : readU32.NoPanic :=
  .bind readU8_noPanic fun _ => .bind readU8_noPanic fun _ => .bind readU8_noPanic fun _ =>
    .bind readU8_noPanic fun _ => .pure _

theorem readFull_reads {n : Nat} {w : Bytes} (h : w.length = n) : (readFull n).Reads w w :=
  fun rest => h ▸ readFull_append w rest

theorem readU8_reads (b : UInt8) : readU8.Reads [b] b := fun _ => rfl

theorem readU16_reads (v : UInt16) : readU16.Reads (be16 v) v := readU16_be16 v

theorem readU32_reads (v : UInt32) : readU32.Reads (be32 v) v := readU32_be32 v

/-- The two's-complement bits of an `int32` give it back. -/
theorem int32OfBits_bitsOfInt32 {t : Int} (h0 : -2147483648 ≤ t) (h1 : t < 2147483648) :
    int32OfBits (bitsOfInt32 t) = t := by
  have hb : ((bitsOfInt32 t).toNat : Int) = t % 4294967296 := by
    rw [bitsOfInt32, toNat_uint32_ofNat]
    omega
  unfold int32OfBits
  split_ifs <;> omega

theorem readI32_reads {t : Int} (h0 : -2147483648 ≤ t) (h1 : t < 2147483648) :
    readI32.Reads (be32 (bitsOfInt32 t)) t := by
  have h : readI32.Reads (be32 (bitsOfInt32 t) ++ []) (int32OfBits (bitsOfInt32 t)) :=
    (readU32_reads _).bind (Reads.pure _)
  rwa [List.append_nil, int32OfBits_bitsOfInt32 h0 h1] at h

/-- And the bits of an `int32` read from the wire are those on the wire. -/
theorem bitsOfInt32_int32OfBits (u : UInt32) : bitsOfInt32 (int32OfBits u) = u := by
  have := u.toNat_lt
  apply UInt32.toNat.inj
  rw [bitsOfInt32, toNat_uint32_ofNat]
  unfold int32OfBits
  split_ifs <;> omega

theorem readI32_eq_ok {s s' : Bytes} {t : Int} (h : readI32 s = .ok (t, s')) :
    s = be32 (bitsOfInt32 t) ++ s' := by
  obtain ⟨u, _, hu, h⟩ := bind_eq_ok.mp h
  cases h
  rw [bitsOfInt32_int32OfBits, readU32_eq_ok hu]

end GoVnc
