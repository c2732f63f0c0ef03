import GoVnc.Session
import GoVnc.Text

/-!
`ClientConn.CutText`, the client's clipboard message. The text is validated (at most
`MaxClipboardLength` bytes, valid UTF-8, no control rune) and replaced by `SanitizeText`
of it; the frame is built in a `bytes.Buffer`: type 6, three zero bytes,
`uint32(len(text))`, then one byte per rune, a rune above `Latin1MaxCodePoint` refusing
the call. `writeWithContext` is handed `buf.Bytes()[0:8+len(text)]`. `len(text)` counts
UTF-8 bytes while the loop writes one byte per rune, so a rune from U+0080 to U+00FF
leaves the slice reaching past what was written, into the buffer's spare capacity, which
the allocator zeroed; past the capacity the slice expression panics. How much spare
capacity the buffer has after its writes depends on its growth policy: the parameter
`spareCapacity`.

* `ClientConn.cutText_frame`: on a text it accepts, `CutText` writes one frame whose
  length field is the text's UTF-8 length, followed by its runes as bytes and zeros up to
  that length, or panics; the frame is `[6, 0, 0, 0] ++ be32(k) ++` the `k` runes exactly
  when every rune is ASCII.
* `ClientConn.cutText_step`: a call that returns leaves the session as it was, the
  `cutText` step of `Step`.
-/

namespace GoVnc

open InputValidator

/-- The rune loop of `CutText`: one byte per rune, or the first rune above
`Latin1MaxCodePoint` (255). -/
def latin1Bytes : List Nat → Except Nat Bytes
  | [] => .ok []
  | r :: rs => if r > 255 then .error r else (latin1Bytes rs).map (UInt8.ofNat r :: ·)

/-- `CutText`. -/
def ClientConn.cutText (U : UnicodeTables) (c : ClientConn) (writeOk : Bool)
    (spareCapacity : Nat) (text : Bytes) : Except Panic Call :=
  match validateTextData text (1024 * 1024) with
  | .error _ => .ok (c.refuse (validationError "CutText" "invalid clipboard text"))
  | .ok () =>
    let text := sanitizeText U text
    match latin1Bytes (runesOf text) with
    | .error char =>
      let ch := Char.ofNat char
      .ok (c.refuse (validationError "CutText" s!"character \x27{ch}\x27 is not valid Latin-1"))
    | .ok payload =>
      let buf := [6, 0, 0, 0] ++ be32 (UInt32.ofNat text.length) ++ payload
      let dataLength := 8 + text.length
      if dataLength ≤ buf.length + spareCapacity then
        .ok (c.send c writeOk ((buf ++ List.replicate spareCapacity 0).take dataLength)
          (networkError "CutText" "failed to send cut text message"))
      else .error (.sliceBoundsOutOfRange dataLength (buf.length + spareCapacity))

/-! ## The rune loop -/

theorem latin1Bytes_of_le : ∀ {rs : List Nat}, (∀ r ∈ rs, r ≤ 255) →
    latin1Bytes rs = .ok (rs.map UInt8.ofNat)
  | [], _ => rfl
  | r :: rs, h => by
    rw [latin1Bytes, if_neg (by simp only [List.mem_cons] at h; have := h r (.inl rfl); omega),
      latin1Bytes_of_le fun r' hr' => h r' (List.mem_cons_of_mem _ hr')]
    rfl

theorem latin1Bytes_of_gt : ∀ {rs : List Nat} {r : Nat}, r ∈ rs → 255 < r →
    ∃ r', latin1Bytes rs = .error r'
  | r' :: rs, r, hr, hgt => by
    rw [latin1Bytes]
    split_ifs with h
    · exact ⟨r', rfl⟩
    · rcases List.mem_cons.mp hr with rfl | hr
      · omega
      · obtain ⟨r'', he⟩ := latin1Bytes_of_gt hr hgt
        exact ⟨r'', by rw [he]; rfl⟩

/-- The UTF-8 length of Latin-1 runes: one byte each, two for those from U+0080 on. -/
theorem stringOfRunes_length_latin1 : ∀ {rs : List Nat}, (∀ r ∈ rs, r ≤ 255) →
    (stringOfRunes rs).length = rs.length + rs.countP (128 ≤ ·)
  | [], _ => rfl
  | r :: rs, h => by
    have hr := h r (List.mem_cons_self r rs)
    have ih := stringOfRunes_length_latin1 fun r' hr' => h r' (List.mem_cons_of_mem _ hr')
    rw [stringOfRunes, List.flatMap_cons, List.length_append, ← stringOfRunes, ih,
      List.countP_cons, List.length_cons]
    unfold encodeRune
    by_cases h128 : r < 0x80
    · rw [if_pos h128]
      simp only [List.length_singleton, decide_eq_true_eq, if_neg (show ¬128 ≤ r by omega)]
      omega
    · rw [if_neg h128, if_pos (by omega)]
      simp only [List.length_cons, List.length_nil, decide_eq_true_eq,
        if_pos (show 128 ≤ r by omega)]
      omega

/-! ## The frame -/

/-- On a text that `ValidateTextData` accepts and whose sanitised runes are all Latin-1,
`CutText` writes the length field `len(text)` of the sanitised text, its `k` runes as
bytes, and `len(text) - k` zeros from the spare capacity, or panics when the capacity is
short of them. The length field is `k`, and nothing past the written bytes is sent, exactly
when every rune is ASCII. -/
theorem ClientConn.cutText_frame (U : UnicodeTables) (c : ClientConn) (writeOk : Bool)
    (spareCapacity : Nat) {text : Bytes} (hv : validateTextData text (1024 * 1024) = .ok ())
    (hl : ∀ r ∈ runesOf (sanitizeText U text), r ≤ 255) :
    c.cutText U writeOk spareCapacity text =
      (if (sanitizeText U text).length - (runesOf (sanitizeText U text)).length ≤ spareCapacity
      then .ok (c.send c writeOk
          ([6, 0, 0, 0] ++ be32 (UInt32.ofNat (sanitizeText U text).length) ++
            (runesOf (sanitizeText U text)).map UInt8.ofNat ++
            List.replicate ((sanitizeText U text).length - (runesOf (sanitizeText U text)).length) 0)
          (networkError "CutText" "failed to send cut text message"))
      else .error (.sliceBoundsOutOfRange (8 + (sanitizeText U text).length)
        (8 + (runesOf (sanitizeText U text)).length + spareCapacity))) ∧
    ((sanitizeText U text).length = (runesOf (sanitizeText U text)).length ↔
      ∀ r ∈ runesOf (sanitizeText U text), r < 128) := by
  have hlen : (sanitizeText U text).length =
      (runesOf (sanitizeText U text)).length + (runesOf (sanitizeText U text)).countP (128 ≤ ·) := by
    conv => lhs; rw [← stringOfRunes_runesOf (sanitizeText_runes U text).1]
    exact stringOfRunes_length_latin1 hl
  refine ⟨?_, ?_⟩
  · simp only [ClientConn.cutText, hv, latin1Bytes_of_le hl, List.length_append,
      List.length_cons, List.length_nil, be32_length, List.length_map]
    split_ifs with h1 h2 h2
    · rw [List.take_append_eq_append_take, List.take_of_length_le (by simp; omega),
        List.take_replicate, Nat.min_eq_left (by simp; omega)]
      simp only [List.length_append, List.length_cons, List.length_nil, be32_length,
        List.length_map]
      congr 4
      omega
    · omega
    · omega
    · rw [Nat.add_assoc 8]
  · rw [hlen, Nat.add_right_eq_self, List.countP_eq_zero]
    simp only [decide_eq_true_eq, Nat.not_le]

/-- "é" (U+00E9, two bytes in UTF-8) on a buffer with 55 bytes of spare capacity, what a
`bytes.Buffer` keeps after its first small write: the frame says two bytes of text, carries
one, and ends with a zero of the spare capacity. -/
theorem ClientConn.cutText_e_acute :
    ({} : ClientConn).cutText latin1Only true 55 [0xC3, 0xA9] =
      .ok ⟨{}, [[6, 0, 0, 0, 0, 0, 0, 2, 0xE9, 0]], .ok ()⟩ :=
  (ClientConn.cutText_frame latin1Only {} true 55 (by decide) (by decide)).1.trans rfl

/-! ## The session -/

theorem ClientConn.cutText_conn {U : UnicodeTables} {c : ClientConn} {writeOk : Bool}
    {spareCapacity : Nat} {text : Bytes} {r : Call}
    (h : c.cutText U writeOk spareCapacity text = .ok r) : r.conn = c := by
  unfold ClientConn.cutText at h
  split at h
  · cases h; rfl
  · dsimp only at h
    split at h
    · cases h; rfl
    · split_ifs at h
      · cases h
        unfold ClientConn.send
        split <;> rfl

/-- A `CutText` call that returns is the `cutText` step of a session. -/
theorem ClientConn.cutText_step {U : UnicodeTables} {c : ClientConn} {writeOk : Bool}
    {spareCapacity : Nat} {text : Bytes} {r : Call}
    (h : c.cutText U writeOk spareCapacity text = .ok r) : Step U c r.conn :=
  by rw [ClientConn.cutText_conn h]; exact .cutText c

end GoVnc
