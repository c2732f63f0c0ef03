import GoVnc.ServerStream
import GoVnc.EncodingSound
import GoVnc.Session

/-!
The converse of `ServerStream`: on a session that keeps the session invariant, what the reader
task takes off the stream is well-formed messages, each read on the session the one before
left. With the other direction, the package's readers accept exactly the wire forms of
FramebufferUpdate, SetColorMapEntries and Bell.

* `readRectangles_takes`: the rectangle loop, threading the session through DesktopSize.
* `serverMessage_read_iff`: a message read of the package's table returns exactly on the
  wire form of the message it returns.
* `parseMessages_takes`: the messages of a stream, up to the first ServerCutText.
-/

namespace GoVnc

open Decoder InputValidator

/-! ## Rectangles -/

/-- A type the encoder table has an entry for is one the session can read. -/
theorem encMap_some {encs : List Encoding} {t : Int} {e : Encoding} (h : encMap encs t = some e) :
    t = 0 ∨ t = -239 ∨ t = -223 ∨ ∃ e ∈ encs, e.type = t := by
  unfold encMap at h
  split_ifs at h with h0 h1 h2
  · exact .inl h0
  · exact .inr (.inl h1)
  · exact .inr (.inr (.inl h2))
  · exact .inr (.inr (.inr ⟨e, List.mem_reverse.mp (List.mem_of_find?_eq_some h),
      by simpa using List.find?_some h⟩))

theorem readRectangle_takes {c : ClientConn} {i : Nat} {s s' : Bytes} {r : Rectangle}
    (hc : SessionInv c) (h : readRectangle c i s = .ok (r, s')) :
    ∃ w, s = w ++ s' ∧ RectangleWire c w r := by
  simp only [readRectangle, bind_eq_ok, orFail_eq_ok] at h
  obtain ⟨_, _, hx, _, _, hy, width, _, hw, height, _, hh, t, _, ht, _, _, hv, _, _, hb, h⟩ := h
  cases he : encMap c.encs t with
  | none => rw [he] at h; cases h
  | some e =>
  rw [he] at h
  obtain ⟨d, _, hd, h⟩ := bind_eq_ok.mp h
  cases h
  obtain ⟨hvalid, rfl⟩ := check_eq_ok.mp hv
  obtain ⟨rfl, hbox⟩ := checkBounds_eq_ok hb
  obtain ⟨htype, hread, -⟩ := Encoding.read_spec (orFail_eq_ok.mp hd)
  rw [encMap_type he] at htype
  subst htype
  have hsides : 0 ≤ e.type → width.toNat ≤ 32768 ∧ height.toNat ≤ 32768 := fun he0 => by
    have := hbox (by rwa [encMap_type he] at he0)
    obtain ⟨-, -, hwb, hhb⟩ : InBox _ _ width.toNat height.toNat _ _ := this
    exact ⟨by have := hc.width_le; omega, by have := hc.height_le; omega⟩
  obtain ⟨data, rfl, hwire⟩ := Encoding.read_takes hsides (orFail_eq_ok.mp hd)
  rw [readU16_eq_ok hx, readU16_eq_ok hy, readU16_eq_ok hw, readU16_eq_ok hh, readI32_eq_ok ht]
  exact ⟨_, by simp only [List.append_assoc], data, rfl, hwire, hvalid, ⟨e, he, hread.symm⟩, hbox⟩

/-- The rectangle loop took `n` well-formed rectangles and left the session they leave. -/
theorem readRectangles_takes :
    ∀ (n i : Nat) (c : ClientConn) (s s' : Bytes) (rs : List Rectangle), SessionInv c →
      (readRectangles n i c s).2 = .ok (rs, s') →
      rs.length = n ∧ ∃ w, s = w ++ s' ∧ RectanglesWire c w rs (readRectangles n i c s).1
  | 0, _, c, s, s', rs, _, h => by
    cases h
    exact ⟨rfl, [], rfl, .nil c⟩
  | n + 1, i, c, s, s', rs, hc, h => by
    unfold readRectangles at h ⊢
    split at h
    · cases h
    rename_i r s₁ hr
    obtain ⟨rs', hrs, rfl⟩ := SessionRead.map_eq_ok.mp h
    obtain ⟨w, rfl, hw⟩ := readRectangle_takes hc hr
    obtain ⟨hlen, ws, rfl, hws⟩ :=
      readRectangles_takes n (i + 1) _ _ _ _ (afterRectangle_sessionInv hr hc) hrs
    exact ⟨by rw [List.length_cons, hlen], w ++ ws, (List.append_assoc _ _ _).symm,
      by rw [SessionRead.map_fst]; exact .cons hw hws⟩

/-! ## Messages -/

theorem FramebufferUpdateMessage.readHeader_takes {s s' : Bytes} {n : UInt16}
    (h : FramebufferUpdateMessage.readHeader s = .ok (n, s')) :
    ∃ pad, s = pad :: (be16 n ++ s') ∧ n.toNat ≤ 10000 := by
  simp only [FramebufferUpdateMessage.readHeader, bind_eq_ok, orFail_eq_ok] at h
  obtain ⟨_, _, hpad, _, _, hn, h⟩ := h
  split at h
  · cases h
  cases h
  obtain ⟨hp, rfl⟩ := readFull_eq_ok hpad
  obtain ⟨pad, rfl⟩ := List.length_eq_one.mp hp
  exact ⟨pad, by rw [readU16_eq_ok hn]; rfl, by omega⟩

theorem FramebufferUpdateMessage.read_takes {c : ClientConn} {s s' : Bytes} {m : ServerMessage}
    (hc : SessionInv c) (h : (FramebufferUpdateMessage.read c s).2 = .ok (m, s')) :
    ∃ w, s = w ++ s' ∧ MessageWire c (0 :: w) m (FramebufferUpdateMessage.read c s).1 := by
  unfold FramebufferUpdateMessage.read at h ⊢
  split at h
  · cases h
  rename_i n s₁ hh
  obtain ⟨pad, rfl, hn⟩ := FramebufferUpdateMessage.readHeader_takes hh
  obtain ⟨rs, hrs, rfl⟩ := SessionRead.map_eq_ok.mp h
  obtain ⟨hlen, w, rfl, hw⟩ := readRectangles_takes _ _ _ _ _ _ hc hrs
  have hcount : UInt16.ofNat rs.length = n := by rw [hlen, uint16_ofNat_toNat]
  have hm := @MessageWire.framebufferUpdate c pad w rs _ hw (by omega)
  rw [hcount] at hm
  exact ⟨pad :: (be16 n ++ w), by simp only [List.cons_append, List.append_assoc], hm⟩

theorem SetColorMapEntriesMessage.read_takes {c : ClientConn} {s s' : Bytes} {m : ServerMessage}
    (h : (SetColorMapEntriesMessage.read c s).2 = .ok (m, s')) :
    ∃ w, s = w ++ s' ∧ MessageWire c (1 :: w) m (SetColorMapEntriesMessage.read c s).1 := by
  unfold SetColorMapEntriesMessage.read at h ⊢
  split at h
  · cases h
  rename_i first n s₁ hh
  obtain ⟨pad, rfl, hpos, hle⟩ := SetColorMapEntriesMessage.readHeader_eq_ok hh
  obtain ⟨colors, tail, rfl, hc, hres⟩ := readColorEntries_spec first n.toNat 0 c s₁ (by omega)
  obtain ⟨cs, hcs, rfl⟩ := SessionRead.map_eq_ok.mp h
  obtain ⟨hok, hlen⟩ := hres.resolve_right fun ⟨herr, _⟩ => by rw [herr] at hcs; cases hcs
  rw [hok] at hcs
  obtain ⟨hc1, hc2⟩ := Prod.mk.inj (Except.ok.inj hcs)
  subst hc1 hc2
  have hcount : UInt16.ofNat colors.length = n := by rw [hlen, uint16_ofNat_toNat]
  have hm := @MessageWire.setColorMapEntries c pad first colors (by omega) (by omega)
  rw [hcount] at hm
  rw [SessionRead.map_fst, hc, Nat.add_zero]
  exact ⟨pad :: (be16 first ++ be16 n ++ colors.flatMap Color.wire), by
    simp only [List.cons_append, List.append_assoc], hm⟩

/-- The package's table: each type byte with its `Read`. -/
theorem typeMap_defaultMessages_eq {U : UnicodeTables} {b : UInt8} {read : MessageRead}
    (h : typeMap (defaultMessages U) b = some read) :
    b = 0 ∧ read = FramebufferUpdateMessage.read ∨ b = 1 ∧ read = SetColorMapEntriesMessage.read ∨
      b = 2 ∧ read = BellMessage.read ∨ b = 3 ∧ read = ServerCutTextMessage.read U := by
  obtain ⟨m, hm, rfl⟩ := Option.map_eq_some'.mp h
  have hb : m.type = b := by simpa using List.find?_some hm
  have hmem := List.mem_reverse.mp (List.mem_of_find?_eq_some hm)
  simp only [defaultMessages, List.mem_cons, List.mem_singleton, List.not_mem_nil, or_false] at hmem
  rcases hmem with rfl | rfl | rfl | rfl <;> subst hb <;> simp

/-- A message read of the package's table, ServerCutText apart, that returns took the wire
form of the message it returns. -/
theorem serverMessage_takes {U : UnicodeTables} {b : UInt8} {read : MessageRead}
    (htbl : typeMap (defaultMessages U) b = some read) (hb : b ≠ 3) {c c' : ClientConn}
    (hc : SessionInv c) {s rest : Bytes} {m : ServerMessage} (h : read c s = (c', .ok (m, rest))) :
    ∃ w, s = w ++ rest ∧ MessageWire c (b :: w) m c' := by
  have h2 : (read c s).2 = .ok (m, rest) := by rw [h]
  have h1 : (read c s).1 = c' := by rw [h]
  rw [← h1]
  rcases typeMap_defaultMessages_eq htbl with ⟨rfl, rfl⟩ | ⟨rfl, rfl⟩ | ⟨rfl, rfl⟩ | ⟨rfl, -⟩
  · exact FramebufferUpdateMessage.read_takes hc h2
  · exact SetColorMapEntriesMessage.read_takes h2
  · cases h2
    exact ⟨[], rfl, .bell⟩
  · exact absurd rfl hb

/-- The session a handshake with a 640 × 480 server opens keeps the invariant. -/
theorem noAuthSession_sessionInv : SessionInv noAuthSession :=
  ⟨by decide, by decide, by decide, by decide, by decide⟩

/-- The messages the reader takes from any stream, on a session that keeps the invariant and
with the package's table alone, are those of a well-formed prefix of the stream, up to the
first ServerCutText. -/
theorem parseMessages_takes (U : UnicodeTables) {cfg : ClientConfig} (hcfg : cfg.serverMessages = []) :
    ∀ (n : Nat) (c : ClientConn) (s : Bytes), SessionInv c →
      (∀ t, .serverCutText t ∉ parseMessages (mainLoopTable U cfg) n c s) →
      ∃ w rest c', s = w ++ rest ∧ StreamWire c w (parseMessages (mainLoopTable U cfg) n c s) c'
  | 0, c, s, _, _ => ⟨[], s, c, rfl, .nil c⟩
  | _ + 1, c, [], _, _ => ⟨[], [], c, rfl, .nil c⟩
  | n + 1, c, b :: s, hc, hcut => by
    cases htbl : mainLoopTable U cfg b with
    | none =>
      simp only [parseMessages, htbl]
      exact ⟨[], _, c, rfl, .nil c⟩
    | some read =>
    cases hr : (read c s).2 with
    | error f =>
      simp only [parseMessages, htbl, hr]
      exact ⟨[], _, c, rfl, .nil c⟩
    | ok p =>
    obtain ⟨m, s'⟩ := p
    rw [parseMessages_cons n htbl hr] at hcut ⊢
    rw [mainLoopTable, hcfg, List.append_nil] at htbl
    have hb : b ≠ 3 := by
      rintro rfl
      rcases typeMap_defaultMessages_eq htbl with ⟨h, -⟩ | ⟨h, -⟩ | ⟨h, -⟩ | ⟨-, rfl⟩
      · cases h
      · cases h
      · cases h
      simp only [ServerCutTextMessage.read, bind_eq_ok] at hr
      obtain ⟨_, _, -, _, _, -, _, _, -, _, _, -, h⟩ := hr
      cases h
      exact hcut _ (List.mem_cons_self _ _)
    obtain ⟨w, rfl, hw⟩ := serverMessage_takes htbl hb hc (Prod.ext rfl hr)
    obtain ⟨ws, rest, c', rfl, hws⟩ := parseMessages_takes U hcfg n _ s'
      (serverMessage_sessionInv htbl _ hc) fun t ht => hcut t (List.mem_cons_of_mem _ ht)
    exact ⟨b :: w ++ ws, rest, c', by simp only [List.cons_append, List.append_assoc],
      .cons hw hws⟩

end GoVnc
