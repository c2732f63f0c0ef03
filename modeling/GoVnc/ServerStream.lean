import GoVnc.EncodingWire
import GoVnc.ColorMapUpdate
import GoVnc.UpdateBounds
import GoVnc.MainLoop

/-!
A stream of server messages as RFC 6143 lays them out, and what the client's reader task
makes of it. A FramebufferUpdate is a type byte, a padding byte, a rectangle count and the
rectangles, each a header and its encoding's data; a SetColorMapEntries is a type byte, a
padding byte, the first index, the count and the colours; a Bell is its type byte alone.
Each message is read on the session the messages before it left: a DesktopSize rectangle
changes the framebuffer size the rectangles after it are checked against, and a
SetColorMapEntries changes the colour map the pixels after it are looked up in.
ServerCutText is left out: the client reads one padding byte where the protocol has three.

* `readRectangles_wire`, `FramebufferUpdateMessage.read_wire`,
  `SetColorMapEntriesMessage.read_wire`: each message is read exactly, with the session it
  leaves.
* `parseMessages_stream`: the messages the reader takes from a stream of such messages and
  whatever follows are the stream's, in order, and then those of what follows, read on the
  session the stream left.
* `loopRun_stream`: with a channel, the reader task can deliver all of them, and whatever it
  delivers is a prefix of them.
-/

namespace GoVnc

open Decoder InputValidator

/-! ## Rectangles -/

/-- The encoder table has an entry for a type the session can read: Raw, Cursor and
DesktopSize always, and the types of the encodings the session set. -/
theorem encMap_isSome {encs : List Encoding} {t : Int}
    (h : t = 0 ∨ t = -239 ∨ t = -223 ∨ ∃ e ∈ encs, e.type = t) : ∃ e, encMap encs t = some e := by
  unfold encMap
  split_ifs with h0 h1 h2
  · exact ⟨_, rfl⟩
  · exact ⟨_, rfl⟩
  · exact ⟨_, rfl⟩
  · obtain ⟨e, he, rfl⟩ := (h.resolve_left h0).resolve_left h1 |>.resolve_left h2
    exact Option.isSome_iff_exists.mp (List.find?_isSome.mpr ⟨e, List.mem_reverse.mpr he, by simp⟩)

/-- Every encoding type is an `int32`. -/
theorem Encoding.type_int32 (e : Encoding) : -2147483648 ≤ e.type ∧ e.type < 2147483648 := by
  cases e with
  | other typeBits =>
    have := typeBits.toNat_lt
    simp only [Encoding.type, int32OfBits]
    split_ifs <;> omega
  | _ => simp only [Encoding.type]; decide

/-- The session's encoder table has, for the type of `enc`, an encoding with `enc`'s `Read`:
for a package encoding, the package's encoding of that type; for one implemented outside the
package, that implementation. -/
def TableReads (encs : List Encoding) (enc : Encoding) : Prop :=
  ∃ e, encMap encs enc.type = some e ∧ e.read = enc.read

theorem checkBounds_reads {c : ClientConn} {i : Nat} {rect : RectHeader} {t : Int}
    (h : 0 ≤ t → InBox rect.x.toNat rect.y.toNat rect.width.toNat rect.height.toNat
      c.frameBufferWidth.toNat c.frameBufferHeight.toNat) :
    (checkBounds c i rect t).Reads [] () := by
  unfold checkBounds
  split_ifs with ht
  · exact Reads.check ((validateRectangle_ok_iff ..).mpr (h ht)) _
  · exact Reads.pure ()

/-- A rectangle on the wire: its position and size, its encoding type as a two's-complement
`int32`, then its encoding's data. Its type passes `ValidateEncodingType`, the session's table
reads it with its encoding's `Read`, and a rectangle of non-negative type lies inside the
framebuffer. -/
def RectangleWire (c : ClientConn) (w : Bytes) (r : Rectangle) : Prop :=
  ∃ data, w = be16 r.x ++ be16 r.y ++ be16 r.width ++ be16 r.height ++
      be32 (bitsOfInt32 r.enc.type) ++ data ∧
    EncodingWire c r.toRectHeader data r.enc ∧ validateEncodingType r.enc.type = .ok () ∧
    TableReads c.encs r.enc ∧
    (0 ≤ r.enc.type → InBox r.x.toNat r.y.toNat r.width.toNat r.height.toNat
      c.frameBufferWidth.toNat c.frameBufferHeight.toNat)

theorem readRectangle_reads {c : ClientConn} {w : Bytes} {r : Rectangle} (i : Nat)
    (h : RectangleWire c w r) : (readRectangle c i).Reads w r := by
  obtain ⟨data, rfl, henc, hvalid, ⟨e, he, hread⟩, hfb⟩ := h
  obtain ⟨hlo, hhi⟩ := r.enc.type_int32
  simp only [List.append_assoc]
  refine ((readU16_reads _).orFail _).bind <| ((readU16_reads _).orFail _).bind <|
    ((readU16_reads _).orFail _).bind <| ((readU16_reads _).orFail _).bind <|
    ((readI32_reads hlo hhi).orFail _).bind ?_
  rw [← List.nil_append data, ← List.nil_append ([] ++ data)]
  refine (Reads.check hvalid _).bind ((checkBounds_reads hfb).bind ?_)
  simp only [he]
  exact ((henc.reads hread hfb).orFail _).bind_nil (Reads.pure _)

/-- Rectangles on the wire, each read on the session the ones before it left. -/
inductive RectanglesWire : ClientConn → Bytes → List Rectangle → ClientConn → Prop
  | nil (c : ClientConn) : RectanglesWire c [] [] c
  | cons {c c' : ClientConn} {w ws : Bytes} {r : Rectangle} {rs : List Rectangle}
      (h : RectangleWire c w r) (hs : RectanglesWire (afterRectangle c r) ws rs c') :
      RectanglesWire c (w ++ ws) (r :: rs) c'

/-- The rectangle loop reads the rectangles and leaves the session the last one left. -/
theorem readRectangles_wire {c c' : ClientConn} {w : Bytes} {rs : List Rectangle}
    (h : RectanglesWire c w rs c') (i : Nat) (rest : Bytes) :
    readRectangles rs.length i c (w ++ rest) = (c', .ok (rs, rest)) := by
  induction h generalizing i with
  | nil => rfl
  | cons hr _ ih =>
    rw [List.length_cons, readRectangles, List.append_assoc, readRectangle_reads i hr]
    dsimp only
    rw [ih]
    rfl

/-! ## Messages -/

theorem FramebufferUpdateMessage.readHeader_reads (pad : UInt8) {n : UInt16}
    (hn : n.toNat ≤ 10000) : FramebufferUpdateMessage.readHeader.Reads (pad :: be16 n) n := by
  refine ((readFull_reads (show [pad].length = 1 from rfl)).orFail _).bind
    (((readU16_reads n).orFail _).bind_nil ?_)
  rw [if_neg (by omega)]
  exact Reads.pure n

/-- A FramebufferUpdate after its type byte: the padding byte, at most 10000 rectangles. -/
theorem FramebufferUpdateMessage.read_wire {c c' : ClientConn} {w : Bytes} {rs : List Rectangle}
    (h : RectanglesWire c w rs c') (hn : rs.length ≤ 10000) (pad : UInt8) (rest : Bytes) :
    FramebufferUpdateMessage.read c (pad :: (be16 (UInt16.ofNat rs.length) ++ w ++ rest)) =
      (c', .ok (.framebufferUpdate rs, rest)) := by
  have hcount : (UInt16.ofNat rs.length).toNat = rs.length := by
    rw [toNat_uint16_ofNat]; omega
  unfold FramebufferUpdateMessage.read
  rw [List.append_assoc, ← List.cons_append,
    FramebufferUpdateMessage.readHeader_reads pad (by omega) (w ++ rest)]
  dsimp only
  rw [hcount, readRectangles_wire h]
  rfl

/-- One colour of the colour loop: red, green, blue. -/
theorem readRGB_reads (e : VNCError) (col : Color) :
    (do
      let r ← readU16.orFail e
      let g ← readU16.orFail e
      let b ← readU16.orFail e
      pure (Color.mk r g b) : Decoder Color).Reads col.wire col :=
  ((readU16_reads _).orFail e).bind <| ((readU16_reads _).orFail e).bind <|
    ((readU16_reads _).orFail e).bind_nil (Reads.pure _)

/-- The colour loop reads the colours and stores them from entry `first + i` on. -/
theorem readColorEntries_wire (first : UInt16) :
    ∀ (colors : List Color) (i : Nat) (c : ClientConn) (rest : Bytes),
      first.toNat + i + colors.length ≤ 256 →
      readColorEntries first colors.length i c (colors.flatMap Color.wire ++ rest) =
        ({ c with colorMap := c.colorMap.replace (first.toNat + i) colors }, .ok (colors, rest))
  | [], _, _, _, _ => by rw [ColorMap.replace_nil]; rfl
  | col :: colors, i, c, rest, h => by
    have hidx : (first + UInt16.ofNat i).toNat = first.toNat + i := by
      rw [toNat_uint16_add, toNat_uint16_ofNat]; simp only [List.length_cons] at h; omega
    have hlt : first.toNat + i < 256 := by simp only [List.length_cons] at h; omega
    rw [List.length_cons, readColorEntries, List.flatMap_cons, List.append_assoc,
      readRGB_reads _ col]
    dsimp only
    rw [dif_pos (hidx ▸ hlt)]
    simp only [hidx]
    rw [readColorEntries_wire first colors (i + 1) _ rest (by simp only [List.length_cons] at h; omega),
      ← Nat.add_assoc, ColorMap.replace_cons _ hlt]
    rfl

theorem SetColorMapEntriesMessage.readHeader_reads (pad : UInt8) {first n : UInt16}
    (hpos : 0 < n.toNat) (hle : first.toNat + n.toNat ≤ 256) :
    SetColorMapEntriesMessage.readHeader.Reads (pad :: (be16 first ++ be16 n)) (first, n) :=
  ((readFull_reads (show [pad].length = 1 from rfl)).orFail _).bind <| ((readU16_reads first).orFail _).bind <|
    ((readU16_reads n).orFail _).bind_nil <|
    (Reads.check ((validateColorMapEntries_ok_iff first n 256).mpr ⟨hpos, hle⟩) _).bind_nil
      (Reads.pure _)

/-- A SetColorMapEntries after its type byte: the padding byte, the first index and at least
one colour, all inside the 256-entry map; the read replaces exactly those entries. -/
theorem SetColorMapEntriesMessage.read_wire (c : ClientConn) (pad : UInt8) {first : UInt16}
    {colors : List Color} (hpos : 0 < colors.length) (hle : first.toNat + colors.length ≤ 256)
    (rest : Bytes) :
    SetColorMapEntriesMessage.read c
        (pad :: (be16 first ++ be16 (UInt16.ofNat colors.length) ++ colors.flatMap Color.wire ++
          rest)) =
      ({ c with colorMap := c.colorMap.replace first.toNat colors },
        .ok (.setColorMapEntries first colors, rest)) := by
  have hcount : (UInt16.ofNat colors.length).toNat = colors.length := by
    rw [toNat_uint16_ofNat]; omega
  unfold SetColorMapEntriesMessage.read
  rw [List.append_assoc, ← List.cons_append,
    SetColorMapEntriesMessage.readHeader_reads pad (by omega) (by omega)]
  dsimp only
  rw [hcount, readColorEntries_wire first colors 0 c rest (by omega)]
  rfl

/-- A message of the type table on the wire, from its type byte on, and the session reading
it leaves. -/
inductive MessageWire (c : ClientConn) : Bytes → ServerMessage → ClientConn → Prop
  | framebufferUpdate {pad : UInt8} {w : Bytes} {rs : List Rectangle} {c' : ClientConn}
      (h : RectanglesWire c w rs c') (hn : rs.length ≤ 10000) :
      MessageWire c (0 :: pad :: (be16 (UInt16.ofNat rs.length) ++ w)) (.framebufferUpdate rs) c'
  | setColorMapEntries {pad : UInt8} {first : UInt16} {colors : List Color}
      (hpos : 0 < colors.length) (hle : first.toNat + colors.length ≤ 256) :
      MessageWire c
        (1 :: pad :: (be16 first ++ be16 (UInt16.ofNat colors.length) ++
          colors.flatMap Color.wire))
        (.setColorMapEntries first colors) { c with colorMap := c.colorMap.replace first.toNat colors }
  | bell : MessageWire c [2] .bell c

/-- Messages on the wire one after the other, each read on the session the one before left. -/
inductive StreamWire : ClientConn → Bytes → List ServerMessage → ClientConn → Prop
  | nil (c : ClientConn) : StreamWire c [] [] c
  | cons {c c₁ c₂ : ClientConn} {w ws : Bytes} {m : ServerMessage} {ms : List ServerMessage}
      (h : MessageWire c w m c₁) (hs : StreamWire c₁ ws ms c₂) :
      StreamWire c (w ++ ws) (m :: ms) c₂

/-! ## The reader task -/

/-- Types 0, 1 and 2 of the package's table. -/
theorem defaultMessages_types (U : UnicodeTables) :
    typeMap (defaultMessages U) 0 = some FramebufferUpdateMessage.read ∧
      typeMap (defaultMessages U) 1 = some SetColorMapEntriesMessage.read ∧
      typeMap (defaultMessages U) 2 = some BellMessage.read :=
  ⟨rfl, rfl, rfl⟩

/-- `mainLoop` looks types 0, 1 and 2 up in the package's table when the configured messages do
not take those types. -/
theorem mainLoopTable_eq_default (U : UnicodeTables) {cfg : ClientConfig}
    (hcfg : ∀ m ∈ cfg.serverMessages, m.type ≠ 0 ∧ m.type ≠ 1 ∧ m.type ≠ 2) {b : UInt8}
    (hb : b = 0 ∨ b = 1 ∨ b = 2) : mainLoopTable U cfg b = typeMap (defaultMessages U) b := by
  have hnone : cfg.serverMessages.reverse.find? (·.type = b) = none :=
    List.find?_eq_none.mpr fun m hm he => by
      have := hcfg m (List.mem_reverse.mp hm)
      rcases hb with rfl | rfl | rfl <;> simp_all
  unfold mainLoopTable typeMap
  rw [List.reverse_append, List.find?_append, hnone, Option.none_or]

/-- A message on the wire is its type byte, one of the package's first three, and a body that
the type's `Read` reads exactly, leaving the session of the message. -/
theorem MessageWire.read (U : UnicodeTables) {c c' : ClientConn} {w : Bytes} {m : ServerMessage}
    (h : MessageWire c w m c') :
    ∃ b body read, w = b :: body ∧ (b = 0 ∨ b = 1 ∨ b = 2) ∧
      typeMap (defaultMessages U) b = some read ∧ ∀ rest, read c (body ++ rest) = (c', .ok (m, rest)) := by
  obtain ⟨h0, h1, h2⟩ := defaultMessages_types U
  cases h with
  | framebufferUpdate hrs hn =>
    exact ⟨0, _, _, rfl, .inl rfl, h0, fun rest => by
      rw [List.cons_append, List.append_assoc, ← List.append_assoc (be16 _)]
      exact FramebufferUpdateMessage.read_wire hrs hn _ rest⟩
  | setColorMapEntries hpos hle =>
    exact ⟨1, _, _, rfl, .inr (.inl rfl), h1, fun rest => by
      rw [List.cons_append]
      exact SetColorMapEntriesMessage.read_wire c _ hpos hle rest⟩
  | bell => exact ⟨2, [], _, rfl, .inr (.inr rfl), h2, fun _ => rfl⟩

/-- The messages the reader takes from a stream of well-formed messages followed by anything:
the stream's messages in order, then those of what follows, read on the session the stream
left. -/
theorem parseMessages_stream (U : UnicodeTables) {cfg : ClientConfig} {c c' : ClientConn}
    {w : Bytes} {ms : List ServerMessage}
    (hcfg : ∀ m ∈ cfg.serverMessages, m.type ≠ 0 ∧ m.type ≠ 1 ∧ m.type ≠ 2)
    (h : StreamWire c w ms c') (k : Nat) (rest : Bytes) :
    parseMessages (mainLoopTable U cfg) k c (w ++ rest) =
      ms.take k ++ parseMessages (mainLoopTable U cfg) (k - ms.length) c' rest := by
  induction h generalizing k with
  | nil => simp
  | @cons c c₁ c₂ w ws m ms hm _ ih =>
    obtain ⟨b, body, read, rfl, hb, hread, hr⟩ := MessageWire.read U hm
    rw [← mainLoopTable_eq_default U hcfg hb] at hread
    cases k with
    | zero => simp only [Nat.zero_sub, List.take_zero, List.nil_append, parseMessages]
    | succ k =>
      have hr := hr (ws ++ rest)
      simp only [List.cons_append, List.append_assoc]
      rw [parseMessages_cons k hread (by rw [hr]), hr, ih,
        List.take_succ_cons, List.length_cons, Nat.succ_sub_succ, List.cons_append]

/-- With `ServerMessageCh` set, on a stream of well-formed messages the reader task has a run
that delivers every message, in order, before the stream ends; and whatever a run delivers
(it may be cut short by `Close`) is a prefix of them. -/
theorem loopRun_stream (U : UnicodeTables) {cfg : ClientConfig} {c c' : ClientConn}
    {w : Bytes} {ms : List ServerMessage}
    (hcfg : ∀ m ∈ cfg.serverMessages, m.type ≠ 0 ∧ m.type ≠ 1 ∧ m.type ≠ 2)
    (h : StreamWire c w ms c') :
    LoopRun (mainLoopTable U cfg) true c w ms ∧
      ∀ sent, LoopRun (mainLoopTable U cfg) true c w sent → sent <+: ms := by
  refine ⟨?_, fun sent hrun => ?_⟩
  · induction h with
    | nil c => exact .eof c
    | @cons c c₁ c₂ w ws m ms hm _ ih =>
      obtain ⟨b, body, read, rfl, hb, hread, hr⟩ := MessageWire.read U hm
      have hr := hr ws
      exact .send c b (body ++ ws) ws read m ms ((mainLoopTable_eq_default U hcfg hb).trans hread)
        (by rw [hr]) rfl (by rw [hr]; exact ih)
  · have hsent := (loopRun_sent hrun).1 rfl
    have hstream := parseMessages_stream U hcfg h sent.length []
    rw [List.append_nil] at hstream
    rw [hsent, hstream]
    cases hk : sent.length - ms.length <;>
      simp only [parseMessages, List.append_nil, List.take_prefix]

end GoVnc
