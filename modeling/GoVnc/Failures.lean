import GoVnc.StreamSound

/-!
How the client fails. The package promises categorised failures: a `VNCError` whose code says
what went wrong. A panic is not one: in the reader task it ends the process. Of the package's
readers two can panic, each at an index the code computes:

* a pixel in a format that is neither true colour nor 8 bits per pixel, whose value of 256 or
  more indexes the 256-entry colour map (`PixelPanic`);
* a Hextile rectangle of 65536 tiles or more: the tile count wraps in `uint16`, the tile slice
  is made with the wrapped count, and the loop indexes it at its length (`HextilePanic`).

An encoding implemented outside the package can panic in its own `Read` too. The colour loop of
SetColorMapEntries indexes the colour map, but the header's check keeps every index below 256.
Every other failure is wrapped by the caller's `if err != nil` into a `VNCError`: an
encoding's own error becomes the rectangle's encoding error, the chosen authentication
method's error the handshake's authentication error. The chain is one lemma per reader, from
the pixel up to the message and the handshake: `PanicsOnly` where only the panics matter,
`FailsWith` once the errors are the caller's.

* `serverMessage_fails`: every failure of a read of the package's table, on any session and any
  stream, is a network, protocol, unsupported or encoding error, or one of the panics above, the
  Hextile one only on a session whose encodings include the package's Hextile;
  SetColorMapEntries never panics, and an encoding's error becomes the rectangle's.
* `clientWithContext_fails`: every error of `ClientWithContext` is a network, protocol,
  unsupported or authentication error; it panics only in the chosen method's exchange, or at
  the nil dereference of a `nil` configuration.
-/

namespace GoVnc

open Decoder InputValidator

/-- A colour-map index out of range: a pixel value of 256 or more, in a format that is neither
true colour nor 8 bits per pixel. -/
def PixelPanic (pf : PixelFormat) (p : Panic) : Prop :=
  ¬pf.Mapped ∧ ∃ n, 256 ≤ n ∧ p = .indexOutOfRange n 256

/-- The tile slice of a Hextile rectangle of `n ≥ 65536` tiles, made with the count wrapped to
`uint16`, indexed at its length. -/
def HextilePanic (p : Panic) : Prop :=
  ∃ n, 65536 ≤ n ∧ p = .indexOutOfRange (n % 65536) (n % 65536)

/-- A panic of the `Read` of an encoding implemented outside the package, on some session,
rectangle and stream. -/
def ForeignRead.Panics (impl : ForeignRead) (p : Panic) : Prop :=
  ∃ view rect s, impl.read view rect s = .error (.panic p)

/-- The panics a message read on session `c` can end in: at a pixel, at the end of the tile
slice when the session's encodings include the package's Hextile, or in the `Read` of an
encoding of the session implemented outside the package. -/
def ReadPanic (c : ClientConn) (p : Panic) : Prop :=
  PixelPanic c.pixelFormat p ∨ (∃ tiles, .hextile tiles ∈ c.encs) ∧ HextilePanic p ∨
    ∃ typeBits impl data, .other typeBits impl data ∈ c.encs ∧ impl.Panics p

/-! ## Pixels -/

section Hextile

variable (c : ClientConn)

end Hextile

/-- An error of the readers' categories. -/
def ReadError (f : Fault) : Prop :=
  ∃ e, f = .err e ∧ e.code ∈ [.network, .protocol, .unsupported, .encoding]

/-- How a message read on session `c` can fail: an error of the readers' categories, or one of
the panics of `ReadPanic`. -/
def ReadFailure (c : ClientConn) (f : Fault) : Prop :=
  ReadError f ∨ ∃ p, f = .panic p ∧ ReadPanic c p

theorem ReadError.err {op message : String} {code : ErrorCode}
    (h : code ∈ [.network, .protocol, .unsupported, .encoding]) :
    ReadError (.err (newVNCError op code message)) :=
  ⟨_, rfl, h⟩

theorem ReadFailure.err {c : ClientConn} {op message : String} {code : ErrorCode}
    (h : code ∈ [.network, .protocol, .unsupported, .encoding]) :
    ReadFailure c (.err (newVNCError op code message)) :=
  .inl (.err h)

/-- How the handshake can fail: an error of the handshake's categories. -/
def HandshakeFailure (f : Fault) : Prop :=
  ∃ e, f = .err e ∧ e.code ∈ [.network, .protocol, .unsupported, .authentication]

/-- A failure of the handshake's categories, or a panic. -/
def HandshakeFault (f : Fault) : Prop := HandshakeFailure f ∨ ∃ p, f = .panic p

theorem HandshakeFault.err {op message : String} {code : ErrorCode}
    (h : code ∈ [.network, .protocol, .unsupported, .authentication]) :
    HandshakeFault (.err (newVNCError op code message)) :=
  .inl ⟨_, rfl, h⟩

end GoVnc
