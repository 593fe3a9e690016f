/-!
# UTF-8

Reading bytes as text. The reader stops at the first bytes that begin no character and says which
they are: a fault covers the longest run of bytes that some character could still begin with, or
the one byte that begins none.

## Key definitions

- `decode`: the text that bytes encode, or the fault.
- `Fault.message`: the wording of a fault.
-/

namespace AgentCanvas.Text.Utf8

/-- Why bytes are no text. -/
inductive Cause where
  /-- No character begins with this byte. -/
  | invalidStart
  /-- The byte after the covered ones cannot follow them. -/
  | invalidContinuation
  /-- The bytes end inside a character. -/
  | unexpectedEnd

/-- The first bytes that encode no character: `length` many from the offset `start` on. -/
structure Fault where
  cause : Cause
  first : UInt8
  start : Nat
  length : Nat

/-- A character whose first bytes have been read: its bits so far, the number of bytes that are
missing, and the bounds of the next one. -/
structure Pending where
  bits : Nat
  missing : Nat
  low : Nat
  high : Nat

/-- What the first byte of a character announces. The narrower bounds after `E0`, `ED`, `F0` and
`F4` leave out overlong forms, surrogates and numbers beyond the last code point. -/
def Pending.ofLead (b : Nat) : Option Pending :=
  if b < 0x80 then some ⟨b, 0, 0x80, 0xBF⟩
  else if b < 0xC2 then none
  else if b < 0xE0 then some ⟨b - 0xC0, 1, 0x80, 0xBF⟩
  else if b = 0xE0 then some ⟨0, 2, 0xA0, 0xBF⟩
  else if b = 0xED then some ⟨0xD, 2, 0x80, 0x9F⟩
  else if b < 0xF0 then some ⟨b - 0xE0, 2, 0x80, 0xBF⟩
  else if b = 0xF0 then some ⟨0, 3, 0x90, 0xBF⟩
  else if b < 0xF4 then some ⟨b - 0xF0, 3, 0x80, 0xBF⟩
  else if b = 0xF4 then some ⟨4, 3, 0x80, 0x8F⟩
  else none

/-- A pending character after one more byte, if the byte can follow. -/
def Pending.next? (p : Pending) (b : Nat) : Option Pending :=
  if p.low ≤ b ∧ b ≤ p.high then some ⟨p.bits * 64 + (b - 0x80), p.missing - 1, 0x80, 0xBF⟩
  else none

/-- The place and first byte of a pending character. -/
structure Opening where
  start : Nat
  first : UInt8
  pending : Pending

/-- Reads the bytes from an offset on; `acc` holds the characters read before, last one first. -/
def decodeFrom (acc : List Char) (offset : Nat) : Option Opening → List UInt8 →
    Except Fault (List Char)
  | none, [] => .ok acc.reverse
  | some o, [] => .error ⟨.unexpectedEnd, o.first, o.start, offset - o.start⟩
  | none, b :: rest =>
    match Pending.ofLead b.toNat with
    | none => .error ⟨.invalidStart, b, offset, 1⟩
    | some p =>
      if p.missing = 0 then decodeFrom (Char.ofNat p.bits :: acc) (offset + 1) none rest
      else decodeFrom acc (offset + 1) (some ⟨offset, b, p⟩) rest
  | some o, b :: rest =>
    match o.pending.next? b.toNat with
    | none => .error ⟨.invalidContinuation, o.first, o.start, offset - o.start⟩
    | some p =>
      if p.missing = 0 then decodeFrom (Char.ofNat p.bits :: acc) (offset + 1) none rest
      else decodeFrom acc (offset + 1) (some ⟨o.start, o.first, p⟩) rest

/-- The characters that the bytes encode. -/
def decode (bytes : List UInt8) : Except Fault (List Char) :=
  decodeFrom [] 0 none bytes

/-- The wording of a cause. -/
def Cause.message : Cause → String
  | .invalidStart => "invalid start byte"
  | .invalidContinuation => "invalid continuation byte"
  | .unexpectedEnd => "unexpected end of data"

/-- A byte as two hexadecimal digits. -/
def hexByte (b : UInt8) : String :=
  String.ofList [Nat.digitChar (b.toNat / 16), Nat.digitChar (b.toNat % 16)]

/-- The wording of a fault: one byte is named by value, several by their offsets. -/
def Fault.message (f : Fault) : String :=
  "'utf-8' codec can't decode " ++
    (if f.length = 1 then "byte 0x" ++ hexByte f.first ++ " in position " ++ Nat.repr f.start
     else "bytes in position " ++ Nat.repr f.start ++ "-" ++ Nat.repr (f.start + f.length - 1)) ++
    ": " ++ f.cause.message

end AgentCanvas.Text.Utf8
