/-!
# UTF-8

Bytes to characters and back. `decodeBytes` never fails: the longest start of a character that
cannot be completed becomes one replacement character. `decodeExact?` refuses such bytes.
-/

namespace BoundSql.Text

/-- The bytes of one character. -/
def encodeChar (c : Char) : List Nat :=
  let n := c.toNat
  if n < 0x80 then [n]
  else if n < 0x800 then [0xc0 + n / 64, 0x80 + n % 64]
  else if n < 0x10000 then [0xe0 + n / 4096, 0x80 + n / 64 % 64, 0x80 + n % 64]
  else [0xf0 + n / 262144, 0x80 + n / 4096 % 64, 0x80 + n / 64 % 64, 0x80 + n % 64]

/-- The bytes of a text. -/
def encodeText (s : List Char) : List Nat := s.flatMap encodeChar

/-- How many bytes must follow a leading byte, and the bounds of the first of them. -/
def leadByte? (b : Nat) : Option (Nat × Nat × Nat) :=
  if 0xc2 ≤ b && b ≤ 0xdf then some (1, 0x80, 0xbf)
  else if b == 0xe0 then some (2, 0xa0, 0xbf)
  else if b == 0xed then some (2, 0x80, 0x9f)
  else if 0xe1 ≤ b && b ≤ 0xef then some (2, 0x80, 0xbf)
  else if b == 0xf0 then some (3, 0x90, 0xbf)
  else if 0xf1 ≤ b && b ≤ 0xf3 then some (3, 0x80, 0xbf)
  else if b == 0xf4 then some (3, 0x80, 0x8f)
  else none

/-- What a decoder is in the middle of: how many bytes are missing, the bounds of the next one and
the bits read so far. -/
structure Pending where
  /-- Bytes that are still to come, at least one. -/
  missing : Nat
  /-- Least value of the next byte. -/
  low : Nat
  /-- Greatest value of the next byte. -/
  high : Nat
  /-- Bits read so far. -/
  bits : Nat

/-- The character that stands for bytes that are none. -/
def replacement : Char := Char.ofNat 0xfffd

/-- A byte that starts a character, on its own or with followers. -/
def startByte (b : Nat) : Sum Char Pending :=
  if b < 0x80 then .inl (Char.ofNat b)
  else
    match leadByte? b with
    | none => .inl replacement
    | some (1, low, high) => .inr ⟨1, low, high, b % 32⟩
    | some (2, low, high) => .inr ⟨2, low, high, b % 16⟩
    | some (more, low, high) => .inr ⟨more, low, high, b % 8⟩

/-- Characters of bytes, from the middle of a character or between two. -/
def decodeFrom (pending : Option Pending) : List Nat → List Char
  | [] => if pending.isSome then [replacement] else []
  | b :: rest =>
    match pending with
    | none =>
      match startByte b with
      | .inl c => c :: decodeFrom none rest
      | .inr p => decodeFrom (some p) rest
    | some p =>
      if p.low ≤ b && b ≤ p.high then
        let bits := p.bits * 64 + b % 64
        if p.missing ≤ 1 then Char.ofNat bits :: decodeFrom none rest
        else decodeFrom (some ⟨p.missing - 1, 0x80, 0xbf, bits⟩) rest
      else
        match startByte b with
        | .inl c => replacement :: c :: decodeFrom none rest
        | .inr q => replacement :: decodeFrom (some q) rest

/-- The characters of bytes. -/
def decodeBytes (bytes : List Nat) : List Char := decodeFrom none bytes

/-- The text that bytes encode. -/
def decodeExact? (bytes : List UInt8) : Option String :=
  String.fromUTF8? ⟨bytes.toArray⟩

end BoundSql.Text
