/-!
# Base 64

Bytes written as letters, digits, `+` and `/`, four characters for three bytes, with `=` in the
places of bytes that are not there. Characters of other kinds are passed over. Nothing is read
behind the padding of a group; a group that is broken off gives no bytes at all.
-/

namespace BoundSql.Text

/-- The value of a character of base 64. -/
def sextet? (c : Char) : Option Nat :=
  if 'A' ≤ c && c ≤ 'Z' then some (c.toNat - 65)
  else if 'a' ≤ c && c ≤ 'z' then some (c.toNat - 71)
  else if '0' ≤ c && c ≤ '9' then some (c.toNat + 4)
  else if c = '+' then some 62
  else if c = '/' then some 63
  else none

/-- What has been read of a text in base 64. -/
structure Base64Reader where
  /-- The bytes, the last one first. -/
  bytes : List UInt8 := []
  /-- The bits that do not fill a byte yet. -/
  bits : Nat := 0
  /-- The count of characters of the group that is not complete. -/
  place : Nat := 0
  /-- The count of signs of padding since the last character. -/
  pads : Nat := 0

/-- Takes in the value of one more character. -/
def Base64Reader.push (r : Base64Reader) (v : Nat) : Base64Reader :=
  if r.place = 0 then { r with bits := v, place := 1, pads := 0 }
  else
    let bits := r.bits * 64 + v
    let unit := Nat.pow 4 (3 - r.place)
    ⟨UInt8.ofNat (bits / unit) :: r.bytes, bits % unit, (r.place + 1) % 4, 0⟩

/-- Reads the rest of a text in base 64. -/
def decodeBase64From (r : Base64Reader) : List Char → Option (List UInt8)
  | [] => if r.place = 0 then some r.bytes.reverse else none
  | c :: rest =>
    if c = '=' then
      if r.place < 2 then decodeBase64From r rest
      else if r.place + r.pads + 1 < 4 then decodeBase64From { r with pads := r.pads + 1 } rest
      else some r.bytes.reverse
    else
      match sextet? c with
      | some v => decodeBase64From (r.push v) rest
      | none => decodeBase64From r rest

/-- The bytes of a text of ASCII in base 64. -/
def decodeBase64? (cs : List Char) : Option (List UInt8) :=
  if cs.all (·.toNat < 128) then decodeBase64From {} cs else none

end BoundSql.Text
