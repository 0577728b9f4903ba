import BoundSql.Text.Alnum
import BoundSql.Text.Percent
import BoundSql.Text.Utf8
import BoundSql.Yaml.Token

/-!
# Properties of nodes, and directives

Names for nodes, tags and directives. Each reader starts at the sign in front and gives the token
with the count of its characters.
-/

namespace BoundSql.Yaml

open Text

/-- A letter of a name. -/
def isNameLetter (c : Char) : Bool := isAsciiAlnum c || c == '-' || c == '_'

/-- A character that may follow a name: a gap or one of some signs. -/
def endsName (c : Option Char) : Bool :=
  isGap c || c.any fun c => ['?', ':', ',', ']', '\x7d', '%', '@', '\x60'].contains c

/-- A name for a node, or of one: a star or an ampersand and letters. -/
def readName (cs : List Char) : Except Fault (Token × Nat) :=
  let name := (cs.drop 1).takeWhile isNameLetter
  if name.isEmpty || !endsName (cs.drop (name.length + 1)).head? then .error (.document .tokens)
  else
    let word := String.ofList name
    .ok (if cs.head? = some '*' then .alias word else .anchor word, name.length + 1)

/-- A character of a tag. -/
def isTagLetter (c : Char) : Bool :=
  isAsciiAlnum c || "-;/?:@&=+$,_.!~*'()[]%".toList.contains c

/-- The bytes of a tag, escapes decoded. -/
def tagBytes? : List Char → Option (List UInt8)
  | [] => some []
  | '%' :: a :: b :: rest => do
    let high ← hexValue? a
    let low ← hexValue? b
    let more ← tagBytes? rest
    return UInt8.ofNat (high * 16 + low) :: more
  | c :: rest => if c == '%' then none else (tagBytes? rest).map (UInt8.ofNat c.toNat :: ·)

/-- The longest tag in front of a text, and the count of its characters. -/
def readTagText (cs : List Char) : Except Fault (String × Nat) :=
  let letters := cs.takeWhile isTagLetter
  match (tagBytes? letters).bind decodeExact? with
  | some text => if letters.isEmpty then .error (.document .tokens) else .ok (text, letters.length)
  | none => .error (.document .tokens)

/-- A handle of tags: an exclamation mark alone, or two with letters in between. -/
def readHandle (cs : List Char) : Except Fault String :=
  let letters := (cs.drop 1).takeWhile isNameLetter
  if cs.head? ≠ some '!' then .error (.document .tokens)
  else if (cs.drop 1).head? = some ' ' then .ok "!"
  else if (cs.drop (letters.length + 1)).head? = some '!' then
    .ok (String.ofList ('!' :: letters ++ ['!']))
  else .error (.document .tokens)

/-- A tag behind its handle; a space, a line break or the end must follow. -/
def readSuffix (handle : String) (length : Nat) (cs : List Char) :
    Except Fault (Token × Nat) := do
  let (suffix, count) ← readTagText (cs.drop length)
  if isSpaceOrEnd (cs.drop (length + count)).head? then
    return (.tag (some handle) suffix, length + count)
  else throw (.document .tokens)

/-- A tag of a node. -/
def readTag (cs : List Char) : Except Fault (Token × Nat) :=
  match (cs.drop 1).head? with
  | some '<' => do
    let (suffix, count) ← readTagText (cs.drop 2)
    let rest := cs.drop (count + 2)
    if rest.head? = some '>' && isSpaceOrEnd (rest.drop 1).head? then
      return (.tag none suffix, count + 3)
    else throw (.document .tokens)
  | next =>
    if isGap next then
      if isSpaceOrEnd next then .ok (.tag none "!", 1) else .error (.document .tokens)
    else if ((cs.drop 1).takeWhile fun c => !isSpaceOrEnd (some c)).contains '!' then do
      let handle ← readHandle cs
      readSuffix handle handle.length cs
    else readSuffix "!" 1 cs

/-- The spaces in front of a text. -/
def spaceCount (cs : List Char) : Nat := (cs.takeWhile (· == ' ')).length

/-- The version behind the name of its directive, with the count of characters. -/
def readVersion (cs : List Char) : Except Fault (Token × Nat) :=
  let spaces := spaceCount cs
  let major := (cs.drop spaces).takeWhile isAsciiDigit
  let rest := cs.drop (spaces + major.length)
  let minor := (rest.drop 1).takeWhile isAsciiDigit
  let behind := rest.drop (minor.length + 1)
  if major.isEmpty || minor.isEmpty || rest.head? ≠ some '.' || !isSpaceOrEnd behind.head? then
    .error (.document .tokens)
  else .ok (.version (digitsValue major), spaces + major.length + 1 + minor.length)

/-- The handle and its meaning behind the name of their directive, with the count of
characters. -/
def readTagHandle (cs : List Char) : Except Fault (Token × Nat) := do
  let first := spaceCount cs
  let handle ← readHandle (cs.drop first)
  let rest := cs.drop (first + handle.length)
  let second := spaceCount rest
  if second = 0 then throw (.document .tokens)
  else
    let (beginning, count) ← readTagText (rest.drop second)
    if isSpaceOrEnd (rest.drop (second + count)).head? then
      return (.tagHandle handle beginning, first + handle.length + second + count)
    else throw (.document .tokens)

/-- A directive, to the end of its line. -/
def readDirective (cs : List Char) : Except Fault (Token × Nat) := do
  let name := (cs.drop 1).takeWhile isNameLetter
  let rest := cs.drop (name.length + 1)
  if name.isEmpty || !isSpaceOrEnd rest.head? then throw (.document .tokens)
  else
    let (token, count) ←
      match String.ofList name with
      | "YAML" => readVersion rest
      | "TAG" => readTagHandle rest
      | _ => .ok (.reserved, (rest.takeWhile fun c => !isBreak c).length)
    match restOfLine? false (rest.drop count) with
    | some more => return (token, name.length + 1 + count + more)
    | none => throw (.document .tokens)

end BoundSql.Yaml
