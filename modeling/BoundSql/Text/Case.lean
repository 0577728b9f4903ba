import BoundSql.Text.CaseTable

/-!
# Capital and small letters

The full case mappings: a letter may become several, and a capital sigma becomes the final form
where it ends a word.
-/

namespace BoundSql.Text

/-- The first run that has a code point decides. -/
def caseRunImage (runs : List CaseRun) (n : Nat) : Nat :=
  (runs.findSome? fun run => run.apply? n).getD n

/-- The capital form of one character. -/
def upperChar (c : Char) : List Char :=
  let n := c.toNat
  if n < 128 then [if 'a' ≤ c && c ≤ 'z' then Char.ofNat (n - 32) else c]
  else
    match upperExpansions.lookup n with
    | some several => several.map Char.ofNat
    | none => [Char.ofNat (caseRunImage upperRuns n)]

/-- A text in capital letters. -/
def upper (s : List Char) : List Char := s.flatMap upperChar

/-- The small form of one character, a sigma in its inner form. -/
def lowerChar (c : Char) : List Char :=
  let n := c.toNat
  if n < 128 then [if 'A' ≤ c && c ≤ 'Z' then Char.ofNat (n + 32) else c]
  else if n = 0x130 then ['i', Char.ofNat 0x307]
  else [Char.ofNat (caseRunImage lowerRuns n)]

/-- The nearest character that is not passed over has case. -/
def meetsCased (neighbours : List Char) : Bool :=
  match neighbours.dropWhile fun c => inRanges caseIgnorable c.toNat with
  | [] => false
  | c :: _ => inRanges casedLetters c.toNat

/-- Small letters, where `before` holds what precedes in reverse. -/
def lowerFrom (before : List Char) : List Char → List Char
  | [] => []
  | c :: rest =>
    let here :=
      if c.toNat = 0x3a3 then
        [Char.ofNat (if meetsCased before && !meetsCased rest then 0x3c2 else 0x3c3)]
      else lowerChar c
    here ++ lowerFrom (c :: before) rest

/-- A text in small letters. -/
def lower (s : List Char) : List Char := lowerFrom [] s

/-- A string in capital letters. -/
def upperText (s : String) : String := String.ofList (upper s.toList)

/-- A string in small letters. -/
def lowerText (s : String) : String := String.ofList (lower s.toList)

end BoundSql.Text
