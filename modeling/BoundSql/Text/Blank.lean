/-!
# Blanks

White space in the sense of every reader of this library: the blanks of Unicode together with the
four information separators. Trimming removes blanks at both ends, and the words of a text are its
maximal runs without a blank. All functions work on lists of characters; `strip` is the form for
strings.
-/

namespace BoundSql.Text

/-- White space, from the tabulator to the ideographic space. -/
def isBlank (c : Char) : Bool :=
  let n := c.toNat
  (9 ≤ n && n ≤ 13) || (28 ≤ n && n ≤ 32) || n == 0x85 || n == 0xa0 || n == 0x1680 ||
    (0x2000 ≤ n && n ≤ 0x200a) || n == 0x2028 || n == 0x2029 || n == 0x202f || n == 0x205f ||
    n == 0x3000

/-- White space of ASCII. -/
def isAsciiBlank (c : Char) : Bool := c == ' ' || (9 ≤ c.toNat && c.toNat ≤ 13)

/-- White space as Unicode has it, without the information separators. -/
def isUnicodeBlank (c : Char) : Bool := isBlank c && !(28 ≤ c.toNat && c.toNat ≤ 31)

/-- A text without its leading blanks. -/
def trimLeft (s : List Char) : List Char := s.dropWhile isBlank

/-- A text without its trailing blanks. -/
def trimRight (s : List Char) : List Char := (s.reverse.dropWhile isBlank).reverse

/-- A text without its blanks at either end. -/
def trim (s : List Char) : List Char := trimRight (trimLeft s)

/-- A string without its blanks at either end. -/
def strip (s : String) : String := String.ofList (trim s.toList)

/-- The words of a text, given the letters of the word that is being read in reverse. -/
def wordsFrom (current : List Char) : List Char → List (List Char)
  | [] => if current.isEmpty then [] else [current.reverse]
  | c :: rest =>
    if isBlank c then
      if current.isEmpty then wordsFrom [] rest else current.reverse :: wordsFrom [] rest
    else wordsFrom (c :: current) rest

/-- The maximal runs of characters that are no blanks. -/
def words (s : List Char) : List (List Char) := wordsFrom [] s

/-- The pieces of a text between separators; there is always at least one. -/
def splitAt (separator : Char) : List Char → List (List Char)
  | [] => [[]]
  | c :: rest =>
    if c = separator then [] :: splitAt separator rest
    else
      match splitAt separator rest with
      | piece :: more => (c :: piece) :: more
      | [] => [[c]]

/-- Texts written one after another with a separator in between. -/
def joinWith (separator : List Char) : List (List Char) → List Char
  | [] => []
  | [piece] => piece
  | piece :: more => piece ++ separator ++ joinWith separator more

@[simp] theorem isBlank_space : isBlank ' ' = true := by decide

/-- A text stands somewhere in another one. -/
def occursIn (part : List Char) : List Char → Bool
  | [] => part.isEmpty
  | c :: rest => part.isPrefixOf (c :: rest) || occursIn part rest

theorem splitAt_ne_nil (separator : Char) (s : List Char) : splitAt separator s ≠ [] := by
  cases s with
  | nil => simp [splitAt]
  | cons c rest =>
    rw [splitAt]
    split
    · simp
    · split <;> simp

/-- Joining the pieces with the separator gives the text back. -/
theorem joinWith_splitAt (separator : Char) (s : List Char) :
    joinWith [separator] (splitAt separator s) = s := by
  induction s with
  | nil => rfl
  | cons c rest ih =>
    rw [splitAt]
    split
    next h =>
      subst h
      cases hp : splitAt c rest with
      | nil => exact absurd hp (splitAt_ne_nil c rest)
      | cons piece more => rw [hp] at ih; simp [joinWith, ih]
    next h =>
      cases hp : splitAt separator rest with
      | nil => exact absurd hp (splitAt_ne_nil separator rest)
      | cons piece more =>
        rw [hp] at ih
        cases more with
        | nil => simp only [joinWith] at ih ⊢; rw [ih]
        | cons q qs => simp only [joinWith, List.cons_append] at ih ⊢; rw [ih]

end BoundSql.Text
