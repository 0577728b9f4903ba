import BoundSql.Proofs.Clauses
import BoundSql.Proofs.Tokens

/-!
# Lexemes of statement texts

A reader that knows nothing of how statements are put together takes a text apart: names between
quote marks, words, comparison signs and single characters, with blanks in between. It goes through
the characters one by one, so a text that leaves nothing open can be read piece by piece.
-/

namespace BoundSql

/-- The parts that a reader tells apart. -/
inductive Lexeme where
  /-- What stands between quote marks. -/
  | name (letters : List Char)
  /-- Letters, digits and low lines. -/
  | word (letters : List Char)
  /-- Characters of comparison signs. -/
  | sign (letters : List Char)
  /-- A character that stands for itself. -/
  | point (c : Char)
  deriving DecidableEq

namespace Lexeme

/-- What a reader is in the middle of, with the characters it has read of that. -/
inductive Scanning where
  | nothing
  | name (letters : List Char)
  | word (letters : List Char)
  | sign (letters : List Char)
  deriving DecidableEq

/-- A character of a comparison sign. -/
def isSignChar (c : Char) : Bool := c ∈ ['=', '!', '<', '>']

/-- A character that stands for itself; the question mark is the place of a parameter. -/
def isPoint (c : Char) : Bool := c ∈ ['(', ')', ',', '.', '*', '?']

/-- What begins with a character. -/
def start (mark c : Char) : Option (List Lexeme × Scanning) :=
  if c = ' ' then some ([], .nothing)
  else if c = mark then some ([], .name [])
  else if isNameChar c then some ([], .word [c])
  else if isSignChar c then some ([], .sign [c])
  else if isPoint c then some ([.point c], .nothing)
  else none

/-- The lexemes that end with a character and what the reader is in then. A word and a sign end in
front of the first character that is none of theirs. -/
def advance (mark : Char) : Scanning → Char → Option (List Lexeme × Scanning)
  | .nothing, c => start mark c
  | .name s, c => if c = mark then some ([.name s], .nothing) else some ([], .name (s ++ [c]))
  | .word s, c =>
    if isNameChar c then some ([], .word (s ++ [c]))
    else (start mark c).map fun step => (.word s :: step.1, step.2)
  | .sign s, c =>
    if isSignChar c then some ([], .sign (s ++ [c]))
    else (start mark c).map fun step => (.sign s :: step.1, step.2)

/-- The lexemes that end in a text and what the reader is in behind it. -/
def scan (mark : Char) (state : Scanning) : List Char → Option (List Lexeme × Scanning)
  | [] => some ([], state)
  | c :: rest =>
    (advance mark state c).bind fun step =>
      (scan mark step.2 rest).map fun more => (step.1 ++ more.1, more.2)

/-- The lexemes of a text. The blank behind it ends its last word. -/
def ofChars (mark : Char) (s : List Char) : Option (List Lexeme) :=
  match scan mark .nothing (s ++ [' ']) with
  | some (lexemes, .nothing) => some lexemes
  | _ => none

/-- The text has these lexemes and leaves nothing open. -/
def Reads (mark : Char) (s : List Char) (lexemes : List Lexeme) : Prop :=
  scan mark .nothing s = some (lexemes, .nothing)

instance (mark : Char) (s : List Char) (lexemes : List Lexeme) : Decidable (Reads mark s lexemes) :=
  inferInstanceAs (Decidable (_ = _))

variable {mark : Char} {s t : List Char} {first second : List Lexeme}

/-- Reading goes on where it was. -/
theorem scan_append (mark : Char) (state : Scanning) (s t : List Char) :
    scan mark state (s ++ t) =
      (scan mark state s).bind fun step =>
        (scan mark step.2 t).map fun more => (step.1 ++ more.1, more.2) := by
  induction s generalizing state with
  | nil => simp [scan]
  | cons c s ih =>
    rw [List.cons_append, scan, scan]
    cases advance mark state c with
    | none => rfl
    | some step =>
      simp only [Option.bind_some, ih]
      cases scan mark step.2 s with
      | none => rfl
      | some more =>
        simp only [Option.bind_some, Option.map_some, Option.map_map]
        congr 1
        funext last
        simp

/-- Letters up to the mark belong to a name. -/
theorem scan_name {letters : List Char} (h : mark ∉ letters) (before : List Char) :
    scan mark (.name before) (letters ++ [mark]) =
      some ([.name (before ++ letters)], .nothing) := by
  induction letters generalizing before with
  | nil => simp [scan, advance]
  | cons c letters ih =>
    have hmark : c ≠ mark := fun heq => h (heq ▸ List.mem_cons_self)
    have hletters : mark ∉ letters := fun hmem => h (.tail c hmem)
    rw [List.cons_append, scan, advance, if_neg hmark, Option.bind_some, ih hletters]
    simp

/-- Letters up to a blank belong to a word. -/
theorem scan_word {letters : List Char} (h : ∀ c ∈ letters, isNameChar c = true)
    (before : List Char) :
    scan mark (.word before) (letters ++ [' ']) = some ([.word (before ++ letters)], .nothing) := by
  induction letters generalizing before with
  | nil => simp [scan, advance, start, show isNameChar ' ' = false from rfl]
  | cons c letters ih =>
    have hc : isNameChar c = true := h c List.mem_cons_self
    rw [List.cons_append, scan, advance, if_pos hc, Option.bind_some,
      ih fun d hd => h d (.tail c hd)]
    simp

/-! ## Texts that leave nothing open -/

@[simp] theorem ofChars_eq_some {lexemes : List Lexeme} :
    ofChars mark s = some lexemes ↔ Reads mark (s ++ [' ']) lexemes := by
  unfold ofChars Reads
  rcases scan mark .nothing (s ++ [' ']) with _ | ⟨read, state⟩
  · simp
  · cases state <;> simp

namespace Reads

theorem nil (mark : Char) : Reads mark [] [] := rfl

theorem blank (mark : Char) : Reads mark [' '] [] := rfl

theorem append (hs : Reads mark s first) (ht : Reads mark t second) :
    Reads mark (s ++ t) (first ++ second) := by
  unfold Reads at hs ht ⊢
  rw [scan_append, hs, Option.bind_some, ht]
  rfl

/-- A name between quote marks. -/
theorem name (d : Dialect) (n : Name) :
    Reads d.mark (d.mark :: n.letters ++ [d.mark]) [.name n.letters] := by
  have hmark : isNameChar d.mark = false ∧ d.mark ≠ ' ' := by
    rcases d.mark_eq with h | h <;> rw [h] <;> decide
  have hletters : d.mark ∉ n.letters := by
    intro hmem
    have hsafe := Name.isNameChar_of_mem hmem
    rw [hmark.1] at hsafe
    cases hsafe
  rw [Reads, List.cons_append, scan, advance, start, if_neg hmark.2, if_pos rfl, Option.bind_some,
    scan_name hletters]
  rfl

/-- A word with a blank behind it. -/
theorem word (d : Dialect) {c : Char} {letters : List Char} (hc : isNameChar c = true)
    (h : ∀ c ∈ letters, isNameChar c = true) :
    Reads d.mark (c :: letters ++ [' ']) [.word (c :: letters)] := by
  have hmark : c ≠ d.mark := by
    rintro rfl
    rcases d.mark_eq with hd | hd <;> rw [hd] at hc <;> cases hc
  have hblank : c ≠ ' ' := by
    rintro rfl
    cases hc
  rw [Reads, List.cons_append, scan, advance, start, if_neg hblank, if_neg hmark, if_pos hc,
    Option.bind_some, scan_word h]
  rfl

end Reads

end Lexeme

/-! ## Lexemes of the parts of a statement -/

/-- The lexemes of a path: its names with dots in between. -/
def Path.lexemes (p : Path) : List Lexeme :=
  [.point '.'].intercalate (p.segments.map fun n => [.name n.letters])

@[simp] theorem Path.lexemes_single (n : Name) :
    Path.lexemes ⟨n, []⟩ = [.name n.letters] := rfl

@[simp] theorem Path.lexemes_cons (n next : Name) (names : List Name) :
    Path.lexemes ⟨n, next :: names⟩ =
      .name n.letters :: .point '.' :: Path.lexemes ⟨next, names⟩ := by
  simp [Path.lexemes, Path.segments, List.intercalate]

/-- The lexemes of a column. -/
def ColumnRef.lexemes : ColumnRef → List Lexeme
  | .star => [.point '*']
  | .column path => path.lexemes
  | .allOf path => path.lexemes ++ [.point '.', .point '*']

/-- The lexemes of an operator. -/
def Operator.lexemes : Operator → List Lexeme
  | .compare sign => [.sign sign.text.toList]
  | .like => [.word "LIKE".toList]
  | .isIn => [.word "IN".toList]
  | .notIn => [.word "NOT".toList, .word "IN".toList]
  | .is => [.word "IS".toList]
  | .isNot => [.word "IS".toList, .word "NOT".toList]

/-- The lexemes of places with commas in between. -/
def Lexeme.places (count : Nat) : List Lexeme :=
  [.point ','].intercalate (List.replicate count [.point '?'])

/-- The lexemes of a condition. -/
def Predicate.lexemes : Predicate → List Lexeme
  | .compare column op => column.lexemes ++ op.lexemes ++ [.point '?']
  | .among column op size =>
    column.lexemes ++ op.lexemes ++ .point '(' :: Lexeme.places size ++ [.point ')']
  | .identity column op literal => column.lexemes ++ op.lexemes ++ [.word literal.text.toList]
  | .constant holds => [.word (if holds then ['1'] else ['0']), .sign ['='], .word ['1']]

/-- The lexemes of conditions behind others. -/
def Conditions.moreLexemes (conditions : Conditions) : List Lexeme :=
  conditions.flatMap fun c => .word c.1.text.toList :: c.2.lexemes

/-- The lexemes of conditions. -/
def Conditions.lexemes : Conditions → List Lexeme
  | [] => []
  | first :: more => first.2.lexemes ++ Conditions.moreLexemes more

namespace Lexeme.Reads

/-- Separated groups are read as groups with the separator's lexemes in between. -/
theorem separated {mark : Char} {separator : String} {between : List Lexeme}
    (hbetween : Reads mark separator.toList between) {groups : List (List Token)}
    {lexemes : List (List Lexeme)}
    (h : List.Forall₂ (fun group read => Reads mark (Token.render mark group) read) groups
      lexemes) :
    Reads mark (Token.render mark (Token.separated (.word separator) groups))
      (between.intercalate lexemes) := by
  induction h with
  | nil => exact nil mark
  | @cons group read groups lexemes hgroup hgroups ih =>
    cases hgroups with
    | nil => simpa [Token.separated] using hgroup
    | cons hnext hrest =>
      have hmore := (hgroup.append hbetween).append ih
      simpa [Token.separated_cons_cons, List.intercalate] using hmore

variable (d : Dialect)

/-- A text that is read alike with both quote marks is read so in each dialect. -/
theorem fixed {s : List Char} {lexemes : List Lexeme} (hback : Reads '\x60' s lexemes)
    (hdouble : Reads '\x22' s lexemes) : Reads d.mark s lexemes := by
  rcases d.mark_eq with h | h
  · rw [h]
    exact hback
  · rw [h]
    exact hdouble

/-- A path is read as its names. -/
theorem path (p : Path) : Reads d.mark (Token.render d.mark p.tokens) p.lexemes := by
  have hdot : Reads d.mark ".".toList [.point '.'] := fixed d rfl rfl
  refine separated hdot ?_
  rw [List.forall₂_map_left_iff, List.forall₂_map_right_iff, List.forall₂_same]
  intro n _
  simpa [Token.chars] using name d n

/-- A column is read as its names and its star. -/
theorem column (c : ColumnRef) : Reads d.mark (Token.render d.mark c.tokens) c.lexemes := by
  cases c with
  | star => exact fixed d rfl rfl
  | column p => exact path d p
  | allOf p =>
    have hstar : Reads d.mark ".*".toList [.point '.', .point '*'] := fixed d rfl rfl
    have hpath := (path d p).append hstar
    simpa [ColumnRef.tokens, ColumnRef.lexemes] using hpath

/-- An operator between blanks is read as its words or its sign. -/
theorem operator (op : Operator) : Reads d.mark (' ' :: op.text.toList ++ [' ']) op.lexemes := by
  cases op with
  | compare sign => cases sign <;> exact fixed d rfl rfl
  | _ => exact fixed d rfl rfl

theorem placeholder : Reads d.mark ['?'] [.point '?'] := fixed d rfl rfl

theorem comma : Reads d.mark ", ".toList [.point ','] := fixed d rfl rfl

/-- Places with commas in between are read as such. -/
theorem places (count : Nat) :
    Reads d.mark (Token.render d.mark (Token.placeholders count)) (Lexeme.places count) := by
  refine separated (comma d) ?_
  rw [List.forall₂_iff_get]
  simpa using fun _ _ => placeholder d

/-- A literal with a blank behind it is read as its word. -/
theorem literal (l : Literal) :
    Reads d.mark (l.text.toList ++ [' ']) [.word l.text.toList] := by
  cases l with
  | null => exact fixed d rfl rfl
  | truth b => cases b <;> exact fixed d rfl rfl

/-- A condition with a blank behind it is read as its column, its operator and its operand. -/
theorem predicate (p : Predicate) :
    Reads d.mark (Token.render d.mark p.tokens ++ [' ']) p.lexemes := by
  have hblank := blank d.mark
  cases p with
  | compare c op =>
    have hread := (((column d c).append (operator d op)).append (placeholder d)).append hblank
    simpa [Predicate.tokens, Predicate.lexemes] using hread
  | among c op size =>
    have hopen : Reads d.mark "(".toList [.point '('] := fixed d rfl rfl
    have hclose : Reads d.mark ") ".toList [.point ')'] := fixed d rfl rfl
    have hmembers := (hopen.append (places d size)).append hclose
    have hread := ((column d c).append (operator d op)).append hmembers
    simpa [Predicate.tokens, Predicate.lexemes] using hread
  | identity c op l =>
    have hread := ((column d c).append (operator d op)).append (literal d l)
    simpa [Predicate.tokens, Predicate.lexemes] using hread
  | constant holds =>
    cases holds <;> exact fixed d rfl rfl

/-- A fixed connective with a blank behind it is read as its word. -/
theorem connective {c : Connective} (hc : c.Known) :
    Reads d.mark (c.token.chars d.mark ++ [' ']) [.word c.text.toList] := by
  cases c with
  | other word => cases hc
  | _ => exact fixed d rfl rfl

/-- Conditions go on behind a text that a blank would end. -/
theorem moreConditions {s : List Char} {before : List Lexeme} {more : Conditions}
    (hs : Reads d.mark (s ++ [' ']) before) (hknown : ∀ c ∈ more, c.1.Known) :
    Reads d.mark (s ++ Token.render d.mark more.moreTokens ++ [' '])
      (before ++ more.moreLexemes) := by
  induction more generalizing s before with
  | nil => simpa [Conditions.moreTokens, Conditions.moreLexemes] using hs
  | cons c more ih =>
    have hconnective := connective d (hknown c List.mem_cons_self)
    have hnext : Reads d.mark
        (s ++ ' ' :: c.1.token.chars d.mark ++ ' ' :: Token.render d.mark c.2.tokens ++ [' '])
        (before ++ .word c.1.text.toList :: c.2.lexemes) := by
      simpa using (hs.append hconnective).append (predicate d c.2)
    have hmore := ih hnext fun e he => hknown e (.tail c he)
    simpa [Conditions.moreTokens, Conditions.moreLexemes] using hmore

/-- Conditions with a blank behind them are read one after another. -/
theorem conditions {cs : Conditions} (hknown : ∀ c ∈ cs, c.1.Known) (hcs : cs ≠ []) :
    Reads d.mark (Token.render d.mark cs.tokens ++ [' ']) cs.lexemes := by
  cases cs with
  | nil => exact absurd rfl hcs
  | cons first more =>
    have hmore := moreConditions d (predicate d first.2) fun c hc => hknown c (.tail first hc)
    simpa [Conditions.tokens, Conditions.lexemes] using hmore

end Lexeme.Reads

end BoundSql
