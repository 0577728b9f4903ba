import BoundSql.Proofs.Digits
import BoundSql.Sql.Placeholder

/-!
# Reading binds back

The placeholders of a text become binds, and a pattern finds binds in the text that is made: a colon
that follows no colon, word character or backslash, and the longest word behind it that no colon
follows. A bind that touches its neighbours is found with another name or not at all. What is
written for a text and what the pattern finds there are compared piece by piece: they are the same
exactly when every placeholder stands apart from its neighbours.
-/

namespace BoundSql

open Text

/-! ## The pattern -/

namespace BindPattern

/-- A bind may follow this: no colon, word character or backslash. -/
def isFree : Option Char → Bool
  | some c => !(c == ':' || isWordChar c || c == '\\')
  | none => true

/-- The longest word at the head of a text that no colon follows. -/
def word? : List Char → Option (List Char)
  | [] => none
  | c :: rest =>
    if isWordChar c then
      match word? rest with
      | some word => some (c :: word)
      | none => if rest.head? = some ':' then none else some [c]
    else none

/-- Reads the pieces of a text with a reader of words; `skip` characters belong to a bind that was
already read. -/
def piecesFrom (word : List Char → Option (List Char)) (before : Option Char) (skip : Nat) :
    List Char → List BindPiece
  | [] => []
  | c :: rest =>
    match skip with
    | n + 1 => piecesFrom word (some c) n rest
    | 0 =>
      if c = ':' && isFree before then
        match word rest with
        | some name => .bind name :: piecesFrom word (some c) name.length rest
        | none => .char c :: piecesFrom word (some c) 0 rest
      else .char c :: piecesFrom word (some c) 0 rest

/-- The pieces of a text as the pattern finds them. -/
def pieces (text : List Char) : List BindPiece := piecesFrom word? none 0 text

/-- A piece as it is shown: a bind as a question mark. -/
def shown : BindPiece → Char
  | .char c => c
  | .bind _ => '?'

/-- A piece as it is written. -/
def spelled : BindPiece → List Char
  | .char c => [c]
  | .bind name => ':' :: name

/-- Pieces one after another as they are written. -/
def spell (pieces : List BindPiece) : List Char := pieces.flatMap spelled

end BindPattern

/-! ## Quotes and placeholders -/

namespace Placeholder

/-- The quote that is open behind a character. -/
def quoteAfter (open? : Option Char) (c : Char) : Option Char :=
  match open? with
  | some q => if c = q then none else some q
  | none => if isQuote c then some c else none

/-- Only quote marks open quotes. -/
theorem isQuote_of_quoteAfter {open? : Option Char} {c q : Char}
    (hquote : ∀ q, open? = some q → isQuote q = true) (h : quoteAfter open? c = some q) :
    isQuote q = true := by
  unfold quoteAfter at h
  split at h
  next p =>
    by_cases hc : c = p
    · rw [if_pos hc] at h
      cases h
    · rw [if_neg hc] at h
      exact hquote q h
  next =>
    by_cases hc : isQuote c = true
    · rw [if_pos hc] at h
      obtain rfl := Option.some.inj h
      exact hc
    · rw [if_neg hc] at h
      cases h

/-- A colon neither opens nor closes a quote. -/
theorem quoteAfter_colon {open? : Option Char} (hquote : ∀ q, open? = some q → isQuote q = true) :
    quoteAfter open? ':' = open? := by
  cases open? with
  | none => rfl
  | some q =>
    have hne : ':' ≠ q := by
      rintro rfl
      exact absurd (hquote ':' rfl) (by decide)
    exact if_neg hne

/-- The count of question marks outside quotes. -/
def holes (open? : Option Char) : List Char → Nat
  | [] => 0
  | c :: rest => (if open? = none ∧ c = '?' then 1 else 0) + holes (quoteAfter open? c) rest

theorem holes_mark (rest : List Char) : holes none ('?' :: rest) = 1 + holes none rest := by
  rw [holes, if_pos ⟨rfl, rfl⟩]
  rfl

theorem holes_other {open? : Option Char} {c : Char} (h : ¬ (open? = none ∧ c = '?'))
    (rest : List Char) : holes open? (c :: rest) = holes (quoteAfter open? c) rest := by
  rw [holes, if_neg h, Nat.zero_add]

theorem holes_append (open? : Option Char) (first second : List Char) :
    holes open? (first ++ second) =
      holes open? first + holes (first.foldl quoteAfter open?) second := by
  induction first generalizing open? with
  | nil => rw [List.nil_append, holes, Nat.zero_add, List.foldl_nil]
  | cons c rest ih =>
    rw [List.cons_append, holes, ih, holes, List.foldl_cons, Nat.add_assoc]

theorem holes_cons (open? : Option Char) (c : Char) (rest : List Char) :
    holes open? (c :: rest) = holes open? [c] + holes (quoteAfter open? c) rest :=
  holes_append open? [c] rest

/-- The names of some binds, numbered from behind a count. -/
def numbered (count length : Nat) : List (List Char) :=
  (List.range' (count + 1) length).map bindName

theorem numbered_succ (count length : Nat) :
    numbered count (1 + length) = bindName (count + 1) :: numbered (count + 1) length := by
  rw [numbered, Nat.add_comm 1, List.range'_succ, List.map_cons, numbered]

theorem length_numbered (count length : Nat) : (numbered count length).length = length := by
  rw [numbered, List.length_map, List.length_range']

/-- The pieces that are written for a text, given the character before it, the quote that is open
and the count of placeholders before it, with the count that is reached. -/
inductive Writes : Option Char → Option Char → Nat → List Char → List BindPiece → Nat → Prop
  /-- For nothing nothing is written. -/
  | done (before open? : Option Char) (count : Nat) : Writes before open? count [] [] count
  /-- A colon that would begin a bind gets a backslash. -/
  | escaped {before open? : Option Char} {count total : Nat} {rest : List Char}
      {pieces : List BindPiece} (h : needsEscape before rest.head? = true)
      (more : Writes (some ':') (quoteAfter open? ':') count rest pieces total) :
      Writes before open? count (':' :: rest) (.char '\\' :: .char ':' :: pieces) total
  /-- A question mark outside quotes becomes a bind. -/
  | hole {before : Option Char} {count total : Nat} {rest : List Char}
      {pieces : List BindPiece}
      (more : Writes (some '?') none (count + 1) rest pieces total) :
      Writes before none count ('?' :: rest) (.bind (bindName (count + 1)) :: pieces) total
  /-- Any other character is copied. -/
  | copied {before open? : Option Char} {count total : Nat} {c : Char} {rest : List Char}
      {pieces : List BindPiece} (hcolon : c = ':' → needsEscape before rest.head? = false)
      (hquoted : c = '?' → open? ≠ none ∧ quoteAfter open? c ≠ none)
      (more : Writes (some c) (quoteAfter open? c) count rest pieces total) :
      Writes before open? count (c :: rest) (.char c :: pieces) total

theorem convertFrom_escaped {before open? : Option Char} {count : Nat} {rest : List Char}
    (h : needsEscape before rest.head? = true) :
    convertFrom before open? count (':' :: rest) =
      ('\\' :: ':' :: (convertFrom (some ':') open? count rest).1,
        (convertFrom (some ':') open? count rest).2) := by
  rw [convertFrom.eq_def]
  exact if_pos h

theorem convertFrom_hole (before : Option Char) (count : Nat) (rest : List Char) :
    convertFrom before none count ('?' :: rest) =
      (':' :: bindName (count + 1) ++ (convertFrom (some '?') none (count + 1) rest).1,
        (convertFrom (some '?') none (count + 1) rest).2) := by
  rw [convertFrom.eq_def]
  rfl

theorem convertFrom_copied {before open? : Option Char} {c : Char} {rest : List Char}
    (hcolon : c = ':' → needsEscape before rest.head? = false)
    (hquoted : c = '?' → open? ≠ none) (count : Nat) :
    convertFrom before open? count (c :: rest) =
      (c :: (convertFrom (some c) (quoteAfter open? c) count rest).1,
        (convertFrom (some c) (quoteAfter open? c) count rest).2) := by
  have hescape : ¬ (c = ':' && needsEscape before rest.head?) = true := by
    intro h
    obtain ⟨hc, hneeds⟩ := Bool.and_eq_true_iff.mp h
    rw [hcolon (of_decide_eq_true hc)] at hneeds
    cases hneeds
  rw [convertFrom.eq_def]
  dsimp only
  rw [if_neg hescape]
  cases open? with
  | some q => rfl
  | none =>
    have hmark : ¬ c = '?' := fun hc => hquoted hc rfl
    rw [quoteAfter]
    by_cases hopens : isQuote c = true
    · simp only [if_pos hopens]
    · simp only [if_neg hopens, if_neg hmark]

/-- The text that is converted is what is written, and its count is the one that is reached. -/
theorem exists_writes {before open? : Option Char} (hquote : ∀ q, open? = some q → isQuote q = true)
    (count : Nat) (source : List Char) :
    ∃ pieces, Writes before open? count source pieces (convertFrom before open? count source).2 ∧
      (convertFrom before open? count source).1 = BindPattern.spell pieces := by
  induction source generalizing before open? count with
  | nil => exact ⟨[], .done _ _ _, rfl⟩
  | cons c rest ih =>
    by_cases hescape : c = ':' ∧ needsEscape before rest.head? = true
    · obtain ⟨rfl, hneeds⟩ := hescape
      obtain ⟨pieces, hwrites, htext⟩ := ih hquote count
      rw [convertFrom_escaped hneeds]
      refine ⟨_, .escaped hneeds ?_, congrArg (['\\', ':'] ++ ·) htext⟩
      rw [quoteAfter_colon hquote]
      exact hwrites
    · by_cases hhole : open? = none ∧ c = '?'
      · obtain ⟨rfl, rfl⟩ := hhole
        obtain ⟨pieces, hwrites, htext⟩ := @ih (some '?') none hquote (count + 1)
        rw [convertFrom_hole]
        exact ⟨_, .hole hwrites, congrArg (':' :: bindName (count + 1) ++ ·) htext⟩
      · have hcolon : c = ':' → needsEscape before rest.head? = false :=
          fun hc => Bool.eq_false_iff.mpr fun hneeds => hescape ⟨hc, hneeds⟩
        have hquoted : c = '?' → open? ≠ none ∧ quoteAfter open? c ≠ none := by
          intro hc
          cases open? with
          | none => exact absurd ⟨rfl, hc⟩ hhole
          | some q =>
            have hne : c ≠ q := by
              rintro rfl
              exact absurd (hquote c rfl) (by rw [hc]; decide)
            rw [quoteAfter, if_neg hne]
            exact ⟨nofun, nofun⟩
        obtain ⟨pieces, hwrites, htext⟩ :=
          @ih (some c) (quoteAfter open? c) (fun q => isQuote_of_quoteAfter hquote) count
        rw [convertFrom_copied hcolon fun hc => (hquoted hc).1]
        exact ⟨_, .copied hcolon hquoted hwrites, congrArg (c :: ·) htext⟩

end Placeholder

/-! ## Words and binds -/

namespace BindPattern

variable {b d : Option Char} {text rest name : List Char}

theorem word?_ne_nil (text : List Char) : word? text ≠ some [] := by
  cases text with
  | nil => exact nofun
  | cons c rest =>
    unfold word?
    repeat' split
    all_goals exact nofun

/-- Where no word begins none is read. -/
theorem word?_of_head (h : text.head?.any isWordChar = false) : word? text = none := by
  cases text with
  | nil => rfl
  | cons c rest =>
    have hc : ¬ isWordChar c = true := Bool.eq_false_iff.mp h
    rw [word?, if_neg hc]

/-- A single character is given back if a colon follows. -/
theorem word?_cons_eq_none {c : Char} (hc : isWordChar c = true) :
    word? (c :: rest) = none ↔ rest.head? = some ':' := by
  rw [word?, if_pos hc]
  constructor
  · intro h
    split at h
    next => cases h
    next =>
      by_contra hcolon
      rw [if_neg hcolon] at h
      cases h
  · intro h
    have hnone : word? rest = none := by
      refine word?_of_head ?_
      rw [h]
      decide
    rw [hnone]
    exact if_pos h

/-- A word is read as far as it goes if neither a colon nor more of a word follows. -/
theorem word?_append_iff (hname : ∀ c ∈ name, isWordChar c = true) (hne : name ≠ []) :
    word? (name ++ rest) = some name ↔ word? rest = none ∧ rest.head? ≠ some ':' := by
  induction name with
  | nil => exact absurd rfl hne
  | cons c name ih =>
    obtain ⟨hc, hname⟩ := List.forall_mem_cons.mp hname
    rw [List.cons_append, word?, if_pos hc]
    cases name with
    | nil =>
      rw [List.nil_append]
      cases hword : word? rest with
      | some word =>
        have hword' : word ≠ [] := fun h => word?_ne_nil rest (h ▸ hword)
        simp [hword']
      | none => simp
    | cons next name =>
      rw [← ih hname (List.cons_ne_nil _ _)]
      cases hword : word? ((next :: name) ++ rest) with
      | some word => simp
      | none => simp

theorem isFree_of_isWordChar {c : Char} (h : isWordChar c = true) : isFree (some c) = false := by
  simp [isFree, h]

variable {word : List Char → Option (List Char)}

/-- A reader of words reads none where no word begins. -/
def Attentive (word : List Char → Option (List Char)) : Prop :=
  ∀ text : List Char, text.head?.any isWordChar = false → word text = none

theorem piecesFrom_char {c : Char} (h : c = ':' → isFree b = true → word rest = none) :
    piecesFrom word b 0 (c :: rest) = .char c :: piecesFrom word (some c) 0 rest := by
  rw [piecesFrom]
  by_cases hbind : (c = ':' && isFree b) = true
  · obtain ⟨hc, hfree⟩ := Bool.and_eq_true_iff.mp hbind
    rw [if_pos hbind, h (of_decide_eq_true hc) hfree]
  · rw [if_neg hbind]

theorem piecesFrom_bind (hfree : isFree b = true) (hname : word rest = some name) :
    piecesFrom word b 0 (':' :: rest) =
      .bind name :: piecesFrom word (some ':') name.length rest := by
  rw [piecesFrom, if_pos (by rw [hfree]; rfl), hname]

theorem piecesFrom_congr (h : isFree b = isFree d) (text : List Char) :
    piecesFrom word b 0 text = piecesFrom word d 0 text := by
  cases text with
  | nil => rfl
  | cons c rest => rw [piecesFrom, piecesFrom, h]

/-- What was read as a word is passed over. -/
theorem piecesFrom_skip (hname : ∀ c ∈ name, isWordChar c = true) (hne : name ≠ [])
    (hd : isFree d = false) (b : Option Char) (rest : List Char) :
    piecesFrom word b name.length (name ++ rest) = piecesFrom word d 0 rest := by
  induction name generalizing b with
  | nil => exact absurd rfl hne
  | cons c name ih =>
    obtain ⟨hc, hname⟩ := List.forall_mem_cons.mp hname
    rw [List.cons_append, List.length_cons, piecesFrom]
    cases name with
    | nil => exact piecesFrom_congr ((isFree_of_isWordChar hc).trans hd.symm) rest
    | cons next name => exact ih hname (List.cons_ne_nil _ _) (some c)

end BindPattern

/-! ## What is written and what is read -/

namespace Placeholder

open BindPattern

variable {before open? b : Option Char} {count total : Nat} {source rest : List Char}
  {pieces : List BindPiece}

theorem needsEscape_eq (before after : Option Char) :
    needsEscape before after = (after.any isWordChar && isFree before) := by
  cases after with
  | none => rfl
  | some c => cases before <;> rfl

/-- The character before the text that is written: a bind follows it if one may follow the
character before the source, unless that has become a bind. -/
def Beside (b before open? : Option Char) : Prop :=
  isFree b = true ↔ isFree before = true ∧ ¬ (open? = none ∧ before = some '?')

theorem beside_colon (open? : Option Char) : Beside (some ':') (some ':') open? :=
  ⟨nofun, fun h => nomatch h.1⟩

/-- A character that is copied stands beside itself. -/
theorem beside_copied {c : Char} (h : c = '?' → open? ≠ none) : Beside (some c) (some c) open? :=
  ⟨fun hfree => ⟨hfree, fun hmark => h (Option.some.inj hmark.2) hmark.1⟩, fun hfree => hfree.1⟩

/-- The end of a bind stands beside its question mark. -/
theorem beside_bind (h : isFree b = false) : Beside b (some '?') none :=
  ⟨fun hfree => (Bool.eq_false_iff.mp h hfree).elim, fun hmark => absurd ⟨rfl, rfl⟩ hmark.2⟩

theorem isWordChar_of_mem_bindName {n : Nat} {c : Char} (h : c ∈ bindName n) :
    isWordChar c = true := by
  rcases List.mem_cons.mp h with rfl | h
  · decide
  · have hdigit := isAsciiDigit_of_mem_decimalDigits h
    have halnum : isAsciiAlnum c = true := Bool.or_eq_true_iff.mpr (.inr hdigit)
    rw [isWordChar, isAlnum_of_isAsciiAlnum halnum, Bool.true_or]

theorem bindName_ne_nil (n : Nat) : bindName n ≠ [] := List.cons_ne_nil _ _

/-- A word begins in what is written where one begins in the source. -/
theorem Writes.head_eq (h : Writes before open? count source pieces total) :
    (spell pieces).head?.any isWordChar = source.head?.any isWordChar := by
  cases h with
  | done => rfl
  | escaped h more =>
    show isWordChar '\\' = isWordChar ':'
    decide
  | hole more =>
    show isWordChar ':' = isWordChar '?'
    decide
  | copied => rfl

/-- The count is that of the question marks outside quotes. -/
theorem Writes.total_eq (h : Writes before open? count source pieces total) :
    total = count + holes open? source := by
  induction h with
  | done => rfl
  | @escaped before open? count total rest pieces h more ih =>
    rw [ih, holes_other fun hmark => absurd hmark.2 (by decide)]
  | hole more ih =>
    rw [ih, holes_mark, Nat.add_assoc]
  | @copied before open? count total c rest pieces hcolon hquoted more ih =>
    rw [ih, holes_other fun h => (hquoted h.2).1 h.1]

/-- The binds that are written are numbered. -/
theorem Writes.names_eq (h : Writes before open? count source pieces total) :
    BindText.names pieces = numbered count (holes open? source) := by
  induction h with
  | done => rfl
  | escaped h more ih =>
    rw [holes_other fun hmark => absurd hmark.2 (by decide), ← ih]
    rfl
  | hole more ih =>
    rw [holes_mark, numbered_succ, ← ih]
    rfl
  | copied hcolon hquoted more ih =>
    rw [holes_other fun h => (hquoted h.2).1 h.1, ← ih]
    rfl

/-- Where a colon is copied no bind begins. -/
theorem Writes.no_bind {c : Char} (hcolon : c = ':' → needsEscape before rest.head? = false)
    (hbeside : Beside b before open?)
    (more : Writes (some c) (quoteAfter open? c) count rest pieces total) (hc : c = ':')
    (hfree : isFree b = true) : (spell pieces).head?.any isWordChar = false := by
  have hneeds := hcolon hc
  rw [needsEscape_eq, (hbeside.mp hfree).1, Bool.and_true] at hneeds
  rw [more.head_eq, hneeds]

/-! ### Placeholders that stand apart -/

/-- A placeholder behind this is read: no colon, word character, backslash or placeholder. -/
def StandsFree (before : Option Char) : Prop := isFree before = true ∧ before ≠ some '?'

/-- Every question mark outside quotes stands free and in front of what closes it. -/
def Spaced (closed : List Char → Prop) (before open? : Option Char) (source : List Char) : Prop :=
  ∀ front back, source = front ++ '?' :: back → front.foldl quoteAfter open? = none →
    StandsFree (front.getLast?.or before) ∧ closed back

variable {closed : List Char → Prop}

theorem spaced_nil : Spaced closed before open? [] := by
  intro front back hsource
  exact absurd hsource.symm (List.append_ne_nil_of_right_ne_nil _ (List.cons_ne_nil _ _))

/-- A text is spaced when its first character and the rest are. -/
theorem spaced_cons {c : Char} :
    Spaced closed before open? (c :: rest) ↔
      (open? = none ∧ c = '?' → StandsFree before ∧ closed rest) ∧
        Spaced closed (some c) (quoteAfter open? c) rest := by
  have hlast : ∀ front : List Char, (c :: front).getLast?.or before = front.getLast?.or (some c) := by
    intro front
    rw [List.getLast?_cons]
    cases front.getLast? <;> rfl
  constructor
  · intro h
    refine ⟨fun ⟨hopen, hc⟩ => ?_, fun front back hsource hquote => ?_⟩
    · exact h [] rest (by rw [hc]; rfl) hopen
    · have hwhole := h (c :: front) back (by rw [hsource]; rfl) hquote
      rw [hlast] at hwhole
      exact hwhole
  · rintro ⟨hfirst, hrest⟩ front back hsource hquote
    cases front with
    | nil =>
      obtain ⟨rfl, rfl⟩ := List.cons.inj hsource
      exact hfirst ⟨hquote, rfl⟩
    | cons d front =>
      obtain ⟨rfl, htail⟩ := List.cons.inj hsource
      rw [hlast]
      exact hrest front back htail hquote

/-- Behind a bind a reader of words stops at what closes it. -/
def Closes (word : List Char → Option (List Char)) (closed : List Char → Prop) : Prop :=
  ∀ {count total : Nat} {rest : List Char} {pieces : List BindPiece},
    Writes (some '?') none count rest pieces total → closed rest →
      word (bindName count ++ spell pieces) = some (bindName count)

/-- What is written for a text with spaced placeholders is read back. -/
theorem Writes.read {word : List Char → Option (List Char)} (hword : Attentive word)
    (hcloses : Closes word closed) (h : Writes before open? count source pieces total)
    (hspaced : Spaced closed before open? source) (hbeside : Beside b before open?) :
    piecesFrom word b 0 (spell pieces) = pieces := by
  induction h generalizing b with
  | done => rfl
  | @escaped before open? count total rest pieces h more ih =>
    have hmore := ih (spaced_cons.mp hspaced).2 (beside_colon _)
    show piecesFrom word b 0 ('\\' :: ':' :: spell pieces) = _
    have hslash : ('\\' : Char) = ':' → isFree b = true → word (':' :: spell pieces) = none :=
      fun hc => absurd hc (by decide)
    have hcolon : (':' : Char) = ':' → isFree (some '\\') = true → word (spell pieces) = none :=
      fun _ hfree => absurd hfree (by decide)
    rw [piecesFrom_char hslash, piecesFrom_char hcolon, hmore]
  | @hole before count total rest pieces more ih =>
    obtain ⟨hfirst, hrest⟩ := spaced_cons.mp hspaced
    obtain ⟨⟨hfree, hmark⟩, hclosed⟩ := hfirst ⟨rfl, rfl⟩
    have hb : isFree b = true := hbeside.mpr ⟨hfree, fun h => hmark h.2⟩
    have hcolon : isFree (some ':') = false := rfl
    have hmore := ih hrest (beside_bind hcolon)
    show piecesFrom word b 0 (':' :: (bindName (count + 1) ++ spell pieces)) = _
    rw [piecesFrom_bind hb (hcloses more hclosed),
      piecesFrom_skip (fun _ => isWordChar_of_mem_bindName) (bindName_ne_nil _) hcolon, hmore]
  | @copied before open? count total c rest pieces hcolon hquoted more ih =>
    have hmore := ih (spaced_cons.mp hspaced).2 (beside_copied fun hc => (hquoted hc).2)
    show piecesFrom word b 0 (c :: spell pieces) = _
    rw [piecesFrom_char fun hc hfree => hword _ (no_bind hcolon hbeside more hc hfree), hmore]

theorem beside_none : Beside none none none := ⟨fun hfree => ⟨hfree, nofun⟩, fun h => h.1⟩

/-- A statement is written piece by piece. -/
theorem convert_writes (sql : String) :
    ∃ pieces, Writes none none 0 sql.toList pieces (convert sql).2 ∧
      (convert sql).1.toList = spell pieces := by
  obtain ⟨pieces, hwrites, htext⟩ := @exists_writes none none nofun 0 sql.toList
  refine ⟨pieces, hwrites, ?_⟩
  rw [convert, String.toList_ofList, htext]

theorem convert_count (sql : String) : (convert sql).2 = holes none sql.toList := by
  obtain ⟨pieces, hwrites, -⟩ := convert_writes sql
  rw [hwrites.total_eq, Nat.zero_add]

end Placeholder

end BoundSql
