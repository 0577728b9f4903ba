import BoundSql.Proofs.Reading

/-!
# Faithful conversion

When a text is converted, its placeholders should be found again by the pattern for binds, and the
text should be the same once the binds are shown as question marks and the escapes are gone. That is
so exactly when every placeholder outside quotes stands apart from its neighbours and the text has
no escapes of its own. Otherwise a bind is lost, is read under another name, or a backslash
disappears.
-/

namespace BoundSql

open Text

/-! ## Shown texts and possible binds -/

namespace BindPattern

variable {b d : Option Char} {name : List Char} {word : List Char → Option (List Char)}

/-- The pieces without the backslashes in front of colons. -/
def unescaped : List BindPiece → List BindPiece
  | [] => []
  | piece :: rest =>
    if piece = .char '\\' ∧ rest.head? = some (.char ':') then unescaped rest
    else piece :: unescaped rest

/-- The text that pieces stand for, without escapes. -/
def rendered (pieces : List BindPiece) : List Char := (unescaped pieces).map shown

theorem unescaped_escape (rest : List BindPiece) :
    unescaped (.char '\\' :: .char ':' :: rest) = unescaped (.char ':' :: rest) :=
  if_pos ⟨rfl, rfl⟩

theorem unescaped_other {piece : BindPiece} {rest : List BindPiece}
    (h : piece = .char '\\' → rest.head? ≠ some (.char ':')) :
    unescaped (piece :: rest) = piece :: unescaped rest :=
  if_neg fun hmark => h hmark.1 hmark.2

theorem unescaped_bind (name : List Char) (rest : List BindPiece) :
    unescaped (.bind name :: rest) = .bind name :: unescaped rest := if_neg fun h => nomatch h.1

/-- No bind is lost with the escapes. -/
theorem names_unescaped (pieces : List BindPiece) :
    BindText.names (unescaped pieces) = BindText.names pieces := by
  induction pieces with
  | nil => rfl
  | cons piece rest ih =>
    by_cases h : piece = .char '\\' ∧ rest.head? = some (.char ':')
    · rw [unescaped, if_pos h, ih, h.1]
      rfl
    · rw [unescaped, if_neg h]
      cases piece with
      | char c => exact ih
      | bind name => exact congrArg (name :: ·) ih

theorem length_unescaped_le (pieces : List BindPiece) :
    (unescaped pieces).length ≤ pieces.length := by
  induction pieces with
  | nil => exact Nat.le_refl 0
  | cons piece rest ih =>
    rw [unescaped]
    split
    · exact Nat.le_succ_of_le ih
    · exact Nat.succ_le_succ ih

/-- The count of places where a word follows a colon that may begin a bind. -/
def marks (before : Option Char) : List Char → Nat
  | [] => 0
  | c :: rest =>
    (if c = ':' ∧ isFree before ∧ rest.head?.any isWordChar then 1 else 0) + marks (some c) rest

/-- Of what precedes a text only matters whether a bind may follow it. -/
theorem marks_congr (h : isFree b = isFree d) (text : List Char) : marks b text = marks d text := by
  cases text with
  | nil => rfl
  | cons c rest => rw [marks, marks, h]

/-- No bind begins in a word or right behind it. -/
theorem marks_word (hname : ∀ c ∈ name, isWordChar c = true) (hne : name ≠ [])
    (hd : isFree d = false) (b : Option Char) (rest : List Char) :
    marks b (name ++ rest) = marks d rest := by
  induction name generalizing b with
  | nil => exact absurd rfl hne
  | cons c name ih =>
    obtain ⟨hc, hname⟩ := List.forall_mem_cons.mp hname
    have hcolon : c ≠ ':' := by
      rintro rfl
      exact absurd hc (by decide)
    rw [List.cons_append, marks, if_neg fun h => hcolon h.1, Nat.zero_add]
    cases name with
    | nil => exact marks_congr ((isFree_of_isWordChar hc).trans hd.symm) rest
    | cons next name => exact ih hname (List.cons_ne_nil _ _) (some c)

/-- There are no more binds than places where one may begin. -/
theorem length_names_le (hword : Attentive word) (b : Option Char) (skip : Nat)
    (text : List Char) :
    (BindText.names (piecesFrom word b skip text)).length ≤ marks b text := by
  induction text generalizing b skip with
  | nil => exact Nat.zero_le _
  | cons c rest ih =>
    rw [marks]
    cases skip with
    | succ skip => exact (ih (some c) skip).trans (Nat.le_add_left _ _)
    | zero =>
      by_cases hbind : c = ':' ∧ isFree b = true ∧ rest.head?.any isWordChar = true
      · obtain ⟨rfl, hfree, hhead⟩ := hbind
        cases hread : word rest with
        | none =>
          rw [piecesFrom_char fun _ _ => hread]
          exact (ih (some ':') 0).trans (Nat.le_add_left _ _)
        | some name =>
          rw [piecesFrom_bind hfree hread, if_pos ⟨rfl, hfree, hhead⟩]
          have hrest := ih (some ':') name.length
          show (BindText.names _).length + 1 ≤ _
          omega
      · have hnone : c = ':' → isFree b = true → word rest = none := by
          intro hc hfree
          exact hword rest (Bool.eq_false_iff.mpr fun h => hbind ⟨hc, hfree, h⟩)
        rw [piecesFrom_char hnone]
        exact (ih (some c) 0).trans (Nat.le_add_left _ _)

end BindPattern

namespace Placeholder

open BindPattern

variable {before open? b : Option Char} {count total : Nat} {source rest : List Char}
  {pieces : List BindPiece}

/-! ## Marked texts -/

/-- A text whose question marks outside quotes are numbered binds. -/
def marked (open? : Option Char) (count : Nat) : List Char → List BindPiece
  | [] => []
  | c :: rest =>
    if open? = none ∧ c = '?' then .bind (bindName (count + 1)) :: marked none (count + 1) rest
    else .char c :: marked (quoteAfter open? c) count rest

theorem marked_mark (count : Nat) (rest : List Char) :
    marked none count ('?' :: rest) =
      .bind (bindName (count + 1)) :: marked none (count + 1) rest := if_pos ⟨rfl, rfl⟩

theorem marked_other {open? : Option Char} {c : Char} (h : ¬ (open? = none ∧ c = '?'))
    (count : Nat) (rest : List Char) :
    marked open? count (c :: rest) = .char c :: marked (quoteAfter open? c) count rest := if_neg h

/-- The marked text reads as the text. -/
theorem map_shown_marked (open? : Option Char) (count : Nat) (source : List Char) :
    (marked open? count source).map shown = source := by
  induction source generalizing open? count with
  | nil => rfl
  | cons c rest ih =>
    by_cases hhole : open? = none ∧ c = '?'
    · obtain ⟨rfl, rfl⟩ := hhole
      rw [marked_mark, List.map_cons, ih, shown]
    · rw [marked_other hhole, List.map_cons, ih, shown]

/-- The binds of the marked text are numbered. -/
theorem names_marked (open? : Option Char) (count : Nat) (source : List Char) :
    BindText.names (marked open? count source) = numbered count (holes open? source) := by
  induction source generalizing open? count with
  | nil => rfl
  | cons c rest ih =>
    by_cases hhole : open? = none ∧ c = '?'
    · obtain ⟨rfl, rfl⟩ := hhole
      rw [marked_mark, holes_mark, numbered_succ]
      exact congrArg (bindName (count + 1) :: ·) (ih none (count + 1))
    · rw [marked_other hhole, holes_other hhole]
      exact ih _ count

theorem head_marked (open? : Option Char) (count : Nat) (source : List Char) :
    (marked open? count source).head? = some (.char ':') ↔ source.head? = some ':' := by
  cases source with
  | nil => exact ⟨nofun, nofun⟩
  | cons c rest =>
    rw [marked]
    split
    next hhole => simp [hhole.2]
    next => simp

/-! ## Binds that are found -/

/-- In what is written no more binds may begin than there are question marks outside quotes. -/
theorem Writes.marks_le (h : Writes before open? count source pieces total)
    (hbeside : Beside b before open?) : marks b (spell pieces) ≤ holes open? source := by
  induction h generalizing b with
  | done => exact Nat.le_refl 0
  | @escaped before open? count total rest pieces h more ih =>
    have hmore := ih (beside_colon _)
    have hstart : marks b (spell (.char '\\' :: .char ':' :: pieces)) =
        marks (some ':') (spell pieces) := by
      show marks b ('\\' :: ':' :: spell pieces) = _
      rw [marks, marks, if_neg (by simp), if_neg (by simp [isFree]), Nat.zero_add, Nat.zero_add]
    rw [hstart, holes]
    exact hmore.trans (Nat.le_add_left _ _)
  | @hole before count total rest pieces more ih =>
    have hfree : isFree (some ':') = false := rfl
    have hmore := ih (beside_bind hfree)
    have hstart : marks b (spell (.bind (bindName (count + 1)) :: pieces)) ≤
        1 + marks (some ':') (spell pieces) := by
      show marks b (':' :: bindName (count + 1) ++ spell pieces) ≤ _
      rw [List.cons_append, marks,
        marks_word (fun _ => isWordChar_of_mem_bindName) (bindName_ne_nil _) hfree]
      split <;> omega
    rw [holes_mark]
    exact hstart.trans (Nat.add_le_add_left hmore 1)
  | @copied before open? count total c rest pieces hcolon hquoted more ih =>
    have hmore := ih (beside_copied fun hc => (hquoted hc).2)
    have hstart : marks b (spell (.char c :: pieces)) = marks (some c) (spell pieces) := by
      show marks b (c :: spell pieces) = _
      rw [marks, if_neg, Nat.zero_add]
      rintro ⟨hc, hfree, hhead⟩
      rw [no_bind hcolon hbeside more hc hfree] at hhead
      cases hhead
    rw [hstart, holes]
    exact hmore.trans (Nat.le_add_left _ _)

/-- A placeholder in front of this is read: no placeholder, no colon but one that is escaped, and no
word, except that a single character is given back when a colon follows it. -/
def StandsClosed (rest : List Char) : Prop :=
  ∀ c more, rest = c :: more →
    c ≠ '?' ∧ (c = ':' → more.head?.any isWordChar = true) ∧
      (isWordChar c = true → more.head? = some ':')

/-- Behind a word character a colon is copied. -/
theorem Writes.head_colon {c : Char} (hc : isWordChar c = true)
    (h : Writes (some c) open? count source pieces total) (hsource : source.head? = some ':') :
    (spell pieces).head? = some ':' := by
  cases h with
  | done => cases hsource
  | escaped hneeds more =>
    rw [needsEscape_eq, isFree_of_isWordChar hc, Bool.and_false] at hneeds
    cases hneeds
  | hole more => rfl
  | copied hcolon hquoted more => exact hsource

/-- Where what is written begins with a colon, the source begins with one or with a placeholder. -/
theorem Writes.head_of_colon (h : Writes before open? count source pieces total)
    (hcolon : (spell pieces).head? = some ':') :
    source.head? = some ':' ∨ open? = none ∧ source.head? = some '?' := by
  cases h with
  | done => cases hcolon
  | escaped hneeds more => exact .inl rfl
  | hole more => exact .inr ⟨rfl, rfl⟩
  | copied hescape hquoted more => exact .inl hcolon

theorem closes_word? : Closes word? StandsClosed := by
  intro count total rest pieces h hclosed
  refine (word?_append_iff (fun _ => isWordChar_of_mem_bindName) (bindName_ne_nil _)).mpr ?_
  cases h with
  | done => exact ⟨rfl, nofun⟩
  | escaped hneeds more => exact ⟨rfl, by simp [spell, spelled]⟩
  | hole more => exact absurd rfl (hclosed _ _ rfl).1
  | @copied _ _ _ _ c rest pieces hcolon hquoted more =>
    obtain ⟨-, hescaped, hsingle⟩ := hclosed c rest rfl
    constructor
    · cases hc : isWordChar c with
      | true => exact (word?_cons_eq_none hc).mpr (more.head_colon hc (hsingle hc))
      | false => exact word?_of_head hc
    · intro hhead
      obtain rfl : c = ':' := Option.some.inj hhead
      have hneeds := hcolon rfl
      rw [needsEscape_eq, hescaped rfl] at hneeds
      cases hneeds

/-- A bind that is read in front of spaced placeholders is closed. -/
theorem Writes.standsClosed (h : Writes (some '?') none count rest pieces total)
    (hread : word? (bindName count ++ spell pieces) = some (bindName count))
    (hspaced : Spaced StandsClosed (some '?') none rest) : StandsClosed rest := by
  obtain ⟨hword, hhead⟩ :=
    (word?_append_iff (fun _ => isWordChar_of_mem_bindName) (bindName_ne_nil _)).mp hread
  rintro c more rfl
  cases h with
  | escaped hneeds more =>
    rw [needsEscape_eq] at hneeds
    have hmore := (Bool.and_eq_true_iff.mp hneeds).1
    exact ⟨by decide, fun _ => hmore, fun hc => absurd hc (by decide)⟩
  | hole more => exact absurd rfl hhead
  | copied hcolon hquoted hwrites =>
    refine ⟨fun hc => (hquoted hc).1 rfl, fun hc => absurd (congrArg some hc) hhead, fun hc => ?_⟩
    rcases hwrites.head_of_colon ((word?_cons_eq_none hc).mp hword) with hsource | ⟨hopen, hsource⟩
    · exact hsource
    · -- A placeholder behind the character would not stand free.
      obtain ⟨tail, rfl⟩ : ∃ tail, more = '?' :: tail := List.head?_eq_some_iff.mp hsource
      have hrest := (spaced_cons.mp hspaced).2
      have hfree := ((spaced_cons.mp hrest).1 ⟨hopen, rfl⟩).1.1
      rw [isFree_of_isWordChar hc] at hfree
      cases hfree

/-- Where the numbered binds are found, the first one found is the placeholder's own: without a name
at its colon there are too few of them. -/
theorem Writes.reads_bind (more : Writes (some '?') none (count + 1) rest pieces total)
    (hnames : BindText.names
      (piecesFrom word? b 0 (':' :: (bindName (count + 1) ++ spell pieces))) =
        numbered count (1 + holes none rest)) :
    isFree b = true ∧
      word? (bindName (count + 1) ++ spell pieces) = some (bindName (count + 1)) := by
  rw [numbered_succ] at hnames
  by_cases hread : isFree b = true ∧ ∃ name, word? (bindName (count + 1) ++ spell pieces) =
      some name
  · obtain ⟨hfree, name, hname⟩ := hread
    rw [piecesFrom_bind hfree hname] at hnames
    exact ⟨hfree, hname.trans (congrArg some (List.cons.inj hnames).1)⟩
  · have hnone : (':' : Char) = ':' → isFree b = true →
        word? (bindName (count + 1) ++ spell pieces) = none := fun _ hfree =>
      Option.eq_none_iff_forall_ne_some.mpr fun name hname => hread ⟨hfree, name, hname⟩
    rw [piecesFrom_char hnone] at hnames
    have hcolon : isFree (some ':') = false := rfl
    have hbind : ∀ c ∈ bindName (count + 1), isWordChar c = true :=
      fun _ => isWordChar_of_mem_bindName
    have hfew := length_names_le (fun _ => word?_of_head) (some ':') 0
      (bindName (count + 1) ++ spell pieces)
    rw [marks_word hbind (bindName_ne_nil _) hcolon] at hfew
    have hmarks := more.marks_le (beside_bind hcolon)
    have hlength : (BindText.names (piecesFrom word? (some ':') 0
        (bindName (count + 1) ++ spell pieces))).length = holes none rest + 1 := by
      refine (congrArg List.length hnames).trans ?_
      rw [List.length_cons, length_numbered]
    omega

/-- If the pattern finds the numbered binds in what is written, the placeholders are spaced. One
that does not stand free, or is not closed, leaves too few names or a wrong one. -/
theorem Writes.spaced (h : Writes before open? count source pieces total)
    (hbeside : Beside b before open?)
    (hnames : BindText.names (piecesFrom word? b 0 (spell pieces)) =
      numbered count (holes open? source)) : Spaced StandsClosed before open? source := by
  induction h generalizing b with
  | done => exact spaced_nil
  | @escaped before open? count total rest pieces h more ih =>
    refine spaced_cons.mpr ⟨fun hmark => absurd hmark.2 (by decide), ih (beside_colon _) ?_⟩
    have hslash : ('\\' : Char) = ':' → isFree b = true → word? (':' :: spell pieces) = none :=
      fun hc => absurd hc (by decide)
    have hcolon : (':' : Char) = ':' → isFree (some '\\') = true → word? (spell pieces) = none :=
      fun _ hfree => absurd hfree (by decide)
    rw [holes_other fun hmark => absurd hmark.2 (by decide)] at hnames
    rw [← hnames]
    show _ = BindText.names (piecesFrom word? b 0 ('\\' :: ':' :: spell pieces))
    rw [piecesFrom_char hslash, piecesFrom_char hcolon]
    rfl
  | @hole before count total rest pieces more ih =>
    have hcolon : isFree (some ':') = false := rfl
    have hbind : ∀ c ∈ bindName (count + 1), isWordChar c = true :=
      fun _ => isWordChar_of_mem_bindName
    rw [holes_mark] at hnames
    change BindText.names
      (piecesFrom word? b 0 (':' :: (bindName (count + 1) ++ spell pieces))) = _ at hnames
    obtain ⟨hfree, hread⟩ := more.reads_bind hnames
    rw [numbered_succ] at hnames
    rw [piecesFrom_bind hfree hread, piecesFrom_skip hbind (bindName_ne_nil _) hcolon] at hnames
    have hrest := ih (beside_bind hcolon) (List.cons.inj hnames).2
    obtain ⟨hbefore, hmark⟩ := hbeside.mp hfree
    exact spaced_cons.mpr
      ⟨fun _ => ⟨⟨hbefore, fun h => hmark ⟨rfl, h⟩⟩, more.standsClosed hread hrest⟩, hrest⟩
  | @copied before open? count total c rest pieces hcolon hquoted more ih =>
    have hhole : ¬ (open? = none ∧ c = '?') := fun h => (hquoted h.2).1 h.1
    refine spaced_cons.mpr ⟨fun hmark => absurd hmark hhole,
      ih (beside_copied fun hc => (hquoted hc).2) ?_⟩
    rw [holes_other hhole] at hnames
    rw [← hnames]
    show _ = BindText.names (piecesFrom word? b 0 (c :: spell pieces))
    rw [piecesFrom_char fun hc hfree => word?_of_head (no_bind hcolon hbeside more hc hfree)]
    rfl

/-! ## Escapes -/

/-- Behind a backslash a colon is written as it is. -/
theorem Writes.head_slash (h : Writes (some '\\') open? count source pieces total) :
    pieces.head? = some (.char ':') ↔ source.head? = some ':' := by
  cases h with
  | done => exact ⟨nofun, nofun⟩
  | escaped hneeds more =>
    rw [needsEscape_eq, isFree] at hneeds
    simp at hneeds
  | hole more => simp
  | copied hcolon hquoted more => simp

/-- The backslashes that were written go first, so what is left is what is left of the marked
text. -/
theorem Writes.unescaped_eq (h : Writes before open? count source pieces total) :
    unescaped pieces = unescaped (marked open? count source) := by
  induction h with
  | done => rfl
  | @escaped before open? count total rest pieces h more ih =>
    have hcolon : ∀ rest : List BindPiece,
        unescaped (.char ':' :: rest) = .char ':' :: unescaped rest :=
      fun rest => unescaped_other fun hc => absurd hc (by decide)
    rw [marked_other fun hmark => absurd hmark.2 (by decide), unescaped_escape, hcolon, hcolon, ih]
  | @hole before count total rest pieces more ih =>
    rw [marked_mark, unescaped_bind, unescaped_bind, ih]
  | @copied before open? count total c rest pieces hcolon hquoted more ih =>
    rw [marked_other fun h => (hquoted h.2).1 h.1, unescaped, unescaped, ih]
    by_cases hc : c = '\\'
    · subst hc
      simp only [more.head_slash, head_marked]
    · have hslash : ¬ BindPiece.char c = .char '\\' := fun h => hc (BindPiece.char.inj h)
      rw [if_neg fun h => hslash h.1, if_neg fun h => hslash h.1]

theorem length_marked (open? : Option Char) (count : Nat) (source : List Char) :
    (marked open? count source).length = source.length := by
  rw [← List.length_map shown, map_shown_marked]

/-- A text without escapes of its own keeps all its characters. -/
theorem unescaped_marked (h : ¬ ['\\', ':'] <:+: source) :
    unescaped (marked open? count source) = marked open? count source := by
  induction source generalizing open? count with
  | nil => rfl
  | cons c rest ih =>
    have hrest : ¬ ['\\', ':'] <:+: rest := fun hinfix => h (List.infix_cons hinfix)
    by_cases hhole : open? = none ∧ c = '?'
    · obtain ⟨rfl, rfl⟩ := hhole
      rw [marked_mark, unescaped_bind, ih hrest]
    · have hkept : BindPiece.char c = .char '\\' →
          (marked (quoteAfter open? c) count rest).head? ≠ some (.char ':') := by
        intro hc hhead
        obtain ⟨tail, rfl⟩ := List.head?_eq_some_iff.mp ((head_marked _ _ _).mp hhead)
        obtain rfl := BindPiece.char.inj hc
        exact h (List.prefix_append ['\\', ':'] tail).isInfix
      rw [marked_other hhole, unescaped_other hkept, ih hrest]

/-- A text with an escape of its own loses a backslash. -/
theorem length_unescaped_lt (h : ['\\', ':'] <:+: source) :
    (unescaped (marked open? count source)).length < source.length := by
  induction source generalizing open? count with
  | nil => exact absurd (List.infix_nil.mp h) (List.cons_ne_nil _ _)
  | cons c rest ih =>
    rcases List.infix_cons_iff.mp h with hprefix | hinfix
    · obtain ⟨tail, hsource⟩ := hprefix
      obtain ⟨rfl, rfl⟩ := List.cons.inj hsource
      have hshorter := length_unescaped_le (marked (quoteAfter open? '\\') count (':' :: tail))
      rw [length_marked] at hshorter
      have hdropped : unescaped (marked open? count ('\\' :: ':' :: tail)) =
          unescaped (marked (quoteAfter open? '\\') count (':' :: tail)) := by
        rw [marked_other fun hmark => absurd hmark.2 (by decide),
          marked_other fun hmark => absurd hmark.2 (by decide), unescaped_escape]
      show (unescaped (marked open? count ('\\' :: ':' :: tail))).length < _
      rw [hdropped]
      exact Nat.lt_succ_of_le hshorter
    · have hstep : ∀ (piece : BindPiece) (pieces : List BindPiece),
          (unescaped (piece :: pieces)).length ≤ (unescaped pieces).length + 1 := by
        intro piece pieces
        rw [unescaped]
        split
        · exact Nat.le_succ _
        · exact Nat.le_refl _
      by_cases hhole : open? = none ∧ c = '?'
      · obtain ⟨rfl, rfl⟩ := hhole
        rw [marked_mark]
        exact (hstep _ _).trans_lt (Nat.succ_lt_succ (ih hinfix))
      · rw [marked_other hhole]
        exact (hstep _ _).trans_lt (Nat.succ_lt_succ (ih hinfix))

/-! ## Faithful texts -/

/-- The text with binds that is made of a statement stands for the statement. -/
structure Faithful (sql : String) : Prop where
  /-- The binds that are found in it are numbered in order. -/
  binds : BindText.names (BindPattern.pieces (convert sql).1.toList) = numbered 0 (convert sql).2
  /-- Shown with question marks and without escapes it is the statement. -/
  rendered : BindPattern.rendered (BindPattern.pieces (convert sql).1.toList) = sql.toList
  /-- Each bind stands in the place of its question mark, the others of which are quoted. -/
  placed : unescaped (BindPattern.pieces (convert sql).1.toList) = marked none 0 sql.toList

/-- The text that is made of a statement has as many binds as the statement has question marks
outside quotes. It stands for the statement exactly when these are spaced and there is no backslash
in front of a colon. -/
theorem faithful_iff (sql : String) :
    (convert sql).2 = holes none sql.toList ∧
      (Faithful sql ↔
        Spaced StandsClosed none none sql.toList ∧ ¬ ['\\', ':'] <:+: sql.toList) := by
  have hcount := convert_count sql
  obtain ⟨pieces, hwrites, htext⟩ := convert_writes sql
  have hread : Spaced StandsClosed none none sql.toList →
      BindPattern.pieces (convert sql).1.toList = pieces := by
    intro hspaced
    rw [htext]
    exact hwrites.read (fun _ => word?_of_head) closes_word? hspaced beside_none
  refine ⟨hcount, fun hfaithful => ?_, fun ⟨hspaced, hescapes⟩ => ?_⟩
  · have hnames := hfaithful.binds
    rw [htext, hcount] at hnames
    have hspaced := hwrites.spaced beside_none hnames
    refine ⟨hspaced, fun hescape => ?_⟩
    have hrendered := congrArg List.length hfaithful.rendered
    rw [hread hspaced, BindPattern.rendered, List.length_map, hwrites.unescaped_eq] at hrendered
    exact absurd hrendered (length_unescaped_lt hescape).ne
  · have hplaced : unescaped pieces = marked none 0 sql.toList := by
      rw [hwrites.unescaped_eq, unescaped_marked hescapes]
    refine ⟨?_, ?_, ?_⟩
    · rw [hread hspaced, hcount, ← names_marked, ← hplaced, names_unescaped]
    · rw [hread hspaced, BindPattern.rendered, hplaced, map_shown_marked]
    · rw [hread hspaced, hplaced]

/-- The bind of a placeholder in front of a cast is read without its number. -/
theorem not_faithful_cast : ¬ Faithful "SELECT ?::int" := by
  intro h
  have hbinds := h.binds
  revert hbinds
  decide +kernel

end Placeholder

end BoundSql
