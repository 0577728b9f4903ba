import BoundSql.Proofs.Acceptance
import BoundSql.Proofs.Marks
import BoundSql.Proofs.NameParts
import BoundSql.Proofs.Recovery

/-!
# Names between quote marks

A text is taken for one name, for names with dots in between, or for a column. It is written if its
segments are safe names, each between two marks, and refused otherwise. What is written is read
back by the rule that any reader of quoted names goes by; what was read back is written in the same
way again, and no other segments are.
-/

namespace BoundSql

open Text

/-! ## What is read from a text -/

namespace Name

/-- A name is made of its letters if they are safe. -/
theorem ofChars?_eq_some_iff {s : List Char} {n : Name} : ofChars? s = some n ↔ n.letters = s := by
  refine ⟨letters_of_ofChars?, ?_⟩
  rintro rfl
  exact dif_pos n.safe

theorem ofChars?_eq_none_iff {s : List Char} : ofChars? s = none ↔ ¬ isSafeName s = true := by
  unfold ofChars?
  split <;> simp_all

end Name

/-- The names of segments are the segments without the blanks around them. -/
theorem readSegments_eq_ok_iff (whole : List Char) {segments : List (List Char)}
    {names : List Name} :
    readSegments whole segments = .ok names ↔ names.map Name.letters = segments.map trim := by
  induction segments generalizing names with
  | nil =>
    rw [readSegments, List.map_nil, List.map_eq_nil_iff]
    exact ⟨fun h => (Except.ok.inj h).symm, fun h => congrArg _ h.symm⟩
  | cons segment rest ih =>
    have hsegment : ∀ {n : Name}, readSegment whole segment = .ok n ↔ n.letters = trim segment := by
      intro n
      rw [← Name.ofChars?_eq_some_iff, readSegment]
      cases Name.ofChars? (trim segment) <;> simp
    rw [readSegments, bind_eq_ok_iff]
    constructor
    · rintro ⟨name, hname, h⟩
      obtain ⟨more, hmore, h⟩ := bind_eq_ok_iff.mp h
      cases h
      rw [List.map_cons, List.map_cons, hsegment.mp hname, ih.mp hmore]
    · intro h
      cases names with
      | nil => cases h
      | cons name more =>
        obtain ⟨hname, hmore⟩ := List.cons.inj h
        exact ⟨name, hsegment.mpr hname, bind_eq_ok_iff.mpr ⟨more, ih.mpr hmore, rfl⟩⟩

/-- A path is read from the texts whose pieces are its names. -/
theorem Path.readChars_eq_ok_iff {s : List Char} {p : Path} :
    Path.readChars s = .ok p ↔ p.segments.map Name.letters = trimmedPieces s := by
  rw [← trimmedPieces_trim, Path.readChars]
  split
  next hempty =>
    -- no characters are one empty piece, and no name is empty
    rw [List.isEmpty_iff.mp hempty]
    refine ⟨nofun, fun h => ?_⟩
    have hnone : p.head.letters = [] := (List.cons.inj h).1
    have hsafe := p.head.safe
    rw [hnone] at hsafe
    cases hsafe
  next =>
    rw [trimmedPieces, ← readSegments_eq_ok_iff (trim s), bind_eq_ok_iff]
    constructor
    · rintro ⟨names, hnames, h⟩
      cases names with
      | nil => cases h
      | cons head tail =>
        cases h
        exact hnames
    · intro h
      exact ⟨p.segments, h, rfl⟩

/-- A text that is no path is refused as a name. -/
theorem Path.readChars_error {s : List Char} {e : Error} (h : Path.readChars s = .error e) :
    e.kind = "IdentifierError" := by
  have hsegments : ∀ {segments : List (List Char)} {e : Error},
      readSegments (trim s) segments = .error e → e.kind = "IdentifierError" := by
    intro segments e h
    induction segments with
    | nil => cases h
    | cons segment rest ih =>
      rw [readSegments] at h
      rcases bind_eq_error_iff.mp h with hsegment | ⟨name, -, h⟩
      · unfold readSegment at hsegment
        split at hsegment <;> cases hsegment
        rfl
      · rcases bind_eq_error_iff.mp h with hrest | ⟨more, -, h⟩
        · exact ih hrest
        · cases h
  unfold Path.readChars at h
  dsimp only at h
  split at h
  next =>
    cases h
    rfl
  next =>
    rcases bind_eq_error_iff.mp h with hnames | ⟨names, -, h⟩
    · exact hsegments hnames
    · cases names <;> cases h
      rfl

/-! ## What a text is taken for -/

/-- What a text is taken for. -/
inductive NameForm where
  /-- One name. -/
  | name
  /-- Names with dots in between. -/
  | path
  /-- A column: names with dots in between, a star, or such names and a star behind them. -/
  | column

/-- The parts of a column. -/
def ColumnRef.parts : ColumnRef → NameParts
  | .star => ⟨[], true⟩
  | .column path => ⟨path.segments.map Name.letters, false⟩
  | .allOf path => ⟨path.segments.map Name.letters, true⟩

namespace NameForm

/-- Reads a text as what it is taken for; one name is a path without dots. -/
def read : NameForm → String → Except Error ColumnRef
  | name, s => (Name.read s).map fun n => .column ⟨n, []⟩
  | path, s => (Path.read s).map .column
  | column, s => ColumnRef.read s

/-- What a dialect writes for a text. -/
def quote (d : Dialect) : NameForm → String → Except Error String
  | name, s => (Name.read s).map (Name.sql d)
  | path, s => (Path.read s).map (Path.sql d)
  | column, s => (ColumnRef.read s).map (ColumnRef.sql d)

/-- A text is taken for parts, each of its segments a safe name: the text without the blanks around
it, its pieces between dots without those around them, a star, or the pieces in front of a final dot
and star. -/
inductive Takes : NameForm → List Char → NameParts → Prop
  /-- One name. -/
  | name {s : List Char} (h : isSafeName (trim s) = true) : Takes .name s ⟨[trim s], false⟩
  /-- Names with dots in between. -/
  | path {s : List Char} (h : ∀ segment ∈ trimmedPieces s, isSafeName segment = true) :
      Takes .path s ⟨trimmedPieces s, false⟩
  /-- A star. -/
  | star {s : List Char} (h : trim s = ['*']) : Takes .column s ⟨[], true⟩
  /-- One column. -/
  | column {s : List Char} (h : ∀ segment ∈ trimmedPieces s, isSafeName segment = true) :
      Takes .column s ⟨trimmedPieces s, false⟩
  /-- All columns of a table. -/
  | allOf {s table : List Char} (hs : trim s = table ++ ['.', '*'])
      (h : ∀ segment ∈ trimmedPieces table, isSafeName segment = true) :
      Takes .column s ⟨trimmedPieces table, true⟩

end NameForm

/-- Safe segments are the letters of names. -/
theorem exists_names {segments : List (List Char)}
    (h : ∀ segment ∈ segments, isSafeName segment = true) :
    ∃ names : List Name, names.map Name.letters = segments := by
  induction segments with
  | nil => exact ⟨[], rfl⟩
  | cons segment rest ih =>
    obtain ⟨hsegment, hrest⟩ := List.forall_mem_cons.mp h
    obtain ⟨names, hnames⟩ := ih hrest
    exact ⟨⟨segment, hsegment⟩ :: names, by rw [List.map_cons, hnames]⟩

/-- Segments are those of a path that is read from a text if they are its pieces and are safe. -/
theorem Path.exists_readChars_iff {s : List Char} {segments : List (List Char)} :
    (∃ p, Path.readChars s = .ok p ∧ p.segments.map Name.letters = segments) ↔
      segments = trimmedPieces s ∧ ∀ segment ∈ trimmedPieces s, isSafeName segment = true := by
  constructor
  · rintro ⟨p, hp, rfl⟩
    have hpieces := Path.readChars_eq_ok_iff.mp hp
    refine ⟨hpieces, ?_⟩
    rw [← hpieces]
    intro segment hsegment
    obtain ⟨n, -, rfl⟩ := List.mem_map.mp hsegment
    exact n.safe
  · rintro ⟨rfl, hsafe⟩
    obtain ⟨names, hnames⟩ := exists_names hsafe
    cases names with
    | nil =>
      have hnone : splitAt '.' s = [] := List.map_eq_nil_iff.mp hnames.symm
      exact absurd hnone (splitAt_ne_nil '.' s)
    | cons head tail =>
      have hletters : (Path.mk head tail).segments.map Name.letters = trimmedPieces s := hnames
      exact ⟨⟨head, tail⟩, Path.readChars_eq_ok_iff.mpr hletters, hletters⟩

/-- The star at the end of a text is no safe name. -/
theorem not_safe_dotStar {s table : List Char} (hs : trim s = table ++ ['.', '*']) :
    ¬ ∀ segment ∈ trimmedPieces s, isSafeName segment = true := by
  intro hsafe
  refine Path.not_admits_star hs fun piece hpiece => hsafe _ ?_
  rw [← trimmedPieces_trim]
  exact List.mem_map_of_mem hpiece

namespace NameForm

variable {form : NameForm} {s : List Char} {parts : NameParts}

/-- A name is read from the texts that are taken for one. -/
theorem exists_readName_iff (s : String) (parts : NameParts) :
    (∃ c, NameForm.name.read s = .ok c ∧ c.parts = parts) ↔ Takes .name s.toList parts := by
  have hread : NameForm.name.read s = (Name.read s).map fun n => .column ⟨n, []⟩ := rfl
  rw [hread, Name.read]
  constructor
  · rintro ⟨c, hc, rfl⟩
    obtain ⟨n, hn, rfl⟩ := map_eq_ok_iff.mp hc
    split at hn
    next found hfound =>
      rw [Except.ok.inj hn] at hfound
      have hletters := Name.ofChars?_eq_some_iff.mp hfound
      have hsafe := n.safe
      rw [hletters] at hsafe
      have hparts : (ColumnRef.column ⟨n, []⟩).parts = ⟨[trim s.toList], false⟩ := by
        rw [← hletters]
        rfl
      rw [hparts]
      exact .name hsafe
    next => cases hn
  · rintro ⟨hsafe⟩
    have hname : Name.ofChars? (trim s.toList) = some ⟨trim s.toList, hsafe⟩ :=
      Name.ofChars?_eq_some_iff.mpr rfl
    rw [hname]
    exact ⟨_, rfl, rfl⟩

/-- A column is read from the texts that are taken for one. -/
theorem exists_readColumn_iff (s : String) (parts : NameParts) :
    (∃ c, NameForm.column.read s = .ok c ∧ c.parts = parts) ↔ Takes .column s.toList parts := by
  have hread : NameForm.column.read s = ColumnRef.read s := rfl
  rw [hread, ColumnRef.read]
  split
  next hstar =>
    constructor
    · rintro ⟨c, hc, rfl⟩
      cases hc
      exact .star hstar
    · intro h
      refine ⟨.star, rfl, ?_⟩
      cases h with
      | star _ => rfl
      | column hsafe =>
        have hpiece : ['*'] ∈ trimmedPieces s.toList := by
          rw [← trimmedPieces_trim, hstar]
          decide
        have hsafe := hsafe _ hpiece
        cases hsafe
      | allOf hs _ =>
        rw [hstar] at hs
        have hlength := congrArg List.length hs
        simp at hlength
  next hstar =>
    split
    next table htable =>
      have hsplit := beforeDotStar?_eq_some_iff.mp htable
      constructor
      · rintro ⟨c, hc, rfl⟩
        obtain ⟨path, hpath, rfl⟩ := map_eq_ok_iff.mp hc
        obtain ⟨hpieces, hsafe⟩ := Path.exists_readChars_iff.mp ⟨path, hpath, rfl⟩
        rw [ColumnRef.parts, hpieces]
        exact .allOf hsplit hsafe
      · intro h
        cases h with
        | star h => exact absurd h hstar
        | column hsafe => exact absurd hsafe (not_safe_dotStar hsplit)
        | allOf hs hsafe =>
          obtain rfl := List.append_cancel_right (hsplit.symm.trans hs)
          obtain ⟨path, hpath, hletters⟩ := Path.exists_readChars_iff.mpr ⟨rfl, hsafe⟩
          refine ⟨.allOf path, map_eq_ok_iff.mpr ⟨path, hpath, rfl⟩, ?_⟩
          rw [ColumnRef.parts, hletters]
    next hnone =>
      constructor
      · rintro ⟨c, hc, rfl⟩
        obtain ⟨path, hpath, rfl⟩ := map_eq_ok_iff.mp hc
        obtain ⟨hpieces, hsafe⟩ := Path.exists_readChars_iff.mp ⟨path, hpath, rfl⟩
        rw [trimmedPieces_trim] at hpieces hsafe
        rw [ColumnRef.parts, hpieces]
        exact .column hsafe
      · intro h
        cases h with
        | star h => exact absurd h hstar
        | column hsafe =>
          rw [← trimmedPieces_trim] at hsafe
          obtain ⟨path, hpath, hletters⟩ := Path.exists_readChars_iff.mpr ⟨rfl, hsafe⟩
          refine ⟨.column path, map_eq_ok_iff.mpr ⟨path, hpath, rfl⟩, ?_⟩
          rw [ColumnRef.parts, hletters, trimmedPieces_trim]
        | allOf hs hsafe =>
          rw [beforeDotStar?_eq_some_iff.mpr hs] at hnone
          cases hnone

/-- What is read from a text has the parts that the text is taken for. -/
theorem exists_read_iff (form : NameForm) (s : String) (parts : NameParts) :
    (∃ c, form.read s = .ok c ∧ c.parts = parts) ↔ form.Takes s.toList parts := by
  cases form with
  | name => exact exists_readName_iff s parts
  | column => exact exists_readColumn_iff s parts
  | path =>
    constructor
    · rintro ⟨c, hc, rfl⟩
      obtain ⟨path, hpath, rfl⟩ := map_eq_ok_iff.mp hc
      obtain ⟨hpieces, hsafe⟩ := Path.exists_readChars_iff.mp ⟨path, hpath, rfl⟩
      rw [ColumnRef.parts, hpieces]
      exact .path hsafe
    · rintro ⟨⟩
      next hsafe =>
        obtain ⟨path, hpath, hletters⟩ := Path.exists_readChars_iff.mpr ⟨rfl, hsafe⟩
        refine ⟨.column path, map_eq_ok_iff.mpr ⟨path, hpath, rfl⟩, ?_⟩
        rw [ColumnRef.parts, hletters]

/-- What is not read is refused as a name. -/
theorem read_error {s : String} {e : Error} (h : form.read s = .error e) :
    e.kind = "IdentifierError" := by
  have hmap : ∀ {α : Type} {x : Except Error α} {f : α → ColumnRef},
      x.map f = .error e → x = .error e := by
    intro α x f hx
    cases x with
    | ok a => cases hx
    | error other => exact congrArg _ (Except.error.inj hx)
  cases form with
  | name =>
    have hname := hmap h
    unfold Name.read at hname
    dsimp only at hname
    split at hname <;> cases hname
    rfl
  | path => exact Path.readChars_error (hmap h)
  | column =>
    have hcolumn : ColumnRef.read s = .error e := h
    unfold ColumnRef.read at hcolumn
    dsimp only at hcolumn
    split at hcolumn
    next => cases hcolumn
    next =>
      split at hcolumn
      next => exact Path.readChars_error (hmap hcolumn)
      next => exact Path.readChars_error (hmap hcolumn)

end NameForm

/-! ## What is written for it -/

/-- There are no blanks in safe names with dots in between. -/
theorem isBlank_of_mem_dotted {segments : List (List Char)} {c : Char}
    (h : ∀ segment ∈ segments, isSafeName segment = true) (hc : c ∈ joinWith ['.'] segments) :
    isBlank c = false := by
  rcases Text.mem_joinWith hc with hdot | ⟨segment, hsegment, hc⟩
  · rw [List.mem_singleton.mp hdot]
    decide
  · have hname : c ∈ (Name.mk segment (h segment hsegment)).letters := hc
    exact EnvReference.isBlank_of_isNameChar (Name.isNameChar_of_mem hname)

variable (d : Dialect)

/-- A path is written as its names between marks with dots in between. -/
theorem Path.render_wrap (p : Path) : Token.render d.mark p.tokens =
    joinWith ['.'] ((p.segments.map Name.letters).map (NameParts.wrap d.mark)) := by
  have hname : (Token.render d.mark ∘ fun n : Name => [Token.name n]) =
      NameParts.wrap d.mark ∘ Name.letters := by
    funext n
    exact List.append_nil _
  rw [Path.tokens, Token.render_separated, List.map_map, List.map_map, hname]
  rfl

/-- A column is written as its parts. -/
theorem ColumnRef.sql_eq (c : ColumnRef) : (c.sql d).toList = c.parts.quoted d.mark := by
  rw [ColumnRef.sql, Token.sql, String.toList_ofList]
  cases c with
  | star => rfl
  | column path =>
    rw [ColumnRef.tokens, Path.render_wrap, ColumnRef.parts, NameParts.quoted,
      NameParts.pieces_plain]
  | allOf path =>
    have hne : (path.segments.map Name.letters).map (NameParts.wrap d.mark) ≠ [] := by
      simp [Path.segments]
    have hstar := Text.joinWith_concat hne ['.'] ['*']
    have hparts : (ColumnRef.allOf path).parts.quoted d.mark = joinWith ['.']
        ((path.segments.map Name.letters).map (NameParts.wrap d.mark) ++ [['*']]) := rfl
    rw [hparts, hstar, ColumnRef.tokens, Token.render_append, Path.render_wrap]
    rfl

/-- The parts of a column can be written between marks. -/
theorem ColumnRef.parts_quotable (c : ColumnRef) : c.parts.Quotable d.mark := by
  have hunmarked : ∀ path : Path, ∀ segment ∈ path.segments.map Name.letters, d.mark ∉ segment := by
    intro path segment hsegment
    obtain ⟨n, -, rfl⟩ := List.mem_map.mp hsegment
    exact d.mark_not_mem_letters n
  cases c with
  | star => exact ⟨.inr rfl, nofun⟩
  | column path => exact ⟨.inl (List.cons_ne_nil _ _), hunmarked path⟩
  | allOf path => exact ⟨.inr rfl, hunmarked path⟩

/-- What is written for a column is read back as its parts. -/
theorem ColumnRef.unquote?_sql (c : ColumnRef) :
    NameParts.unquote? d.mark (c.sql d).toList = some c.parts := by
  have hstar : d.mark ≠ '*' := by
    rcases d.mark_eq with h | h
    all_goals
      rw [h]
      decide
  rw [c.sql_eq, NameParts.unquote?_quoted hstar (c.parts_quotable d)]

/-- Columns that are written alike have the same parts. -/
theorem ColumnRef.sql_eq_iff (b c : ColumnRef) : b.sql d = c.sql d ↔ b.parts = c.parts := by
  constructor
  · intro h
    have hread := b.unquote?_sql d
    rw [h, c.unquote?_sql d] at hread
    exact (Option.some.inj hread).symm
  · intro h
    rw [← String.toList_inj, b.sql_eq, c.sql_eq, h]

namespace NameForm

variable {form : NameForm} {s : List Char} {parts : NameParts}

/-- What is written for a text is what is written for the column that is read from it. -/
theorem quote_eq (form : NameForm) (s : String) :
    form.quote d s = (form.read s).map (ColumnRef.sql d) := by
  cases form with
  | name =>
    rw [quote, read]
    cases Name.read s <;> rfl
  | path =>
    rw [quote, read]
    cases Path.read s <;> rfl
  | column => rfl

/-- Every segment that a text is taken for is a safe name. -/
theorem Takes.safe (h : form.Takes s parts) :
    ∀ segment ∈ parts.segments, isSafeName segment = true := by
  cases h with
  | name h => simpa using h
  | path h => exact h
  | star _ => exact nofun
  | column h => exact h
  | allOf _ h => exact h

/-- The pieces of a text are the pieces of themselves with dots in between. -/
theorem trimmedPieces_joinWith (s : List Char) :
    trimmedPieces (joinWith ['.'] (trimmedPieces s)) = trimmedPieces s := by
  have hne : trimmedPieces s ≠ [] := fun hnone =>
    splitAt_ne_nil '.' s (List.map_eq_nil_iff.mp hnone)
  have hdots : ∀ piece ∈ trimmedPieces s, '.' ∉ piece := by
    intro piece hpiece hmem
    obtain ⟨whole, hwhole, rfl⟩ := List.mem_map.mp hpiece
    obtain ⟨before, behind, -, -, hsplit⟩ := exists_trim whole
    have hinside : '.' ∈ before ++ (trim whole ++ behind) := by simp [hmem]
    exact separator_not_mem_splitAt hwhole (hsplit ▸ hinside)
  rw [trimmedPieces, splitAt_joinWith hne hdots, trimmedPieces, List.map_map]
  exact List.map_congr_left fun piece _ => trim_trim piece

/-- The parts that a text is taken for, with dots in between, are taken for the same parts. -/
theorem Takes.dotted (h : form.Takes s parts) : form.Takes parts.dotted.toList parts := by
  rw [NameParts.dotted, String.toList_ofList]
  cases h with
  | name h =>
    have hagain : isSafeName (trim (trim s)) = true := by rw [trim_trim, h]
    have htakes := Takes.name hagain
    rw [trim_trim] at htakes
    exact htakes
  | path h =>
    rw [← trimmedPieces_joinWith] at h
    have htakes := Takes.path h
    rw [trimmedPieces_joinWith] at htakes
    rw [NameParts.pieces_plain, List.map_id]
    exact htakes
  | star _ => exact .star (by decide)
  | column h =>
    rw [← trimmedPieces_joinWith] at h
    have htakes := Takes.column h
    rw [trimmedPieces_joinWith] at htakes
    rw [NameParts.pieces_plain, List.map_id]
    exact htakes
  | @allOf _ table _ h =>
    have hne : trimmedPieces table ≠ [] := fun hnone =>
      splitAt_ne_nil '.' table (List.map_eq_nil_iff.mp hnone)
    have hwrite : joinWith ['.'] ((NameParts.mk (trimmedPieces table) true).pieces id) =
        joinWith ['.'] (trimmedPieces table) ++ ['.', '*'] := by
      have hstar := Text.joinWith_concat hne ['.'] ['*']
      rw [NameParts.pieces, List.map_id]
      exact hstar
    have hblanks : ∀ c ∈ joinWith ['.'] (trimmedPieces table) ++ ['.', '*'],
        isBlank c = false := by
      intro c hc
      rcases List.mem_append.mp hc with hc | hc
      · exact isBlank_of_mem_dotted h hc
      · rcases List.mem_pair.mp hc with rfl | rfl <;> decide
    rw [← trimmedPieces_joinWith] at h
    have htakes := Takes.allOf (trim_of_noBlanks hblanks) h
    rw [trimmedPieces_joinWith] at htakes
    rw [hwrite]
    exact htakes

/-- A written text goes with the parts that it was written for. -/
structure Writes (d : Dialect) (form : NameForm) (text : String) (parts : NameParts) : Prop where
  /-- It consists of the segments, each between two marks, with dots in between, and of the star. -/
  text_eq : text.toList = parts.quoted d.mark
  /-- No quote mark of any dialect is in a segment. -/
  unmarked : ∀ segment ∈ parts.segments, ∀ c ∈ segment, isMark c = false
  /-- A reader of quoted names finds the parts. -/
  unquote : NameParts.unquote? d.mark text.toList = some parts
  /-- The parts that it finds are written in the same way. -/
  again : form.quote d parts.dotted = .ok text
  /-- The text is written for what is taken for these parts, and for nothing else. -/
  alike : ∀ other, form.quote d other = .ok text ↔ form.Takes other.toList parts

/-- What a text is taken for is written for it: the one goes with the other, and what is not taken
for anything is refused as a name. -/
theorem quote_exact (d : Dialect) (form : NameForm) (s : String) :
    match form.quote d s with
    | .ok text => ∃ parts, form.Takes s.toList parts ∧ form.Writes d text parts
    | .error e => (¬ ∃ parts, form.Takes s.toList parts) ∧ e.kind = "IdentifierError" := by
  rw [quote_eq]
  cases hread : form.read s with
  | error e =>
    refine ⟨?_, read_error hread⟩
    rintro ⟨parts, htakes⟩
    obtain ⟨c, hc, -⟩ := (exists_read_iff form s parts).mpr htakes
    rw [hread] at hc
    cases hc
  | ok c =>
    have htakes : form.Takes s.toList c.parts := (exists_read_iff form s _).mp ⟨c, hread, rfl⟩
    have halike : ∀ other, form.quote d other = .ok (c.sql d) ↔
        form.Takes other.toList c.parts := by
      intro other
      rw [quote_eq, map_eq_ok_iff, ← exists_read_iff]
      simp only [ColumnRef.sql_eq_iff]
    refine ⟨c.parts, htakes, c.sql_eq d, ?_, c.unquote?_sql d, ?_, halike⟩
    · intro segment hsegment letter hletter
      have hname : letter ∈ (Name.mk segment (htakes.safe segment hsegment)).letters := hletter
      exact Token.isMark_of_isCalm (Token.isCalm_of_mem_letters hname)
    · exact (halike _).mpr htakes.dotted

end NameForm

end BoundSql
