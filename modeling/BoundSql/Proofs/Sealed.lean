import BoundSql.Proofs.Plain

/-!
# Placeholders and their neighbours

In a regular statement every placeholder stands behind a blank or an opening parenthesis and in
front of a blank, a comma, a closing parenthesis or nothing. That is a property of neighbouring
tokens, so it is kept when parts of a statement are put together where a word of that kind stands in
between.
-/

namespace BoundSql

namespace Token

/-- The word ends with a blank or an opening parenthesis. -/
def Opens : Token → Prop
  | .word s => s.toList.getLast? = some ' ' ∨ s.toList.getLast? = some '('
  | _ => False

/-- The word begins with a blank, a comma or a closing parenthesis. -/
def Shuts : Token → Prop
  | .word s => s.toList.head? = some ' ' ∨ s.toList.head? = some ',' ∨ s.toList.head? = some ')'
  | _ => False

/-- Two tokens may be neighbours: a placeholder stands behind a word that opens and in front of one
that shuts. -/
def Apart (t u : Token) : Prop := (u = .placeholder → t.Opens) ∧ (t = .placeholder → u.Shuts)

/-- Plain tokens and placeholders that are apart from their neighbours; none comes first. -/
structure Sealed (tokens : List Token) : Prop where
  /-- The tokens are plain or placeholders. -/
  plain : ∀ t ∈ tokens, t = .placeholder ∨ t.Plain
  /-- Neighbours are apart. -/
  chain : tokens.IsChain Apart
  /-- No placeholder comes first. -/
  first : ∀ t ∈ tokens.head?, t ≠ .placeholder

/-- Sealed tokens that may follow a placeholder. -/
def Trailing (tokens : List Token) : Prop := Sealed tokens ∧ ∀ t ∈ tokens.head?, t.Shuts

variable {xs ys tokens : List Token}

theorem Plain.ne_placeholder {t : Token} (h : t.Plain) : t ≠ .placeholder := by
  rintro rfl
  exact h

/-- Two tokens that are no placeholders are apart. -/
theorem apart_of_ne {t u : Token} (ht : t ≠ .placeholder) (hu : u ≠ .placeholder) : Apart t u :=
  ⟨fun h => absurd h hu, fun h => absurd h ht⟩

theorem AllPlain.sealed (h : AllPlain tokens) : Sealed tokens := by
  refine ⟨fun t ht => .inr (h t ht), ?_, fun t ht => (h t (List.mem_of_mem_head? ht)).ne_placeholder⟩
  induction tokens with
  | nil => exact .nil
  | cons t rest ih =>
    obtain ⟨ht, hrest⟩ := allPlain_cons.mp h
    refine List.isChain_cons.mpr ⟨fun u hu => ?_, ih hrest⟩
    exact apart_of_ne ht.ne_placeholder (hrest u (List.mem_of_mem_head? hu)).ne_placeholder

/-- Sealed tokens may be put behind others if no placeholder comes to stand next to them, or the
first of them shuts. -/
theorem Sealed.append (hx : Sealed xs) (hy : Sealed ys)
    (hjoin : AllPlain xs ∨ ∀ t ∈ ys.head?, t.Shuts) : Sealed (xs ++ ys) := by
  refine ⟨?_, List.isChain_append.mpr ⟨hx.chain, hy.chain, fun t ht u hu => ?_⟩, ?_⟩
  · intro t ht
    rcases List.mem_append.mp ht with ht | ht
    · exact hx.plain t ht
    · exact hy.plain t ht
  · refine ⟨fun h => absurd h (hy.first u hu), fun h => ?_⟩
    rcases hjoin with hplain | hshuts
    · exact absurd h (hplain t (List.mem_of_getLast? ht)).ne_placeholder
    · exact hshuts u hu
  · cases xs with
    | nil => exact hy.first
    | cons t rest => exact hx.first

theorem AllPlain.append (hx : AllPlain xs) (hy : Sealed ys) : Sealed (xs ++ ys) :=
  hx.sealed.append hy (.inl hx)

theorem Sealed.trail (hx : Sealed xs) (hy : Trailing ys) : Sealed (xs ++ ys) :=
  hx.append hy.1 (.inr hy.2)

theorem trailing_nil : Trailing [] := ⟨allPlain_nil.sealed, nofun⟩

/-- What follows a word that shuts may follow a placeholder. -/
theorem trailing_cons {s : String} (hplain : (Token.word s).Plain) (hshuts : (Token.word s).Shuts)
    (h : Sealed tokens) : Trailing (.word s :: tokens) := by
  refine ⟨AllPlain.append (allPlain_cons.mpr ⟨hplain, allPlain_nil⟩) h, ?_⟩
  rintro t ⟨⟩
  exact hshuts

theorem Trailing.append (hx : Trailing xs) (hy : Trailing ys) : Trailing (xs ++ ys) := by
  refine ⟨hx.1.trail hy, ?_⟩
  cases xs with
  | nil => exact hy.2
  | cons t rest => exact hx.2

theorem trailing_flatMap {α : Type} {f : α → List Token} {items : List α}
    (h : ∀ item ∈ items, Trailing (f item)) : Trailing (items.flatMap f) := by
  induction items with
  | nil => exact trailing_nil
  | cons item items ih =>
    have hitem := h item List.mem_cons_self
    have hmore := ih fun other hother => h other (List.mem_cons_of_mem item hother)
    rw [List.flatMap_cons]
    exact hitem.append hmore

/-- Sealed groups are sealed with commas in between. -/
theorem sealed_listed {groups : List (List Token)} (h : ∀ group ∈ groups, Sealed group) :
    Sealed (listed groups) := by
  induction groups with
  | nil => exact allPlain_nil.sealed
  | cons first groups ih =>
    have hfirst := h first List.mem_cons_self
    cases groups with
    | nil => exact hfirst
    | cons second groups =>
      have hmore := ih fun group hgroup => h group (List.mem_cons_of_mem first hgroup)
      exact hfirst.trail (trailing_cons rfl (.inr (.inl rfl)) hmore)

/-- A placeholder stands between a word that opens and what may follow. -/
theorem sealed_hole {s : String} (hplain : (Token.word s).Plain) (hopens : (Token.word s).Opens)
    (h : Trailing tokens) : Sealed (.word s :: .placeholder :: tokens) := by
  refine ⟨?_, ?_, ?_⟩
  · intro t ht
    rcases List.mem_cons.mp ht with rfl | ht
    · exact .inr hplain
    · rcases List.mem_cons.mp ht with rfl | ht
      · exact .inl rfl
      · exact h.1.plain t ht
  · refine List.isChain_cons_cons.mpr ⟨⟨fun _ => hopens, nofun⟩, ?_⟩
    refine List.isChain_cons.mpr ⟨fun u hu => ?_, h.1.chain⟩
    exact ⟨fun heq => absurd heq (h.1.first u hu), fun _ => h.2 u hu⟩
  · rintro t ⟨⟩
    exact nofun

/-- Placeholders with commas in between stand between a word that opens and a closing
parenthesis. -/
theorem sealed_placeholders {s : String} (hplain : (Token.word s).Plain)
    (hopens : (Token.word s).Opens) (count : Nat) :
    Sealed (.word s :: (placeholders count ++ [.word ")"])) := by
  have hclosing : Trailing [.word ")"] :=
    trailing_cons rfl (.inr (.inr rfl)) allPlain_nil.sealed
  induction count generalizing s with
  | zero => exact (allPlain_cons.mpr ⟨hplain, allPlain_nil⟩).append hclosing.1
  | succ count ih =>
    cases count with
    | zero => exact sealed_hole hplain hopens hclosing
    | succ count =>
      have hmore : Sealed (.word ", " :: (placeholders (count + 1) ++ [.word ")"])) :=
        ih rfl (.inl rfl)
      have hcomma : Trailing (.word ", " :: (placeholders (count + 1) ++ [.word ")"])) := by
        refine ⟨hmore, ?_⟩
        rintro t ⟨⟩
        exact .inr (.inl rfl)
      exact sealed_hole hplain hopens hcomma

end Token

/-! ## Compiled statements are sealed -/

open Token

theorem Predicate.tokens_sealed (p : Predicate) : Sealed p.tokens := by
  cases p with
  | compare column op =>
    have hfront : AllPlain (column.tokens ++ [.word " ", .word op.text]) := by
      simp [column.tokens_plain, op.text_calm, isCalm, signs]
    have hhole : Sealed [.word " ", .placeholder] := sealed_hole rfl (.inl rfl) trailing_nil
    have hall := hfront.append hhole
    simpa [Predicate.tokens] using hall
  | among column op size =>
    have hfront : AllPlain (column.tokens ++ [.word " ", .word op.text]) := by
      simp [column.tokens_plain, op.text_calm, isCalm, signs]
    have hholes : Sealed (.word " (" :: (placeholders size ++ [.word ")"])) :=
      sealed_placeholders (by rfl) (.inr rfl) size
    have hall := hfront.append hholes
    simpa [Predicate.tokens] using hall
  | identity column op literal =>
    have hall : AllPlain (Predicate.identity column op literal).tokens := by
      simp [Predicate.tokens, column.tokens_plain, op.text_calm, literal.text_calm, isCalm, signs]
    exact hall.sealed
  | constant holds =>
    have hall : AllPlain (Predicate.constant holds).tokens := by
      cases holds <;> simp [Predicate.tokens, isCalm, signs]
    exact hall.sealed

/-- Conditions behind a keyword may follow a placeholder. -/
theorem Conditions.Regular.clause_trailing {conditions : Conditions} (h : conditions.Regular)
    {keyword : String} (hkeyword : (Token.word keyword).Plain) :
    Trailing (conditions.clause (.word keyword)) := by
  unfold Conditions.clause
  cases conditions with
  | nil => exact trailing_nil
  | cons first more =>
    have hmore : Trailing (Conditions.moreTokens more) := by
      refine trailing_flatMap fun c hc => trailing_cons rfl (.inl rfl) ?_
      have hconnective := (h c (List.mem_cons_of_mem first hc)).1.token_plain
      have hfront : AllPlain [c.1.token, .word " "] := by simp [hconnective, isCalm, signs]
      exact hfront.append c.2.tokens_sealed
    have hfront : AllPlain [.word keyword, .word " "] := by
      simp [hkeyword, isCalm, signs]
    have hconditions : Sealed (first.2.tokens ++ Conditions.moreTokens more) :=
      first.2.tokens_sealed.trail hmore
    exact trailing_cons rfl (.inl rfl) (hfront.append hconditions)

theorem columnClause_trailing {keyword : String} (hkeyword : (Token.word keyword).Shuts)
    {groups : List (List Token)} (h : AllPlain (columnClause keyword groups)) :
    Trailing (columnClause keyword groups) := by
  refine ⟨h.sealed, fun t ht => ?_⟩
  unfold columnClause at ht
  split at ht
  · cases ht
  · obtain rfl : t = .word keyword := (Option.some.inj ht).symm
    exact hkeyword

theorem boundClause_trailing {keyword : String} (hkeyword : (Token.word keyword).Shuts)
    {bound : Option Int} (h : AllPlain (boundClause keyword bound)) :
    Trailing (boundClause keyword bound) := by
  refine ⟨h.sealed, fun t ht => ?_⟩
  cases bound with
  | none => cases ht
  | some n =>
    obtain rfl : t = .word keyword := (Option.some.inj ht).symm
    exact hkeyword

theorem limit_trailing (limit : Option Int) : Trailing (boundClause " LIMIT " limit) :=
  boundClause_trailing (.inl rfl) (limit_plain limit)

theorem offset_trailing (offset : Option Int) : Trailing (boundClause " OFFSET " offset) :=
  boundClause_trailing (.inl rfl) (offset_plain offset)

theorem Source.Regular.tokens_sealed {s : Source} (h : s.Regular) : Sealed s.tokens := by
  have hjoins : AllPlain (s.joins.flatMap JoinClause.tokens) := by
    intro t ht
    obtain ⟨j, hj, ht⟩ := List.mem_flatMap.mp ht
    exact (h.joins j hj).tokens_plain t ht
  have hfront : AllPlain (s.table.tokens ++ s.joins.flatMap JoinClause.tokens) :=
    allPlain_append.mpr ⟨s.table.tokens_plain, hjoins⟩
  have hfilters : Trailing (s.filters.clause (.word "WHERE")) := h.filters.clause_trailing rfl
  have hgroups := columnClause_trailing (.inl rfl) (grouping_plain s.grouping)
  have hgroupFilters : Trailing (s.groupFilters.clause (.word "HAVING")) :=
    h.groupFilters.clause_trailing rfl
  exact ((hfront.append hfilters.1).trail hgroups).trail hgroupFilters

/-- In a regular statement every placeholder is apart from its neighbours. -/
theorem Statement.Regular.tokens_sealed {s : Statement} (h : s.Regular) : Sealed s.tokens := by
  cases s with
  | select selection source ordering limit offset =>
    have hsource : source.Regular ∧ ∀ t ∈ ordering, t.2.Known := by
      cases selection with
      | columns refs => exact ⟨h.1, h.2.1⟩
      | count => exact ⟨h.1, fun t ht => by rw [h.2.1] at ht; cases ht⟩
    have hfront : AllPlain (.word "SELECT " :: (selection.tokens ++ [.word " FROM "])) := by
      simp [selection.tokens_plain, isCalm, signs]
    have hordering := columnClause_trailing (.inl rfl) (ordering_plain hsource.2)
    have hall := (((hfront.append hsource.1.tokens_sealed).trail hordering).trail
      (limit_trailing limit)).trail (offset_trailing offset)
    simpa [Statement.tokens] using hall
  | insert table columns rows =>
    have hrows : Sealed (listed (List.replicate rows (rowTokens columns.length))) := by
      refine sealed_listed fun group hgroup => ?_
      rw [(List.mem_replicate.mp hgroup).2]
      exact sealed_placeholders (by rfl) (.inr rfl) columns.length
    have hfront : AllPlain (.word "INSERT INTO " :: (table.tokens ++ .word " (" ::
        (listed (columns.map fun n => [.name n]) ++ [.word ") VALUES "]))) := by
      simp [table.tokens_plain, names_plain, isCalm, signs]
    have hall := hfront.append hrows
    simpa [Statement.tokens] using hall
  | update table columns filters limit =>
    obtain ⟨-, -, hfilters, -⟩ := h
    have hassignments :
        Sealed (listed (columns.map fun n => [.name n, .word " = ", .placeholder])) := by
      refine sealed_listed fun group hgroup => ?_
      obtain ⟨n, -, rfl⟩ := List.mem_map.mp hgroup
      have hname : AllPlain [.name n] := by simp
      exact hname.append (sealed_hole rfl (.inl rfl) trailing_nil)
    have hfront : AllPlain (.word "UPDATE " :: (table.tokens ++ [.word " SET "])) := by
      simp [table.tokens_plain, isCalm, signs]
    have hclause : Trailing (filters.clause (.word "WHERE")) := hfilters.clause_trailing rfl
    have hall := ((hfront.append hassignments).trail hclause).trail (limit_trailing limit)
    simpa [Statement.tokens] using hall
  | delete table filters limit =>
    obtain ⟨-, hfilters, -⟩ := h
    have hfront : AllPlain (.word "DELETE FROM " :: table.tokens) := by
      simp [table.tokens_plain, isCalm, signs]
    have hclause : Trailing (filters.clause (.word "WHERE")) := hfilters.clause_trailing rfl
    have hall := (hfront.append hclause.1).trail (limit_trailing limit)
    simpa [Statement.tokens] using hall

end BoundSql
