import BoundSql.Proofs.Digits
import BoundSql.Proofs.Plain
import BoundSql.Proofs.Readable

/-!
# Statements are unambiguous

The text of a select can be read in one way only: the columns, the tables, each condition with its
column and operator, each key of the grouping and of the ordering and the window are known from it.
Left out of the text, and so asked for here, are the connectives of first conditions, what decided a
condition that holds always or never, and that no columns means all of them.
-/

namespace BoundSql

open Text

variable (d : Dialect)

/-! ## Names, paths and columns -/

/-- What stands in front of the first mark is known. -/
theorem Text.append_mark_inj {mark : Char} {s t x y : List Char} (hs : mark ∉ s) (ht : mark ∉ t)
    (h : s ++ mark :: x = t ++ mark :: y) : s = t ∧ x = y := by
  induction s generalizing t with
  | nil =>
    cases t with
    | nil => exact ⟨rfl, (List.cons.inj h).2⟩
    | cons c t => exact absurd ((List.cons.inj h).1 ▸ List.mem_cons_self) ht
  | cons c s ih =>
    cases t with
    | nil => exact absurd ((List.cons.inj h).1 ▸ List.mem_cons_self) hs
    | cons e t =>
      obtain ⟨rfl, hrest⟩ := List.cons.inj h
      obtain ⟨rfl, hxy⟩ := ih (fun hc => hs (List.mem_cons_of_mem _ hc))
        (fun hc => ht (List.mem_cons_of_mem _ hc)) hrest
      exact ⟨rfl, hxy⟩

theorem Dialect.mark_not_mem_letters (n : Name) : d.mark ∉ n.letters := by
  intro hmem
  have hcalm := Token.isCalm_of_mem_letters hmem
  have hmark : Token.isCalm d.mark = false := by
    rcases d.mark_eq with h | h
    all_goals
      rw [h]
      decide
  rw [hmark] at hcalm
  cases hcalm

theorem Name.readable :
    Readable (fun _ => True) (fun n : Name => Token.chars d.mark (.name n)) [] := by
  intro m n x y _ _ _ _ h
  have hletters : m.letters ++ d.mark :: x = n.letters ++ d.mark :: y := by
    simpa [Token.chars] using h
  obtain ⟨heq, hxy⟩ :=
    Text.append_mark_inj (d.mark_not_mem_letters m) (d.mark_not_mem_letters n) hletters
  obtain ⟨letters, safe⟩ := m
  obtain ⟨others, othersSafe⟩ := n
  dsimp only at heq
  subst heq
  exact ⟨rfl, hxy⟩

/-- A dot with the beginning of a name behind it. -/
def Dialect.dotMark : String := String.ofList ['.', d.mark]

/-- The text of a path is that of its first name and of the others behind dots. -/
theorem Path.render_tokens (p : Path) : Token.render d.mark p.tokens =
    Token.chars d.mark (.name p.head) ++
      p.tail.flatMap fun n => ['.'] ++ Token.chars d.mark (.name n) := by
  have hchars : (Token.render d.mark ∘ fun n : Name => [Token.name n]) =
      fun n => Token.chars d.mark (.name n) := by
    funext n
    exact List.append_nil _
  rw [Path.tokens, Token.render_separated, List.map_map, hchars, Path.segments, joinWith_map_cons]
  rfl

/-- A path can be read unless it goes on with another name. -/
theorem Path.readable :
    Readable (fun _ => True) (fun p : Path => Token.render d.mark p.tokens) [d.dotMark] := by
  have htail := ((Name.readable d).behind ['.']).repeated [d.dotMark]
    (fun n _ => ⟨_, List.mem_singleton_self _, by simp [Dialect.dotMark, Token.chars]⟩)
    (fun _ hv => nomatch hv)
  refine ((Name.readable d).append htail fun _ _ _ _ => avoids_nil _).of_parts
    (fun names => ⟨names.1, names.2⟩) fun p _ => ?_
  exact ⟨(p.head, p.tail), ⟨trivial, fun _ _ => trivial⟩, rfl, p.render_tokens d⟩

/-- A path begins with a mark. -/
theorem Path.exists_render_tokens (p : Path) :
    ∃ s, Token.render d.mark p.tokens = d.mark :: s := by
  rw [p.render_tokens]
  exact ⟨_, rfl⟩

/-- What does not go on with a dot does not go on with another name. -/
theorem Dialect.avoids_dotMark {s : List Char} (h : Avoids ["."] s) : Avoids [d.dotMark] s := by
  intro w hw hbegins
  rw [List.mem_singleton.mp hw] at hbegins
  rw [Dialect.dotMark, String.toList_ofList] at hbegins
  have hdot : ['.'] <+: ['.', d.mark] := ⟨[d.mark], rfl⟩
  exact h "." List.mem_cons_self (hdot.trans hbegins)

/-- A star behind a dot is no name. -/
theorem Dialect.avoids_dotStar (s : List Char) : Avoids [d.dotMark] ('.' :: '*' :: s) := by
  intro w hw hbegins
  rw [List.mem_singleton.mp hw, Dialect.dotMark, String.toList_ofList] at hbegins
  have hstar : d.mark = '*' := (List.cons_prefix_cons.mp (List.cons_prefix_cons.mp hbegins).2).1
  rcases d.mark_eq with h | h
  all_goals
    rw [hstar] at h
    revert h
    decide

theorem ColumnRef.readable :
    Readable (fun _ => True) (fun c : ColumnRef => Token.render d.mark c.tokens) ["."] := by
  have hstar : ∀ (p : Path) (x y : List Char),
      '*' :: x ≠ Token.render d.mark p.tokens ++ y := by
    intro p x y h
    obtain ⟨s, hs⟩ := p.exists_render_tokens d
    rw [hs] at h
    have hmark : '*' = d.mark := (List.cons.inj h).1
    rcases d.mark_eq with heq | heq
    all_goals
      rw [← hmark] at heq
      revert heq
      decide
  have hall : ∀ (p : Path) (x : List Char), Token.render d.mark (ColumnRef.allOf p).tokens ++ x =
      Token.render d.mark p.tokens ++ ('.' :: '*' :: x) := by
    intro p x
    simp [ColumnRef.tokens]
  have hdot : ∀ x : List Char, ¬ Avoids ["."] ('.' :: '*' :: x) := by
    intro x h
    exact h "." List.mem_cons_self ⟨'*' :: x, rfl⟩
  intro b c x y _ _ hx hy h
  dsimp only at h
  cases b with
  | star =>
    cases c with
    | star => exact ⟨rfl, List.append_cancel_left h⟩
    | column p => exact absurd h (hstar p x y)
    | allOf p =>
      rw [hall] at h
      exact absurd h (hstar p x _)
  | column p =>
    cases c with
    | star => exact absurd h.symm (hstar p y x)
    | column q =>
      obtain ⟨rfl, hxy⟩ := Path.readable d trivial trivial (d.avoids_dotMark hx)
        (d.avoids_dotMark hy) h
      exact ⟨rfl, hxy⟩
    | allOf q =>
      rw [hall] at h
      obtain ⟨-, rfl⟩ := Path.readable d trivial trivial (d.avoids_dotMark hx)
        (d.avoids_dotStar y) h
      exact absurd hx (hdot y)
  | allOf p =>
    rw [hall] at h
    cases c with
    | star => exact absurd h.symm (hstar p y _)
    | column q =>
      obtain ⟨-, rfl⟩ := Path.readable d trivial trivial (d.avoids_dotStar x)
        (d.avoids_dotMark hy) h
      exact absurd hy (hdot x)
    | allOf q =>
      rw [hall] at h
      obtain ⟨rfl, hxy⟩ := Path.readable d trivial trivial (d.avoids_dotStar x)
        (d.avoids_dotStar y) h
      cases hxy
      exact ⟨rfl, rfl⟩

/-! ## Tables and joins -/

/-- A label behind a table. -/
def labelText : Option Name → List Char
  | some label => " AS ".toList ++ Token.chars d.mark (.name label)
  | none => []

theorem labelText_readable : Readable (fun _ => True) (labelText d) [" AS "] := by
  have hname : Readable (fun label : Option Name => True ∧ label ≠ none)
      (fun label => label.elim [] fun n => Token.chars d.mark (.name n)) [] := by
    rintro a b x y ⟨-, ha⟩ ⟨-, hb⟩ hx hy h
    obtain ⟨m, rfl⟩ := Option.ne_none_iff_exists'.mp ha
    obtain ⟨n, rfl⟩ := Option.ne_none_iff_exists'.mp hb
    obtain ⟨rfl, hxy⟩ := Name.readable d trivial trivial hx hy h
    exact ⟨rfl, hxy⟩
  have hwrite : ∀ label, True → label ≠ none → labelText d label =
      " AS ".toList ++ label.elim [] fun n => Token.chars d.mark (.name n) := by
    intro label _ hlabel
    obtain ⟨n, rfl⟩ := Option.ne_none_iff_exists'.mp hlabel
    rfl
  exact hname.optional rfl hwrite

/-- A table can be read unless it goes on with another name or with a label. -/
theorem TableRef.readable :
    Readable (fun _ => True) (fun t : TableRef => Token.render d.mark t.tokens) [" AS ", "."] := by
  have hlabel : Readable (fun _ => True) (labelText d) [" AS ", "."] :=
    (labelText_readable d).weaken (List.cons_subset_cons _ (List.nil_subset _))
  have hboth := (Path.readable d).append hlabel fun label x _ hx => by
    refine d.avoids_dotMark ?_
    cases label with
    | none => exact fun w hw => hx w (List.mem_cons_of_mem _ hw)
    | some n =>
      refine avoids_of_word " AS " (by decide) ?_
      rw [labelText, List.append_assoc]
      exact List.prefix_append _ _
  refine hboth.of_parts (fun parts => ⟨parts.1, parts.2⟩) fun t _ => ?_
  refine ⟨(t.path, t.label), ⟨trivial, trivial⟩, rfl, ?_⟩
  obtain ⟨path, label⟩ := t
  cases label with
  | none => simp [TableRef.tokens, labelText]
  | some n => simp [TableRef.tokens, labelText]

theorem JoinKind.readable : Readable JoinKind.Known
    (fun k => " ".toList ++ k.text.toList ++ " JOIN ".toList) [] := by
  refine Readable.of_table [.inner, .left, .right] (fun k hk => ?_) (by decide)
  cases k with
  | other word => exact hk.elim
  | _ => simp

theorem JoinSign.readable : Readable JoinSign.Known
    (fun s => " ".toList ++ s.text.toList ++ " ".toList) [] := by
  refine Readable.of_table (Comparison.all.map .compare) (fun s hs => ?_) (by decide)
  cases s with
  | other word => exact hs.elim
  | compare sign => cases sign <;> decide

@[simp] theorem JoinKind.chars_token (mark : Char) (k : JoinKind) :
    Token.chars mark k.token = k.text.toList := by
  cases k <;> rfl

@[simp] theorem JoinSign.chars_token (mark : Char) (s : JoinSign) :
    Token.chars mark s.token = s.text.toList := by
  cases s <;> rfl

/-- A joined table can be read unless its last column goes on. -/
theorem JoinClause.readable : Readable JoinClause.Regular
    (fun j : JoinClause => Token.render d.mark j.tokens) ["."] := by
  -- The parts are put together from the last one to the first one.
  have hright := JoinSign.readable.append (ColumnRef.readable d) fun _ _ _ _ => avoids_nil _
  have hleft := (ColumnRef.readable d).append hright fun b x _ _ => by
    refine avoids_of_word " " (by decide) ?_
    simp only [List.append_assoc]
    exact List.prefix_append _ _
  have htable := (TableRef.readable d).append (hleft.behind " ON ".toList) fun b x _ _ => by
    refine avoids_of_word " ON " (by decide) ?_
    simp only [List.append_assoc]
    exact List.prefix_append _ _
  have hall := JoinKind.readable.append htable fun _ _ _ _ => avoids_nil _
  refine hall.of_parts (fun ⟨kind, table, left, sign, right⟩ => ⟨kind, table, left, sign, right⟩)
    fun j hj => ?_
  refine ⟨(j.kind, j.table, j.left, j.sign, j.right), ⟨hj.1, trivial, trivial, hj.2, trivial⟩,
    rfl, ?_⟩
  simp [JoinClause.tokens]

/-- The words that joined tables begin with. -/
def joinWords : List String := [" INNER JOIN ", " LEFT JOIN ", " RIGHT JOIN "]

theorem JoinClause.Regular.prefix_tokens {j : JoinClause} (h : j.Regular) :
    ∃ w ∈ joinWords, w.toList <+: Token.render d.mark j.tokens := by
  obtain ⟨kind, table, left, sign, right⟩ := j
  cases kind with
  | inner => exact ⟨" INNER JOIN ", by decide, by simp [JoinClause.tokens, JoinKind.text]⟩
  | left => exact ⟨" LEFT JOIN ", by decide, by simp [JoinClause.tokens, JoinKind.text]⟩
  | right => exact ⟨" RIGHT JOIN ", by decide, by simp [JoinClause.tokens, JoinKind.text]⟩
  | other word => exact h.1.elim

/-- Joined tables stand between what may come behind them and that with themselves. -/
theorem joins_between (after : List String) (hapart : Apart after ("." :: joinWords)) :
    Between (fun joins : List JoinClause => ∀ j ∈ joins, j.Regular)
      (fun joins => Token.render d.mark (joins.flatMap JoinClause.tokens)) (joinWords ++ after)
      after := by
  have hjoins := ((JoinClause.readable d).repeated joinWords (fun _ h => h.prefix_tokens d)
    (by decide)).of_parts id
    fun joins h => ⟨joins, h, rfl, Token.render_flatMap d.mark JoinClause.tokens joins⟩
  refine hjoins.between joinWords (fun joins h => ?_) hapart
  cases joins with
  | nil => exact .inl rfl
  | cons j joins =>
    obtain ⟨w, hw, hbegins⟩ := (h j List.mem_cons_self).prefix_tokens d
    refine .inr ⟨w, hw, ?_⟩
    rw [List.flatMap_cons, Token.render_append]
    exact hbegins.trans (List.prefix_append _ _)

/-! ## Conditions -/

/-- How a condition tests its column. -/
inductive Test where
  /-- Comparing it with a parameter. -/
  | compare (operator : Operator)
  /-- Looking for it among parameters. -/
  | among (operator : Operator)
  /-- Comparing its identity with a literal. -/
  | identity (operator : Operator) (literal : Literal)
  deriving DecidableEq

/-- The tests that a regular condition can make. -/
def Test.all : List Test :=
  (Comparison.all.map fun sign => .compare (.compare sign)) ++
    [.compare .like, .among .isIn, .among .notIn, .identity .is .null, .identity .is (.truth true),
      .identity .is (.truth false), .identity .isNot .null, .identity .isNot (.truth true),
      .identity .isNot (.truth false)]

/-- What is written for a test behind its column and in front of its members. -/
def Test.text : Test → List Char
  | .compare op => " ".toList ++ op.text.toList ++ " ?".toList
  | .among op => " ".toList ++ op.text.toList ++ " (".toList
  | .identity op literal => " ".toList ++ op.text.toList ++ " ".toList ++ literal.text.toList

/-- No test begins another one. -/
theorem Test.readable : Readable (· ∈ Test.all) Test.text [] :=
  Readable.of_table Test.all (fun _ h => h) (by decide)

/-- The test has members exactly if it looks for its column among them. -/
def Test.Fits (size : ℕ) : Test → Prop
  | .among _ => 0 < size
  | _ => size = 0

/-- What is written for the members of a test. -/
def Test.members (size : ℕ) : Test → List Char
  | .among _ => joinWith ", ".toList (List.replicate size ['?']) ++ ")".toList
  | _ => []

/-- The count of placeholders is known from what is written for them. -/
theorem placeholders_readable : Readable (fun size : ℕ => 0 < size)
    (fun size => joinWith ", ".toList (List.replicate size ['?']) ++ ")".toList) [] := by
  have hmark : Readable (fun _ : Unit => True) (fun _ => ['?']) [] :=
    fun _ _ _ _ _ _ _ _ h => ⟨rfl, List.append_cancel_left h⟩
  have hmarks := hmark.separated ", ".toList [", "]
    (fun _ _ => ⟨", ", List.mem_singleton_self _, List.prefix_append _ _⟩) (by decide)
  have hclosed : ∀ x : List Char, Avoids [", "] (")".toList ++ x) := fun x =>
    avoids_of_word ")" (by decide) (List.prefix_append _ _)
  have hmany : ∀ size : ℕ, 0 < size →
      List.replicate size () ≠ [] ∧ ∀ u ∈ List.replicate size (), True :=
    fun size hsize => ⟨by simpa using hsize.ne', fun _ _ => trivial⟩
  intro m n x y hm hn _ _ h
  have hlists := hmarks (hmany m hm) (hmany n hn) (hclosed x) (hclosed y)
    (by simpa [List.map_replicate] using h)
  refine ⟨?_, List.append_cancel_left hlists.2⟩
  simpa using congrArg List.length hlists.1

/-- A test with its members can be read whatever comes behind. -/
theorem Test.full_readable : Readable (fun t : Test × ℕ => t.1 ∈ Test.all ∧ t.1.Fits t.2)
    (fun t => t.1.text ++ t.1.members t.2) [] := by
  rintro ⟨t, m⟩ ⟨u, n⟩ x y ⟨ht, hm⟩ ⟨hu, hn⟩ hx hy h
  dsimp only at ht hm hu hn h
  rw [List.append_assoc, List.append_assoc] at h
  obtain ⟨rfl, hmembers⟩ := Test.readable ht hu (avoids_nil _) (avoids_nil _) h
  cases t with
  | among op =>
    obtain ⟨rfl, hxy⟩ := placeholders_readable hm hn hx hy hmembers
    exact ⟨rfl, hxy⟩
  | compare op =>
    obtain rfl : m = n := hm.trans hn.symm
    exact ⟨rfl, hmembers⟩
  | identity op literal =>
    obtain rfl : m = n := hm.trans hn.symm
    exact ⟨rfl, hmembers⟩

/-- The condition on a column with a test and the count of its members. -/
def Predicate.ofTest (column : ColumnRef) (size : ℕ) : Test → Predicate
  | .compare op => .compare column op
  | .among op => .among column op size
  | .identity op literal => .identity column op literal

/-- The condition is regular and depends on a column. -/
def Predicate.Legible (p : Predicate) : Prop := p.Regular ∧ ∀ holds, p ≠ .constant holds

/-- Such a condition is a test of its column. -/
theorem Predicate.Legible.exists_test {p : Predicate} (h : p.Legible) :
    ∃ column test size, test ∈ Test.all ∧ test.Fits size ∧
      Predicate.ofTest column size test = p := by
  obtain ⟨hregular, hcolumn⟩ := h
  cases p with
  | compare column op =>
    refine ⟨column, .compare op, 0, ?_, rfl, rfl⟩
    cases op with
    | compare sign => cases sign <;> decide
    | like => decide
    | isIn => exact absurd (.inl rfl) hregular.1
    | notIn => exact absurd (.inr rfl) hregular.1
    | is => exact absurd (.inl rfl) hregular.2
    | isNot => exact absurd (.inr rfl) hregular.2
  | among column op size =>
    refine ⟨column, .among op, size, ?_, hregular.2, rfl⟩
    rcases hregular.1 with rfl | rfl
    all_goals decide
  | identity column op literal =>
    refine ⟨column, .identity op literal, 0, ?_, rfl, rfl⟩
    cases literal with
    | null =>
      rcases hregular with rfl | rfl
      all_goals decide
    | truth b =>
      rcases hregular with rfl | rfl
      all_goals cases b <;> decide
  | constant holds => exact absurd rfl (hcolumn holds)

/-- A condition is written as its column, its test and the members. -/
theorem Predicate.render_ofTest (column : ColumnRef) (test : Test) (size : ℕ) :
    Token.render d.mark (Predicate.ofTest column size test).tokens =
      Token.render d.mark column.tokens ++ (test.text ++ test.members size) := by
  cases test with
  | compare op => simp [Predicate.ofTest, Predicate.tokens, Test.text, Test.members]
  | identity op literal => simp [Predicate.ofTest, Predicate.tokens, Test.text, Test.members]
  | among op =>
    have hmarks : Token.render d.mark (Token.placeholders size) =
        joinWith ", ".toList (List.replicate size ['?']) := by
      rw [Token.placeholders, Token.listed, Token.render_separated, List.map_replicate]
      rfl
    simp [Predicate.ofTest, Predicate.tokens, Test.text, Test.members, hmarks]

/-- A condition can be read whatever comes behind. -/
theorem Predicate.readable : Readable Predicate.Legible
    (fun p : Predicate => Token.render d.mark p.tokens) [] := by
  have hends : ∀ (t : Test × ℕ) (x : List Char),
      Avoids ["."] (t.1.text ++ t.1.members t.2 ++ x) := by
    rintro ⟨t, size⟩ x
    refine avoids_of_word " " (by decide) ?_
    cases t with
    | _ =>
      simp only [Test.text, List.append_assoc]
      exact List.prefix_append _ _
  refine ((ColumnRef.readable d).append Test.full_readable fun t x _ _ => hends t x).of_parts
    (fun ⟨column, test, size⟩ => Predicate.ofTest column size test) fun p hp => ?_
  obtain ⟨column, test, size, htest, hsize, rfl⟩ := hp.exists_test
  exact ⟨(column, test, size), ⟨trivial, htest, hsize⟩, rfl,
    Predicate.render_ofTest d column test size⟩

/-! ## Clauses of conditions -/

theorem Connective.readable : Readable Connective.Known
    (fun c => " ".toList ++ c.text.toList ++ " ".toList) [] := by
  refine Readable.of_table [.and, .or] (fun c hc => ?_) (by decide)
  cases c with
  | other word => exact hc.elim
  | _ => simp

@[simp] theorem Connective.chars_token (mark : Char) (c : Connective) :
    Token.chars mark c.token = c.text.toList := by
  cases c <;> rfl

/-- The words that conditions behind the first one begin with. -/
def connectiveWords : List String := [" AND ", " OR "]

/-- Conditions behind the first one can be read unless another one comes behind. -/
theorem moreConditions_readable :
    Readable (fun more : Conditions => ∀ c ∈ more, c.1.Known ∧ c.2.Legible)
      (fun more => Token.render d.mark (Conditions.moreTokens more)) connectiveWords := by
  have hone := Connective.readable.append (Predicate.readable d) fun _ _ _ _ => avoids_nil _
  refine (hone.repeated connectiveWords ?_ (by decide)).of_parts id
    fun more hmore => ⟨more, hmore, rfl, ?_⟩
  · rintro ⟨connective, predicate⟩ ⟨hconnective, -⟩
    cases connective with
    | and => exact ⟨" AND ", by decide, by simp [Connective.text]⟩
    | or => exact ⟨" OR ", by decide, by simp [Connective.text]⟩
    | other word => exact hconnective.elim
  · rw [Conditions.moreTokens, Token.render_flatMap]
    simp

/-- The conditions depend on columns and are tied by known connectives; that of the first one, which
is not written, is the usual one. -/
structure Conditions.Legible (conditions : Conditions) : Prop where
  /-- Each condition is. -/
  all : ∀ c ∈ conditions, c.1.Known ∧ c.2.Legible
  /-- The first connective. -/
  first : ∀ c ∈ conditions.head?, c.1 = .and

/-- Conditions can be read unless another one comes behind. -/
theorem Conditions.readable :
    Readable (fun conditions : Conditions => conditions.Legible ∧ conditions ≠ [])
    (fun conditions => Token.render d.mark conditions.tokens) connectiveWords := by
  have hparts := (Predicate.readable d).append (moreConditions_readable d) fun _ _ _ _ =>
    avoids_nil _
  refine hparts.of_parts (fun parts => (.and, parts.1) :: parts.2) ?_
  rintro conditions ⟨hlegible, hne⟩
  obtain ⟨⟨connective, predicate⟩, more, rfl⟩ := List.exists_cons_of_ne_nil hne
  obtain ⟨hfirst, hmore⟩ := List.forall_mem_cons.mp hlegible.all
  obtain rfl : connective = .and := hlegible.first _ rfl
  exact ⟨(predicate, more), ⟨hfirst.2, hmore⟩, rfl, Token.render_append _ _ _⟩

/-- A clause of conditions stands behind its keyword. -/
theorem Conditions.render_clause (word : String) {conditions : Conditions} (h : conditions ≠ []) :
    Token.render d.mark (conditions.clause (.word word)) =
      (" " ++ word ++ " ").toList ++ Token.render d.mark conditions.tokens := by
  have hnone : conditions.isEmpty = false := by simpa using h
  simp [Conditions.clause, hnone]

/-- A clause of conditions stands between what may come behind it and that with its keyword. -/
theorem Conditions.clause_between (word keyword : String) (hkeyword : " " ++ word ++ " " = keyword)
    (after : List String) (hapart : Apart after (keyword :: connectiveWords)) :
    Between Conditions.Legible
      (fun conditions => Token.render d.mark (conditions.clause (.word word))) (keyword :: after)
      after := by
  refine Between.of_optional (Conditions.readable d) rfl (fun _ _ h => ?_) hapart
  rw [Conditions.render_clause d word h, hkeyword]

/-! ## Lists of columns and bounds -/

section Lists

variable {d} {α : Type} {valid : α → Prop} {tokens : α → List Token} {words : List String}

/-- Groups with commas in between can be read unless another one comes behind. -/
theorem listed_readable (h : Readable valid (fun a => Token.render d.mark (tokens a)) words)
    (hapart : Apart [", "] words) :
    Readable (fun as : List α => as ≠ [] ∧ ∀ a ∈ as, valid a)
      (fun as => Token.render d.mark (Token.listed (as.map tokens))) (words ++ [", "]) := by
  have hlist := h.separated ", ".toList [", "]
    (fun a _ => ⟨", ", List.mem_singleton_self _, List.prefix_append _ _⟩) hapart
  refine hlist.of_parts id fun as has => ⟨as, has, rfl, ?_⟩
  rw [Token.listed, Token.render_separated, List.map_map]
  rfl

/-- A clause of columns stands between what may come behind it and that with its keyword. -/
theorem columnClause_between (h : Readable valid (fun a => Token.render d.mark (tokens a)) words)
    (hcomma : Apart [", "] words) (keyword : String) (after : List String)
    (hapart : Apart after (keyword :: (words ++ [", "]))) :
    Between (fun as : List α => ∀ a ∈ as, valid a)
      (fun as => Token.render d.mark (columnClause keyword (as.map tokens))) (keyword :: after)
      after := by
  have hlist : Readable (fun as : List α => (∀ a ∈ as, valid a) ∧ as ≠ [])
      (fun as => Token.render d.mark (Token.listed (as.map tokens))) (words ++ [", "]) :=
    (listed_readable h hcomma).of_parts id fun as has => ⟨as, ⟨has.2, has.1⟩, rfl, rfl⟩
  refine Between.of_optional hlist rfl (fun as _ hne => ?_) hapart
  obtain ⟨a, rest, rfl⟩ := List.exists_cons_of_ne_nil hne
  simp [columnClause]

end Lists

theorem Direction.readable : Readable Direction.Known (fun t => t.text.toList) [] := by
  refine Readable.of_table [.ascending, .descending] (fun t ht => ?_) (by decide)
  cases t with
  | other word => exact ht.elim
  | _ => simp

@[simp] theorem Direction.chars_token (mark : Char) (t : Direction) :
    Token.chars mark t.token = t.text.toList := by
  cases t <;> rfl

/-- A key of an ordering can be read whatever comes behind. -/
theorem orderTokens_readable : Readable (fun t : ColumnRef × Direction => t.2.Known)
    (fun t => Token.render d.mark (orderTokens t)) [] := by
  have hdirection := Direction.readable.behind " ".toList
  refine ((ColumnRef.readable d).append hdirection fun t x _ _ => ?_).of_parts id fun t ht =>
    ⟨t, ⟨trivial, ht⟩, rfl, by simp [orderTokens]⟩
  refine avoids_of_word " " (by decide) ?_
  rw [List.append_assoc]
  exact List.prefix_append _ _

/-- The digits. -/
def digitWords : List String := "0123456789".toList.map fun c => String.ofList [c]

/-- What begins with no digit is not taken for a part of a number. -/
theorem takeWhile_of_avoids {s : List Char} (h : Avoids digitWords s) :
    s.takeWhile isAsciiDigit = [] := by
  cases s with
  | nil => rfl
  | cons c s =>
    refine List.takeWhile_cons_of_neg fun hdigit => ?_
    refine h (String.ofList [c]) (List.mem_map_of_mem (mem_digits_of_isAsciiDigit hdigit)) ?_
    rw [String.toList_ofList]
    exact ⟨s, rfl⟩

/-- A natural can be read unless it goes on with a digit. -/
theorem integerText_readable : Readable (fun n : ℤ => 0 ≤ n) integerText digitWords := by
  have hdigits : ∀ {n : ℕ} {s : List Char}, Avoids digitWords s →
      (decimalDigits n ++ s).takeWhile isAsciiDigit = decimalDigits n := by
    intro n s hs
    rw [List.takeWhile_append_of_pos fun c hc => isAsciiDigit_of_mem_decimalDigits hc,
      takeWhile_of_avoids hs, List.append_nil]
  intro m n x y hm hn hx hy h
  obtain ⟨m, rfl⟩ := Int.eq_ofNat_of_zero_le hm
  obtain ⟨n, rfl⟩ := Int.eq_ofNat_of_zero_le hn
  have htext : ∀ k : ℕ, integerText k = decimalDigits k := by
    intro k
    rw [integerText, if_neg (by omega), Int.natAbs_natCast]
  rw [htext, htext] at h
  have heq : decimalDigits m = decimalDigits n := by
    rw [← hdigits hx, h, hdigits hy]
  rw [heq] at h
  exact ⟨congrArg Int.ofNat (decimalDigits_injective heq), List.append_cancel_left h⟩

/-- A bound on rows stands between what may come behind it and that with its keyword. -/
theorem boundClause_between (keyword : String) (after : List String)
    (hapart : Apart after (keyword :: digitWords)) :
    Between (fun bound : Option ℤ => ∀ n ∈ bound, 0 ≤ n)
      (fun bound => Token.render d.mark (boundClause keyword bound)) (keyword :: after) after := by
  have hbound : Readable (fun bound : Option ℤ => (∀ n ∈ bound, 0 ≤ n) ∧ bound ≠ none)
      (fun bound => bound.elim [] integerText) digitWords := by
    refine integerText_readable.of_parts some ?_
    rintro bound ⟨hnonneg, hne⟩
    obtain ⟨n, rfl⟩ := Option.ne_none_iff_exists'.mp hne
    exact ⟨n, hnonneg n rfl, rfl, rfl⟩
  refine Between.of_optional hbound rfl (fun bound _ hne => ?_) hapart
  obtain ⟨n, rfl⟩ := Option.ne_none_iff_exists'.mp hne
  simp [boundClause]

/-! ## Selects -/

/-- What a select has besides its columns and its table. -/
structure SelectTail where
  /-- Joined tables. -/
  joins : List JoinClause
  /-- Conditions on rows. -/
  filters : Conditions
  /-- Columns to group by. -/
  grouping : List ColumnRef
  /-- Conditions on groups. -/
  groupFilters : Conditions
  /-- Keys to order by. -/
  ordering : List (ColumnRef × Direction)
  /-- The greatest count of rows. -/
  limit : Option ℤ
  /-- The count of rows to pass over. -/
  offset : Option ℤ

namespace SelectTail

/-- Nothing in it is left out of its text. -/
structure Legible (t : SelectTail) : Prop where
  /-- Joins are of fixed kinds. -/
  joins : ∀ j ∈ t.joins, j.Regular
  /-- Conditions on rows. -/
  filters : t.filters.Legible
  /-- Conditions on groups. -/
  groupFilters : t.groupFilters.Legible
  /-- Directions are fixed. -/
  ordering : ∀ key ∈ t.ordering, key.2.Known
  /-- The greatest count is a natural. -/
  limit : ∀ n ∈ t.limit, 0 ≤ n
  /-- The count to pass over is. -/
  offset : ∀ n ∈ t.offset, 0 ≤ n

/-- Its text. -/
def text (t : SelectTail) : List Char :=
  Token.render d.mark (t.joins.flatMap JoinClause.tokens) ++
    (Token.render d.mark (t.filters.clause (.word "WHERE")) ++
      (Token.render d.mark (columnClause " GROUP BY " (t.grouping.map ColumnRef.tokens)) ++
        (Token.render d.mark (t.groupFilters.clause (.word "HAVING")) ++
          (Token.render d.mark (columnClause " ORDER BY " (t.ordering.map orderTokens)) ++
            (Token.render d.mark (boundClause " LIMIT " t.limit) ++
              Token.render d.mark (boundClause " OFFSET " t.offset))))))

/-- The words with which it may begin. -/
def words : List String :=
  joinWords ++ [" WHERE ", " GROUP BY ", " HAVING ", " ORDER BY ", " LIMIT ", " OFFSET "]

/-- All of it can be read at the end of a text. -/
theorem between : Between Legible (text d) words [] := by
  -- From the last clause to the first one; behind each come the words of the clauses after it.
  have hoffset := boundClause_between d " OFFSET " [] (by decide)
  have hlimit := (boundClause_between d " LIMIT " _ (by decide)).append hoffset
  have hordering := (columnClause_between (orderTokens_readable d) (by decide) " ORDER BY " _
    (by decide)).append hlimit
  have hgroupFilters :=
    (Conditions.clause_between d "HAVING" " HAVING " rfl _ (by decide)).append hordering
  have hgrouping := (columnClause_between (ColumnRef.readable d) (by decide) " GROUP BY " _
    (by decide)).append hgroupFilters
  have hfilters :=
    (Conditions.clause_between d "WHERE" " WHERE " rfl _ (by decide)).append hgrouping
  have hall := (joins_between d _ (by decide)).append hfilters
  refine hall.of_parts (fun p => ⟨p.1, p.2.1, p.2.2.1, p.2.2.2.1, p.2.2.2.2.1, p.2.2.2.2.2.1,
    p.2.2.2.2.2.2⟩) fun t ht => ?_
  exact ⟨(t.joins, t.filters, t.grouping, t.groupFilters, t.ordering, t.limit, t.offset),
    ⟨ht.joins, ht.filters, fun _ _ => trivial, ht.groupFilters, ht.ordering, ht.limit, ht.offset⟩,
    rfl, rfl⟩

end SelectTail

/-- A select of columns from a table with a tail. -/
def SelectTail.statement (refs : List ColumnRef) (table : Path) (t : SelectTail) : Statement :=
  .select (.columns refs) ⟨table, t.joins, t.filters, t.grouping, t.groupFilters⟩ t.ordering t.limit
    t.offset

/-- The text of a select, part by part. -/
theorem SelectTail.render_statement {refs : List ColumnRef} (hrefs : refs ≠ []) (table : Path)
    (t : SelectTail) : Token.render d.mark (t.statement refs table).tokens =
      "SELECT ".toList ++ (Token.render d.mark (Token.listed (refs.map ColumnRef.tokens)) ++
        (" FROM ".toList ++ (Token.render d.mark table.tokens ++ t.text d))) := by
  obtain ⟨ref, rest, rfl⟩ := List.exists_cons_of_ne_nil hrefs
  simp only [SelectTail.statement, SelectTail.text, Statement.tokens, Selection.tokens,
    Source.tokens, Token.render_append, Token.render_cons, Token.chars_word, List.append_assoc]

/-- Selects of named columns with one text are one select. -/
theorem SelectTail.eq_of_sql_eq {refs refs' : List ColumnRef} {table table' : Path}
    {t t' : SelectTail} (hrefs : refs ≠ []) (hrefs' : refs' ≠ []) (ht : t.Legible)
    (ht' : t'.Legible) (h : (t.statement refs table).sql d = (t'.statement refs' table').sql d) :
    refs = refs' ∧ table = table' ∧ t = t' := by
  have htail := SelectTail.between d
  have hends : ∀ {t : SelectTail}, t.Legible → Avoids [d.dotMark] (t.text d) := by
    intro t ht
    have hfollows := htail.follows ht follows_nil
    rw [List.append_nil] at hfollows
    exact d.avoids_dotMark (hfollows.avoids (by decide))
  have hfrom : ∀ x : List Char, Avoids (["."] ++ [", "]) (" FROM ".toList ++ x) := fun x =>
    avoids_of_word " FROM " (by decide) (List.prefix_append _ _)
  have htext := String.ofList_injective h
  rw [SelectTail.render_statement d hrefs, SelectTail.render_statement d hrefs'] at htext
  obtain ⟨hcolumns, hsource⟩ := listed_readable (ColumnRef.readable d) (by decide)
    ⟨hrefs, fun _ _ => trivial⟩ ⟨hrefs', fun _ _ => trivial⟩ (hfrom _) (hfrom _)
    (List.append_cancel_left htext)
  obtain ⟨htable, hrest⟩ := Path.readable d trivial trivial (hends ht) (hends ht')
    (List.append_cancel_left hsource)
  obtain ⟨htails, -⟩ := htail.read ht ht' follows_nil follows_nil (congrArg (· ++ []) hrest)
  exact ⟨hcolumns, htable, htails⟩

end BoundSql
