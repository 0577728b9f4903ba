import BoundSql.Proofs.Compilation
import BoundSql.Proofs.Formulas
import Mathlib.Data.List.SplitBy

/-!
# What conditions mean

Each condition compiles to a text that is one comparison, or one of the constants, and whose places
its parameters fill. Conditions one after another are therefore alternatives of what AND ties
together, and the main statement is that a compiled text means what the conditions mean on their
own.
-/

namespace BoundSql

/-! ## Texts of single conditions -/

namespace Lexeme

variable {l : Lexeme} {first : List Lexeme} {params : List Value} {symbols : List Symbol}

theorem fill_place (v : Value) :
    fill (.point '?' :: first) (v :: params) = (fill first params).map (.value v :: ·) := rfl

theorem fill_fixed (h : l ≠ .point '?') :
    fill (l :: first) params = (fill first params).map (.lexeme l :: ·) := by
  simp [fill, h]

/-- Parameters are used up from the left. -/
theorem fill_append (h : fill first params = some symbols) (second : List Lexeme)
    (more : List Value) :
    fill (first ++ second) (params ++ more) = (fill second more).map (symbols ++ ·) := by
  induction first generalizing params symbols with
  | nil =>
    cases params with
    | nil =>
      cases h
      simp
    | cons v params => cases h
  | cons l first ih =>
    by_cases hl : l = .point '?'
    · subst hl
      cases params with
      | nil => cases h
      | cons v params =>
        rw [fill_place, Option.map_eq_some_iff] at h
        obtain ⟨rest, hrest, rfl⟩ := h
        rw [List.cons_append, List.cons_append, fill_place, ih hrest, Option.map_map]
        rfl
    · rw [fill_fixed hl, Option.map_eq_some_iff] at h
      obtain ⟨rest, hrest, rfl⟩ := h
      rw [List.cons_append, fill_fixed hl, ih hrest, Option.map_map]
      rfl

/-- Without places there are no parameters. -/
theorem fill_symbols (h : ∀ l ∈ first, l ≠ .point '?') :
    fill first [] = some (first.map .lexeme) := by
  induction first with
  | nil => rfl
  | cons l first ih =>
    rw [fill_fixed (h l List.mem_cons_self), ih fun m hm => h m (.tail l hm)]
    rfl

/-- Each place with a comma in between has its parameter. -/
theorem fill_places (members : List Value) :
    fill (places members.length) members =
      some ([.lexeme (.point ',')].intercalate (members.map fun v => [.value v])) := by
  induction members with
  | nil => rfl
  | cons v members ih =>
    cases members with
    | nil => rfl
    | cons w members =>
      have hcomma : (Lexeme.point ',') ≠ .point '?' := by decide
      have hplaces : places (v :: w :: members).length =
          .point '?' :: .point ',' :: places (w :: members).length := by
        simp [places, List.replicate_succ, List.intercalate]
      rw [hplaces, fill_place, fill_fixed hcomma, ih]
      simp [List.intercalate]

end Lexeme

/-- Names and dots make up a path. -/
theorem Path.forall_lexemes {P : Lexeme → Prop} (hname : ∀ letters, P (.name letters))
    (hdot : P (.point '.')) (p : Path) : ∀ l ∈ p.lexemes, P l := by
  obtain ⟨first, names⟩ := p
  induction names generalizing first with
  | nil => simpa using hname first.letters
  | cons next names ih => simpa [hname, hdot] using ih next

/-- Names, dots and stars make up a column. -/
theorem ColumnRef.forall_lexemes {P : Lexeme → Prop} (hname : ∀ letters, P (.name letters))
    (hdot : P (.point '.')) (hstar : P (.point '*')) (c : ColumnRef) : ∀ l ∈ c.lexemes, P l := by
  cases c with
  | star => simpa [ColumnRef.lexemes] using hstar
  | column p => exact Path.forall_lexemes hname hdot p
  | allOf p =>
    intro l hl
    have hpath := Path.forall_lexemes hname hdot p l
    simp only [ColumnRef.lexemes, List.mem_append, List.mem_cons, List.not_mem_nil, or_false] at hl
    rcases hl with hl | rfl | rfl
    · exact hpath hl
    · exact hdot
    · exact hstar

theorem Name.ofChars?_letters (n : Name) : Name.ofChars? n.letters = some n := by
  rw [Name.ofChars?, dif_pos n.safe]

namespace Symbol

/-- A name with a dot behind it goes in front of the column that follows. -/
theorem column?_under (n : Name) (rest : List Symbol) :
    column? (.lexeme (.name n.letters) :: .lexeme (.point '.') :: rest) =
      (column? rest).map (ColumnRef.under n) := by
  rw [column?, Name.ofChars?_letters]
  cases column? rest <;> rfl

/-- A column is read as itself. -/
theorem column?_lexemes (c : ColumnRef) : column? (c.lexemes.map .lexeme) = some c := by
  cases c with
  | star => rfl
  | column p =>
    obtain ⟨first, names⟩ := p
    induction names generalizing first with
    | nil => simp [ColumnRef.lexemes, column?, Name.ofChars?_letters]
    | cons next names ih =>
      have hmore := ih next
      simp only [ColumnRef.lexemes] at hmore
      simp [ColumnRef.lexemes, column?_under, hmore, ColumnRef.under, Path.segments]
  | allOf p =>
    obtain ⟨first, names⟩ := p
    induction names generalizing first with
    | nil => simp [ColumnRef.lexemes, column?_under, column?, ColumnRef.under]
    | cons next names ih =>
      have hmore := ih next
      simp only [ColumnRef.lexemes, List.map_append, List.map_cons, List.map_nil] at hmore
      simp [ColumnRef.lexemes, column?_under, hmore, ColumnRef.under, Path.segments]

/-- A column and a test of it are a comparison. -/
theorem comparison?_of_column (verdict : Verdict) (c : ColumnRef) {s : Symbol}
    (hs : isColumnPart s = false) (rest : List Symbol) :
    comparison? verdict (c.lexemes.map .lexeme ++ s :: rest) =
      (test? (s :: rest)).map fun test => verdict c test.1 test.2 := by
  have hparts : ∀ t ∈ c.lexemes.map Symbol.lexeme, isColumnPart t = true := by
    rw [List.forall_mem_map]
    exact ColumnRef.forall_lexemes (P := fun l => isColumnPart (.lexeme l) = true) (fun _ => rfl)
      rfl rfl c
  have htake : (c.lexemes.map Symbol.lexeme ++ s :: rest).takeWhile isColumnPart =
      c.lexemes.map .lexeme := by
    rw [List.takeWhile_append_of_pos hparts, List.takeWhile_cons_of_neg (by simp [hs]),
      List.append_nil]
  have hdrop : (c.lexemes.map Symbol.lexeme ++ s :: rest).dropWhile isColumnPart = s :: rest := by
    rw [List.dropWhile_append_of_pos hparts, List.dropWhile_cons_of_neg (by simp [hs])]
  have hword : ∀ letters more,
      c.lexemes.map Symbol.lexeme ++ s :: rest ≠ .lexeme (.word letters) :: more := by
    intro letters more heq
    have hread := column?_lexemes c
    cases hc : c.lexemes with
    | nil =>
      rw [hc] at hread
      cases hread
    | cons l others =>
      rw [hc] at heq hparts
      cases (List.cons_eq_cons.mp heq).1
      cases hparts _ List.mem_cons_self
  unfold comparison?
  split
  next heq => exact absurd heq (hword _ _)
  next heq => exact absurd heq (hword _ _)
  next =>
    rw [htake, hdrop, column?_lexemes]
    cases test? (s :: rest) <;> rfl

theorem comparison?_of_operator (verdict : Verdict) (c : ColumnRef) (op : Operator)
    (rest : List Symbol) :
    comparison? verdict (c.lexemes.map .lexeme ++ (op.lexemes.map .lexeme ++ rest)) =
      (test? (op.lexemes.map .lexeme ++ rest)).map fun test => verdict c test.1 test.2 := by
  cases op <;> exact comparison?_of_column verdict c rfl _

/-- A comparison has one value. -/
theorem test?_of_comparison {op : Operator} (hop : op.IsComparison) (v : Value) :
    test? (op.lexemes.map .lexeme ++ [.value v]) = some (op, [v]) := by
  cases op with
  | compare sign => cases sign <;> rfl
  | like => rfl
  | isIn => exact absurd (.inl rfl) hop.1
  | notIn => exact absurd (.inr rfl) hop.1
  | is => exact absurd (.inl rfl) hop.2
  | isNot => exact absurd (.inr rfl) hop.2

/-- An identity has a literal. -/
theorem test?_of_identity {op : Operator} (hop : op.IsIdentity) (l : Literal) :
    test? (op.lexemes.map .lexeme ++ [.lexeme (.word l.text.toList)]) = some (op, [l.value]) := by
  rcases hop with rfl | rfl
  all_goals
    cases l with
    | null => rfl
    | truth b => cases b <;> rfl

/-- Members are read up to the parenthesis. -/
theorem members?_of_ne_nil {members : List Value} (hmembers : members ≠ []) :
    members? ([Symbol.lexeme (.point ',')].intercalate (members.map fun v => [.value v]) ++
      [.lexeme (.point ')')]) = some members := by
  induction members with
  | nil => exact absurd rfl hmembers
  | cons v members ih =>
    cases members with
    | nil => rfl
    | cons w members =>
      have hmore := ih (List.cons_ne_nil w members)
      simp only [List.map_cons, List.intercalate] at hmore
      simp [List.intercalate, members?, hmore]

/-- A membership has a list of members. -/
theorem test?_of_membership {op : Operator} (hop : op.IsMembership) {members : List Value}
    (hmembers : members ≠ []) :
    test? (op.lexemes.map .lexeme ++ .lexeme (.point '(') ::
      ([Symbol.lexeme (.point ',')].intercalate (members.map fun v => [.value v]) ++
        [.lexeme (.point ')')])) = some (op, members) := by
  rcases hop with rfl | rfl
  · simp [Operator.lexemes, test?, members?_of_ne_nil hmembers]
  · simp [Operator.lexemes, test?, members?_of_ne_nil hmembers]

end Symbol

/-- The words that occur in single conditions. -/
def Symbol.innerWords : List String :=
  ["LIKE", "IN", "NOT", "IS", "NULL", "TRUE", "FALSE", "0", "1"]

/-- The symbol may stand in a single condition. -/
def Symbol.isInner : Symbol → Bool
  | .lexeme (.word letters) => innerWords.any fun w => w.toList == letters
  | _ => true

/-! ## Texts of conditions -/

/-- The symbols of a condition with its parameters. -/
def Predicate.symbols (params : List Value) : Predicate → List Symbol
  | .compare c op => c.lexemes.map .lexeme ++ (op.lexemes.map .lexeme ++ params.map .value)
  | .among c op _ =>
    c.lexemes.map .lexeme ++ (op.lexemes.map .lexeme ++ .lexeme (.point '(') ::
      ([Symbol.lexeme (.point ',')].intercalate (params.map fun v => [.value v]) ++
        [.lexeme (.point ')')]))
  | .identity c op l =>
    c.lexemes.map .lexeme ++ (op.lexemes.map .lexeme ++ [.lexeme (.word l.text.toList)])
  | .constant holds => (Predicate.constant holds).lexemes.map .lexeme

/-- The truth of a condition with its parameters. -/
def Predicate.truth (verdict : Verdict) (params : List Value) : Predicate → Bool
  | .compare c op => verdict c op params
  | .among c op _ => verdict c op params
  | .identity c op l => verdict c op [l.value]
  | .constant holds => holds

/-- A column and an operator leave all parameters to what follows. -/
theorem Lexeme.fill_column (c : ColumnRef) (op : Operator) (rest : List Lexeme)
    (params : List Value) :
    fill (c.lexemes ++ op.lexemes ++ rest) params =
      (fill rest params).map fun more =>
        c.lexemes.map .lexeme ++ (op.lexemes.map .lexeme ++ more) := by
  have hplain : ∀ l ∈ c.lexemes ++ op.lexemes, l ≠ .point '?' := by
    have hcolumn : ∀ l ∈ c.lexemes, l ≠ .point '?' :=
      ColumnRef.forall_lexemes (fun _ => by simp) (by decide) (by decide) c
    have hoperator : ∀ l ∈ op.lexemes, l ≠ .point '?' := by cases op <;> simp [Operator.lexemes]
    simpa [or_imp, forall_and] using ⟨hcolumn, hoperator⟩
  have hfill := fill_append (fill_symbols hplain) rest params
  simpa using hfill

namespace Condition.Compiles

variable {c : Condition} {p : Predicate} {params : List Value}

/-- The parameters of a condition fill its places. -/
theorem fill_eq (h : c.Compiles p params) :
    Lexeme.fill p.lexemes params = some (p.symbols params) := by
  cases h with
  | constant hcolumn hop hkind hvalue =>
    rcases hkind with rfl | rfl <;> rfl
  | @among column op members hcolumn hop hkind hvalue hmembers =>
    have hclose : Lexeme.fill (Lexeme.places params.length ++ [.point ')']) params =
        some ([Symbol.lexeme (.point ',')].intercalate (params.map fun v => [.value v]) ++
          [.lexeme (.point ')')]) := by
      have hfill := Lexeme.fill_append (Lexeme.fill_places params) [.point ')'] []
      simpa [Lexeme.fill] using hfill
    have hopen : Lexeme.point '(' ≠ .point '?' := by decide
    simp only [Predicate.lexemes, List.append_assoc, List.cons_append] at *
    rw [← List.append_assoc, Lexeme.fill_column, Lexeme.fill_fixed hopen, hclose]
    rfl
  | @identity column op l hcolumn hop hkind hvalue =>
    rw [Predicate.lexemes, Lexeme.fill_column]
    rfl
  | @compare column op hcolumn hop hkind =>
    rw [Predicate.lexemes, Lexeme.fill_column]
    rfl

/-- A condition is a comparison with its own truth. -/
theorem comparison?_eq (h : c.Compiles p params) (verdict : Verdict) :
    Symbol.comparison? verdict (p.symbols params) = some (p.truth verdict params) := by
  cases h with
  | constant hcolumn hop hkind hvalue => rcases hkind with rfl | rfl <;> rfl
  | @among column op members hcolumn hop hkind hvalue hmembers =>
    rw [Predicate.symbols, Symbol.comparison?_of_operator,
      Symbol.test?_of_membership hkind hmembers]
    rfl
  | @identity column op l hcolumn hop hkind hvalue =>
    rw [Predicate.symbols, Symbol.comparison?_of_operator, Symbol.test?_of_identity hkind]
    rfl
  | @compare column op hcolumn hop hkind =>
    rw [Predicate.symbols, Symbol.comparison?_of_operator, List.map_singleton,
      Symbol.test?_of_comparison hkind]
    rfl

/-- A condition consists of symbols that may stand in one. -/
theorem all_isInner (h : c.Compiles p params) : (p.symbols params).all Symbol.isInner = true := by
  have hcolumn (column : ColumnRef) :
      (column.lexemes.map Symbol.lexeme).all Symbol.isInner = true := by
    rw [List.all_eq_true, List.forall_mem_map]
    exact ColumnRef.forall_lexemes (P := fun l => Symbol.isInner (.lexeme l) = true)
      (fun _ => rfl) rfl rfl column
  have hoperator (op : Operator) : (op.lexemes.map Symbol.lexeme).all Symbol.isInner = true := by
    cases op <;> rfl
  cases h with
  | constant _ hop hkind hvalue => rcases hkind with rfl | rfl <;> rfl
  | @among column op members _ hop hkind hvalue hmembers =>
    have hmember : ([Symbol.lexeme (.point ',')].intercalate
        (params.map fun v => [.value v])).all Symbol.isInner = true := by
      clear hvalue hmembers
      induction params with
      | nil => rfl
      | cons v params ih =>
        cases params with
        | nil => rfl
        | cons w params => simpa [List.intercalate, Symbol.isInner] using ih
    have hopen : Symbol.isInner (.lexeme (.point '(')) = true := rfl
    have hclose : Symbol.isInner (.lexeme (.point ')')) = true := rfl
    simp only [Predicate.symbols, List.all_append, List.all_cons, List.all_nil, hcolumn, hoperator,
      hopen, hmember, hclose, Bool.and_self]
  | @identity column op l _ hop hkind hvalue =>
    have hliteral : Symbol.isInner (.lexeme (.word l.text.toList)) = true := by
      cases l with
      | null => rfl
      | truth b => cases b <;> rfl
    simp only [Predicate.symbols, List.all_append, List.all_cons, List.all_nil, hcolumn, hoperator,
      hliteral, Bool.and_self]
  | @compare column op _ hop hkind =>
    simp only [Predicate.symbols, List.all_append, hcolumn, hoperator]
    rfl

/-- Words that may not stand in a condition do not occur in one. -/
theorem isWord_eq (h : c.Compiles p params) (word : String) (hword : word ∉ Symbol.innerWords) :
    ∀ s ∈ p.symbols params, Symbol.isWord word s = false := by
  intro s hs
  have hinner := List.all_eq_true.mp h.all_isInner s hs
  cases s with
  | value v => rfl
  | lexeme l =>
    cases l with
    | word letters =>
      obtain ⟨w, hw, heq⟩ := List.any_eq_true.mp hinner
      have hletters : letters = w.toList := (beq_iff_eq.mp heq).symm
      have hne : w ≠ word := fun hsame => hword (hsame ▸ hw)
      rw [hletters]
      simpa [Symbol.isWord, String.toList_inj] using hne
    | _ => rfl

end Condition.Compiles

/-! ## Lists of conditions -/

/-- The first element goes with the group of the second one or is a group of its own. -/
theorem splitBy_cons_cons {α : Type} (r : α → α → Bool) (a b : α) (l : List α) :
    (a :: b :: l).splitBy r =
      if r a b then ((b :: l).splitBy r).modifyHead (a :: ·) else [a] :: (b :: l).splitBy r := by
  by_cases hr : r a b = true
  · rw [if_pos hr]
    have hne : (b :: l).splitBy r ≠ [] := List.splitBy_ne_nil.mpr (List.cons_ne_nil b l)
    have hhead := List.head_head_splitBy r (List.cons_ne_nil b l)
    obtain ⟨hflat, hnil, hchain, hapart⟩ := List.splitBy_eq_iff.mp (rfl : (b :: l).splitBy r = _)
    cases hsplit : (b :: l).splitBy r with
    | nil => exact absurd hsplit hne
    | cons group groups =>
      rw [hsplit] at hflat hnil hchain hapart
      have hgroup : group ≠ [] := fun h => hnil (h ▸ List.mem_cons_self)
      have hfirst : group.head hgroup = b := by simpa [hsplit] using hhead
      obtain ⟨rest, rfl⟩ : ∃ rest, group = b :: rest := by
        cases group with
        | nil => exact absurd rfl hgroup
        | cons c rest => exact ⟨rest, by rw [← hfirst]; rfl⟩
      refine List.splitBy_eq_iff.mpr ⟨?_, ?_, ?_, ?_⟩
      · simp [hflat]
      · simpa using hnil
      · simp only [List.modifyHead_cons, List.mem_cons, forall_eq_or_imp] at hchain ⊢
        exact ⟨List.IsChain.cons_cons hr hchain.1, hchain.2⟩
      · rw [List.modifyHead_cons]
        cases groups with
        | nil => simp
        | cons next groups => simpa using hapart
  · rw [if_neg hr]
    have hfree : r a b = false := by simpa using hr
    exact List.splitBy_append_cons (l := [a]) (a := b) l (by simpa using hfree)

namespace Condition

/-- The longest runs of conditions that are tied by AND. The connective of the first condition ties
it to nothing. -/
def runs (cs : List Condition) : List (List Condition) :=
  cs.splitBy fun _ later => later.connective = .and

/-- Runs consist of the conditions that they were made from. -/
theorem mem_of_mem_run {cs run : List Condition} (hrun : run ∈ runs cs) {c : Condition}
    (hc : c ∈ run) : c ∈ cs := by
  have hflat := List.mem_flatten.mpr ⟨run, hrun, hc⟩
  rwa [runs, List.flatten_splitBy] at hflat

/-- The symbols of a condition that compiles. -/
def symbols (c : Condition) : List Symbol :=
  match c.compile with
  | .ok (p, params) => p.symbols params
  | .error _ => []

/-- The truth of a condition that compiles. -/
def judged (verdict : Verdict) (c : Condition) : Bool :=
  match c.compile with
  | .ok (p, params) => p.truth verdict params
  | .error _ => false

/-- The symbols of conditions behind others. -/
def moreSymbols (cs : List Condition) : List Symbol :=
  cs.flatMap fun c => .lexeme (.word c.connective.text.toList) :: c.symbols

variable {c : Condition} {cs : List Condition} {p : Predicate} {params : List Value}

theorem symbols_eq (h : c.compile = .ok (p, params)) : c.symbols = p.symbols params := by
  rw [symbols, h]

theorem judged_eq (h : c.compile = .ok (p, params)) (verdict : Verdict) :
    c.judged verdict = p.truth verdict params := by
  rw [judged, h]

/-- Parameters of conditions behind others fill their places. -/
theorem fill_moreSymbols {conditions : Conditions}
    (h : compileConditions cs = .ok (conditions, params)) :
    Lexeme.fill conditions.moreLexemes params = some (moreSymbols cs) := by
  induction cs generalizing conditions params with
  | nil =>
    cases h
    rfl
  | cons c rest ih =>
    obtain ⟨p, own, more, tail, hc, hrest, rfl, rfl⟩ := compileConditions_cons h
    have hword : Lexeme.word c.connective.text.toList ≠ .point '?' := by simp
    have hown := (compiles_of_compile hc).fill_eq
    simp only [Conditions.moreLexemes, moreSymbols, List.flatMap_cons, List.cons_append] at ih ⊢
    rw [Lexeme.fill_fixed hword, Lexeme.fill_append hown, ih hrest, symbols_eq hc]
    rfl

/-- Parameters of conditions fill their places. -/
theorem fill_symbols {conditions : Conditions}
    (h : compileConditions (c :: cs) = .ok (conditions, params)) :
    Lexeme.fill conditions.lexemes params = some (c.symbols ++ moreSymbols cs) := by
  obtain ⟨p, own, more, tail, hc, hrest, rfl, rfl⟩ := compileConditions_cons h
  have hown := (compiles_of_compile hc).fill_eq
  rw [Conditions.lexemes, Lexeme.fill_append hown, fill_moreSymbols hrest, symbols_eq hc]
  rfl

/-- The symbols of a condition that compiles are one comparison. -/
theorem symbols_comparison (h : c.compile = .ok (p, params)) (verdict : Verdict) :
    (∀ s ∈ c.symbols, Symbol.isConnective s = false) ∧
      Symbol.comparison? verdict c.symbols = some (c.judged verdict) := by
  have hcompiles := compiles_of_compile h
  rw [symbols_eq h, judged_eq h]
  constructor
  · intro s hs
    have hand := hcompiles.isWord_eq "AND" (by decide) s hs
    have hor := hcompiles.isWord_eq "OR" (by decide) s hs
    exact Symbol.isConnective_eq_false.mpr ⟨hand, hor⟩
  · exact hcompiles.comparison?_eq verdict

/-- The alternatives of conditions are their runs. -/
theorem alternatives?_eq {conditions : Conditions}
    (h : compileConditions (c :: cs) = .ok (conditions, params))
    (hknown : ∀ e ∈ cs, e.connective.Known) (verdict : Verdict) :
    Symbol.alternatives? verdict (c.symbols ++ moreSymbols cs) =
      some ((runs (c :: cs)).map (·.all (judged verdict))) := by
  induction cs generalizing c conditions params with
  | nil =>
    obtain ⟨p, own, more, tail, hc, -, -, -⟩ := compileConditions_cons h
    obtain ⟨hown, htruth⟩ := symbols_comparison hc verdict
    have hrun : runs [c] = [[c]] := rfl
    rw [moreSymbols, List.flatMap_nil, List.append_nil, hrun,
      Symbol.alternatives?_of_comparison hown htruth]
    simp
  | cons e cs ih =>
    obtain ⟨p, own, more, tail, hc, hrest, -, -⟩ := compileConditions_cons h
    obtain ⟨hown, htruth⟩ := symbols_comparison hc verdict
    have hmore := ih hrest fun d hd => hknown d (.tail e hd)
    have hsymbols : c.symbols ++ moreSymbols (e :: cs) =
        c.symbols ++ .lexeme (.word e.connective.text.toList) :: (e.symbols ++ moreSymbols cs) := by
      simp [moreSymbols]
    have hruns := splitBy_cons_cons (fun _ later => decide (later.connective = .and)) c e cs
    rw [hsymbols, runs, hruns, ← runs]
    cases hconnective : e.connective with
    | and =>
      rw [Connective.text, Symbol.alternatives?_and hown htruth, hmore]
      cases runs (e :: cs) <;> simp
    | or =>
      rw [Connective.text, Symbol.alternatives?_or hown htruth, hmore]
      simp
    | other word =>
      have hfixed := hknown e List.mem_cons_self
      rw [hconnective] at hfixed
      cases hfixed

/-- The text of conditions is as true as its runs, whatever is true of its comparisons. -/
theorem truth?_eq_judged {conditions : Conditions} (d : Dialect) (keyword : String) (hcs : cs ≠ [])
    (hknown : ∀ e ∈ cs, e.connective.Known)
    (h : compileConditions cs = .ok (conditions, params)) (verdict : Verdict) :
    Conditions.truth? d keyword verdict (conditions.sql d keyword) params =
      some ((runs cs).any fun run => run.all (judged verdict)) := by
  have hne : conditions ≠ [] := compileConditions_ne_nil hcs h
  have htext : (conditions.sql d keyword).toList =
      (' ' :: keyword.toList ++ [' ']) ++ Token.render d.mark conditions.tokens := by
    simp [Conditions.sql, Conditions.clause, hne, Token.chars]
  have hbody : (conditions.sql d keyword).toList.dropPrefix? (' ' :: keyword.toList ++ [' ']) =
      some (Token.render d.mark conditions.tokens) := by
    rw [htext]
    exact List.dropPrefix?_append_of_beq _ (by simp)
  have hread : Lexeme.ofChars d.mark (Token.render d.mark conditions.tokens) =
      some conditions.lexemes := by
    have hconnectives := fun e he => (compileConditions_regular hknown h e he).1
    exact Lexeme.ofChars_eq_some.mpr (Lexeme.Reads.conditions d hconnectives hne)
  cases cs with
  | nil => exact absurd rfl hcs
  | cons c cs =>
    have hmore := fun e he => hknown e (List.mem_cons_of_mem c he)
    rw [Conditions.truth?, hbody, Option.bind_eq_bind, Option.bind_some, hread,
      Option.bind_eq_bind, Option.bind_some, fill_symbols h, Option.bind_eq_bind, Option.bind_some,
      Symbol.formula?, alternatives?_eq h hmore verdict]
    simp [List.any_map]

end Condition

/-! ## Membership by its elements -/

/-- Truth values of comparisons between a column and a single value. -/
abbrev Assignment := ColumnRef → Operator → Value → Bool

/-- The truth of comparisons with values: membership means that the column equals a member. -/
def Assignment.verdict (holds : Assignment) : Verdict
  | column, .isIn, members => members.any (holds column (.compare .equal))
  | column, .notIn, members => !members.any (holds column (.compare .equal))
  | column, op, values => values.all (holds column op)

/-- The truth of a condition on its own. One that cannot be read is not true. -/
def Condition.truth (holds : Assignment) (c : Condition) : Bool :=
  match ColumnRef.read c.column, Operator.read c.operator with
  | .ok column, .ok .isIn =>
    (c.value.sequence?.getD []).any (holds column (.compare .equal))
  | .ok column, .ok .notIn =>
    !(c.value.sequence?.getD []).any (holds column (.compare .equal))
  | .ok column, .ok op => holds column op c.value
  | _, _ => false

/-- What a condition compiles to is as true as the condition. -/
theorem Condition.Compiles.truth_eq {c : Condition} {p : Predicate} {params : List Value}
    (h : c.Compiles p params) (holds : Assignment) :
    p.truth holds.verdict params = c.truth holds := by
  cases h with
  | constant hcolumn hop hkind hvalue =>
    rcases hkind with rfl | rfl
    · simp [Predicate.truth, Condition.truth, hcolumn, hop, hvalue]
    · simp [Predicate.truth, Condition.truth, hcolumn, hop, hvalue]
  | among hcolumn hop hkind hvalue hmembers =>
    rcases hkind with rfl | rfl
    · simp [Predicate.truth, Condition.truth, Assignment.verdict, hcolumn, hop, hvalue]
    · simp [Predicate.truth, Condition.truth, Assignment.verdict, hcolumn, hop, hvalue]
  | identity hcolumn hop hkind hvalue =>
    rcases hkind with rfl | rfl
    · simp [Predicate.truth, Condition.truth, Assignment.verdict, hcolumn, hop, hvalue]
    · simp [Predicate.truth, Condition.truth, Assignment.verdict, hcolumn, hop, hvalue]
  | @compare column op hcolumn hop hkind =>
    cases op with
    | compare sign => simp [Predicate.truth, Condition.truth, Assignment.verdict, hcolumn, hop]
    | like => simp [Predicate.truth, Condition.truth, Assignment.verdict, hcolumn, hop]
    | isIn => exact absurd (.inl rfl) hkind.1
    | notIn => exact absurd (.inr rfl) hkind.1
    | is => exact absurd (.inl rfl) hkind.2
    | isNot => exact absurd (.inr rfl) hkind.2

/-- Conditions compile one by one. -/
theorem Condition.exists_compile {cs : List Condition} {conditions : Conditions}
    {params : List Value} (h : compileConditions cs = .ok (conditions, params)) :
    ∀ c ∈ cs, ∃ p own, c.compile = .ok (p, own) := by
  induction cs generalizing conditions params with
  | nil => simp
  | cons c rest ih =>
    obtain ⟨p, own, more, tail, hc, hrest, -, -⟩ := compileConditions_cons h
    intro e he
    rcases List.mem_cons.mp he with rfl | he
    · exact ⟨p, own, hc⟩
    · exact ih hrest e he

/-- Compiling conditions preserves what they mean. Whatever truth values comparisons have, the text
with its parameters in their places is true exactly when in one of the longest runs that AND ties
together every condition is true on its own. -/
theorem compileConditions_truth {cs : List Condition} {conditions : Conditions}
    {params : List Value} (hcs : cs ≠ []) (hknown : ∀ c ∈ cs, c.connective.Known)
    (h : compileConditions cs = .ok (conditions, params)) (d : Dialect) (keyword : String)
    (holds : Assignment) :
    Conditions.truth? d keyword holds.verdict (conditions.sql d keyword) params =
      some ((Condition.runs cs).any fun run => run.all (Condition.truth holds)) := by
  have hjudged : ∀ c ∈ cs, c.judged holds.verdict = c.truth holds := by
    intro c hc
    obtain ⟨p, own, hcompile⟩ := Condition.exists_compile h c hc
    rw [Condition.judged_eq hcompile, (Condition.compiles_of_compile hcompile).truth_eq]
  have hruns : ∀ run ∈ Condition.runs cs,
      run.map (Condition.judged holds.verdict) = run.map (Condition.truth holds) := by
    intro run hrun
    exact List.map_congr_left fun c hc => hjudged c (Condition.mem_of_mem_run hrun hc)
  have hall : ∀ run ∈ Condition.runs cs,
      run.all (Condition.judged holds.verdict) = run.all (Condition.truth holds) := by
    intro run hrun
    have hrun := congrArg (List.all · id) (hruns run hrun)
    simpa [List.all_map] using hrun
  have hany := congrArg (List.any · id) (List.map_congr_left hall)
  rw [Condition.truth?_eq_judged d keyword hcs hknown h]
  simpa [List.any_map] using hany

/-- Both connectives, both kinds of membership and an empty list in one text. -/
theorem compileConditions_truth_mixed :
    let cs : List Condition := [⟨.or, "id", "in", .list [.int 1, .int 2]⟩,
      ⟨.and, "a", "like", .text "A%"⟩, ⟨.or, "u.id", "not in", .list [.int 3]⟩,
      ⟨.and, "b", "is not", .bool true⟩, ⟨.or, "id", "in", .list []⟩]
    let holds : Assignment := fun _ _ v => v = .int 2 || v = .bool true
    let text :=
      " WHERE `id` IN (?, ?) AND `a` LIKE ? OR `u`.`id` NOT IN (?) AND `b` IS NOT TRUE OR 0=1"
    cs ≠ [] ∧ (∀ c ∈ cs, c.connective.Known) ∧
      (compileConditions cs).map (fun r => (r.1.sql (Dialect.ofDriver "mysql") "WHERE", r.2)) =
        .ok (text, [.int 1, .int 2, .text "A%", .int 3]) ∧
      Conditions.truth? (Dialect.ofDriver "mysql") "WHERE" holds.verdict text
        [.int 1, .int 2, .text "A%", .int 3] = some true := by
  intro cs holds text
  have hcs : cs ≠ [] := List.cons_ne_nil _ _
  have hknown : ∀ c ∈ cs, c.connective.Known := by simp [cs]
  obtain ⟨⟨conditions, params⟩, hcompile⟩ : ∃ r, compileConditions cs = .ok r := ⟨_, rfl⟩
  have hmap : (compileConditions cs).map
      (fun r => (r.1.sql (Dialect.ofDriver "mysql") "WHERE", r.2)) =
        .ok (text, [.int 1, .int 2, .text "A%", .int 3]) := by rfl
  refine ⟨hcs, hknown, hmap, ?_⟩
  have htruth :=
    compileConditions_truth hcs hknown hcompile (Dialect.ofDriver "mysql") "WHERE" holds
  rw [hcompile] at hmap
  obtain ⟨htext, hparams⟩ := Prod.mk.inj (Except.ok.inj hmap)
  rw [← htext, ← hparams, htruth]
  rfl

end BoundSql
