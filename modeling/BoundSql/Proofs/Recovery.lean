import BoundSql.Proofs.Unambiguous

/-!
# Requests are known from what they compile to

A normal request for a select has no blanks in its identifiers, operators as they are written,
members for every membership condition and named columns. From the text of the statement that it
compiles to everything about it is known but the values of its conditions, and these are known from
the parameters: no clause, condition, operator or label is lost or taken for another one.
-/

namespace BoundSql

open Text

/-! ## Texts without blanks -/

/-- There are no blanks in the text. -/
def NoBlanks (s : String) : Prop := ∀ c ∈ s.toList, isBlank c = false

theorem Text.trim_of_noBlanks {s : List Char} (h : ∀ c ∈ s, isBlank c = false) : trim s = s := by
  have hdrop : ∀ {t : List Char}, (∀ c ∈ t, isBlank c = false) → t.dropWhile isBlank = t := by
    intro t ht
    cases t with
    | nil => rfl
    | cons c t => exact List.dropWhile_cons_of_neg (by simp [ht c List.mem_cons_self])
  have hreverse : ∀ c ∈ s.reverse, isBlank c = false := fun c hc => h c (List.mem_reverse.mp hc)
  rw [trim, trimLeft, hdrop h, trimRight, hdrop hreverse, List.reverse_reverse]

/-- The pieces of a text consist of its characters. -/
theorem Text.mem_of_mem_splitAt {separator c : Char} {s piece : List Char}
    (hpiece : piece ∈ splitAt separator s) (hc : c ∈ piece) : c ∈ s := by
  induction s generalizing piece with
  | nil =>
    rw [splitAt, List.mem_singleton] at hpiece
    subst hpiece
    exact hc
  | cons e s ih =>
    rw [splitAt] at hpiece
    split at hpiece
    · rcases List.mem_cons.mp hpiece with rfl | hpiece
      · cases hc
      · exact List.mem_cons_of_mem _ (ih hpiece hc)
    · split at hpiece
      next first more heq =>
        rw [heq] at ih
        rcases List.mem_cons.mp hpiece with rfl | hpiece
        · rcases List.mem_cons.mp hc with rfl | hc
          · exact List.mem_cons_self
          · exact List.mem_cons_of_mem _ (ih List.mem_cons_self hc)
        · exact List.mem_cons_of_mem _ (ih (List.mem_cons_of_mem _ hpiece) hc)
      next heq => exact absurd heq (splitAt_ne_nil separator s)

/-! ## What names, paths and columns were read from -/

theorem Name.letters_of_ofChars? {s : List Char} {n : Name} (h : Name.ofChars? s = some n) :
    n.letters = s := by
  unfold Name.ofChars? at h
  split at h
  · cases h
    rfl
  · cases h

/-- A name was read from its letters. -/
theorem Name.letters_of_read {s : String} {n : Name} (hs : NoBlanks s) (h : Name.read s = .ok n) :
    n.letters = s.toList := by
  unfold Name.read at h
  rw [trim_of_noBlanks hs] at h
  dsimp only at h
  split at h
  next name hname =>
    cases h
    exact Name.letters_of_ofChars? hname
  next => cases h

/-- The characters that a path is read from. -/
def Path.letters (p : Path) : List Char := joinWith ['.'] (p.segments.map Name.letters)

/-- The characters that a column is read from. -/
def ColumnRef.letters : ColumnRef → List Char
  | .star => ['*']
  | .column path => path.letters
  | .allOf path => path.letters ++ ['.', '*']

theorem letters_of_readSegments {whole : List Char} {segments : List (List Char)}
    {names : List Name} (hsegments : ∀ s ∈ segments, ∀ c ∈ s, isBlank c = false)
    (h : readSegments whole segments = .ok names) : names.map Name.letters = segments := by
  induction segments generalizing names with
  | nil =>
    cases h
    rfl
  | cons segment rest ih =>
    obtain ⟨hsegment, hrest⟩ := List.forall_mem_cons.mp hsegments
    rw [readSegments] at h
    obtain ⟨name, hname, h⟩ := bind_eq_ok_iff.mp h
    obtain ⟨more, hmore, h⟩ := bind_eq_ok_iff.mp h
    cases h
    rw [readSegment, trim_of_noBlanks hsegment] at hname
    split at hname
    next found hfound =>
      cases hname
      rw [List.map_cons, Name.letters_of_ofChars? hfound, ih hrest hmore]
    next => cases hname

theorem Path.letters_of_readChars {s : List Char} {p : Path} (hs : ∀ c ∈ s, isBlank c = false)
    (h : Path.readChars s = .ok p) : p.letters = s := by
  unfold Path.readChars at h
  rw [trim_of_noBlanks hs] at h
  dsimp only at h
  split at h
  · cases h
  · obtain ⟨names, hnames, h⟩ := bind_eq_ok_iff.mp h
    have hletters := letters_of_readSegments
      (fun piece hpiece c hc => hs c (mem_of_mem_splitAt hpiece hc)) hnames
    cases names with
    | nil => cases h
    | cons head tail =>
      cases h
      rw [Path.letters, Path.segments, hletters, joinWith_splitAt]

/-- A column was read from its letters. -/
theorem ColumnRef.letters_of_read {s : String} {c : ColumnRef} (hs : NoBlanks s)
    (h : ColumnRef.read s = .ok c) : c.letters = s.toList := by
  unfold ColumnRef.read at h
  rw [trim_of_noBlanks hs] at h
  dsimp only at h
  split at h
  next hstar =>
    cases h
    rw [hstar]
    rfl
  next =>
    split at h
    next front hfront =>
      obtain ⟨path, hpath, rfl⟩ := map_eq_ok_iff.mp h
      have hsplit : s.toList = front ++ ['.', '*'] := by
        unfold beforeDotStar? at hfront
        split at hfront
        next rest hreverse =>
          cases hfront
          rw [← List.reverse_reverse s.toList, hreverse]
          simp
        next => cases hfront
      have hnone : ∀ c ∈ front, isBlank c = false := fun c hc => hs c (by rw [hsplit]; simp [hc])
      rw [ColumnRef.letters, Path.letters_of_readChars hnone hpath, hsplit]
    next =>
      obtain ⟨path, hpath, rfl⟩ := map_eq_ok_iff.mp h
      exact Path.letters_of_readChars hs hpath

/-- Columns that are read as one are one text. -/
theorem ColumnRef.read_inj {s t : String} {c : ColumnRef} (hs : NoBlanks s) (ht : NoBlanks t)
    (h : ColumnRef.read s = .ok c) (h' : ColumnRef.read t = .ok c) : s = t := by
  rw [← String.toList_inj, ← ColumnRef.letters_of_read hs h, ColumnRef.letters_of_read ht h']

theorem Path.read_inj {s t : String} {p : Path} (hs : NoBlanks s) (ht : NoBlanks t)
    (h : Path.read s = .ok p) (h' : Path.read t = .ok p) : s = t := by
  rw [← String.toList_inj, ← Path.letters_of_readChars hs h, Path.letters_of_readChars ht h']

theorem Name.read_inj {s t : String} {n : Name} (hs : NoBlanks s) (ht : NoBlanks t)
    (h : Name.read s = .ok n) (h' : Name.read t = .ok n) : s = t := by
  rw [← String.toList_inj, ← Name.letters_of_read hs h, Name.letters_of_read ht h']

/-- The text is not empty, and there are no blanks in it. -/
def IsCompact (s : String) : Prop := NoBlanks s ∧ s ≠ ""

/-- A table was read from the letters of its path and of its label. -/
theorem TableRef.letters_of_read {table : String} {label : Option String} {t : TableRef}
    (htable : NoBlanks table) (hlabel : ∀ s ∈ label, IsCompact s)
    (h : TableRef.read table label = .ok t) :
    t.path.letters = table.toList ∧ t.label.map Name.letters = label.map String.toList := by
  obtain ⟨path, hpath, h⟩ := bind_eq_ok_iff.mp h
  have hletters := Path.letters_of_readChars htable hpath
  cases label with
  | none =>
    cases h
    exact ⟨hletters, rfl⟩
  | some s =>
    obtain ⟨hblanks, hne⟩ := hlabel s rfl
    dsimp only at h
    rw [if_neg hne] at h
    obtain ⟨name, hname, h⟩ := bind_eq_ok_iff.mp h
    cases h
    exact ⟨hletters, congrArg some (Name.letters_of_read hblanks hname)⟩

/-- Tables that are read as one have one text and one label. -/
theorem TableRef.read_inj {table table' : String} {label label' : Option String} {t : TableRef}
    (htable : NoBlanks table) (htable' : NoBlanks table') (hlabel : ∀ s ∈ label, IsCompact s)
    (hlabel' : ∀ s ∈ label', IsCompact s) (h : TableRef.read table label = .ok t)
    (h' : TableRef.read table' label' = .ok t) : table = table' ∧ label = label' := by
  obtain ⟨hpath, hname⟩ := TableRef.letters_of_read htable hlabel h
  obtain ⟨hpath', hname'⟩ := TableRef.letters_of_read htable' hlabel' h'
  refine ⟨String.toList_inj.mp (hpath.symm.trans hpath'), ?_⟩
  exact Option.map_injective (fun _ _ => String.toList_inj.mp) (hname.symm.trans hname')

/-- An operator in its normal form was read from its text. -/
theorem Operator.text_of_read {s : String} {op : Operator} (hnormal : Operator.normalize s = s)
    (h : Operator.read s = .ok op) : op.text = s := by
  unfold Operator.read at h
  rw [hnormal] at h
  dsimp only at h
  split at h
  next found hfound =>
    cases h
    have htext := List.find?_some hfound
    simpa using htext
  next => cases h

/-! ## Conditions -/

/-- The condition has no blanks in its column, its operator as it is written and, if it asks for
membership, a list with members. -/
structure Condition.Normal (c : Condition) : Prop where
  /-- The column. -/
  column : NoBlanks c.column
  /-- The operator. -/
  operator : Operator.normalize c.operator = c.operator
  /-- The members. -/
  members : c.operator ∈ [Operator.isIn.text, Operator.notIn.text] →
    ∃ members, members ≠ [] ∧ c.value = .list members

/-- The condition was written with the column and the operator of a predicate, and its value is that
of the parameters. -/
inductive Condition.Spelt (c : Condition) : Predicate → List Value → Prop where
  /-- A comparison with its value. -/
  | compare {column : ColumnRef} {op : Operator} (hcolumn : column.letters = c.column.toList)
      (hop : op.text = c.operator) : Spelt c (.compare column op) [c.value]
  /-- Membership among the members of its value. -/
  | among {column : ColumnRef} {op : Operator} {size : ℕ} {members : List Value}
      (hcolumn : column.letters = c.column.toList) (hop : op.text = c.operator)
      (hsize : members.length = size) (hvalue : c.value = .list members) :
      Spelt c (.among column op size) members
  /-- Identity with the literal that its value is. -/
  | identity {column : ColumnRef} {op : Operator} {literal : Literal}
      (hcolumn : column.letters = c.column.toList) (hop : op.text = c.operator)
      (hvalue : c.value = literal.value) : Spelt c (.identity column op literal) []

namespace Condition.Normal

variable {c : Condition} {p : Predicate} {params : List Value}

theorem spelt (hc : c.Normal) (h : c.compile = .ok (p, params)) : c.Spelt p params := by
  have hmembers : ∀ {op : Operator}, Operator.read c.operator = .ok op → op.IsMembership →
      ∃ members, members ≠ [] ∧ c.value = .list members := by
    intro op hop hkind
    refine hc.members ?_
    rw [← Operator.text_of_read hc.operator hop]
    rcases hkind with rfl | rfl
    all_goals simp
  cases Condition.compiles_of_compile h with
  | constant hcolumn hop hkind hvalue =>
    obtain ⟨members, hne, hlist⟩ := hmembers hop hkind
    rw [hlist] at hvalue
    cases hvalue
    exact absurd rfl hne
  | among hcolumn hop hkind hvalue =>
    obtain ⟨members, -, hlist⟩ := hmembers hop hkind
    rw [hlist] at hvalue
    cases hvalue
    exact .among (ColumnRef.letters_of_read hc.column hcolumn)
      (Operator.text_of_read hc.operator hop) rfl hlist
  | identity hcolumn hop _ hvalue =>
    exact .identity (ColumnRef.letters_of_read hc.column hcolumn)
      (Operator.text_of_read hc.operator hop) hvalue
  | compare hcolumn hop =>
    exact .compare (ColumnRef.letters_of_read hc.column hcolumn)
      (Operator.text_of_read hc.operator hop)

/-- A normal condition depends on its column. -/
theorem legible (hc : c.Normal) (h : c.compile = .ok (p, params)) : p.Legible := by
  refine ⟨(Condition.compiles_of_compile h).regular, ?_⟩
  cases hc.spelt h with
  | _ => nofun

end Condition.Normal

section Likeness

variable {R : Value → Value → Prop}

/-- Literals are like themselves, and lists are like lists whose members are like theirs. -/
structure Value.Likeness (R : Value → Value → Prop) : Prop where
  /-- Literals. -/
  literal : ∀ l : Literal, R l.value l.value
  /-- Lists. -/
  list : ∀ {xs ys : List Value}, List.Forall₂ R xs ys → R (.list xs) (.list ys)

/-- The conditions are one but for their values, which are alike. -/
structure Condition.Alike (R : Value → Value → Prop) (c c' : Condition) : Prop where
  /-- One connective. -/
  connective_eq : c.connective = c'.connective
  /-- One column. -/
  column_eq : c.column = c'.column
  /-- One operator. -/
  operator_eq : c.operator = c'.operator
  /-- Values that are alike. -/
  value : R c.value c'.value

/-- Lists of one length in front of lists that are alike. -/
theorem forall₂_split {α β : Type} {R : α → β → Prop} {xs zs : List α} {ys ws : List β}
    (hlength : xs.length = ys.length) (h : List.Forall₂ R (xs ++ zs) (ys ++ ws)) :
    List.Forall₂ R xs ys ∧ List.Forall₂ R zs ws := by
  have hfront := List.forall₂_take_append _ _ _ h
  have hback := List.forall₂_drop_append _ _ _ h
  rw [← hlength, List.take_left] at hfront
  rw [← hlength, List.drop_left] at hback
  exact ⟨hfront, hback⟩

/-- Conditions written for one predicate with like parameters in front of like ones are alike. -/
theorem Condition.Spelt.alike (hR : Value.Likeness R) {c c' : Condition} {p : Predicate}
    {params params' more more' : List Value} (hconnective : c.connective = c'.connective)
    (h : c.Spelt p params) (h' : c'.Spelt p params')
    (hparams : List.Forall₂ R (params ++ more) (params' ++ more')) :
    c.Alike R c' ∧ List.Forall₂ R more more' := by
  cases h with
  | compare hcolumn hop =>
    cases h' with
    | compare hcolumn' hop' =>
      obtain ⟨hvalue, hmore⟩ := List.forall₂_cons.mp hparams
      exact ⟨⟨hconnective, String.toList_inj.mp (hcolumn.symm.trans hcolumn'),
        hop.symm.trans hop', hvalue⟩, hmore⟩
  | among hcolumn hop hsize hvalue =>
    cases h' with
    | among hcolumn' hop' hsize' hvalue' =>
      obtain ⟨hmembers, hmore⟩ := forall₂_split (hsize.trans hsize'.symm) hparams
      refine ⟨⟨hconnective, String.toList_inj.mp (hcolumn.symm.trans hcolumn'),
        hop.symm.trans hop', ?_⟩, hmore⟩
      rw [hvalue, hvalue']
      exact hR.list hmembers
  | identity hcolumn hop hvalue =>
    cases h' with
    | identity hcolumn' hop' hvalue' =>
      refine ⟨⟨hconnective, String.toList_inj.mp (hcolumn.symm.trans hcolumn'),
        hop.symm.trans hop', ?_⟩, hparams⟩
      rw [hvalue, hvalue']
      exact hR.literal _

/-- Normal conditions that compile to one clause, with like parameters in front of like ones, are
alike one by one. -/
theorem compileConditions_alike (hR : Value.Likeness R) {cs cs' : List Condition}
    {conditions : Conditions} {params params' more more' : List Value}
    (hcs : ∀ c ∈ cs, c.Normal) (hcs' : ∀ c ∈ cs', c.Normal)
    (h : compileConditions cs = .ok (conditions, params))
    (h' : compileConditions cs' = .ok (conditions, params'))
    (hparams : List.Forall₂ R (params ++ more) (params' ++ more')) :
    List.Forall₂ (Condition.Alike R) cs cs' ∧ List.Forall₂ R more more' := by
  induction cs generalizing cs' conditions params params' with
  | nil =>
    cases h
    cases cs' with
    | nil =>
      cases h'
      exact ⟨.nil, hparams⟩
    | cons c' rest' =>
      have hlength := length_of_compileConditions h'
      cases hlength
  | cons c rest ih =>
    obtain ⟨p, own, conditionsMore, tail, hc, hrest, rfl, rfl⟩ := compileConditions_cons h
    cases cs' with
    | nil => cases h'
    | cons c' rest' =>
      obtain ⟨p', own', conditionsMore', tail', hc', hrest', heq, rfl⟩ := compileConditions_cons h'
      injection heq with hfirst hconditions
      injection hfirst with hconnective hpredicate
      subst hpredicate hconditions
      rw [List.append_assoc, List.append_assoc] at hparams
      obtain ⟨hone, hparams⟩ := ((hcs c List.mem_cons_self).spelt hc).alike hR hconnective
        ((hcs' c' List.mem_cons_self).spelt hc') hparams
      obtain ⟨hmore, hrestParams⟩ := ih (fun d hd => hcs d (List.mem_cons_of_mem _ hd))
        (fun d hd => hcs' d (List.mem_cons_of_mem _ hd)) hrest hrest' hparams
      exact ⟨.cons hone hmore, hrestParams⟩

end Likeness

/-- Normal conditions compile to legible ones if the first of them has the usual connective. -/
theorem compileConditions_legible {cs : List Condition} {conditions : Conditions}
    {params : List Value} (hcs : ∀ c ∈ cs, c.Normal) (hknown : ∀ c ∈ cs, c.connective.Known)
    (hfirst : ∀ c ∈ cs.head?, c.connective = .and)
    (h : compileConditions cs = .ok (conditions, params)) : conditions.Legible := by
  constructor
  · clear hfirst
    induction cs generalizing conditions params with
    | nil =>
      cases h
      exact List.forall_mem_nil _
    | cons c rest ih =>
      obtain ⟨p, own, more, tail, hc, hrest, rfl, -⟩ := compileConditions_cons h
      have hmore := ih (fun d hd => hcs d (List.mem_cons_of_mem _ hd))
        (fun d hd => hknown d (List.mem_cons_of_mem _ hd)) hrest
      exact List.forall_mem_cons.mpr
        ⟨⟨hknown c List.mem_cons_self, (hcs c List.mem_cons_self).legible hc⟩, hmore⟩
  · cases cs with
    | nil =>
      cases h
      exact nofun
    | cons c rest =>
      obtain ⟨p, own, more, tail, -, -, rfl, -⟩ := compileConditions_cons h
      rintro first ⟨⟩
      exact hfirst c rfl

/-! ## The other clauses -/

/-- Steps that give the same results for two lists were made for one list, if each result is given
for one member only. -/
theorem mapM_inj {ε α β : Type} {f : α → Except ε β} {P : α → Prop}
    (hf : ∀ {a b c}, P a → P b → f a = .ok c → f b = .ok c → a = b) {xs ys : List α} {zs : List β}
    (hxs : ∀ x ∈ xs, P x) (hys : ∀ y ∈ ys, P y) (h : xs.mapM f = .ok zs)
    (h' : ys.mapM f = .ok zs) : xs = ys := by
  have hall := mapM_eq_ok_iff.mp h
  have hall' := mapM_eq_ok_iff.mp h'
  clear h h'
  induction hall generalizing ys with
  | nil =>
    cases hall'
    rfl
  | cons hx _ ih =>
    cases hall' with
    | cons hy hrest =>
      obtain ⟨hxP, hxs⟩ := List.forall_mem_cons.mp hxs
      obtain ⟨hyP, hys⟩ := List.forall_mem_cons.mp hys
      rw [hf hxP hyP hx hy, ih hxs hys hrest]

/-- There are no blanks in the identifiers of a joined table, and its label is none or one. -/
structure Join.Normal (j : Join) : Prop where
  /-- The table. -/
  table : NoBlanks j.table
  /-- The label. -/
  label : ∀ s ∈ j.label, IsCompact s
  /-- The column on the left. -/
  left : NoBlanks j.left
  /-- The column on the right. -/
  right : NoBlanks j.right

theorem Join.compile_inj {j j' : Join} {clause : JoinClause} (hj : j.Normal) (hj' : j'.Normal)
    (h : j.compile = .ok clause) (h' : j'.compile = .ok clause) : j = j' := by
  obtain ⟨table, left, right, htable, hleft, hright, rfl⟩ := Join.compile_eq_ok h
  obtain ⟨_, _, _, htable', hleft', hright', heq⟩ := Join.compile_eq_ok h'
  injection heq with hkind htables hlefts hsign hrights
  subst htables hlefts hrights
  obtain ⟨htableEq, hlabelEq⟩ :=
    TableRef.read_inj hj.table hj'.table hj.label hj'.label htable htable'
  have hleftEq := ColumnRef.read_inj hj.left hj'.left hleft hleft'
  have hrightEq := ColumnRef.read_inj hj.right hj'.right hright hright'
  obtain ⟨kind, tableText, label, leftText, sign, rightText⟩ := j
  obtain ⟨kind', tableText', label', leftText', sign', rightText'⟩ := j'
  dsimp only at hkind hsign htableEq hlabelEq hleftEq hrightEq
  subst hkind hsign htableEq hlabelEq hleftEq hrightEq
  rfl

theorem OrderTerm.compile_inj {t t' : OrderTerm} {key : ColumnRef × Direction}
    (ht : NoBlanks t.column) (ht' : NoBlanks t'.column) (h : t.compile = .ok key)
    (h' : t'.compile = .ok key) : t = t' := by
  obtain ⟨column, hcolumn, rfl⟩ := OrderTerm.compile_eq_ok h
  obtain ⟨_, hcolumn', heq⟩ := OrderTerm.compile_eq_ok h'
  injection heq with hcolumns hdirection
  subst hcolumns
  have hcolumnEq := ColumnRef.read_inj ht ht' hcolumn hcolumn'
  obtain ⟨text, direction⟩ := t
  obtain ⟨text', direction'⟩ := t'
  dsimp only at hdirection hcolumnEq
  subst hdirection hcolumnEq
  rfl

/-- A count is known from the bound that it compiles to. -/
theorem compileBound_inj {bound bound' : Option Value} {n : Option ℤ}
    (hbound : ∀ v ∈ bound, v.IsCount) (hbound' : ∀ v ∈ bound', v.IsCount)
    (h : compileBound bound = .ok n) (h' : compileBound bound' = .ok n) : bound = bound' := by
  have hback : ∀ {bound : Option Value} {n : Option ℤ}, (∀ v ∈ bound, v.IsCount) →
      compileBound bound = .ok n → bound = n.map .int := by
    intro bound n hcount hcompile
    rcases compileBound_eq_ok hcompile with ⟨rfl, rfl⟩ | ⟨v, i, rfl, hi, rfl⟩
    · rfl
    · obtain ⟨k, rfl⟩ := hcount v rfl
      cases hi
      rfl
  rw [hback hbound h, hback hbound' h']

/-! ## Normal requests -/

/-- Named columns: texts that are not empty and have no blanks, at least one of them. -/
def Columns.Normal (columns : Columns) : Prop :=
  ∃ names : List String, columns = .many (names.map .text) ∧ names ≠ [] ∧ ∀ s ∈ names, IsCompact s

theorem strip_of_noBlanks {s : String} (h : NoBlanks s) : strip s = s := by
  rw [strip, trim_of_noBlanks h, String.ofList_toList]

/-- Named columns are read one by one, none of them is left out. -/
theorem Columns.compile_many {names : List String} (h : ∀ s ∈ names, IsCompact s) :
    (Columns.many (names.map .text)).compile = names.mapM ColumnRef.read := by
  have hnames : (Columns.many (names.map .text)).names = names := by
    rw [Columns.names, List.map_map]
    exact List.map_id names
  rw [Columns.compile, hnames, List.filter_eq_self.mpr]
  intro s hs
  rw [strip_of_noBlanks (h s hs).1]
  exact decide_eq_true (h s hs).2

theorem Columns.compile_inj {columns columns' : Columns} {refs : List ColumnRef}
    (hcolumns : columns.Normal) (hcolumns' : columns'.Normal) (h : columns.compile = .ok refs)
    (h' : columns'.compile = .ok refs) : columns = columns' := by
  obtain ⟨names, rfl, -, hnames⟩ := hcolumns
  obtain ⟨names', rfl, -, hnames'⟩ := hcolumns'
  rw [Columns.compile_many hnames] at h
  rw [Columns.compile_many hnames'] at h'
  rw [mapM_inj (fun ha hb => ColumnRef.read_inj ha.1 hb.1) hnames hnames' h h']

theorem Columns.Normal.refs_ne_nil {columns : Columns} {refs : List ColumnRef}
    (hcolumns : columns.Normal) (h : columns.compile = .ok refs) : refs ≠ [] := by
  obtain ⟨names, rfl, hne, hnames⟩ := hcolumns
  rw [Columns.compile_many hnames] at h
  have hlength := length_of_mapM h
  have hpos := List.length_pos_iff.mpr hne
  exact List.length_pos_iff.mp (by omega)

/-- A normal request for a select: a query that clause calls collected, a table and columns. -/
structure Query.Normal (q : Query) (table : String) (columns : Columns) : Prop where
  /-- Clause calls collected the query. -/
  built : ∃ clauses, q = Query.collect clauses
  /-- Conditions on rows. -/
  filters : ∀ c ∈ q.filters, c.Normal
  /-- The first one is an ordinary one. -/
  firstFilter : ∀ c ∈ q.filters.head?, c.connective = .and
  /-- Conditions on groups. -/
  groupFilters : ∀ c ∈ q.groupFilters, c.Normal
  /-- The first one is an ordinary one. -/
  firstGroupFilter : ∀ c ∈ q.groupFilters.head?, c.connective = .and
  /-- Joined tables. -/
  joins : ∀ j ∈ q.joins, j.Normal
  /-- Columns to group by. -/
  grouping : ∀ s ∈ q.grouping, NoBlanks s
  /-- Keys to order by. -/
  ordering : ∀ t ∈ q.ordering, NoBlanks t.column
  /-- The table. -/
  table : NoBlanks table
  /-- The columns. -/
  columns : columns.Normal

/-- The queries are one but for the values of their conditions, which are alike. -/
structure Query.Alike (R : Value → Value → Prop) (q q' : Query) : Prop where
  /-- Conditions on rows, one by one. -/
  filters : List.Forall₂ (Condition.Alike R) q.filters q'.filters
  /-- Conditions on groups, one by one. -/
  groupFilters : List.Forall₂ (Condition.Alike R) q.groupFilters q'.groupFilters
  /-- The same joined tables. -/
  joins_eq : q.joins = q'.joins
  /-- The same columns to group by. -/
  grouping_eq : q.grouping = q'.grouping
  /-- The same keys to order by. -/
  ordering_eq : q.ordering = q'.ordering
  /-- The same greatest count. -/
  limit_eq : q.limit = q'.limit
  /-- The same count to pass over. -/
  offset_eq : q.offset = q'.offset

theorem Condition.Alike.eq {c c' : Condition} (h : c.Alike Eq c') : c = c' := by
  obtain ⟨hconnective, hcolumn, hoperator, hvalue⟩ := h
  obtain ⟨connective, column, operator, value⟩ := c
  obtain ⟨connective', column', operator', value'⟩ := c'
  dsimp only at hconnective hcolumn hoperator hvalue
  rw [hconnective, hcolumn, hoperator, hvalue]

/-- Queries that are one but for values, which are the same, are one. -/
theorem Query.Alike.eq {q q' : Query} (h : q.Alike Eq q') : q = q' := by
  have hconditions : ∀ {cs cs' : List Condition}, List.Forall₂ (Condition.Alike Eq) cs cs' →
      cs = cs' := by
    intro cs cs' hall
    have heq := hall.imp fun _ _ hc => Condition.Alike.eq hc
    rwa [List.forall₂_eq_eq_eq] at heq
  obtain ⟨hfilters, hgroups, hjoins, hgrouping, hordering, hlimit, hoffset⟩ := h
  obtain ⟨filters, groupFilters, joins, grouping, ordering, limit, offset⟩ := q
  obtain ⟨filters', groupFilters', joins', grouping', ordering', limit', offset'⟩ := q'
  dsimp only at hfilters hgroups hjoins hgrouping hordering hlimit hoffset
  rw [hconditions hfilters, hconditions hgroups, hjoins, hgrouping, hordering, hlimit, hoffset]

/-- What a normal request compiles to is legible. -/
theorem Query.Normal.exists_statement {q : Query} {table : String} {columns : Columns}
    {c : Compiled} (hq : q.Normal table columns) (h : q.compileSelect table columns = .ok c) :
    ∃ refs path tail own more, c = ⟨SelectTail.statement refs path tail, own ++ more⟩ ∧
      refs ≠ [] ∧ tail.Legible ∧ columns.compile = .ok refs ∧ Path.read table = .ok path ∧
      q.joins.mapM Join.compile = .ok tail.joins ∧
      compileConditions q.filters = .ok (tail.filters, own) ∧
      q.grouping.mapM ColumnRef.read = .ok tail.grouping ∧
      compileConditions q.groupFilters = .ok (tail.groupFilters, more) ∧
      q.ordering.mapM OrderTerm.compile = .ok tail.ordering ∧
      compileBound q.limit = .ok tail.limit ∧ compileBound q.offset = .ok tail.offset := by
  obtain ⟨clauses, rfl⟩ := hq.built
  have hcollected := Query.collect_collected clauses
  obtain ⟨refs, source, params, ordering, limit, offset, hrefs, hsource, hordering, hlimit, hoffset,
    rfl⟩ := Query.compileSelect_eq_ok h
  have hregular := hcollected.source_regular hsource
  obtain ⟨path, joins, filters, own, grouping, groupFilters, more, hpath, hjoins, hfilters,
    hgrouping, hgroups, rfl, rfl⟩ := Query.compileSource_eq_ok hsource
  refine ⟨refs, path, ⟨joins, filters, grouping, groupFilters, ordering, limit, offset⟩, own, more,
    rfl, hq.columns.refs_ne_nil hrefs, ?_, hrefs, hpath, hjoins, hfilters, hgrouping, hgroups,
    hordering, hlimit, hoffset⟩
  exact ⟨hregular.joins,
    compileConditions_legible hq.filters hcollected.filters hq.firstFilter hfilters,
    compileConditions_legible hq.groupFilters hcollected.groupFilters hq.firstGroupFilter hgroups,
    hcollected.ordering_known hordering, compileBound_nonneg hcollected.limit hlimit,
    compileBound_nonneg hcollected.offset hoffset⟩

/-- Normal requests with one text and like parameters are alike. -/
theorem Query.Normal.alike {R : Value → Value → Prop} (hR : Value.Likeness R) (d : Dialect)
    {q q' : Query} {table table' : String} {columns columns' : Columns} {c c' : Compiled}
    (hq : q.Normal table columns) (hq' : q'.Normal table' columns')
    (h : q.compileSelect table columns = .ok c) (h' : q'.compileSelect table' columns' = .ok c')
    (hsql : c.sql d = c'.sql d) :
    table = table' ∧ columns = columns' ∧ (List.Forall₂ R c.params c'.params → q.Alike R q') := by
  obtain ⟨refs, path, tail, own, more, rfl, hne, htail, hrefs, hpath, hjoins, hfilters, hgrouping,
    hgroups, hordering, hlimit, hoffset⟩ := hq.exists_statement h
  obtain ⟨refs', path', tail', own', more', rfl, hne', htail', hrefs', hpath', hjoins', hfilters',
    hgrouping', hgroups', hordering', hlimit', hoffset'⟩ := hq'.exists_statement h'
  obtain ⟨rfl, rfl, rfl⟩ := SelectTail.eq_of_sql_eq d hne hne' htail htail' hsql
  refine ⟨Path.read_inj hq.table hq'.table hpath hpath',
    Columns.compile_inj hq.columns hq'.columns hrefs hrefs', fun hparams => ?_⟩
  -- The parameters of the conditions on rows come first, those of the ones on groups behind them.
  obtain ⟨hrows, hmore⟩ :=
    compileConditions_alike hR hq.filters hq'.filters hfilters hfilters' hparams
  have hgroupParams : List.Forall₂ R (more ++ []) (more' ++ []) := by
    rwa [List.append_nil, List.append_nil]
  obtain ⟨clauses, hbuilt⟩ := hq.built
  obtain ⟨clauses', hbuilt'⟩ := hq'.built
  have hcollected : q.Collected := hbuilt ▸ Query.collect_collected clauses
  have hcollected' : q'.Collected := hbuilt' ▸ Query.collect_collected clauses'
  exact {
    filters := hrows
    groupFilters := (compileConditions_alike hR hq.groupFilters hq'.groupFilters hgroups hgroups'
      hgroupParams).1
    joins_eq := mapM_inj Join.compile_inj hq.joins hq'.joins hjoins hjoins'
    grouping_eq := mapM_inj ColumnRef.read_inj hq.grouping hq'.grouping hgrouping hgrouping'
    ordering_eq := mapM_inj OrderTerm.compile_inj hq.ordering hq'.ordering hordering hordering'
    limit_eq := compileBound_inj hcollected.limit hcollected'.limit hlimit hlimit'
    offset_eq := compileBound_inj hcollected.offset hcollected'.offset hoffset hoffset' }

/-- Values that are the same are alike. -/
theorem Value.likeness_eq : Value.Likeness Eq where
  literal _ := rfl
  list h := by
    rw [List.forall₂_eq_eq_eq] at h
    rw [h]

theorem Value.equalLists_iff {xs ys : List Value} :
    Value.equalLists xs ys = true ↔ List.Forall₂ (fun v w => v.equal w = true) xs ys := by
  induction xs generalizing ys with
  | nil => cases ys <;> simp [Value.equalLists]
  | cons x xs ih => cases ys <;> simp [Value.equalLists, ih]

/-- So are values that mean the same. -/
theorem Value.likeness_equal : Value.Likeness fun v w => v.equal w = true where
  literal l := by
    cases l with
    | null => simp [Literal.value, Value.equal, Value.equalScalar]
    | truth b =>
      simp [Literal.value, Value.equal, Value.equalScalar, Value.magnitude?, Magnitude.equal]
  list h := by
    rw [Value.equal]
    exact Value.equalLists_iff.mpr h

/-- Normal requests with one text are about one table and the same columns; if their parameters are
the same too their queries are one, and if their parameters mean the same their queries are one but
for values, which mean the same. -/
theorem Query.compileSelect_unambiguous (d : Dialect) {q q' : Query} {table table' : String}
    {columns columns' : Columns} {c c' : Compiled} (hq : q.Normal table columns)
    (hq' : q'.Normal table' columns') (h : q.compileSelect table columns = .ok c)
    (h' : q'.compileSelect table' columns' = .ok c') (hsql : c.sql d = c'.sql d) :
    table = table' ∧ columns = columns' ∧ (c.params = c'.params → q = q') ∧
      (Value.equalLists c.params c'.params = true →
        q.Alike (fun v w => v.equal w = true) q') := by
  obtain ⟨htable, hcolumns, hsame⟩ := Query.Normal.alike Value.likeness_eq d hq hq' h h' hsql
  obtain ⟨-, -, hequal⟩ := Query.Normal.alike Value.likeness_equal d hq hq' h h' hsql
  refine ⟨htable, hcolumns, fun hparams => (hsame ?_).eq, fun hparams => hequal ?_⟩
  · rw [List.forall₂_eq_eq_eq]
    exact hparams
  · exact Value.equalLists_iff.mp hparams

/-- Two requests whose parameters mean the same, a truth value and a number: their texts are one,
and so are the requests but for that value. -/
theorem Query.compileSelect_unambiguous_flag :
    let clauses (flag : Value) : List Clause :=
      [.filter "active" flag "=", .groupBy (.one "role"),
        .groupFilter "role" (.list [.text "admin", .text "owner"]) "NOT IN", .limit (.text "5")]
    let columns := Columns.many [.text "role"]
    let d := Dialect.ofDriver "sqlite"
    let q := Query.collect (clauses (.bool true))
    let q' := Query.collect (clauses (.int 1))
    q.Normal "users" columns ∧ q'.Normal "users" columns ∧
      ∃ c c', q.compileSelect "users" columns = .ok c ∧ q'.compileSelect "users" columns = .ok c' ∧
        c.sql d = c'.sql d ∧ Value.equalLists c.params c'.params = true ∧ q ≠ q' ∧
        q.Alike (fun v w => v.equal w = true) q' := by
  intro clauses columns d q q'
  have hblanks : ∀ s ∈ ["users", "active", "role"], NoBlanks s := by
    have hall : ∀ s ∈ ["users", "active", "role"], s.toList.all (fun c => !isBlank c) = true := by
      decide
    intro s hs c hc
    simpa using List.all_eq_true.mp (hall s hs) c hc
  have hcollect : ∀ flag, Query.collect (clauses flag) =
      { filters := [⟨.and, "active", "=", flag⟩]
        grouping := ["role"]
        groupFilters := [⟨.and, "role", "NOT IN", .list [.text "admin", .text "owner"]⟩]
        limit := some (.int 5) } := fun _ => rfl
  have hequals : Operator.normalize "=" = "=" := by decide +kernel
  have hnotIn : Operator.normalize "NOT IN" = "NOT IN" := by decide +kernel
  have hnormal : ∀ flag, (Query.collect (clauses flag)).Normal "users" columns := by
    intro flag
    constructor
    case built => exact ⟨clauses flag, rfl⟩
    case table => exact hblanks "users" (by decide)
    case columns =>
      exact ⟨["role"], rfl, List.cons_ne_nil _ _,
        List.forall_mem_singleton.mpr ⟨hblanks "role" (by decide), by decide⟩⟩
    all_goals rw [hcollect flag]
    case filters =>
      exact List.forall_mem_singleton.mpr
        ⟨hblanks "active" (by decide), hequals, fun h => absurd h (show "=" ∉ _ by decide)⟩
    case groupFilters =>
      exact List.forall_mem_singleton.mpr
        ⟨hblanks "role" (by decide), hnotIn, fun _ => ⟨_, List.cons_ne_nil _ _, rfl⟩⟩
    case grouping => exact List.forall_mem_singleton.mpr (hblanks "role" (by decide))
    case firstFilter =>
      rintro c ⟨⟩
      rfl
    case firstGroupFilter =>
      rintro c ⟨⟩
      rfl
    all_goals exact nofun
  have hwritten : ∀ {x : Except Error Compiled} {sql : String} {params : List Value},
      (x.toOption.map fun c => (c.sql d, c.params)) = some (sql, params) →
        ∃ c, x = .ok c ∧ c.sql d = sql ∧ c.params = params := by
    intro x sql params h
    cases x with
    | error e => cases h
    | ok c =>
      cases h
      exact ⟨c, rfl, rfl, rfl⟩
  let sql := "SELECT \"role\" FROM \"users\" WHERE \"active\" = ? " ++
    "GROUP BY \"role\" HAVING \"role\" NOT IN (?, ?) LIMIT 5"
  obtain ⟨c, hc, hsql, hparams⟩ := @hwritten (q.compileSelect "users" columns) sql
    [.bool true, .text "admin", .text "owner"] (by decide +kernel)
  obtain ⟨c', hc', hsql', hparams'⟩ := @hwritten (q'.compileSelect "users" columns) sql
    [.int 1, .text "admin", .text "owner"] (by decide +kernel)
  have htexts := hsql.trans hsql'.symm
  have hequal : Value.equalLists c.params c'.params = true := by
    rw [hparams, hparams']
    simp [Value.equalLists, Value.equal, Value.equalScalar, Value.magnitude?, Magnitude.equal]
  obtain ⟨-, -, -, halike⟩ := Query.compileSelect_unambiguous d (hnormal (.bool true))
    (hnormal (.int 1)) hc hc' htexts
  exact ⟨hnormal _, hnormal _, c, c', hc, hc', htexts, hequal, by decide +kernel, halike hequal⟩

end BoundSql
