import BoundSql.Proofs.References

/-!
# Settings with their references resolved

The references of a settings tree are those of its texts, in the order in which the tree is walked.
If each of them can be resolved, the tree is filled: it keeps its form, its keys and everything that
is no text, and a text keeps what stands around its references. Otherwise the first of them that
cannot be resolved is named. What a variable holds is put in as it is, so it is not read again.
-/

namespace BoundSql

open Text

namespace Value

mutual
/-- The texts of a settings tree in the order in which it is walked. Keys are none of them. -/
def texts : Value → List String
  | .text s => [s]
  | .list items => textsOfItems items
  | .mapping fields => textsOfFields fields
  | _ => []
/-- The texts of the items of a list. -/
def textsOfItems : List Value → List String
  | [] => []
  | v :: rest => v.texts ++ textsOfItems rest
/-- The texts of the values of a mapping. -/
def textsOfFields : List (Value × Value) → List String
  | [] => []
  | (_, v) :: rest => v.texts ++ textsOfFields rest
end

end Value

namespace EnvReference

variable {α β : Type} {env : Environment} {v w : Value} {r : EnvReference} {s t : List Char}
  {ps : List Piece} {refs more : List EnvReference}

/-! ## What references stand for -/

/-- The variable is set, or there is a fallback. -/
def Resolvable (env : Environment) (r : EnvReference) : Prop :=
  (∃ value, env.lookup (String.ofList r.name) = some value) ∨ ∃ text, r.fallback = some text

/-- What a reference stands for. -/
inductive Stands (env : Environment) (r : EnvReference) : List Char → Prop where
  /-- What the variable holds, as it is. -/
  | value {value : String} (isSet : env.lookup (String.ofList r.name) = some value) :
      Stands env r value.toList
  /-- The fallback of a variable that is not set, without the blanks at its ends. -/
  | fallback {text : List Char} (unset : env.lookup (String.ofList r.name) = none)
      (given : r.fallback = some text) : Stands env r (trim text)

/-- A text written out: its characters, and in place of each reference what it stands for. -/
inductive WrittenOut (env : Environment) : List Piece → List Char → Prop where
  /-- Nothing is left. -/
  | done : WrittenOut env [] []
  /-- A character stays. -/
  | char {c : Char} {ps : List Piece} {t : List Char} (rest : WrittenOut env ps t) :
      WrittenOut env (.char c :: ps) (c :: t)
  /-- A reference makes room. -/
  | reference {r : EnvReference} {ps : List Piece} {value t : List Char}
      (stands : Stands env r value) (rest : WrittenOut env ps t) :
      WrittenOut env (.reference r :: ps) (value ++ t)

mutual
/-- A settings tree is filled. -/
inductive Filled (env : Environment) : Value → Value → Prop where
  /-- A text is written out. -/
  | text {s : String} {ps : List Piece} {t : List Char} (scanned : Scanned s.toList ps)
      (out : WrittenOut env ps t) : Filled env (.text s) (.text (String.ofList t))
  /-- A list keeps its length. -/
  | list {items others : List Value} (each : FilledItems env items others) :
      Filled env (.list items) (.list others)
  /-- A mapping keeps its keys and their order. -/
  | mapping {fields others : List (Value × Value)} (each : FilledFields env fields others) :
      Filled env (.mapping fields) (.mapping others)
  /-- Anything else stays as it is. -/
  | other {v : Value} (noText : ∀ s, v ≠ .text s) (noList : ∀ items, v ≠ .list items)
      (noMapping : ∀ fields, v ≠ .mapping fields) : Filled env v v
/-- Items are filled one by one. -/
inductive FilledItems (env : Environment) : List Value → List Value → Prop where
  /-- No item is left. -/
  | done : FilledItems env [] []
  /-- An item is filled. -/
  | item {v w : Value} {rest others : List Value} (first : Filled env v w)
      (more : FilledItems env rest others) : FilledItems env (v :: rest) (w :: others)
/-- Fields are filled one by one under their keys. -/
inductive FilledFields (env : Environment) :
    List (Value × Value) → List (Value × Value) → Prop where
  /-- No field is left. -/
  | done : FilledFields env [] []
  /-- The value of a field is filled. -/
  | field {key v w : Value} {rest others : List (Value × Value)} (first : Filled env v w)
      (more : FilledFields env rest others) :
      FilledFields env ((key, v) :: rest) ((key, w) :: others)
end

/-! ## The references of a tree -/

/-- The references among pieces. -/
def amongPieces : List Piece → List EnvReference
  | [] => []
  | .char _ :: ps => amongPieces ps
  | .reference r :: ps => r :: amongPieces ps

/-- Texts refer to variables by these references, from the first text to the last. -/
inductive Mentioned : List String → List EnvReference → Prop where
  /-- No text is left. -/
  | done : Mentioned [] []
  /-- The references of a text come in front of those of the texts behind it. -/
  | text {s : String} {ps : List Piece} {rest : List String} {refs : List EnvReference}
      (scanned : Scanned s.toList ps) (more : Mentioned rest refs) :
      Mentioned (s :: rest) (amongPieces ps ++ refs)

theorem Mentioned.append {first second : List String} (h : Mentioned first refs)
    (hmore : Mentioned second more) : Mentioned (first ++ second) (refs ++ more) := by
  induction h with
  | done => exact hmore
  | text scanned _ ih =>
    rw [List.cons_append, List.append_assoc]
    exact .text scanned ih

/-- Texts have the references that are among their pieces and no others. -/
theorem mentioned_iff {texts : List String} :
    Mentioned texts refs ↔ refs = texts.flatMap fun s => amongPieces (pieces s.toList) := by
  constructor
  · intro h
    induction h with
    | done => rfl
    | text scanned _ ih => rw [scanned.eq_pieces, ih, List.flatMap_cons]
  · rintro rfl
    induction texts with
    | nil => exact .done
    | cons s texts ih => exact .text (scanned_pieces s.toList) ih

/-! ## References resolved in turn -/

/-- What resolving references in turn comes to. -/
inductive Resolves (env : Environment) (P : α → Prop) :
    List EnvReference → Except Error α → Prop where
  /-- Each of them can be resolved. -/
  | all {refs : List EnvReference} {a : α} (each : ∀ r ∈ refs, r.Resolvable env) (result : P a) :
      Resolves env P refs (.ok a)
  /-- The first that cannot be is named. -/
  | first {before after : List EnvReference} {r : EnvReference}
      (each : ∀ q ∈ before, q.Resolvable env) (unset : ¬ r.Resolvable env) :
      Resolves env P (before ++ r :: after)
        (.error (.configuration (.unsetVariable (String.ofList r.name))))

namespace Resolves

variable {P : α → Prop} {Q : β → Prop} {x : Except Error α}

theorem pure {a : α} (h : P a) : Resolves env P [] (.ok a) :=
  .all (fun _ hr => absurd hr List.not_mem_nil) h

/-- One after the other. -/
theorem bind {f : α → Except Error β} (h : Resolves env P refs x)
    (hmore : ∀ a, P a → Resolves env Q more (f a)) : Resolves env Q (refs ++ more) (x >>= f) := by
  cases h with
  | @all _ a each result =>
    have hnext := hmore a result
    change Resolves env Q (refs ++ more) (f a)
    generalize f a = y at hnext ⊢
    cases hnext with
    | all each' result' =>
      refine .all (fun r hr => ?_) result'
      exact (List.mem_append.mp hr).elim (each r) (each' r)
    | first each' unset =>
      rw [← List.append_assoc]
      refine .first (fun q hq => ?_) unset
      exact (List.mem_append.mp hq).elim (each q) (each' q)
  | first each unset =>
    rw [List.append_assoc]
    exact .first each unset

theorem map {f : α → β} (h : Resolves env P refs x) (hf : ∀ a, P a → Q (f a)) :
    Resolves env Q refs (x.map f) := by
  cases h with
  | all each result => exact .all each (hf _ result)
  | first each unset => exact .first each unset

/-- The last of them, with the result made of what it stands for. -/
theorem bindOk {f : α → β} (h : Resolves env P refs x) (hf : ∀ a, P a → Q (f a)) :
    Resolves env Q refs (x >>= fun a => .ok (f a)) := by
  cases h with
  | all each result => exact .all each (hf _ result)
  | first each unset => exact .first each unset

/-- It goes well just if each of them can be resolved. -/
theorem exists_ok_iff (h : Resolves env P refs x) :
    (∃ a, x = .ok a) ↔ ∀ r ∈ refs, r.Resolvable env := by
  cases h with
  | all each result => exact ⟨fun _ => each, fun _ => ⟨_, rfl⟩⟩
  | first each unset =>
    refine ⟨fun ⟨a, ha⟩ => (by cases ha), fun hall => ?_⟩
    exact absurd (hall _ (List.mem_append_right _ List.mem_cons_self)) unset

end Resolves

theorem resolve_resolves (env : Environment) (r : EnvReference) :
    Resolves env (Stands env r) [r] (r.resolve env) := by
  have hsingle : r.Resolvable env → ∀ q ∈ [r], q.Resolvable env := fun h q hq =>
    List.mem_singleton.mp hq ▸ h
  rw [resolve]
  cases hlookup : env.lookup (String.ofList r.name) with
  | some value => exact .all (hsingle (.inl ⟨value, hlookup⟩)) (.value hlookup)
  | none =>
    cases hfallback : r.fallback with
    | some text => exact .all (hsingle (.inr ⟨text, hfallback⟩)) (.fallback hlookup hfallback)
    | none =>
      have hunset : ¬ r.Resolvable env := by
        rintro (⟨value, hvalue⟩ | ⟨text, htext⟩)
        · rw [hlookup] at hvalue
          cases hvalue
        · rw [hfallback] at htext
          cases htext
      rw [← List.nil_append [r]]
      exact .first (fun q hq => absurd hq List.not_mem_nil) hunset

theorem resolvePieces_resolves (env : Environment) (ps : List Piece) :
    Resolves env (WrittenOut env ps) (amongPieces ps) (resolvePieces env ps) := by
  induction ps with
  | nil => exact .pure .done
  | cons p ps ih =>
    cases p with
    | char c => exact ih.bindOk fun t rest => .char rest
    | reference r =>
      exact (resolve_resolves env r).bind fun value stands =>
        ih.bindOk fun t rest => .reference stands rest

theorem expandText_resolves (env : Environment) (s : String) :
    Resolves env (Filled env (.text s)) (amongPieces (pieces s.toList))
      ((expandText env s).map .text) :=
  ((resolvePieces_resolves env _).map (Q := fun t => Filled env (.text s) (.text t))
    fun _ out => .text (scanned_pieces s.toList) out).map fun _ h => h

mutual
/-- The references of a tree are resolved in the order in which it is walked. -/
theorem expand_resolves (env : Environment) (v : Value) :
    ∃ refs, Mentioned v.texts refs ∧ Resolves env (Filled env v) refs (expand env v) := by
  cases v with
  | text s =>
    refine ⟨_, .text (scanned_pieces s.toList) .done, ?_⟩
    rw [List.append_nil]
    exact expandText_resolves env s
  | list items =>
    obtain ⟨refs, hrefs, h⟩ := expandItems_resolves env items
    exact ⟨refs, hrefs, h.map fun _ each => .list each⟩
  | mapping fields =>
    obtain ⟨refs, hrefs, h⟩ := expandFields_resolves env fields
    exact ⟨refs, hrefs, h.map fun _ each => .mapping each⟩
  | _ =>
    exact ⟨[], .done, .pure (.other (fun _ => nofun) (fun _ => nofun) fun _ => nofun)⟩
theorem expandItems_resolves (env : Environment) (items : List Value) :
    ∃ refs, Mentioned (Value.textsOfItems items) refs ∧
      Resolves env (FilledItems env items) refs (expandItems env items) := by
  cases items with
  | nil => exact ⟨[], .done, .pure .done⟩
  | cons v rest =>
    obtain ⟨refs, hrefs, hfirst⟩ := expand_resolves env v
    obtain ⟨more, hmore, hrest⟩ := expandItems_resolves env rest
    refine ⟨refs ++ more, hrefs.append hmore, ?_⟩
    exact hfirst.bind fun w first => hrest.bindOk fun others more => .item first more
theorem expandFields_resolves (env : Environment) (fields : List (Value × Value)) :
    ∃ refs, Mentioned (Value.textsOfFields fields) refs ∧
      Resolves env (FilledFields env fields) refs (expandFields env fields) := by
  cases fields with
  | nil => exact ⟨[], .done, .pure .done⟩
  | cons field rest =>
    obtain ⟨key, v⟩ := field
    obtain ⟨refs, hrefs, hfirst⟩ := expand_resolves env v
    obtain ⟨more, hmore, hrest⟩ := expandFields_resolves env rest
    refine ⟨refs ++ more, hrefs.append hmore, ?_⟩
    exact hfirst.bind fun w first => hrest.bindOk fun others more => .field first more
end

/-! ## A tree is filled in one way -/

theorem Stands.resolve_eq (h : Stands env r t) : r.resolve env = .ok t := by
  cases h with
  | value isSet => rw [resolve, isSet]
  | fallback unset given => rw [resolve, unset, given]

theorem WrittenOut.resolvePieces_eq (h : WrittenOut env ps t) : resolvePieces env ps = .ok t := by
  induction h with
  | done => rfl
  | char _ ih =>
    rw [resolvePieces, ih]
    rfl
  | reference stands _ ih =>
    rw [resolvePieces, stands.resolve_eq, ih]
    rfl

mutual
theorem Filled.expand_eq {v w : Value} (h : Filled env v w) : expand env v = .ok w := by
  cases h with
  | text scanned out =>
    rw [expand, expandText, ← scanned.eq_pieces, out.resolvePieces_eq]
    rfl
  | list each =>
    rw [expand, each.expandItems_eq]
    rfl
  | mapping each =>
    rw [expand, each.expandFields_eq]
    rfl
  | other noText noList noMapping =>
    cases v with
    | text s => exact absurd rfl (noText s)
    | list items => exact absurd rfl (noList items)
    | mapping fields => exact absurd rfl (noMapping fields)
    | _ => rfl
theorem FilledItems.expandItems_eq {items others : List Value} (h : FilledItems env items others) :
    expandItems env items = .ok others := by
  cases h with
  | done => rfl
  | item first more =>
    rw [expandItems, first.expand_eq, more.expandItems_eq]
    rfl
theorem FilledFields.expandFields_eq {fields others : List (Value × Value)}
    (h : FilledFields env fields others) : expandFields env fields = .ok others := by
  cases h with
  | done => rfl
  | field first more =>
    rw [expandFields, first.expand_eq, more.expandFields_eq]
    rfl
end

/-- A tree has one list of references. It can be expanded just if each of them can be resolved, the
result is the tree with its references filled and nothing else, and an error names the first
reference that cannot be resolved. -/
theorem expand_fills_references (env : Environment) (v : Value) :
    ∃ refs, Mentioned v.texts refs ∧ (∀ others, Mentioned v.texts others → others = refs) ∧
      ((∃ w, expand env v = .ok w) ↔ ∀ r ∈ refs, r.Resolvable env) ∧
      (∀ w, expand env v = .ok w ↔ Filled env v w) ∧
      ∀ e, expand env v = .error e → ∃ before r after, refs = before ++ r :: after ∧
        (∀ q ∈ before, q.Resolvable env) ∧ ¬ r.Resolvable env ∧
        e = .configuration (.unsetVariable (String.ofList r.name)) := by
  obtain ⟨refs, hrefs, h⟩ := expand_resolves env v
  refine ⟨refs, hrefs, fun others hothers => ?_, h.exists_ok_iff, fun w => ?_, fun e he => ?_⟩
  · rw [mentioned_iff.mp hothers, mentioned_iff.mp hrefs]
  · refine ⟨fun hw => ?_, Filled.expand_eq⟩
    rw [hw] at h
    cases h with
    | all _ result => exact result
  · rw [he] at h
    cases h with
    | first each unset => exact ⟨_, _, _, rfl, each, unset, rfl⟩

end EnvReference

end BoundSql
