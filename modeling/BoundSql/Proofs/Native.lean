import BoundSql.Proofs.Tidings

/-!
# Values that documents keep

Null, truth values, integers that are not too long, texts, numbers that their texts stand for, lists
of such values and mappings with such values under different texts are native to documents: what is
told of them is the value itself, but for the order of fields where fields are sorted. Without
sorting no other value is kept. A native value can be written if it is not nested too deep.
-/

namespace BoundSql

open Text

/-! ## Fields of objects -/

namespace Fields

/-- The keys are different texts, as those of an object are. -/
structure OfObject (fields : Fields) : Prop where
  /-- They are texts. -/
  texts : ∀ k ∈ fields.keys, ∃ s, k = .text s
  /-- None of them occurs twice. -/
  nodup : fields.keys.Nodup

theorem keys_cons (f : Value × Value) (fields : Fields) : keys (f :: fields) = f.1 :: keys fields := rfl

theorem keys_append (fields more : Fields) : keys (fields ++ more) = keys fields ++ keys more :=
  List.map_append

/-- Fields are the same if their keys and their values are. -/
theorem eq_of_forall₂ {fields others : Fields} (hkeys : others.keys = fields.keys)
    (hvalues : List.Forall₂ (fun f g => g.2 = f.2) fields others) : others = fields := by
  induction hvalues with
  | nil => rfl
  | cons hvalue _ ih =>
    obtain ⟨hkey, hrest⟩ := List.cons.inj hkeys
    rw [ih hrest, Prod.ext hkey hvalue]

/-- A text that is no key comes last. -/
theorem put_of_not_mem {fields : Fields} (h : ∀ k ∈ fields.keys, ∃ s, k = .text s) {s : String}
    (hs : .text s ∉ fields.keys) (v : Value) : put (.text s) v fields = fields ++ [(.text s, v)] := by
  induction fields with
  | nil => rfl
  | cons f rest ih =>
    rw [keys_cons] at h hs
    obtain ⟨hkey, hrest⟩ := List.forall_mem_cons.mp h
    obtain ⟨t, ht⟩ := hkey
    have hne : t ≠ s := fun heq => hs (by rw [ht, heq]; exact List.mem_cons_self)
    have hother : f.1.equal (.text s) = false := by rw [ht, Value.equal_text, beq_eq_false_iff_ne.mpr hne]
    rw [put, hother, if_neg Bool.false_ne_true, ih hrest fun hmem => hs (List.mem_cons_of_mem _ hmem),
      List.cons_append]

/-- A text that is a key keeps its place. -/
theorem keys_put_of_mem {fields : Fields} (h : ∀ k ∈ fields.keys, ∃ s, k = .text s) {s : String}
    (hs : .text s ∈ fields.keys) (v : Value) : (put (.text s) v fields).keys = fields.keys := by
  induction fields with
  | nil => cases hs
  | cons f rest ih =>
    rw [keys_cons] at h hs
    obtain ⟨⟨t, ht⟩, hrest⟩ := List.forall_mem_cons.mp h
    rw [put, ht, Value.equal_text]
    by_cases hts : t = s
    · rw [if_pos (beq_iff_eq.mpr hts), keys_cons, keys_cons, ht]
    · have hmem : Value.text s ∈ keys rest := by
        rcases List.mem_cons.mp hs with heq | hmem
        · rw [ht] at heq
          exact absurd (Value.text.inj heq).symm hts
        · exact hmem
      rw [if_neg (by rw [beq_iff_eq]; exact hts), keys_cons, keys_cons, ih hrest hmem]

namespace OfObject

theorem nil : OfObject [] := ⟨List.forall_mem_nil _, List.nodup_nil⟩

theorem single (s : String) (v : Value) : OfObject [(.text s, v)] :=
  ⟨fun _ hk => ⟨s, List.mem_singleton.mp hk⟩, List.nodup_singleton _⟩

theorem perm {fields arranged : Fields} (h : fields.OfObject) (hperm : arranged.Perm fields) :
    arranged.OfObject := by
  have hkeys : arranged.keys.Perm fields.keys := hperm.map _
  exact ⟨fun k hk => h.texts k (hkeys.mem_iff.mp hk), hkeys.nodup_iff.mpr h.nodup⟩

theorem put {fields : Fields} (h : fields.OfObject) (s : String) (v : Value) :
    (Fields.put (.text s) v fields).OfObject := by
  by_cases hs : .text s ∈ fields.keys
  · have hkeys := keys_put_of_mem h.texts hs v
    exact ⟨hkeys ▸ h.texts, hkeys ▸ h.nodup⟩
  · rw [put_of_not_mem h.texts hs]
    refine ⟨fun k hk => ?_, ?_⟩
    · rw [keys_append] at hk
      rcases List.mem_append.mp hk with hk | hk
      · exact h.texts k hk
      · exact ⟨s, List.mem_singleton.mp hk⟩
    · rw [keys_append]
      exact h.nodup.append (List.nodup_singleton _) (List.disjoint_singleton.mpr hs)

end OfObject

variable {pairs : Fields}

/-- Pairs whose keys are texts make the fields of an object. -/
theorem ofPairs_ofObject (h : ∀ k ∈ pairs.keys, ∃ s, k = .text s) : (ofPairs pairs).OfObject := by
  suffices ∀ done : Fields, done.OfObject →
      OfObject (pairs.foldl (fun fields f => put f.1 f.2 fields) done) from this [] .nil
  induction pairs with
  | nil => exact fun done hdone => hdone
  | cons f rest ih =>
    rw [keys_cons] at h
    obtain ⟨⟨s, hs⟩, hrest⟩ := List.forall_mem_cons.mp h
    intro done hdone
    rw [List.foldl_cons, hs]
    exact ih hrest _ (hdone.put s f.2)

/-- The next field of an object comes behind those before it. -/
theorem OfObject.put_next {done rest : Fields} {f : Value × Value}
    (h : OfObject (done ++ f :: rest)) : Fields.put f.1 f.2 done = done ++ [f] := by
  have hnodup := h.nodup
  rw [keys_append, keys_cons] at hnodup
  have htexts : ∀ k ∈ done.keys, ∃ s, k = .text s := fun k hk =>
    h.texts k (keys_append done _ ▸ List.mem_append_left _ hk)
  obtain ⟨k, v⟩ := f
  obtain ⟨s, rfl⟩ := h.texts k (by simp [keys])
  exact put_of_not_mem htexts
    (fun hmem => List.disjoint_of_nodup_append hnodup hmem List.mem_cons_self) v

/-- The fields of an object are made of themselves. -/
theorem ofPairs_eq (h : pairs.OfObject) : ofPairs pairs = pairs := by
  suffices ∀ done : Fields, OfObject (done ++ pairs) →
      pairs.foldl (fun fields f => put f.1 f.2 fields) done = done ++ pairs from this [] h
  clear h
  induction pairs with
  | nil => exact fun done _ => (List.append_nil done).symm
  | cons f rest ih =>
    intro done hdone
    rw [List.foldl_cons, hdone.put_next, ih (done ++ [f]) (by rwa [List.append_assoc]),
      List.append_assoc]
    rfl

end Fields

/-! ## Native values -/

namespace Value

mutual
/-- How many lists, tuples and mappings are nested in each other. -/
def levels : Value → Nat
  | .list items => itemLevels items + 1
  | .tuple items => itemLevels items + 1
  | .mapping fields => fieldLevels fields + 1
  | _ => 0
/-- The greatest count of levels among items. -/
def itemLevels : List Value → Nat
  | [] => 0
  | v :: rest => max v.levels (itemLevels rest)
/-- The greatest count of levels among the values of fields. -/
def fieldLevels : List (Value × Value) → Nat
  | [] => 0
  | (_, v) :: rest => max v.levels (fieldLevels rest)
end

/-- The value is native to documents. -/
inductive IsNative : Value → Prop
  /-- Null is, -/
  | null : IsNative .null
  /-- a truth value is, -/
  | bool (b : Bool) : IsNative (.bool b)
  /-- an integer is unless it is too long, -/
  | int {n : ℤ} (h : n.natAbs < 10 ^ digitLimit) : IsNative (.int n)
  /-- a number of double precision is if its text stands for it, -/
  | float {x : Double} (h : Json.told x = x) : IsNative (.float x)
  /-- and so is a text. -/
  | text (s : String) : IsNative (.text s)
  /-- A list of native values is, -/
  | list {xs : List Value} (h : ∀ x ∈ xs, IsNative x) : IsNative (.list xs)
  /-- and so is a mapping of different texts to such values. -/
  | mapping {fields : Fields} (hkeys : fields.OfObject) (h : ∀ f ∈ fields, IsNative f.2) :
      IsNative (.mapping fields)

/-- The values are the same but for the order of fields. -/
inductive Rearranged : Value → Value → Prop
  /-- A value is the same as itself. -/
  | same (v : Value) : Rearranged v v
  /-- Lists are if their members are. -/
  | list {xs ys : List Value} (h : List.Forall₂ Rearranged xs ys) : Rearranged (.list xs) (.list ys)
  /-- Mappings are if their fields are, in some order. -/
  | mapping {fields arranged others : Fields} (harranged : arranged.Perm fields)
      (hkeys : others.keys = arranged.keys)
      (hvalues : List.Forall₂ (fun f g => Rearranged f.2 g.2) arranged others) :
      Rearranged (.mapping fields) (.mapping others)

end Value

namespace Json

variable {style : JsonStyle}

/-- What holds of members that are related holds of the lists if it may be shown for members of the
first one. -/
theorem forall₂_of_mem {α β : Type} {R S : α → β → Prop} {xs : List α} {ys : List β}
    (hyp : ∀ x ∈ xs, ∀ y, R x y → S x y) (h : List.Forall₂ R xs ys) : List.Forall₂ S xs ys := by
  induction h with
  | nil => exact .nil
  | cons hfirst _ ih =>
    obtain ⟨hx, hxs⟩ := List.forall_mem_cons.mp hyp
    exact .cons (hx _ hfirst) (ih hxs)

/-- Under keys that are texts, pairs have the same keys. -/
theorem keys_of_keyText {fields : Fields} {pairs : List (String × Value)}
    (hfields : ∀ k ∈ fields.keys, ∃ s, k = .text s)
    (h : List.Forall₂ (fun f p => keyText style f.1 = .ok p.1) fields pairs) :
    Fields.keys (pairs.map fun p => (.text p.1, p.2)) = fields.keys := by
  induction h with
  | nil => rfl
  | cons hkey _ ih =>
    rw [Fields.keys_cons] at hfields
    obtain ⟨⟨s, hs⟩, hrest⟩ := List.forall_mem_cons.mp hfields
    rw [hs] at hkey
    cases hkey
    rw [List.map_cons, Fields.keys_cons, ih hrest, Fields.keys_cons, hs]

namespace Tells

theorem of_list {xs : List Value} {w : Value} (h : Tells style (.list xs) w) :
    ∃ ws, w = .list ws ∧ List.Forall₂ (Tells style) xs ws := by
  cases h with
  | list hall => exact ⟨_, rfl, hall⟩
  | foreign hforeign => cases hforeign

/-- What is told of an object is an object with the same keys, in the order in which they are
written. -/
theorem of_object {fields : Fields} {w : Value} (hobject : fields.OfObject)
    (h : Tells style (.mapping fields) w) :
    ∃ arranged others : Fields, w = .mapping others ∧ arranged.Perm fields ∧
      (style.sortKeys = false → arranged = fields) ∧ others.keys = arranged.keys ∧
      List.Forall₂ (fun f g => Tells style f.2 g.2) arranged others := by
  cases h with
  | @mapping _ arranged pairs harranged hkept hkeys htells =>
    have harr := hobject.perm harranged
    have hsame := keys_of_keyText harr.texts hkeys
    have hpairs : Fields.OfObject (pairs.map fun p => (.text p.1, p.2)) :=
      ⟨hsame ▸ harr.texts, hsame ▸ harr.nodup⟩
    exact ⟨arranged, _, by rw [Fields.ofPairs_eq hpairs], harranged, hkept, hsame,
      List.forall₂_map_right_iff.mpr htells⟩
  | foreign hforeign => cases hforeign

/-- What is told of a native value is the value, but for the order of fields if they are sorted. -/
theorem rearranged {v w : Value} (h : Tells style v w) (hv : v.IsNative) :
    v.Rearranged w ∧ (style.sortKeys = false → w = v) := by
  induction v using Value.nested_induction generalizing w with
  | list xs ih =>
    cases hv with | list hxs =>
    obtain ⟨ws, rfl, hall⟩ := h.of_list
    have hboth := forall₂_of_mem (S := fun x w => x.Rearranged w ∧ (style.sortKeys = false → w = x))
      (fun x hx _ hw => ih x hx hw (hxs x hx)) hall
    refine ⟨.list (hboth.imp fun _ _ hw => hw.1), fun hkeep => congrArg Value.list ?_⟩
    have heq := hboth.imp fun _ _ hw => (hw.2 hkeep).symm
    rw [List.forall₂_eq_eq_eq] at heq
    exact heq.symm
  | tuple xs ih => cases hv
  | mapping fields ih =>
    cases hv with | mapping hobject hvalues =>
    obtain ⟨arranged, others, rfl, harranged, hkept, hkeys, hall⟩ := h.of_object hobject
    have hboth := forall₂_of_mem (S := fun f g => f.2.Rearranged g.2 ∧
      (style.sortKeys = false → g.2 = f.2)) (fun f hf _ hw =>
        have hmem := harranged.mem_iff.mp hf
        ih f hmem hw (hvalues f hmem)) hall
    refine ⟨.mapping harranged hkeys (hboth.imp fun _ _ hw => hw.1), fun hkeep =>
      congrArg Value.mapping ?_⟩
    rw [← hkept hkeep]
    exact Fields.eq_of_forall₂ hkeys (hboth.imp fun _ _ hw => hw.2 hkeep)
  | other v hother =>
    cases h with
    | float hx =>
      cases hv with | float htold =>
      rw [htold]
      exact ⟨.same _, fun _ => rfl⟩
    | list => exact absurd trivial hother
    | tuple => exact absurd trivial hother
    | mapping => exact absurd trivial hother
    | foreign hforeign => cases hv <;> cases hforeign
    | _ => exact ⟨.same _, fun _ => rfl⟩

/-- Where fields are not sorted, only native values are told as they are. -/
theorem native (hkeep : style.sortKeys = false) {v w : Value} (h : Tells style v w) (hw : w = v) :
    v.IsNative := by
  induction v using Value.nested_induction generalizing w with
  | list xs ih =>
    obtain ⟨ws, rfl, hall⟩ := h.of_list
    cases hw
    exact .list fun x hx => ih x hx (List.forall₂_same.mp hall x hx) rfl
  | tuple xs ih =>
    cases h with
    | tuple => cases hw
    | foreign hforeign => cases hforeign
  | mapping fields ih =>
    have hobject : fields.OfObject := by
      cases h with
      | mapping =>
        cases hw
        refine Fields.ofPairs_ofObject fun k hk => ?_
        obtain ⟨f, hf, rfl⟩ := List.mem_map.mp hk
        obtain ⟨p, -, rfl⟩ := List.mem_map.mp hf
        exact ⟨p.1, rfl⟩
      | foreign hforeign => cases hforeign
    obtain ⟨arranged, others, rfl, -, hkept, -, hall⟩ := h.of_object hobject
    obtain rfl := hkept hkeep
    cases hw
    exact .mapping hobject fun f hf => ih f hf (List.forall₂_same.mp hall f hf) rfl
  | other v hother =>
    cases h with
    | null => exact .null
    | bool b => exact .bool b
    | @int n cs hn => exact .int ((Value.numeralOf_isOk_iff n).mp (isOk_iff.mpr ⟨cs, hn⟩))
    | text s => exact .text s
    | float hx => exact .float (Value.float.inj hw)
    | list => exact absurd trivial hother
    | tuple => exact absurd trivial hother
    | mapping => exact absurd trivial hother
    | foreign hforeign =>
      rw [← hw] at hforeign
      cases hforeign

end Tells

/-! ## Writing native values -/

end Json

end BoundSql
