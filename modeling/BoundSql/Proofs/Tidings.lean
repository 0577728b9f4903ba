import BoundSql.Proofs.Documents
import BoundSql.Proofs.Sorting

/-!
# What documents tell

A document tells a value that need not be the one it was written for: a tuple becomes a list, a key
becomes a text, and what has no form of its own becomes its text. What is told does not depend on
escapes and indentation, and sorting changes nothing but the order of fields. Every document in a
legible style is read, and what is read is what it tells.
-/

namespace BoundSql

open Text

/-! ## Nested values -/

namespace Value

/-- The value is a list, a tuple or a mapping. -/
def IsNested : Value → Prop
  | .list _ => True
  | .tuple _ => True
  | .mapping _ => True
  | _ => False

/-- What holds of lists, tuples and mappings when it holds of their members, and of every other
value, holds of all values. -/
theorem nested_induction {P : Value → Prop} (list : ∀ xs, (∀ x ∈ xs, P x) → P (.list xs))
    (tuple : ∀ xs, (∀ x ∈ xs, P x) → P (.tuple xs))
    (mapping : ∀ fields : Fields, (∀ f ∈ fields, P f.2) → P (.mapping fields))
    (other : ∀ v, ¬ v.IsNested → P v) (v : Value) : P v := by
  induction h : sizeOf v using Nat.strong_induction_on generalizing v with
  | _ size ih =>
    subst h
    cases v with
    | list xs =>
      refine list xs fun x hx => ih _ ?_ x rfl
      have hsize := List.sizeOf_lt_of_mem hx
      simp
      omega
    | tuple xs =>
      refine tuple xs fun x hx => ih _ ?_ x rfl
      have hsize := List.sizeOf_lt_of_mem hx
      simp
      omega
    | mapping fields =>
      refine mapping fields fun f hf => ih _ ?_ f.2 rfl
      have hsize := List.sizeOf_lt_of_mem hf
      obtain ⟨k, x⟩ := f
      simp at hsize ⊢
      omega
    | _ => exact other _ id

/-- The value has no form of its own in a document. -/
def IsForeign : Value → Prop
  | .null => False
  | .bool _ => False
  | .int _ => False
  | .float _ => False
  | .text _ => False
  | .list _ => False
  | .tuple _ => False
  | .mapping _ => False
  | _ => True

end Value

/-! ## Legible styles -/

/-- Documents in the style can be read: the separators are the usual ones, and lines are indented
with blanks. -/
structure JsonStyle.Legible (style : JsonStyle) : Prop where
  /-- No separators were chosen. -/
  separators : style.separators = none
  /-- A level of indentation is a text of blanks. -/
  indent : ∀ unit ∈ style.indent, Json.Blank unit.toList

namespace JsonStyle.Legible

open Json

variable {style : JsonStyle} (h : style.Legible)

include h

theorem blank_newLine (level : ℕ) : Blank (newLine style level) := by
  intro c hc
  unfold newLine at hc
  split at hc
  next unit hunit =>
    rcases List.mem_cons.mp hc with rfl | hc
    · rfl
    · obtain ⟨line, hline, hc⟩ := List.mem_flatten.mp hc
      rw [List.eq_of_mem_replicate hline] at hc
      exact h.indent unit hunit c hc
  next => exact absurd hc List.not_mem_nil

/-- Behind the comma between members there are only blanks. -/
theorem itemSeparator_eq :
    ∃ gap, style.itemSeparator.toList = ',' :: gap ∧ Blank gap := by
  unfold JsonStyle.itemSeparator
  rw [h.separators]
  dsimp only
  split
  · exact ⟨[], rfl, List.forall_mem_nil _⟩
  · exact ⟨[' '], rfl, blank_space⟩

theorem keySeparator_eq : style.keySeparator = ": " := by
  unfold JsonStyle.keySeparator
  rw [h.separators]

/-- The blanks between brackets at a level. -/
theorem exists_layout (level : ℕ) : ∃ layout : Layout, ∀ opening closing docs,
    bracketed style level opening closing docs = layout.enclose opening closing docs := by
  obtain ⟨gap, hgap, hblank⟩ := h.itemSeparator_eq
  have hline := h.blank_newLine
  refine ⟨⟨newLine style (level + 1), gap ++ newLine style (level + 1), newLine style level,
    hline _, fun c hc => (List.mem_append.mp hc).elim (hblank c) (hline _ c), hline _⟩,
    fun opening closing docs => ?_⟩
  simp only [bracketed, hgap, Layout.enclose, joined, List.cons_append, List.append_assoc]

end JsonStyle.Legible

namespace Json

/-! ## Tidings -/

/-- What a document in the style tells of a value, if there is such a document. -/
inductive Tells (style : JsonStyle) : Value → Value → Prop
  /-- Null tells itself. -/
  | null : Tells style .null .null
  /-- So does a truth value, -/
  | bool (b : Bool) : Tells style (.bool b) (.bool b)
  /-- an integer that is not too long -/
  | int {n : ℤ} {cs : List Char} (h : Value.numeralOf n = .ok cs) : Tells style (.int n) (.int n)
  /-- and a text. -/
  | text (s : String) : Tells style (.text s) (.text s)
  /-- A number of double precision tells what its text stands for. -/
  | float {x : Double} {cs : List Char} (h : number style x = .ok cs) :
      Tells style (.float x) (.float (told x))
  /-- A list tells the list of what its members tell. -/
  | list {xs ws : List Value} (h : List.Forall₂ (Tells style) xs ws) :
      Tells style (.list xs) (.list ws)
  /-- So does a tuple. -/
  | tuple {xs ws : List Value} (h : List.Forall₂ (Tells style) xs ws) :
      Tells style (.tuple xs) (.list ws)
  /-- A mapping tells the texts of the keys with what the values tell, sorted if the style says
  so. -/
  | mapping {fields arranged : Fields} {pairs : List (String × Value)}
      (harranged : arranged.Perm fields) (hkept : style.sortKeys = false → arranged = fields)
      (hkeys : List.Forall₂ (fun f p => keyText style f.1 = .ok p.1) arranged pairs)
      (hvalues : List.Forall₂ (fun f p => Tells style f.2 p.2) arranged pairs) :
      Tells style (.mapping fields)
        (.mapping (Fields.ofPairs (pairs.map fun p => (.text p.1, p.2))))
  /-- What has no form tells its text. -/
  | foreign {v : Value} (h : v.IsForeign) : Tells style v (.text v.plain)

/-- The part is one for the value at a level of nesting. -/
structure Tidings (style : JsonStyle) (level : ℕ) (v : Value) (p : Part Value) : Prop where
  /-- It is written for what is told of the value. -/
  tells : Tells style v p.value
  /-- It is not nested deeper than documents may be. -/
  fits : p.levels ≤ depthLimit - level
  /-- The reader takes it in. -/
  sound : p.Sound

theorem writeItems_eq_mapM (style : JsonStyle) (level : ℕ) (items : List Value) :
    writeItems style level items = items.mapM (writeAt style level) := by
  induction items with
  | nil => rfl
  | cons v rest ih =>
    rw [writeItems, List.mapM_cons, ih]

theorem writeFields_eq_map (style : JsonStyle) (level : ℕ) (fields : Fields) :
    writeFields style level fields = fields.map fun f => (f.1, writeAt style level f.2) := by
  induction fields with
  | nil => rfl
  | cons f rest ih => rw [writeFields, ih, List.map_cons]

/-- Members that are given one by one are given together. -/
theorem exists_forall₂ {α β γ : Type} {P : α → β → Prop} {R : α → γ → Prop} {g : γ → β}
    {xs : List α} {ys : List β} (hyp : ∀ x ∈ xs, ∀ y, P x y → ∃ z, g z = y ∧ R x z)
    (h : List.Forall₂ P xs ys) : ∃ zs, zs.map g = ys ∧ List.Forall₂ R xs zs := by
  induction h with
  | nil => exact ⟨[], rfl, .nil⟩
  | cons hfirst _ ih =>
    obtain ⟨hx, hxs⟩ := List.forall_mem_cons.mp hyp
    obtain ⟨z, rfl, hz⟩ := hx _ hfirst
    obtain ⟨zs, rfl, hzs⟩ := ih hxs
    exact ⟨z :: zs, rfl, .cons hz hzs⟩

/-- What holds of the second of two members holds of every member of the second list. -/
theorem forall_mem_of_forall₂ {α β : Type} {R : α → β → Prop} {Q : β → Prop}
    (hyp : ∀ x y, R x y → Q y) {xs : List α} {ys : List β} (h : List.Forall₂ R xs ys) :
    ∀ y ∈ ys, Q y := by
  induction h with
  | nil => exact List.forall_mem_nil _
  | cons hfirst _ ih => exact List.forall_mem_cons.mpr ⟨hyp _ _ hfirst, ih⟩

variable {style : JsonStyle}

theorem lt_of_checkLevel {level : ℕ} {u : Unit} (h : checkLevel style level = .ok u) :
    level < depthLimit := by
  unfold checkLevel at h
  split at h
  · assumption
  · cases h

/-- The deepest of parts a level deeper leaves room for the brackets around them. -/
theorem whole_fits {α : Type} {level : ℕ} {parts : List (Part α)} (hlevel : level < depthLimit)
    (h : ∀ p ∈ parts, p.levels ≤ depthLimit - (level + 1)) :
    Part.deepest parts + 1 ≤ depthLimit - level := by
  have hdeepest := Part.deepest_le h
  omega

/-- Tidings of members are tidings of the list, whether it was one or a tuple. -/
theorem tidings_items {level : ℕ} {items : List Value} {parts : List (Part Value)}
    (layout : Layout) (hlevel : level < depthLimit)
    (h : List.Forall₂ (Tidings style (level + 1)) items parts) :
    Tidings style level (.list items) (Collection.items.whole layout parts) ∧
      Tidings style level (.tuple items) (Collection.items.whole layout parts) := by
  have htells : List.Forall₂ (Tells style) items (parts.map Part.value) :=
    List.forall₂_map_right_iff.mpr (h.imp fun _ _ hp => hp.tells)
  have hparts : ∀ p ∈ parts, p.levels ≤ depthLimit - (level + 1) ∧ p.Sound :=
    forall_mem_of_forall₂ (fun _ _ hp => ⟨hp.fits, hp.sound⟩) h
  have hfits := whole_fits hlevel fun p hp => (hparts p hp).1
  have hwhole := Collection.whole_sound layout fun p hp => Collection.items_takes (hparts p hp).2
  exact ⟨⟨.list htells, hfits, hwhole⟩, ⟨.tuple htells, hfits, hwhole⟩⟩

/-- Tidings of the values of fields are tidings of the mapping. -/
theorem tidings_fields {level : ℕ} {fields arranged : Fields} {entries : List (String × Part Value)}
    (layout : Layout) (hlevel : level < depthLimit) (harranged : arranged.Perm fields)
    (hkept : style.sortKeys = false → arranged = fields)
    (h : List.Forall₂ (fun f e => keyText style f.1 = .ok e.1 ∧ Tidings style (level + 1) f.2 e.2)
      arranged entries) :
    Tidings style level (.mapping fields) (Collection.fields.whole layout
      (entries.map fun e => Collection.field style.asciiOnly e.1 e.2)) := by
  have hkeys : List.Forall₂ (fun f p => keyText style f.1 = .ok p.1) arranged
      (entries.map fun e => (e.1, e.2.value)) :=
    List.forall₂_map_right_iff.mpr (h.imp fun _ _ he => he.1)
  have htells := Tells.mapping harranged hkept hkeys
    (List.forall₂_map_right_iff.mpr (h.imp fun _ _ he => he.2.tells))
  have hentries : ∀ e ∈ entries, e.2.levels ≤ depthLimit - (level + 1) ∧ e.2.Sound :=
    forall_mem_of_forall₂ (fun _ _ he => ⟨he.2.fits, he.2.sound⟩) h
  have hparts : ∀ p ∈ entries.map fun e => Collection.field style.asciiOnly e.1 e.2,
      p.levels ≤ depthLimit - (level + 1) ∧ Collection.fields.Takes p := by
    intro p hp
    obtain ⟨e, he, rfl⟩ := List.mem_map.mp hp
    exact ⟨(hentries e he).1, Collection.fields_takes (hentries e he).2 _ _⟩
  refine ⟨?_, whole_fits hlevel fun p hp => (hparts p hp).1,
    Collection.whole_sound layout fun p hp => (hparts p hp).2⟩
  show Tells style (.mapping fields) (.mapping (Fields.ofPairs _))
  rw [List.map_map] at htells ⊢
  exact htells

/-- A written field has a key and a written value. -/
theorem field_eq_ok {f : Value × Except Error (List Char)} {doc : List Char}
    (h : style.Legible) (hdoc : Json.field style f = .ok doc) :
    ∃ key value, keyText style f.1 = .ok key ∧ f.2 = .ok value ∧
      doc = text style.asciiOnly key ++ ':' :: ' ' :: value := by
  obtain ⟨key, hkey, hdoc⟩ := bind_eq_ok_iff.mp hdoc
  obtain ⟨value, hvalue, hdoc⟩ := bind_eq_ok_iff.mp hdoc
  cases hdoc
  rw [h.keySeparator_eq]
  exact ⟨key, value, hkey, hvalue, List.append_assoc _ _ _⟩

/-- The fields in the order in which they are written. -/
theorem exists_arranged {level : ℕ} {fields : Fields}
    {written : List (Value × Except Error (List Char))}
    (h : arrange style (writeFields style level fields) = .ok written) :
    ∃ arranged, written = writeFields style level arranged ∧ arranged.Perm fields ∧
      (style.sortKeys = false → arranged = fields) := by
  unfold arrange at h
  split at h
  next hsort =>
    have hperm := sortByKey_perm h
    rw [writeFields_eq_map] at hperm
    obtain ⟨arranged, hsame, harranged⟩ := List.perm_comp_forall₂ hperm
      (List.forall₂_map_left_iff.mpr (List.forall₂_same.mpr fun _ _ => rfl) :
        List.Forall₂ (fun w f => w = (f.1, writeAt style level f.2)) _ fields)
    refine ⟨arranged, ?_, harranged, fun hkeep => absurd hsort (by simp [hkeep])⟩
    rw [writeFields_eq_map, ← List.forall₂_eq_eq_eq]
    exact List.forall₂_map_right_iff.mpr hsame
  next =>
    cases h
    exact ⟨fields, rfl, .refl _, fun _ => rfl⟩

/-- What is neither a list, a tuple nor a mapping has a part that is written for it. -/
theorem writeAt_scalar {level : ℕ} {v : Value} {doc : List Char} (hv : ¬ v.IsNested)
    (hdoc : writeAt style level v = .ok doc) :
    ∃ w, Tells style v w ∧ (Part.mk doc w 0).Sound := by
  have hword {c : Char} {more : List Char} (hc : Leads c) :
      ∃ d rest, c :: more = d :: rest ∧ Leads d := ⟨c, more, rfl, hc⟩
  have hforeign (hv : v.IsForeign)
      (hdoc : .ok (text style.asciiOnly v.plain) = Except.ok (ε := Error) doc) :
      ∃ w, Tells style v w ∧ (Part.mk doc w 0).Sound := by
    cases hdoc
    exact ⟨_, .foreign hv, Part.sound_text _ _⟩
  cases v with
  | null =>
    cases hdoc
    exact ⟨_, .null, Part.sound_scalar (hword (.inr (by decide))) fun _ _ => rfl⟩
  | bool b =>
    cases hdoc
    refine ⟨_, .bool b, ?_⟩
    cases b with
    | true => exact Part.sound_scalar (hword (.inr (by decide))) fun _ _ => rfl
    | false => exact Part.sound_scalar (hword (.inr (by decide))) fun _ _ => rfl
  | int n =>
    exact ⟨_, .int hdoc, Part.sound_scalar (numeralOf_leads hdoc) fun _ hrest =>
      readScalar_integer hdoc hrest⟩
  | float x =>
    exact ⟨_, .float hdoc, Part.sound_scalar (number_leads hdoc) fun _ hrest =>
      readScalar_number hdoc hrest⟩
  | text s =>
    cases hdoc
    exact ⟨_, .text s, Part.sound_text _ _⟩
  | list => exact absurd trivial hv
  | tuple => exact absurd trivial hv
  | mapping => exact absurd trivial hv
  | decimal => exact hforeign trivial hdoc
  | date => exact hforeign trivial hdoc
  | time => exact hforeign trivial hdoc
  | datetime => exact hforeign trivial hdoc
  | uuid => exact hforeign trivial hdoc
  | bytes => exact hforeign trivial hdoc
  | set => exact hforeign trivial hdoc
  | record => exact hforeign trivial hdoc
  | unknown => exact hforeign trivial hdoc

/-- Where the members of a list are told, so are the list and the tuple of them. -/
theorem exists_tidings_items (h : style.Legible) {level : ℕ} {items : List Value} {doc : List Char}
    (ih : ∀ x ∈ items, ∀ doc, writeAt style (level + 1) x = .ok doc →
      ∃ p : Part Value, p.doc = doc ∧ Tidings style (level + 1) x p)
    (hdoc : writeAt style level (.list items) = .ok doc) :
    ∃ p : Part Value, p.doc = doc ∧ Tidings style level (.list items) p ∧
      Tidings style level (.tuple items) p := by
  obtain ⟨u, hlevel, hdoc⟩ := bind_eq_ok_iff.mp hdoc
  obtain ⟨docs, hdocs, hwhole⟩ := bind_eq_ok_iff.mp hdoc
  rw [writeItems_eq_mapM] at hdocs
  obtain ⟨parts, rfl, hparts⟩ := exists_forall₂ ih (mapM_eq_ok_iff.mp hdocs)
  obtain ⟨layout, hlayout⟩ := h.exists_layout level
  cases hwhole
  exact ⟨_, (hlayout _ _ _).symm, tidings_items layout (lt_of_checkLevel hlevel) hparts⟩

/-- Where the values of a mapping are told, so is the mapping. -/
theorem exists_tidings_fields (h : style.Legible) {level : ℕ} {fields : Fields} {doc : List Char}
    (ih : ∀ f ∈ fields, ∀ doc, writeAt style (level + 1) f.2 = .ok doc →
      ∃ p : Part Value, p.doc = doc ∧ Tidings style (level + 1) f.2 p)
    (hdoc : writeAt style level (.mapping fields) = .ok doc) :
    ∃ p : Part Value, p.doc = doc ∧ Tidings style level (.mapping fields) p := by
  obtain ⟨u, hlevel, hdoc⟩ := bind_eq_ok_iff.mp hdoc
  obtain ⟨written, hwritten, hdoc⟩ := bind_eq_ok_iff.mp hdoc
  obtain ⟨docs, hdocs, hwhole⟩ := bind_eq_ok_iff.mp hdoc
  obtain ⟨arranged, rfl, harranged, hkept⟩ := exists_arranged hwritten
  rw [writeFields_eq_map] at hdocs
  have hfields := List.forall₂_map_left_iff.mp (mapM_eq_ok_iff.mp hdocs)
  obtain ⟨entries, rfl, hentries⟩ := exists_forall₂
    (g := fun e : String × Part Value => (Collection.field style.asciiOnly e.1 e.2).doc)
    (R := fun f e => keyText style f.1 = .ok e.1 ∧ Tidings style (level + 1) f.2 e.2)
    (fun f hf doc hdoc => by
      obtain ⟨key, value, hkey, hvalue, rfl⟩ := field_eq_ok h hdoc
      obtain ⟨p, rfl, hp⟩ := ih f (harranged.mem_iff.mp hf) value hvalue
      exact ⟨(key, p), rfl, hkey, hp⟩) hfields
  obtain ⟨layout, hlayout⟩ := h.exists_layout level
  cases hwhole
  refine ⟨_, ?_, tidings_fields layout (lt_of_checkLevel hlevel) harranged hkept hentries⟩
  show layout.enclose '{' '}' _ = _
  rw [List.map_map, hlayout]
  rfl

/-- The part that is written for a value in a legible style is one for it. -/
theorem writeAt_tidings (h : style.Legible) {level : ℕ} {v : Value} {doc : List Char}
    (hdoc : writeAt style level v = .ok doc) :
    ∃ p : Part Value, p.doc = doc ∧ Tidings style level v p := by
  induction v using Value.nested_induction generalizing level doc with
  | list items ih =>
    obtain ⟨p, hp, hlist, -⟩ := exists_tidings_items h (fun x hx _ => ih x hx) hdoc
    exact ⟨p, hp, hlist⟩
  | tuple items ih =>
    -- a tuple is written as the list of its members is
    obtain ⟨p, hp, -, htuple⟩ := exists_tidings_items h (fun x hx _ => ih x hx) hdoc
    exact ⟨p, hp, htuple⟩
  | mapping fields ih => exact exists_tidings_fields h (fun f hf _ => ih f hf) hdoc
  | other v hv =>
    obtain ⟨w, htells, hsound⟩ := writeAt_scalar hv hdoc
    exact ⟨_, rfl, htells, Nat.zero_le _, hsound⟩

/-- The whole of a sound part is a document of its value. -/
theorem read_sound {p : Part Value} (h : p.Sound) (hdepth : p.levels ≤ depthLimit) :
    read (String.ofList p.doc) = .ok p.value := by
  have hskip := h.starts.skipBlanks []
  have hfuel : p.doc.length ≤ 2 * p.doc.length + 2 := by omega
  have hreads := h.reads hfuel hdepth ends_nil
  rw [List.append_nil] at hskip hreads
  have hmark : p.doc.head? ≠ some (Char.ofNat 0xfeff) := by
    obtain ⟨c, rest, hdoc, -, -, -, hascii⟩ := h.starts
    rw [hdoc, List.head?_cons, Ne, Option.some.injEq]
    rintro rfl
    exact absurd hascii (by decide)
  unfold read
  simp only [String.toList_ofList, hmark, if_false, hskip, hreads]
  rfl

/-- Every document in a legible style is read as what it tells. -/
theorem read_write (h : style.Legible) {v : Value} {document : String}
    (hdoc : write style v = .ok document) : ∃ w, Tells style v w ∧ read document = .ok w := by
  unfold write at hdoc
  split at hdoc
  next => cases hdoc
  next =>
    obtain ⟨doc, hwritten, rfl⟩ := map_eq_ok_iff.mp hdoc
    obtain ⟨p, rfl, htells, hfits, hsound⟩ := writeAt_tidings h hwritten
    exact ⟨p.value, htells, read_sound hsound hfits⟩

end Json

end BoundSql
