import Mathlib.Data.List.Forall2
import BoundSql.Proofs.Escapes
import BoundSql.Proofs.Literals
import BoundSql.Proofs.Results

/-!
# Lists and objects in documents

A part of a document is sound when the reader takes in exactly the part and gives its value,
whatever follows that a number could not go on with. Sound parts for members make sound parts for
lists and objects, with commas between them and blanks wherever a line may end. The reader needs a
step for each character at most and as many levels as lists and objects are nested.
-/

namespace BoundSql.Json

open Text

/-! ## Blanks and ends -/

/-- Nothing but blanks. -/
def Blank (gap : List Char) : Prop := ∀ c ∈ gap, isJsonBlank c = true

theorem blank_space : Blank [' '] := fun c hc => by
  rw [List.mem_singleton.mp hc]
  rfl

theorem skipBlanks_append {gap : List Char} (h : Blank gap) (rest : List Char) :
    skipBlanks (gap ++ rest) = skipBlanks rest :=
  List.dropWhile_append_of_pos h

theorem skipBlanks_cons {c : Char} (h : isJsonBlank c = false) (rest : List Char) :
    skipBlanks (c :: rest) = c :: rest :=
  List.dropWhile_cons_of_neg (by rw [h]; exact Bool.false_ne_true)

/-- A number does not go on with a blank or a sign of lists and objects. -/
theorem ends_of_mem {c : Char} (h : c ∈ [' ', '\t', '\n', '\r', ',', ']', '\x7d'])
    (rest : List Char) : Ends (c :: rest) := by
  refine ends_cons ?_ rest
  have hall : [' ', '\t', '\n', '\r', ',', ']', '\x7d'].all (fun c =>
      !isAsciiDigit c && c != '.' && c != 'e' && c != 'E') = true := by decide
  have hother := List.all_eq_true.mp hall c h
  simpa only [Bool.and_eq_true, bne_iff_ne, Bool.not_eq_true', and_assoc] using hother

/-- Blanks in front do not matter for that. -/
theorem ends_append {gap rest : List Char} (hgap : Blank gap) (hrest : Ends rest) :
    Ends (gap ++ rest) := by
  cases gap with
  | nil => exact hrest
  | cons c gap =>
    have hblank := hgap c List.mem_cons_self
    unfold isJsonBlank at hblank
    simp only [Bool.or_eq_true, beq_iff_eq] at hblank
    rw [List.cons_append]
    refine ends_of_mem ?_ _
    rcases hblank with ((rfl | rfl) | rfl) | rfl <;> decide

/-! ## Parts -/

/-- The first character is one of ASCII, and it neither is a blank nor ends a list or an object. -/
def Starts (doc : List Char) : Prop :=
  ∃ c rest, doc = c :: rest ∧ isJsonBlank c = false ∧ c ≠ ']' ∧ c ≠ '\x7d' ∧ c.toNat < 128

theorem Starts.skipBlanks {doc : List Char} (h : Starts doc) (rest : List Char) :
    skipBlanks (doc ++ rest) = doc ++ rest := by
  obtain ⟨c, more, rfl, hblank, -⟩ := h
  exact skipBlanks_cons hblank (more ++ rest)

theorem Starts.length_pos {doc : List Char} (h : Starts doc) : 0 < doc.length := by
  obtain ⟨c, more, rfl, -⟩ := h
  exact Nat.zero_lt_succ _

/-- A number or a word begins with a character of its own, and with no quote mark and no bracket. -/
theorem Leads.starts {c : Char} (h : Leads c) (rest : List Char) :
    Starts (c :: rest) ∧ c ≠ '\x22' ∧ c ≠ '[' ∧ c ≠ '\x7b' := by
  let own : Char → Bool := fun c => (!isJsonBlank c && (c != ']' && (c != '\x7d' &&
    decide (c.toNat < 128)))) && (c != '\x22' && (c != '[' && c != '\x7b'))
  have hown : own c = true := by
    rcases h with hdigit | hletter
    · exact forall_digit (by decide) hdigit
    · have hall : ['-', 'N', 'I', 'n', 't', 'f'].all own = true := by decide
      exact List.all_eq_true.mp hall c hletter
  simp only [own, Bool.and_eq_true, bne_iff_ne, Bool.not_eq_true', decide_eq_true_eq] at hown
  exact ⟨⟨c, rest, rfl, hown.1⟩, hown.2⟩

/-- A part of a document that is written for a value or for a field. -/
structure Part (α : Type) where
  /-- Its characters. -/
  doc : List Char
  /-- What it is written for. -/
  value : α
  /-- How many lists and objects are nested in each other there. -/
  levels : ℕ := 0

namespace Part

/-- The greatest count of levels in some parts. -/
def deepest {α : Type} (parts : List (Part α)) : ℕ := (parts.map levels).foldr max 0

theorem deepest_cons {α : Type} (p : Part α) (parts : List (Part α)) :
    deepest (p :: parts) = max p.levels (deepest parts) := rfl

theorem deepest_le {α : Type} {parts : List (Part α)} {n : ℕ} (h : ∀ p ∈ parts, p.levels ≤ n) :
    deepest parts ≤ n := by
  induction parts with
  | nil => exact Nat.zero_le n
  | cons p parts ih =>
    obtain ⟨hp, hparts⟩ := List.forall_mem_cons.mp h
    exact Nat.max_le.mpr ⟨hp, ih hparts⟩

/-- The reader takes in the part if it may go as deep. -/
structure Sound (p : Part Value) : Prop where
  /-- The part starts with a character of its own. -/
  starts : Starts p.doc
  /-- The reader takes it in. -/
  reads : ∀ {fuel depth : ℕ} {rest : List Char}, p.doc.length ≤ fuel → p.levels ≤ depth →
    Ends rest → readValue fuel depth (p.doc ++ rest) = .ok (p.value, rest)

/-- A number or a word is sound if it is read as such. -/
theorem sound_scalar {doc : List Char} {v : Value} (hlead : ∃ c rest, doc = c :: rest ∧ Leads c)
    (hread : ∀ rest, Ends rest → readScalar (doc ++ rest) = .ok (v, rest)) :
    (Part.mk doc v 0).Sound := by
  obtain ⟨c, more, rfl, hlead⟩ := hlead
  obtain ⟨hstarts, hmark, hlist, hobject⟩ := hlead.starts more
  refine ⟨hstarts, fun {fuel depth rest} hfuel _ hrest => ?_⟩
  obtain ⟨fuel, rfl⟩ : ∃ k, fuel = k + 1 := ⟨fuel - 1, by simp at hfuel; omega⟩
  rw [← hread rest hrest, List.cons_append, readValue]
  · exact fun _ h => hmark (List.cons.inj h).1
  · exact fun _ h => hlist (List.cons.inj h).1
  · exact fun _ h => hobject (List.cons.inj h).1

theorem sound_text (asciiOnly : Bool) (s : String) :
    (Part.mk (text asciiOnly s) (.text s) 0).Sound := by
  refine ⟨⟨_, _, rfl, by decide⟩, fun {fuel depth rest} hfuel _ _ => ?_⟩
  obtain ⟨body, hbody, hread⟩ := readText_text asciiOnly s (text asciiOnly s ++ rest).length rest
  obtain ⟨fuel, rfl⟩ : ∃ k, fuel = k + 1 :=
    ⟨fuel - 1, by simp only [hbody, List.length_cons] at hfuel; omega⟩
  rw [hbody, List.cons_append] at hread ⊢
  rw [readValue, hread]
  rfl

end Part

/-! ## Members between brackets -/

/-- Members with commas in between and blanks behind the commas. -/
def joined (gap : List Char) (docs : List (List Char)) : List Char := joinWith (',' :: gap) docs

theorem joined_cons_cons (gap first second : List Char) (rest : List (List Char)) :
    joined gap (first :: second :: rest) = first ++ ',' :: (gap ++ joined gap (second :: rest)) := by
  simp [joined, joinWith]

theorem starts_joined {gap : List Char} {docs : List (List Char)} (hne : docs ≠ [])
    (h : ∀ doc ∈ docs, Starts doc) : Starts (joined gap docs) := by
  obtain ⟨first, more, rfl⟩ := List.exists_cons_of_ne_nil hne
  obtain ⟨c, rest, rfl, hc⟩ := h first List.mem_cons_self
  cases more with
  | nil => exact ⟨c, rest, rfl, hc⟩
  | cons second more => exact ⟨c, _, by rw [joined_cons_cons, List.cons_append], hc⟩

/-- The blanks between the brackets of a list or an object. -/
structure Layout where
  /-- Behind the first bracket. -/
  first : List Char
  /-- Behind each comma. -/
  gap : List Char
  /-- Before the last bracket. -/
  last : List Char
  /-- The first are blanks, -/
  blank_first : Blank first
  /-- so are those behind commas, -/
  blank_gap : Blank gap
  /-- and so are the last. -/
  blank_last : Blank last

/-- Members between brackets; nothing between them if there is none. -/
def Layout.enclose (layout : Layout) (opening closing : Char) (docs : List (List Char)) :
    List Char :=
  if docs.isEmpty then [opening, closing]
  else opening :: (layout.first ++ joined layout.gap docs ++ (layout.last ++ [closing]))

/-- A kind of values with members: how they are written and read. -/
structure Collection (α : Type) where
  /-- The bracket in front. -/
  opening : Char
  /-- The bracket behind the members. -/
  closing : Char
  /-- The value of all members. -/
  make : List α → Value
  /-- The reader of members, the next one and those behind it. -/
  read : ℕ → ℕ → List α → List Char → Except Stop (Value × List Char)
  /-- Such a value starts with its bracket. -/
  starts : ∀ rest, Starts (opening :: rest)
  /-- A number does not go on with the bracket behind. -/
  ends : ∀ rest, Ends (closing :: rest)
  /-- That bracket is no blank -/
  closing_ne_blank : isJsonBlank closing = false
  /-- and stands in front of no member. -/
  closing_ne_start : ∀ {doc}, Starts doc → doc.head? ≠ some closing
  /-- Behind the first bracket members are read a level deeper, -/
  opens : ∀ (fuel : ℕ) {depth : ℕ} {cs : List Char}, depth ≠ 0 →
    (skipBlanks cs).head? ≠ some closing →
      readValue (fuel + 1) depth (opening :: cs) = read fuel (depth - 1) [] (skipBlanks cs)
  /-- unless there are none. -/
  opens_empty : ∀ (fuel : ℕ) {depth : ℕ} {cs more : List Char}, depth ≠ 0 →
    skipBlanks cs = closing :: more →
      readValue (fuel + 1) depth (opening :: cs) = .ok (make [], more)

namespace Collection

variable {α : Type} (kind : Collection α)

/-- The reader of members takes in a part, if it may go as deep, and looks at what follows. -/
structure Takes (p : Part α) : Prop where
  /-- The part starts with a character of its own. -/
  starts : Starts p.doc
  /-- Behind the last member the value is complete. -/
  closes : ∀ {fuel depth : ℕ} (done : List α) {rest more : List Char}, p.doc.length ≤ fuel →
    p.levels ≤ depth → Ends rest → skipBlanks rest = kind.closing :: more →
    kind.read (fuel + 1) depth done (p.doc ++ rest) =
      .ok (kind.make (p.value :: done).reverse, more)
  /-- Behind a comma the next member is read. -/
  continues : ∀ {fuel depth : ℕ} (done : List α) {rest more : List Char}, p.doc.length ≤ fuel →
    p.levels ≤ depth → Ends rest → skipBlanks rest = ',' :: more →
    kind.read (fuel + 1) depth done (p.doc ++ rest) =
      kind.read fuel depth (p.value :: done) (skipBlanks more)

variable {kind} {layout : Layout} {p : Part α} {parts : List (Part α)}

theorem starts_parts (h : ∀ p ∈ parts, kind.Takes p) (hne : parts ≠ []) (gap : List Char) :
    Starts (joined gap (parts.map Part.doc)) := by
  refine starts_joined (by simp [hne]) fun doc hdoc => ?_
  obtain ⟨p, hp, rfl⟩ := List.mem_map.mp hdoc
  exact (h p hp).starts

/-- Behind the last member come blanks and the bracket. -/
theorem ends_last (kind : Collection α) (layout : Layout) (rest : List Char) :
    Ends (layout.last ++ kind.closing :: rest) ∧
      skipBlanks (layout.last ++ kind.closing :: rest) = kind.closing :: rest := by
  refine ⟨ends_append layout.blank_last (kind.ends rest), ?_⟩
  rw [skipBlanks_append layout.blank_last, skipBlanks_cons kind.closing_ne_blank]

variable {fuel depth : ℕ} {done : List α} {rest : List Char}

/-- With further members behind it the reader takes in the first one and goes on with the next. -/
theorem Takes.read_cons (hp : kind.Takes p) (h : ∀ q ∈ parts, kind.Takes q) (hne : parts ≠ [])
    (hfuel : p.doc.length ≤ fuel) (hdepth : p.levels ≤ depth) :
    kind.read (fuel + 1) depth done (joined layout.gap ((p :: parts).map Part.doc) ++ rest) =
      kind.read fuel depth (p.value :: done) (joined layout.gap (parts.map Part.doc) ++ rest) := by
  have hstarts := starts_parts h hne layout.gap
  obtain ⟨q, more, rfl⟩ := List.exists_cons_of_ne_nil hne
  have hcomma := hp.continues done hfuel hdepth
    (ends_of_mem (c := ',') (by decide)
      (layout.gap ++ (joined layout.gap ((q :: more).map Part.doc) ++ rest)))
    (skipBlanks_cons (by decide) _)
  rw [skipBlanks_append layout.blank_gap, hstarts.skipBlanks] at hcomma
  rw [← hcomma, List.map_cons, List.map_cons, joined_cons_cons, ← List.map_cons]
  simp only [List.append_assoc, List.cons_append]

/-- The reader takes in members one after another if it may go as deep as the deepest one. -/
theorem read_joined (h : ∀ p ∈ parts, kind.Takes p) (hne : parts ≠ [])
    (hfuel : (joined layout.gap (parts.map Part.doc)).length < fuel)
    (hdepth : Part.deepest parts ≤ depth) :
    kind.read fuel depth done
        (joined layout.gap (parts.map Part.doc) ++ (layout.last ++ kind.closing :: rest)) =
      .ok (kind.make (done.reverse ++ parts.map Part.value), rest) := by
  induction parts generalizing fuel done with
  | nil => exact absurd rfl hne
  | cons p parts ih =>
    obtain ⟨hp, hparts⟩ := List.forall_mem_cons.mp h
    obtain ⟨fuel, rfl⟩ : ∃ k, fuel = k + 1 := ⟨fuel - 1, by omega⟩
    rw [Part.deepest_cons, Nat.max_le] at hdepth
    cases parts with
    | nil =>
      obtain ⟨hends, hclose⟩ := ends_last kind layout rest
      have hread := hp.closes done (Nat.le_of_lt_succ hfuel) hdepth.1 hends hclose
      rw [List.reverse_cons] at hread
      exact hread
    | cons q parts =>
      have hpos := hp.starts.length_pos
      have hlength := hfuel
      rw [List.map_cons, List.map_cons, joined_cons_cons, ← List.map_cons] at hlength
      simp only [List.length_append, List.length_cons] at hlength
      rw [hp.read_cons hparts (List.cons_ne_nil _ _) (by omega) hdepth.1,
        ih hparts (List.cons_ne_nil _ _) (by omega) hdepth.2]
      simp

/-- The part for all members. -/
def whole (kind : Collection α) (layout : Layout) (parts : List (Part α)) : Part Value where
  doc := layout.enclose kind.opening kind.closing (parts.map Part.doc)
  value := kind.make (parts.map Part.value)
  levels := Part.deepest parts + 1

theorem whole_doc (layout : Layout) (hne : parts ≠ []) :
    (kind.whole layout parts).doc = kind.opening ::
      (layout.first ++ joined layout.gap (parts.map Part.doc) ++ (layout.last ++ [kind.closing])) := by
  simp [whole, Layout.enclose, hne]

/-- Behind the first bracket and its blanks the members are read. -/
theorem readValue_whole (h : ∀ p ∈ parts, kind.Takes p) (hne : parts ≠ []) (hdepth : depth ≠ 0) :
    readValue (fuel + 1) depth ((kind.whole layout parts).doc ++ rest) =
      kind.read fuel (depth - 1) [] (joined layout.gap (parts.map Part.doc) ++
        (layout.last ++ kind.closing :: rest)) := by
  have hstarts := starts_parts h hne layout.gap
  have hskip : skipBlanks (layout.first ++ (joined layout.gap (parts.map Part.doc) ++
      (layout.last ++ kind.closing :: rest))) =
        joined layout.gap (parts.map Part.doc) ++ (layout.last ++ kind.closing :: rest) := by
    rw [skipBlanks_append layout.blank_first, hstarts.skipBlanks]
  have hmember : (joined layout.gap (parts.map Part.doc) ++
      (layout.last ++ kind.closing :: rest)).head? ≠ some kind.closing := by
    have hhead := kind.closing_ne_start hstarts
    obtain ⟨c, more, hc, -⟩ := hstarts
    rw [hc] at hhead ⊢
    exact hhead
  rw [← hskip] at hmember
  rw [whole_doc layout hne, ← hskip, ← kind.opens fuel hdepth hmember]
  simp

/-- Parts that the reader of members takes in make a sound one between brackets. -/
theorem whole_sound (layout : Layout) (h : ∀ p ∈ parts, kind.Takes p) :
    (kind.whole layout parts).Sound := by
  by_cases hne : parts = []
  · subst hne
    refine ⟨kind.starts _, fun {fuel depth rest} hfuel hdepth _ => ?_⟩
    obtain ⟨fuel, rfl⟩ : ∃ k, fuel = k + 1 :=
      ⟨fuel - 1, by simp [whole, Layout.enclose] at hfuel; omega⟩
    exact kind.opens_empty fuel (Nat.ne_of_gt hdepth)
      (skipBlanks_cons kind.closing_ne_blank rest)
  · refine ⟨whole_doc layout hne ▸ kind.starts _, fun {fuel depth rest} hfuel hdepth _ => ?_⟩
    rw [whole_doc layout hne] at hfuel
    simp only [List.length_cons, List.length_append, List.length_nil] at hfuel
    obtain ⟨fuel, rfl⟩ : ∃ k, fuel = k + 1 := ⟨fuel - 1, by omega⟩
    have hdepth : Part.deepest parts + 1 ≤ depth := hdepth
    rw [readValue_whole h hne (by omega), read_joined h hne (by omega) (by omega)]
    rfl

/-- Lists of items. -/
def items : Collection Value where
  opening := '['
  closing := ']'
  make := .list
  read := readItems
  starts := fun rest => ⟨_, _, rfl, by decide⟩
  ends := fun rest => ends_of_mem (by decide) rest
  closing_ne_blank := by decide
  closing_ne_start := by
    rintro _ ⟨c, rest, rfl, -, hc, -⟩ h
    exact hc (Option.some.inj h)
  opens := fun fuel {depth cs} hdepth hmember => by
    rw [readValue, if_neg hdepth]
    split
    next heq => exact absurd (congrArg List.head? heq) hmember
    next => rfl
  opens_empty := fun fuel {depth cs more} hdepth hclose => by
    rw [readValue, if_neg hdepth, hclose]
    rfl

/-- Objects of fields. -/
def fields : Collection (Value × Value) where
  opening := '\x7b'
  closing := '\x7d'
  make := fun pairs => .mapping (Fields.ofPairs pairs)
  read := readFields
  starts := fun rest => ⟨_, _, rfl, by decide⟩
  ends := fun rest => ends_of_mem (by decide) rest
  closing_ne_blank := by decide
  closing_ne_start := by
    rintro _ ⟨c, rest, rfl, -, -, hc, -⟩ h
    exact hc (Option.some.inj h)
  opens := fun fuel {depth cs} hdepth hmember => by
    rw [readValue, if_neg hdepth]
    split
    next heq => exact absurd (congrArg List.head? heq) hmember
    next => rfl
  opens_empty := fun fuel {depth cs more} hdepth hclose => by
    rw [readValue, if_neg hdepth, hclose]
    rfl

/-- A sound part is taken in as an item. -/
theorem items_takes {p : Part Value} (h : p.Sound) : items.Takes p where
  starts := h.starts
  closes := by
    intro fuel depth done rest more hfuel hdepth hrest hclose
    show readItems (fuel + 1) depth done (p.doc ++ rest) = _
    rw [readItems, h.reads hfuel hdepth hrest, ok_bind]
    dsimp only
    rw [hclose]
    rfl
  continues := by
    intro fuel depth done rest more hfuel hdepth hrest hcomma
    show readItems (fuel + 1) depth done (p.doc ++ rest) = _
    rw [readItems, h.reads hfuel hdepth hrest, ok_bind]
    dsimp only
    rw [hcomma]
    rfl

/-- The part for a field with the key and the part for its value. -/
def field (asciiOnly : Bool) (key : String) (p : Part Value) : Part (Value × Value) where
  doc := text asciiOnly key ++ ':' :: ' ' :: p.doc
  value := (.text key, p.value)
  levels := p.levels

/-- The reader of fields takes in the key and then reads the value. -/
theorem readFields_field {p : Part Value} (h : p.Sound) (asciiOnly : Bool) (key : String)
    (fuel depth : ℕ) (done : List (Value × Value)) (rest : List Char) :
    readFields (fuel + 1) depth done ((field asciiOnly key p).doc ++ rest) = (do
      let (v, rest) ← readValue fuel depth (p.doc ++ rest)
      match skipBlanks rest with
      | '\x7d' :: more =>
        return (.mapping (Fields.ofPairs ((.text key, v) :: done).reverse), more)
      | ',' :: more => readFields fuel depth ((.text key, v) :: done) (skipBlanks more)
      | other => stop "Expecting ',' delimiter" other) := by
  obtain ⟨body, hbody, hkey⟩ := readText_text asciiOnly key
    ((field asciiOnly key p).doc ++ rest).length (':' :: ' ' :: (p.doc ++ rest))
  have hdoc : (field asciiOnly key p).doc ++ rest =
      '\x22' :: (body ++ ':' :: ' ' :: (p.doc ++ rest)) := by
    rw [field, hbody]
    simp
  have hblank : skipBlanks (' ' :: (p.doc ++ rest)) = p.doc ++ rest :=
    (skipBlanks_append blank_space _).trans (h.starts.skipBlanks rest)
  rw [hdoc] at hkey ⊢
  rw [readFields, hkey, ok_bind]
  dsimp only
  rw [skipBlanks_cons (by decide)]
  exact congrArg (fun cs => readValue fuel depth cs >>= _) hblank

/-- A sound part is taken in as the value of a field. -/
theorem fields_takes {p : Part Value} (h : p.Sound) (asciiOnly : Bool) (key : String) :
    fields.Takes (field asciiOnly key p) := by
  have hlength : p.doc.length ≤ (field asciiOnly key p).doc.length := by
    simp only [field, List.length_append, List.length_cons]
    omega
  refine ⟨⟨_, _, rfl, by decide⟩, ?_, ?_⟩
  · intro fuel depth done rest more hfuel hdepth hrest hclose
    refine (readFields_field h asciiOnly key fuel depth done rest).trans ?_
    rw [h.reads (hlength.trans hfuel) hdepth hrest, ok_bind]
    dsimp only
    rw [hclose]
    rfl
  · intro fuel depth done rest more hfuel hdepth hrest hcomma
    refine (readFields_field h asciiOnly key fuel depth done rest).trans ?_
    rw [h.reads (hlength.trans hfuel) hdepth hrest, ok_bind]
    dsimp only
    rw [hcomma]
    rfl

end Collection

end BoundSql.Json
