import BoundSql.Text.Blank
import Mathlib.Data.List.Infix

/-!
# Texts that can be read in one way only

Things are written one behind the other. What is written for a thing can be read in one way only if
from the whole text, the thing and what comes behind it are known, provided that what comes behind
does not go on in a way in which the thing itself could. There is a rule for each way in which texts
are put together: choices of words, optional parts, repetitions and lists with separators.
-/

namespace BoundSql

namespace Text

/-- The text begins with none of the words. -/
def Avoids (words : List String) (s : List Char) : Prop := ∀ w ∈ words, ¬ w.toList <+: s

/-- The text is over or begins with one of the words. -/
def Follows (words : List String) (s : List Char) : Prop :=
  s = [] ∨ ∃ w ∈ words, w.toList <+: s

/-- No word of either list is the beginning of one of the other list. -/
def Apart (words others : List String) : Prop :=
  ∀ v ∈ others, v ≠ "" ∧ ∀ w ∈ words, ¬ v.toList <+: w.toList ∧ ¬ w.toList <+: v.toList

instance (words others : List String) : Decidable (Apart words others) :=
  inferInstanceAs (Decidable (∀ v ∈ others, _))

variable {words others : List String} {s t : List Char}

@[simp] theorem avoids_nil (s : List Char) : Avoids [] s := fun _ h => nomatch h

@[simp] theorem avoids_append :
    Avoids (words ++ others) s ↔ Avoids words s ∧ Avoids others s :=
  List.forall_mem_append

/-- A text behind a word that is apart from others begins with none of them. -/
theorem avoids_of_begins {w : String} (hw : w ∈ words) (h : Apart words others)
    (hs : w.toList <+: s) : Avoids others s := by
  intro v hv hvs
  obtain ⟨hvw, hwv⟩ := (h v hv).2 w hw
  rcases List.prefix_or_prefix_of_prefix hvs hs with hbegins | hbegins
  · exact hvw hbegins
  · exact hwv hbegins

theorem avoids_of_word (w : String) (h : Apart [w] others) (hs : w.toList <+: s) :
    Avoids others s :=
  avoids_of_begins List.mem_cons_self h hs

/-- A text that is over or goes on with words begins with none that are apart from them. -/
theorem Follows.avoids (hs : Follows words s) (h : Apart words others) : Avoids others s := by
  rcases hs with rfl | ⟨w, hw, hs⟩
  · intro v hv hbegins
    have hempty : v.toList = [] := List.prefix_nil.mp hbegins
    exact (h v hv).1 (String.toList_eq_nil_iff.mp hempty)
  · exact avoids_of_begins hw h hs

theorem Follows.mono (hs : Follows words s) (h : words ⊆ others) : Follows others s :=
  hs.imp id fun ⟨w, hw, hbegins⟩ => ⟨w, h hw, hbegins⟩

theorem follows_nil : Follows words [] := .inl rfl

/-- Things with a separator in between are the first one and the others behind separators. -/
theorem joinWith_map_cons {α : Type} (separator : List Char) (write : α → List Char) (first : α)
    (rest : List α) :
    joinWith separator ((first :: rest).map write) =
      write first ++ rest.flatMap fun a => separator ++ write a := by
  induction rest generalizing first with
  | nil => simp [joinWith]
  | cons second rest ih =>
    have hmore := ih second
    simp only [List.map_cons] at hmore ⊢
    rw [joinWith, hmore, List.flatMap_cons, List.append_assoc, List.append_assoc]
    rintro ⟨⟩

end Text

open Text

variable {α β : Type}

/-- What is written for valid things can be read in one way only where none of the words comes
behind it. -/
def Readable (valid : α → Prop) (write : α → List Char) (words : List String) : Prop :=
  ∀ ⦃a b x y⦄, valid a → valid b → Avoids words x → Avoids words y →
    write a ++ x = write b ++ y → a = b ∧ x = y

namespace Readable

variable {valid : α → Prop} {write : α → List Char} {words heads : List String}

/-- More may be kept from coming behind. -/
theorem weaken (h : Readable valid write words) {words' : List String} (hwords : words ⊆ words') :
    Readable valid write words' := by
  intro a b x y ha hb hx hy heq
  exact h ha hb (fun w hw => hx w (hwords hw)) (fun w hw => hy w (hwords hw)) heq

/-- What is made of parts and written as they are can be read as they can. -/
theorem of_parts {valid' : β → Prop} {write' : β → List Char} (h : Readable valid write words)
    (make : α → β) (hparts : ∀ b, valid' b → ∃ a, valid a ∧ make a = b ∧ write' b = write a) :
    Readable valid' write' words := by
  intro b c x y hb hc hx hy heq
  obtain ⟨parts, hvalid, rfl, hwrite⟩ := hparts b hb
  obtain ⟨others, hvalid', rfl, hwrite'⟩ := hparts c hc
  rw [hwrite, hwrite'] at heq
  obtain ⟨rfl, hxy⟩ := h hvalid hvalid' hx hy heq
  exact ⟨rfl, hxy⟩

/-- Words none of which begins another one can be read in one way only, whatever comes behind. -/
theorem of_table (table : List α) (hmem : ∀ a, valid a → a ∈ table)
    (h : ∀ a ∈ table, ∀ b ∈ table, write a <+: write b → a = b) : Readable valid write [] := by
  intro a b x y ha hb _ _ heq
  have hab : a = b := by
    rcases List.prefix_or_prefix_of_prefix (List.prefix_append (write a) x)
      (heq ▸ List.prefix_append (write b) y) with hbegins | hbegins
    · exact h a (hmem a ha) b (hmem b hb) hbegins
    · exact (h b (hmem b hb) a (hmem a ha) hbegins).symm
  subst hab
  exact ⟨rfl, List.append_cancel_left heq⟩

/-- A fixed text in front changes nothing. -/
theorem behind (h : Readable valid write words) (front : List Char) :
    Readable valid (fun a => front ++ write a) words := by
  intro a b x y ha hb hx hy heq
  have hfront : front ++ (write a ++ x) = front ++ (write b ++ y) := by
    simpa only [List.append_assoc] using heq
  exact h ha hb hx hy (List.append_cancel_left hfront)

/-- Two things one behind the other, where the second one keeps what must not come behind the first
one from coming there. -/
theorem append {valid' : β → Prop} {write' : β → List Char} {words' : List String}
    (h : Readable valid write words) (h' : Readable valid' write' words')
    (hends : ∀ b x, valid' b → Avoids words' x → Avoids words (write' b ++ x)) :
    Readable (fun ab : α × β => valid ab.1 ∧ valid' ab.2) (fun ab => write ab.1 ++ write' ab.2)
      words' := by
  rintro ⟨a, a'⟩ ⟨b, b'⟩ x y ⟨ha, ha'⟩ ⟨hb, hb'⟩ hx hy heq
  dsimp only at ha ha' hb hb' heq
  rw [List.append_assoc, List.append_assoc] at heq
  obtain ⟨rfl, hrest⟩ := h ha hb (hends a' x ha' hx) (hends b' y hb' hy) heq
  obtain ⟨rfl, hxy⟩ := h' ha' hb' hx hy hrest
  exact ⟨rfl, hxy⟩

/-- A part that may be left out and otherwise begins with a word of its own. -/
theorem optional {none : α} {keyword : String} {body : α → List Char}
    (h : Readable (fun a => valid a ∧ a ≠ none) body words) (hnone : write none = [])
    (hwrite : ∀ a, valid a → a ≠ none → write a = keyword.toList ++ body a) :
    Readable valid write (keyword :: words) := by
  have habsent : ∀ {b x y}, valid b → Avoids (keyword :: words) x →
      write none ++ x = write b ++ y → none = b ∧ x = y := by
    intro b x y hb hx heq
    by_cases hbnone : b = none
    · subst hbnone
      exact ⟨rfl, List.append_cancel_left heq⟩
    · rw [hnone, hwrite b hb hbnone, List.nil_append, List.append_assoc] at heq
      exact absurd ⟨_, heq.symm⟩ (hx keyword List.mem_cons_self)
  intro a b x y ha hb hx hy heq
  by_cases hanone : a = none
  · subst hanone
    exact habsent hb hx heq
  by_cases hbnone : b = none
  · subst hbnone
    obtain ⟨hab, hxy⟩ := habsent ha hy heq.symm
    exact ⟨hab.symm, hxy.symm⟩
  rw [hwrite a ha hanone, hwrite b hb hbnone, List.append_assoc, List.append_assoc] at heq
  exact h ⟨ha, hanone⟩ ⟨hb, hbnone⟩ (fun w hw => hx w (List.mem_cons_of_mem _ hw))
    (fun w hw => hy w (List.mem_cons_of_mem _ hw)) (List.append_cancel_left heq)

/-- What begins with words that are apart from others keeps these from coming behind. -/
theorem avoids_flatMap (hheads : ∀ a, valid a → ∃ w ∈ heads, w.toList <+: write a)
    (hapart : Apart heads words) {as : List α} {s : List Char} (has : ∀ a ∈ as, valid a)
    (hs : Avoids words s) : Avoids words (as.flatMap write ++ s) := by
  cases as with
  | nil => exact hs
  | cons a as =>
    obtain ⟨w, hw, hbegins⟩ := hheads a (has a List.mem_cons_self)
    rw [List.flatMap_cons, List.append_assoc]
    exact avoids_of_begins hw hapart (hbegins.trans (List.prefix_append _ _))

/-- Things one behind the other, each with a word in front that ends the one before. -/
theorem repeated (h : Readable valid write words) (heads : List String)
    (hheads : ∀ a, valid a → ∃ w ∈ heads, w.toList <+: write a) (hapart : Apart heads words) :
    Readable (fun as : List α => ∀ a ∈ as, valid a) (fun as => as.flatMap write)
      (words ++ heads) := by
  have hover : ∀ {a : α} {s t : List Char}, valid a → Avoids heads s → s ≠ write a ++ t := by
    rintro a s t ha hs rfl
    obtain ⟨w, hw, hbegins⟩ := hheads a ha
    exact hs w hw (hbegins.trans (List.prefix_append _ _))
  intro as bs x y has hbs hx hy heq
  dsimp only at heq
  rw [avoids_append] at hx hy
  induction as generalizing bs with
  | nil =>
    cases bs with
    | nil => exact ⟨rfl, heq⟩
    | cons b bs =>
      rw [List.flatMap_cons, List.append_assoc] at heq
      exact absurd heq (hover (hbs b List.mem_cons_self) hx.2)
  | cons a as ih =>
    cases bs with
    | nil =>
      rw [List.flatMap_cons, List.append_assoc] at heq
      exact absurd heq.symm (hover (has a List.mem_cons_self) hy.2)
    | cons b bs =>
      obtain ⟨ha, hasmore⟩ := List.forall_mem_cons.mp has
      obtain ⟨hb, hbsmore⟩ := List.forall_mem_cons.mp hbs
      rw [List.flatMap_cons, List.flatMap_cons, List.append_assoc, List.append_assoc] at heq
      obtain ⟨rfl, hrest⟩ := h ha hb (avoids_flatMap hheads hapart hasmore hx.1)
        (avoids_flatMap hheads hapart hbsmore hy.1) heq
      obtain ⟨rfl, hxy⟩ := ih hasmore hbsmore hrest
      exact ⟨rfl, hxy⟩

/-- Things with a separator in between, at least one of them. -/
theorem separated (h : Readable valid write words) (separator : List Char) (heads : List String)
    (hheads : ∀ a, valid a → ∃ w ∈ heads, w.toList <+: separator ++ write a)
    (hapart : Apart heads words) :
    Readable (fun as : List α => as ≠ [] ∧ ∀ a ∈ as, valid a)
      (fun as => joinWith separator (as.map write)) (words ++ heads) := by
  have hmore := (h.behind separator).repeated heads hheads hapart
  rintro as bs x y ⟨hasne, has⟩ ⟨hbsne, hbs⟩ hx hy heq
  obtain ⟨a, as, rfl⟩ := List.exists_cons_of_ne_nil hasne
  obtain ⟨b, bs, rfl⟩ := List.exists_cons_of_ne_nil hbsne
  obtain ⟨ha, hasmore⟩ := List.forall_mem_cons.mp has
  obtain ⟨hb, hbsmore⟩ := List.forall_mem_cons.mp hbs
  dsimp only at heq
  rw [joinWith_map_cons, joinWith_map_cons, List.append_assoc, List.append_assoc] at heq
  obtain ⟨rfl, hrest⟩ := h ha hb
    (avoids_flatMap hheads hapart hasmore (avoids_append.mp hx).1)
    (avoids_flatMap hheads hapart hbsmore (avoids_append.mp hy).1) heq
  obtain ⟨rfl, hxy⟩ := hmore hasmore hbsmore hx hy hrest
  exact ⟨rfl, hxy⟩

end Readable

/-- A part between others: it can be read where the text behind it is over or goes on with one of
the words after it, and then the text is over or goes on with one of the words before it. -/
structure Between (valid : α → Prop) (write : α → List Char) (before after : List String) :
    Prop where
  /-- It can be read. -/
  read : ∀ ⦃a b x y⦄, valid a → valid b → Follows after x → Follows after y →
    write a ++ x = write b ++ y → a = b ∧ x = y
  /-- What the text goes on with. -/
  follows : ∀ ⦃a x⦄, valid a → Follows after x → Follows before (write a ++ x)

/-- A part that is left out or begins with words of its own stands between the words after it and
these together with its own. -/
theorem Readable.between {valid : α → Prop} {write : α → List Char} {words : List String}
    (h : Readable valid write words) (heads : List String) {after : List String}
    (hheads : ∀ a, valid a → write a = [] ∨ ∃ w ∈ heads, w.toList <+: write a)
    (hapart : Apart after words) : Between valid write (heads ++ after) after := by
  refine ⟨fun a b x y ha hb hx hy => h ha hb (hx.avoids hapart) (hy.avoids hapart), ?_⟩
  intro a x ha hx
  rcases hheads a ha with hnone | ⟨w, hw, hbegins⟩
  · rw [hnone, List.nil_append]
    exact hx.mono (List.subset_append_right _ _)
  · exact .inr ⟨w, List.mem_append_left _ hw, hbegins.trans (List.prefix_append _ _)⟩

/-- A part that may be left out stands between the words after it and these with its own. -/
theorem Between.of_optional {valid : α → Prop} {write : α → List Char} {words : List String}
    {none : α} {keyword : String} {body : α → List Char}
    (h : Readable (fun a => valid a ∧ a ≠ none) body words) (hnone : write none = [])
    (hwrite : ∀ a, valid a → a ≠ none → write a = keyword.toList ++ body a) {after : List String}
    (hapart : Apart after (keyword :: words)) : Between valid write (keyword :: after) after := by
  refine (h.optional hnone hwrite).between [keyword] (fun a ha => ?_) hapart
  by_cases hanone : a = none
  · exact .inl (hanone ▸ hnone)
  · refine .inr ⟨keyword, List.mem_cons_self, ?_⟩
    rw [hwrite a ha hanone]
    exact List.prefix_append _ _

/-- Two parts one behind the other. -/
theorem Between.append {valid : α → Prop} {write : α → List Char} {valid' : β → Prop}
    {write' : β → List Char} {first second third : List String}
    (h : Between valid write first second) (h' : Between valid' write' second third) :
    Between (fun ab : α × β => valid ab.1 ∧ valid' ab.2) (fun ab => write ab.1 ++ write' ab.2)
      first third := by
  constructor
  · rintro ⟨a, a'⟩ ⟨b, b'⟩ x y ⟨ha, ha'⟩ ⟨hb, hb'⟩ hx hy heq
    dsimp only at ha ha' hb hb' heq
    rw [List.append_assoc, List.append_assoc] at heq
    obtain ⟨rfl, hrest⟩ := h.read ha hb (h'.follows ha' hx) (h'.follows hb' hy) heq
    obtain ⟨rfl, hxy⟩ := h'.read ha' hb' hx hy hrest
    exact ⟨rfl, hxy⟩
  · rintro ⟨a, a'⟩ x ⟨ha, ha'⟩ hx
    dsimp only at ha ha' ⊢
    rw [List.append_assoc]
    exact h.follows ha (h'.follows ha' hx)

/-- What is made of parts and written as they are stands where they do. -/
theorem Between.of_parts {valid : α → Prop} {write : α → List Char} {valid' : β → Prop}
    {write' : β → List Char} {before after : List String}
    (h : Between valid write before after) (make : α → β)
    (hparts : ∀ b, valid' b → ∃ a, valid a ∧ make a = b ∧ write' b = write a) :
    Between valid' write' before after := by
  constructor
  · intro b c x y hb hc hx hy heq
    obtain ⟨parts, hvalid, rfl, hwrite⟩ := hparts b hb
    obtain ⟨others, hvalid', rfl, hwrite'⟩ := hparts c hc
    rw [hwrite, hwrite'] at heq
    obtain ⟨rfl, hxy⟩ := h.read hvalid hvalid' hx hy heq
    exact ⟨rfl, hxy⟩
  · intro b x hb hx
    obtain ⟨parts, hvalid, rfl, hwrite⟩ := hparts b hb
    rw [hwrite]
    exact h.follows hvalid hx

end BoundSql
