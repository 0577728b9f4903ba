import BoundSql.Proofs.Inline
import BoundSql.Proofs.Reading
import BoundSql.Proofs.Sealed
import BoundSql.Proofs.Statements
import BoundSql.Session.Autobegin

/-!
# Binds of compiled statements

Whoever reads binds in the text that is made of a compiled statement finds one for each parameter,
in order, and nothing else, because every placeholder stands apart from its neighbours. A connection
that is given the parameters by position then has a value for each bind, and sends the statement as
it was compiled.
-/

namespace BoundSql

open Text

/-! ## Texts of sealed statements -/

namespace Placeholder

open BindPattern

variable {before open? : Option Char} {count total : Nat} {source rest : List Char}
  {pieces : List BindPiece}

/-- What may stand right behind a bind: no word, no colon and no placeholder. -/
def Parted (rest : List Char) : Prop :=
  ∀ c ∈ rest.head?, isWordChar c = false ∧ c ≠ ':' ∧ c ≠ '?'

/-- What is parted is written as it begins. -/
theorem Writes.head_of_parted (h : Writes before open? count rest pieces total)
    (hparted : Parted rest) : (spell pieces).head? = rest.head? := by
  cases h with
  | done => rfl
  | escaped hneeds more => exact absurd rfl (hparted ':' rfl).2.1
  | hole more => exact absurd rfl (hparted '?' rfl).2.2
  | copied hcolon hquoted more => rfl

/-- Of what is written in front of parted text the whole name is a word. -/
theorem closes_of_word {word : List Char → Option (List Char)}
    (hword : ∀ name rest : List Char, (∀ c ∈ name, isWordChar c = true) → name ≠ [] →
      (∀ c ∈ rest.head?, isWordChar c = false ∧ c ≠ ':') → word (name ++ rest) = some name) :
    Closes word Parted := by
  intro count total rest pieces h hparted
  refine hword _ _ (fun _ => isWordChar_of_mem_bindName) (bindName_ne_nil _) fun c hc => ?_
  rw [h.head_of_parted hparted] at hc
  exact ⟨(hparted c hc).1, (hparted c hc).2.1⟩

theorem holes_le_count (open? : Option Char) (source : List Char) :
    holes open? source ≤ source.count '?' := by
  induction source generalizing open? with
  | nil => exact Nat.le_refl 0
  | cons c rest ih =>
    have hrest := ih (quoteAfter open? c)
    rw [holes, List.count_cons]
    by_cases hc : c = '?'
    · rw [hc] at hrest ⊢
      rw [if_pos (beq_self_eq_true _)]
      split <;> omega
    · rw [if_neg fun h => hc h.2]
      omega

/-- Where all question marks are placeholders and there are no colons, what is written is the text
with the binds in the places of the question marks. -/
theorem Writes.spell_eq (h : Writes before open? count source pieces total)
    (hcolon : ':' ∉ source) (hholes : holes open? source = source.count '?') :
    spell pieces = fill source ((numbered count (holes open? source)).map (':' :: ·)) ∧
      pieces.map shown = source := by
  induction h with
  | done => exact ⟨rfl, rfl⟩
  | escaped hneeds more ih => exact absurd List.mem_cons_self hcolon
  | @hole before count total rest pieces more ih =>
    have hrest : ':' ∉ rest := fun h => hcolon (List.mem_cons_of_mem _ h)
    rw [holes_mark] at hholes ⊢
    rw [List.count_cons_self] at hholes
    obtain ⟨hspell, hshown⟩ := ih hrest (by omega)
    constructor
    · rw [numbered_succ, List.map_cons, fill_mark, ← hspell]
      rfl
    · rw [List.map_cons, hshown, shown]
  | @copied before open? count total c rest pieces hescape hquoted more ih =>
    have hrest : ':' ∉ rest := fun h => hcolon (List.mem_cons_of_mem _ h)
    have hother : ¬ (open? = none ∧ c = '?') := fun h => (hquoted h.2).1 h.1
    rw [holes_other hother] at hholes ⊢
    have hc : c ≠ '?' := by
      rintro rfl
      have hle := holes_le_count (quoteAfter open? '?') rest
      rw [List.count_cons_self] at hholes
      omega
    rw [List.count_cons_of_ne hc] at hholes
    obtain ⟨hspell, hshown⟩ := ih hrest hholes
    constructor
    · rw [fill_other hc, ← hspell]
      rfl
    · rw [List.map_cons, hshown, shown]

/-- Without quote marks no quote is opened. -/
theorem foldl_quoteAfter_none (h : ∀ c ∈ source, isQuote c = false) :
    source.foldl quoteAfter none = none := by
  induction source with
  | nil => rfl
  | cons c rest ih =>
    obtain ⟨hc, hrest⟩ := List.forall_mem_cons.mp h
    have hnone : quoteAfter none c = none := if_neg (Bool.eq_false_iff.mp hc)
    rw [List.foldl_cons, hnone, ih hrest]

/-- Without its mark a quote stays open. -/
theorem foldl_quoteAfter_some {q : Char} (h : q ∉ source) :
    source.foldl quoteAfter (some q) = some q := by
  induction source with
  | nil => rfl
  | cons c rest ih =>
    have hc : c ≠ q := fun heq => h (heq ▸ List.mem_cons_self)
    have hopen : quoteAfter (some q) c = some q := if_neg hc
    rw [List.foldl_cons, hopen, ih fun hmem => h (List.mem_cons_of_mem c hmem)]

end Placeholder

namespace Token

open Placeholder

variable {tokens : List Token} (d : Dialect)

theorem isQuote_of_isCalm {c : Char} (h : isCalm c = true) : isQuote c = false := by
  by_contra hquote
  have hsigns : ∀ c, isQuote c = true → c ∈ signs := by
    intro c hc
    simp only [isQuote, Bool.or_eq_true, beq_iff_eq] at hc
    rcases hc with (rfl | rfl) | rfl <;> decide
  have hcontains : signs.contains c = true :=
    List.contains_iff_mem.mpr (hsigns c (Bool.eq_true_of_not_eq_false hquote))
  rw [isCalm, hcontains] at h
  cases h

/-- A plain token ends outside quotes when it begins there. -/
theorem Plain.foldl_quoteAfter {t : Token} (h : t.Plain) :
    (t.chars d.mark).foldl quoteAfter none = none := by
  cases t with
  | word s =>
    exact foldl_quoteAfter_none fun c hc => isQuote_of_isCalm (List.all_eq_true.mp h c hc)
  | free s => cases h
  | name n =>
    have hmark : isQuote d.mark = true := by
      rcases d.mark_eq with heq | heq <;> rw [heq] <;> rfl
    have hopen : quoteAfter none d.mark = some d.mark := if_pos hmark
    have hclosed : quoteAfter (some d.mark) d.mark = none := if_pos rfl
    have hletters : d.mark ∉ n.letters := by
      intro hmem
      rw [isQuote_of_isCalm (isCalm_of_mem_letters hmem)] at hmark
      cases hmark
    rw [Token.chars, List.cons_append, List.foldl_cons, hopen, List.foldl_append,
      foldl_quoteAfter_some hletters, List.foldl_cons, hclosed, List.foldl_nil]
  | placeholder => cases h
  | integer n => exact foldl_quoteAfter_none fun c hc => isQuote_of_isCalm (isCalm_of_mem_integerText hc)

/-- All question marks of sealed tokens are outside quotes. -/
theorem holes_render (h : ∀ t ∈ tokens, t = .placeholder ∨ t.Plain) :
    holes none (render d.mark tokens) = (render d.mark tokens).count '?' := by
  induction tokens with
  | nil => rfl
  | cons t rest ih =>
    obtain ⟨ht, hrest⟩ := List.forall_mem_cons.mp h
    rw [render_cons, holes_append, List.count_append]
    rcases ht with rfl | hplain
    · exact congrArg (1 + ·) (ih hrest)
    · have hmark : '?' ∉ t.chars d.mark := hplain.sign_not_mem d List.mem_cons_self
      have hnone : holes none (t.chars d.mark) = 0 := by
        have hle := holes_le_count none (t.chars d.mark)
        rw [List.count_eq_zero_of_not_mem hmark] at hle
        exact Nat.le_zero.mp hle
      rw [hnone, hplain.foldl_quoteAfter, ih hrest, List.count_eq_zero_of_not_mem hmark]

/-- Signs other than marks and question marks do not occur in sealed tokens. -/
theorem sign_not_mem_render (h : ∀ t ∈ tokens, t = .placeholder ∨ t.Plain) {sign : Char}
    (hsign : sign ∈ [':', '\\', '%', '[']) : sign ∉ render d.mark tokens := by
  intro hmem
  obtain ⟨t, ht, hmem⟩ := List.mem_flatMap.mp hmem
  rcases h t ht with rfl | hplain
  · obtain rfl := List.mem_singleton.mp hmem
    exact absurd hsign (by decide)
  · exact hplain.sign_not_mem d (List.mem_cons_of_mem _ hsign) hmem

/-- A question mark of the text is a placeholder among the tokens. -/
theorem render_split (h : ∀ t ∈ tokens, t = .placeholder ∨ t.Plain) {front back : List Char}
    (htext : render d.mark tokens = front ++ '?' :: back) :
    ∃ before after, tokens = before ++ .placeholder :: after ∧ front = render d.mark before ∧
      back = render d.mark after := by
  induction tokens generalizing front with
  | nil => exact absurd htext.symm (List.append_ne_nil_of_right_ne_nil _ (List.cons_ne_nil _ _))
  | cons t rest ih =>
    obtain ⟨ht, hrest⟩ := List.forall_mem_cons.mp h
    rw [render_cons] at htext
    rcases List.append_eq_append_iff.mp htext with ⟨more, rfl, hmore⟩ | ⟨more, hchars, hmore⟩
    · obtain ⟨before, after, rfl, rfl, hback⟩ := ih hrest hmore
      exact ⟨t :: before, after, rfl, rfl, hback⟩
    · cases more with
      | nil =>
        rw [List.append_nil] at hchars
        obtain ⟨before, after, rfl, hfront, hback⟩ := ih hrest (show render d.mark rest = [] ++ '?' :: back from hmore.symm)
        refine ⟨t :: before, after, rfl, ?_, hback⟩
        rw [render_cons, ← hfront, List.append_nil, hchars]
      | cons c more =>
        obtain ⟨rfl, hback⟩ := List.cons.inj hmore
        have hmark : '?' ∈ t.chars d.mark := by simp [hchars]
        rcases ht with rfl | hplain
        · -- The token is the question mark itself.
          obtain ⟨rfl, rfl⟩ : front = [] ∧ more = [] := by
            cases front with
            | nil => exact ⟨rfl, (List.cons.inj hchars).2.symm⟩
            | cons c front => exact absurd hchars (by simp [Token.chars])
          exact ⟨[], rest, rfl, rfl, hback⟩
        · exact absurd hmark (hplain.sign_not_mem d List.mem_cons_self)

/-- The text of what opens ends with a blank or an opening parenthesis. -/
theorem Opens.standsFree {t : Token} (h : t.Opens) (before : List Token) :
    StandsFree ((render d.mark (before ++ [t])).getLast?.or none) := by
  cases t with
  | word s =>
    have hlast : ∃ c, s.toList.getLast? = some c ∧ StandsFree (some c) := by
      rcases h with hs | hs
      · exact ⟨' ', hs, by decide, by decide⟩
      · exact ⟨'(', hs, by decide, by decide⟩
    obtain ⟨c, hs, hfree⟩ := hlast
    rw [render_append, render_cons, render_nil, List.append_nil, chars_word,
      List.getLast?_append, hs]
    exact hfree
  | free s => cases h
  | name n => cases h
  | placeholder => cases h
  | integer n => cases h

/-- The text of what shuts is parted. -/
theorem Shuts.parted {t : Token} (h : t.Shuts) (after : List Token) :
    Parted (render d.mark (t :: after)) := by
  cases t with
  | word s =>
    have hhead : ∃ c, s.toList.head? = some c ∧ isWordChar c = false ∧ c ≠ ':' ∧ c ≠ '?' := by
      rcases h with hs | hs | hs
      · exact ⟨' ', hs, by decide⟩
      · exact ⟨',', hs, by decide⟩
      · exact ⟨')', hs, by decide⟩
    obtain ⟨c, hs, hparted⟩ := hhead
    intro x hx
    rw [render_cons, chars_word, List.head?_append, hs] at hx
    obtain rfl : c = x := Option.some.inj hx
    exact hparted
  | free s => cases h
  | name n => cases h
  | placeholder => cases h
  | integer n => cases h

/-- In the text of sealed tokens every question mark stands free and parted. -/
theorem Sealed.spaced (h : Sealed tokens) : Spaced Parted none none (render d.mark tokens) := by
  intro front back htext _
  obtain ⟨before, after, rfl, rfl, rfl⟩ := render_split d h.plain htext
  obtain ⟨hbefore, hafter, hjoin⟩ := List.isChain_append.mp h.chain
  constructor
  · rcases List.eq_nil_or_concat before with rfl | ⟨init, t, rfl⟩
    · exact absurd rfl (h.first .placeholder rfl)
    · have hapart := hjoin t (by simp) .placeholder rfl
      rw [List.concat_eq_append]
      exact (hapart.1 rfl).standsFree d init
  · cases after with
    | nil => exact nofun
    | cons t after => exact ((List.isChain_cons_cons.mp hafter).1.2 rfl).parted d after

end Token

/-! ## Binds of prepared statements -/

namespace BindText

/-- The word at the head of a text if no colon follows it. -/
def word? (rest : List Char) : Option (List Char) :=
  let name := rest.takeWhile isWordChar
  if (rest.dropWhile isWordChar).head? != some ':' && !name.isEmpty then some name else none

/-- Pieces are read with this reader of words. -/
theorem pieces_eq (text : List Char) : pieces text = BindPattern.piecesFrom word? none 0 text := by
  have hread : ∀ (before : Option Char) (skip : Nat),
      piecesFrom before skip text = BindPattern.piecesFrom word? before skip text := by
    induction text with
    | nil => exact fun _ _ => rfl
    | cons c rest ih =>
      intro before skip
      cases skip with
      | succ skip => exact ih (some c) skip
      | zero =>
        rw [piecesFrom, BindPattern.piecesFrom]
        by_cases hc : c = ':'
        · have hfree : bindAt? before rest =
              if BindPattern.isFree before = true then word? rest else none := by
            unfold bindAt? word? BindPattern.isFree
            cases before with
            | none => simp
            | some b => by_cases hb : (b == ':' || isWordChar b || b == '\\') = true <;> simp [hb]
          rw [if_pos hc, hfree]
          by_cases hb : BindPattern.isFree before = true
          · simp only [hc, hb, if_true, decide_true, Bool.and_true]
            cases word? rest with
            | none => exact congrArg _ (ih _ 0)
            | some name => exact congrArg _ (ih _ name.length)
          · simp only [hc, hb, if_false, Bool.and_false, Bool.false_eq_true]
            exact congrArg _ (ih _ 0)
        · simp only [hc, if_false, decide_false, Bool.false_and, Bool.false_eq_true]
          exact congrArg _ (ih _ 0)
  exact hread none 0

theorem attentive_word? : BindPattern.Attentive word? := by
  intro text h
  cases text with
  | nil => rfl
  | cons c rest =>
    have hc : isWordChar c = false := h
    simp [word?, hc]

/-- In front of parted text the whole name is read. -/
theorem closes_word? : Placeholder.Closes word? Placeholder.Parted := by
  refine Placeholder.closes_of_word fun name rest hname hne hrest => ?_
  have htake : (name ++ rest).takeWhile isWordChar = name := by
    rw [List.takeWhile_append_of_pos hname]
    cases rest with
    | nil => simp
    | cons c rest =>
      have hc := (hrest c rfl).1
      simp [hc]
  have hdrop : (name ++ rest).dropWhile isWordChar = rest := by
    rw [List.dropWhile_append_of_pos hname]
    cases rest with
    | nil => rfl
    | cons c rest =>
      have hc := (hrest c rfl).1
      simp [hc]
  have hhead : rest.head? ≠ some ':' := fun h => (hrest ':' h).2 rfl
  simp [word?, htake, hdrop, hhead, hne]

end BindText

namespace Template

variable {known : List (List Char)}

/-- A bind in a template. -/
def slotText (name : List Char) : List Char := '%' :: '(' :: (name ++ [')', 's'])

/-- A piece as it is written in a template. -/
def slotted : BindPiece → List Char
  | .bind name => slotText name
  | .char c => [c]

/-- The pieces of a template without late marks. -/
def slots (pieces : List BindPiece) : List TemplatePiece :=
  pieces.map fun
    | .bind name => .slot name
    | .char c => .char c

theorem unescape_of_not_mem {s : List Char} (h : '\\' ∉ s) : BindText.unescape s = s := by
  induction s with
  | nil => rfl
  | cons c rest ih =>
    have hc : ¬ (c = '\\' && BindText.closesEscape rest) = true := by
      intro hslash
      have heq : c = '\\' := of_decide_eq_true (Bool.and_eq_true_iff.mp hslash).1
      exact h (heq ▸ List.mem_cons_self)
    rw [BindText.unescape, if_neg hc, ih fun hmem => h (List.mem_cons_of_mem c hmem)]

theorem ofBinds_eq {pieces : List BindPiece} (h : '\\' ∉ pieces.flatMap slotted) :
    ofBinds pieces = pieces.flatMap slotted := by
  have htext : ofBinds pieces = BindText.unescape (pieces.flatMap slotted) := by
    refine congrArg (fun f => BindText.unescape (pieces.flatMap f)) (funext fun piece => ?_)
    cases piece <;> rfl
  rw [htext, unescape_of_not_mem h]

/-- What was read as a mark is passed over. -/
theorem readFrom_skip (known : List (List Char)) (mark rest : List Char) :
    readFrom known mark.length (mark ++ rest) = readFrom known 0 rest := by
  induction mark with
  | nil => rfl
  | cons c mark ih =>
    rw [List.cons_append, List.length_cons, readFrom]
    exact ih

/-- A known bind in a template is a slot. -/
theorem readFrom_slot {name : List Char} (hname : ∀ c ∈ name, isWordChar c = true)
    (hne : name ≠ []) (hknown : name ∈ known) (rest : List Char) :
    readFrom known 0 (slotText name ++ rest) = .slot name :: readFrom known 0 rest := by
  have hword : ∀ c ∈ name, (c != ')') = true := by
    intro c hc
    refine bne_iff_ne.mpr ?_
    rintro rfl
    exact absurd (hname ')' hc) (by decide)
  have hslot : slotName? (slotText name ++ rest) = some name := by
    have htake : (name ++ ')' :: 's' :: rest).takeWhile (· != ')') = name := by
      rw [List.takeWhile_append_of_pos hword]
      simp
    have hdrop : (name ++ ')' :: 's' :: rest).dropWhile (· != ')') = ')' :: 's' :: rest := by
      rw [List.dropWhile_append_of_pos hword]
      simp
    have hempty : name.isEmpty = false := by simp [hne]
    have htext : slotText name ++ rest = '%' :: '(' :: (name ++ ')' :: 's' :: rest) := by
      simp [slotText]
    rw [htext, slotName?, hdrop, htake]
    simp [hempty]
  have hmark : markAt? known (slotText name ++ rest) = some ([.slot name], name.length + 4) := by
    rw [markAt?, hslot]
    simp [hknown]
  have hskip := readFrom_skip known ('(' :: (name ++ [')', 's'])) rest
  have hlength : ('(' :: (name ++ [')', 's'])).length = name.length + 4 - 1 := by simp
  rw [hlength] at hskip
  have hfirst : slotText name ++ rest = '%' :: ('(' :: (name ++ [')', 's']) ++ rest) := rfl
  rw [hfirst] at hmark ⊢
  rw [readFrom, hmark]
  exact congrArg (.slot name :: ·) hskip

/-- A character that begins no mark stands for itself. -/
theorem readFrom_char {c : Char} {rest : List Char} (hc : c ≠ '%') (hlate : '[' ∉ c :: rest) :
    readFrom known 0 (c :: rest) = .char c :: readFrom known 0 rest := by
  have hslot : slotName? (c :: rest) = none := by
    rw [slotName?]
    rintro tail heq
    exact hc (List.cons.inj heq).1
  have hnone : lateMark.isPrefixOf (c :: rest) = false := by
    refine Bool.eq_false_iff.mpr fun hprefix => hlate ?_
    have hmem : '[' ∈ lateMark := by decide
    exact (List.isPrefixOf_iff_prefix.mp hprefix).subset hmem
  have hmark : markAt? known (c :: rest) = none := by
    rw [markAt?, hslot, hnone]
    rfl
  rw [readFrom, hmark]

/-- Pieces that have no late marks are read back from their template. -/
theorem readFrom_slots {pieces : List BindPiece}
    (hnames : ∀ name ∈ BindText.names pieces,
      name ∈ known ∧ name ≠ [] ∧ ∀ c ∈ name, isWordChar c = true)
    (hpercent : BindPiece.char '%' ∉ pieces) (hlate : '[' ∉ pieces.flatMap slotted) :
    readFrom known 0 (pieces.flatMap slotted) = slots pieces := by
  induction pieces with
  | nil => rfl
  | cons piece rest ih =>
    rw [List.flatMap_cons] at hlate ⊢
    have hmore : '[' ∉ rest.flatMap slotted := fun h => hlate (List.mem_append_right _ h)
    have hpercents : BindPiece.char '%' ∉ rest := fun h => hpercent (List.mem_cons_of_mem _ h)
    cases piece with
    | char c =>
      have hc : c ≠ '%' := by
        rintro rfl
        exact hpercent List.mem_cons_self
      have hrest := ih (fun name hname => hnames name hname) hpercents hmore
      show readFrom known 0 (c :: rest.flatMap slotted) = _
      have hhere : '[' ∉ c :: rest.flatMap slotted := hlate
      rw [readFrom_char hc hhere, hrest]
      rfl
    | bind name =>
      obtain ⟨hknown, hne, hword⟩ := hnames name List.mem_cons_self
      have hrest := ih (fun other hother => hnames other (List.mem_cons_of_mem _ hother)) hpercents
        hmore
      show readFrom known 0 (slotText name ++ rest.flatMap slotted) = _
      rw [readFrom_slot hword hne hknown, hrest]
      rfl

/-- Slots take the values of the binds in order. -/
theorem names_slots (pieces : List BindPiece) : names (slots pieces) = BindText.names pieces := by
  induction pieces with
  | nil => rfl
  | cons piece rest ih =>
    cases piece with
    | char c => exact ih
    | bind name => exact congrArg (name :: ·) ih

/-- They are sent as question marks. -/
theorem sent_slots (pieces : List BindPiece) :
    sent (slots pieces) = pieces.map BindPattern.shown := by
  induction pieces with
  | nil => rfl
  | cons piece rest ih =>
    cases piece with
    | char c => exact congrArg (c :: ·) ih
    | bind name => exact congrArg ('?' :: ·) ih

/-- The template of pieces whose characters are no signs of escapes and templates has their slots. -/
theorem ofText_eq {pieces : List BindPiece}
    (hchars : ∀ c, .char c ∈ pieces → c ≠ '\\' ∧ c ≠ '%' ∧ c ≠ '[')
    (hnames : ∀ name ∈ BindText.names pieces, name ≠ [] ∧ ∀ c ∈ name, isWordChar c = true) :
    ofText pieces = slots pieces := by
  have hsign : ∀ sign : Char, sign ∉ ['%', '(', ')', 's'] → isWordChar sign = false →
      BindPiece.char sign ∉ pieces → sign ∉ pieces.flatMap slotted := by
    intro sign hslot hword hchar hmem
    obtain ⟨piece, hpiece, hmem⟩ := List.mem_flatMap.mp hmem
    cases piece with
    | char c =>
      obtain rfl := List.mem_singleton.mp hmem
      exact hchar hpiece
    | bind name =>
      have hname : name ∈ BindText.names pieces := List.mem_filterMap.mpr ⟨_, hpiece, rfl⟩
      have hother : sign ∉ name := by
        intro h
        rw [(hnames name hname).2 sign h] at hword
        cases hword
      simp only [List.mem_cons, not_or] at hslot
      simp [slotted, slotText, hslot, hother] at hmem
  have hslash : '\\' ∉ pieces.flatMap slotted :=
    hsign '\\' (by decide) (by decide) fun h => (hchars _ h).1 rfl
  have hlate : '[' ∉ pieces.flatMap slotted :=
    hsign '[' (by decide) (by decide) fun h => (hchars _ h).2.2 rfl
  rw [ofText, read, ofBinds_eq hslash]
  exact readFrom_slots (fun name hname => ⟨hname, hnames name hname⟩)
    (fun h => (hchars _ h).2.1 rfl) hlate

end Template

/-! ## Values of binds -/

namespace Placeholder

theorem bindName_injective {m n : Nat} (h : bindName m = bindName n) : m = n :=
  decimalDigits_injective (List.cons.inj h).2

end Placeholder

namespace Binding

open Placeholder

theorem map_fst_positioned (first : Nat) (values : List BoundValue) :
    (positioned first values).map Prod.fst = List.range' first values.length := by
  induction values generalizing first with
  | nil => rfl
  | cons v rest ih => rw [positioned, List.map_cons, ih, List.length_cons, List.range'_succ]

/-- The value of a bind is the one at its position. -/
theorem value?_positioned {first i : Nat} {values : List BoundValue} {v : BoundValue}
    (h : values[i]? = some v) :
    value? (positioned first values) (bindName (first + i)) = some v.withoutTruth := by
  induction values generalizing first i with
  | nil => cases h
  | cons w rest ih =>
    cases i with
    | zero =>
      obtain rfl : w = v := Option.some.inj h
      simp [value?, positioned]
    | succ i =>
      have hrest := @ih (first + 1) i h
      have hne : ¬ bindName first = bindName (first + (i + 1)) := fun heq => by
        have := bindName_injective heq
        omega
      rw [Nat.add_assoc, Nat.add_comm 1] at hrest
      rw [value?, positioned, List.find?_cons_of_neg (by simpa using hne)]
      exact hrest

/-- The values of numbered binds are taken in order. -/
theorem mapM_taken {first : Nat} {values : List BoundValue} {bound : List (Nat × BoundValue)}
    (h : ∀ i v, values[i]? = some v → value? bound (bindName (first + 1 + i)) = some v.withoutTruth) :
    (numbered first values.length).mapM (taken bound) =
      .ok (values.map BoundValue.withoutTruth) := by
  induction values generalizing first with
  | nil => rfl
  | cons v rest ih =>
    have hfirst : taken bound (bindName (first + 1)) = .ok v.withoutTruth := by
      rw [taken, show value? bound (bindName (first + 1)) = some v.withoutTruth from h 0 v rfl]
    have hrest := @ih (first + 1) fun i w hw => by
      have hlater := h (i + 1) w hw
      rwa [show first + 1 + (i + 1) = first + 1 + 1 + i by omega] at hlater
    rw [List.length_cons, Nat.add_comm, numbered_succ, List.mapM_cons, hfirst, ok_bind, hrest,
      ok_bind, List.map_cons]
    rfl

/-- A text whose placeholders were all read back as binds fits values at their positions. -/
theorem pieces_eq_ok {handle : Handle} {sql : String} {pieces : List BindPiece}
    {values : List BoundValue} (hcount : (convert sql).2 = values.length)
    (hpieces : BindText.pieces (convert sql).1.toList = pieces)
    (hnames : BindText.names pieces = numbered 0 values.length) :
    Binding.pieces ⟨handle, sql, positioned 1 values⟩ = .ok pieces := by
  have hbound := Prepared.boundValues_positioned handle sql 1 values
  have hchecked : checkCount ⟨handle, sql, positioned 1 values⟩ (convert sql).2 = .ok () := by
    rw [checkCount, hbound, map_fst_positioned, hcount]
    exact if_pos rfl
  have hnone : (positioned 1 values).find?
      (fun b => !(BindText.names pieces).contains (bindName b.1)) = none := by
    refine List.find?_eq_none.mpr fun b hb => ?_
    have hposition : b.1 ∈ List.range' 1 values.length :=
      map_fst_positioned 1 values ▸ List.mem_map_of_mem hb
    have hname : bindName b.1 ∈ BindText.names pieces :=
      hnames ▸ List.mem_map_of_mem hposition
    simp [hname]
  have hbinds : checkBinds (BindText.names pieces) (positioned 1 values) = .ok () := by
    rw [checkBinds, hnone]
  rw [Binding.pieces]
  dsimp only
  rw [hpieces, hchecked, ok_bind, hbound, hbinds, ok_bind]
  rfl

/-- Pieces without escapes and signs of templates, with numbered binds, are sent as they are shown,
with the values in order. -/
theorem statement_eq_ok {pieces : List BindPiece} {values : List BoundValue}
    (hchars : ∀ c, .char c ∈ pieces → c ≠ '\\' ∧ c ≠ '%' ∧ c ≠ '[')
    (hnames : BindText.names pieces = numbered 0 values.length) :
    statement pieces (positioned 1 values) =
      .ok ⟨String.ofList (pieces.map BindPattern.shown), values.map BoundValue.withoutTruth⟩ := by
  have hvalue : ∀ i v, values[i]? = some v →
      value? (positioned 1 values) (bindName (0 + 1 + i)) = some v.withoutTruth :=
    fun i v hv => value?_positioned hv
  have hnone : (BindText.names pieces).find?
      (fun name => (value? (positioned 1 values) name).isNone) = none := by
    refine List.find?_eq_none.mpr fun name hname => ?_
    rw [hnames] at hname
    obtain ⟨n, hn, rfl⟩ := List.mem_map.mp hname
    obtain ⟨i, hi, rfl⟩ := List.mem_range'.mp hn
    have hlookup := hvalue i values[i] (List.getElem?_eq_getElem hi)
    rw [Nat.one_mul, hlookup]
    exact Bool.false_ne_true
  have hvalues : checkValues (BindText.names pieces) (positioned 1 values) = .ok () := by
    rw [checkValues, hnone]
  have htemplate : Template.ofText pieces = Template.slots pieces := by
    refine Template.ofText_eq hchars fun name hname => ?_
    rw [hnames] at hname
    obtain ⟨n, -, rfl⟩ := List.mem_map.mp hname
    exact ⟨bindName_ne_nil n, fun _ => isWordChar_of_mem_bindName⟩
  rw [statement, hvalues, ok_bind, htemplate]
  dsimp only
  rw [Template.sent_slots, Template.names_slots, hnames, mapM_taken hvalue]
  rfl

end Binding

/-- A text with binds whose statement can be made is sent in the manner of the connection. -/
theorem Autobegin.run_of_statement {σ : Type} (wire : Wire σ) {pieces : List BindPiece}
    {bound : List (Nat × BoundValue)} {sql : String} {values : List BoundValue}
    (h : Binding.statement pieces bound = .ok ⟨sql, values⟩) :
    run wire pieces bound = settle wire (do
      ensureLine wire
      let result ← send wire sql values
      receive result) := by
  rw [run, h]
  rfl

/-- A prepared statement whose values fit its binds runs with them. -/
theorem Autobegin.execute_of_pieces {σ : Type} (wire : Wire σ) {p : Prepared}
    {pieces : List BindPiece} {bound : List (Nat × BoundValue)}
    (hpieces : Binding.pieces p = .ok pieces) (hbound : p.boundValues = bound) :
    execute wire p = run wire pieces bound := by
  rw [execute, hpieces, hbound]
  funext s
  exact Act.bind_of_ok rfl

/-- As many parameters are bound as are given. -/
theorem BoundValue.length_ofValues {values : List Value} {bound : List BoundValue}
    (h : ofValues values = .ok bound) : bound.length = values.length := by
  induction values generalizing bound with
  | nil =>
    cases h
    rfl
  | cons v rest ih =>
    obtain ⟨b, hb, h⟩ := bind_eq_ok_iff.mp h
    obtain ⟨more, hmore, h⟩ := bind_eq_ok_iff.mp h
    cases h
    rw [List.length_cons, List.length_cons, ih hmore]

/-! ## Compiled statements -/

open Placeholder

/-- Signs of binds and templates do not occur in the text of a regular statement. -/
theorem Statement.Regular.sign_not_mem {s : Statement} (h : s.Regular) (d : Dialect) {sign : Char}
    (hsign : sign ∈ [':', '\\', '%', '[']) : sign ∉ (s.sql d).toList := by
  rw [Statement.sql, String.toList_ofList]
  exact Token.sign_not_mem_render d h.tokens_sealed.plain hsign

/-- How the text of a regular statement is converted and read: there is a bind for each question
mark. -/
theorem Statement.Regular.exists_pieces {s : Statement} (h : s.Regular) (d : Dialect) :
    let text := (s.sql d).toList
    (convert (s.sql d)).2 = text.count '?' ∧
      (convert (s.sql d)).1.toList =
        fill text ((numbered 0 (text.count '?')).map (':' :: ·)) ∧
      ∃ pieces, BindPattern.pieces (convert (s.sql d)).1.toList = pieces ∧
        BindText.pieces (convert (s.sql d)).1.toList = pieces ∧
        BindText.names pieces = numbered 0 (text.count '?') ∧
        pieces.map BindPattern.shown = text := by
  intro text
  have hsealed := h.tokens_sealed
  have htext : text = Token.render d.mark s.tokens := String.toList_ofList
  have hcolon : ':' ∉ text := h.sign_not_mem d (by decide)
  have hholes : holes none text = text.count '?' := htext ▸ Token.holes_render d hsealed.plain
  have hspaced : Spaced Parted none none text := htext ▸ hsealed.spaced d
  obtain ⟨pieces, hwrites, hconverted⟩ := convert_writes (s.sql d)
  obtain ⟨hspell, hshown⟩ := hwrites.spell_eq hcolon hholes
  have hcloses : Closes BindPattern.word? Parted := by
    refine closes_of_word fun name rest hname hne hrest => ?_
    refine (BindPattern.word?_append_iff hname hne).mpr ⟨BindPattern.word?_of_head ?_, ?_⟩
    · cases rest with
      | nil => rfl
      | cons c rest => exact (hrest c rfl).1
    · exact fun hhead => (hrest ':' hhead).2 rfl
  have hpattern : BindPattern.pieces (convert (s.sql d)).1.toList = pieces := by
    rw [hconverted]
    exact hwrites.read (fun _ => BindPattern.word?_of_head) hcloses hspaced beside_none
  have hread : BindText.pieces (convert (s.sql d)).1.toList = pieces := by
    rw [hconverted, BindText.pieces_eq]
    exact hwrites.read BindText.attentive_word? BindText.closes_word? hspaced beside_none
  refine ⟨?_, ?_, pieces, hpattern, hread, ?_, hshown⟩
  · rw [convert_count]
    exact hholes
  · rw [hconverted, hspell, hholes]
  · rw [hwrites.names_eq, hholes]

/-- A prepared statement whose binds are the numbered ones, as many as there are values: it fits them,
and it sends the text its pieces show with the values in order. -/
theorem Prepared.sends_of_pieces {p : Prepared} {sql : String} (hp : p.sql = sql)
    {pieces : List BindPiece} {bound : List BoundValue} (hcount : (convert sql).2 = bound.length)
    (hread : BindText.pieces (convert sql).1.toList = pieces)
    (hnames : BindText.names pieces = numbered 0 bound.length)
    (hchars : ∀ c, BindPiece.char c ∈ pieces → c ≠ '\\' ∧ c ≠ '%' ∧ c ≠ '[')
    (hshown : pieces.map BindPattern.shown = sql.toList) :
    Binding.pieces (p.reset.bindAll bound) = .ok pieces ∧
      (p.reset.bindAll bound).boundValues = positioned 1 bound ∧
      ∀ {σ : Type} (wire : Wire σ),
        Autobegin.execute wire (p.reset.bindAll bound) =
          Autobegin.run wire pieces (positioned 1 bound) ∧
        Autobegin.run wire pieces (positioned 1 bound) = Autobegin.settle wire (do
          Autobegin.ensureLine wire
          let result ← Autobegin.send wire sql (bound.map BoundValue.withoutTruth)
          Autobegin.receive result) := by
  have hready : p.reset.bindAll bound = ⟨p.handle, sql, positioned 1 bound⟩ := by
    rw [Prepared.bindAll_reset, hp]
  have hfits : Binding.pieces (p.reset.bindAll bound) = .ok pieces := by
    rw [hready]
    exact Binding.pieces_eq_ok hcount hread hnames
  have hvalues : (p.reset.bindAll bound).boundValues = positioned 1 bound := by
    rw [hready, Prepared.boundValues_positioned]
  have hstatement : Binding.statement pieces (positioned 1 bound) =
      .ok ⟨sql, bound.map BoundValue.withoutTruth⟩ := by
    have hshownText : String.ofList (pieces.map BindPattern.shown) = sql :=
      (congrArg String.ofList hshown).trans String.ofList_toList
    rw [Binding.statement_eq_ok hchars hnames, hshownText]
  exact ⟨hfits, hvalues, fun wire =>
    ⟨Autobegin.execute_of_pieces wire hfits hvalues, Autobegin.run_of_statement wire hstatement⟩⟩

/-- Whatever the driver, the clause calls and the call that compiles, the text that is converted is
the compiled one with the i-th bind in the place of the i-th question mark, one for each parameter,
and the pattern for binds finds these and no others. A prepared statement that is given the
parameters by position fits them: it is sent as it was compiled, with the parameters in order. -/
theorem Command.binds_exactly (driver : String) (clauses : List Clause) (command : Command)
    (c : Compiled) (h : command.compile (Query.collect clauses) = .ok c) :
    let sql := c.sql (Dialect.ofDriver driver)
    let binds := numbered 0 c.params.length
    sql.toList.count '?' = c.params.length ∧
      convert sql =
        (String.ofList (fill sql.toList (binds.map (':' :: ·))), c.params.length) ∧
      BindText.names (BindPattern.pieces (convert sql).1.toList) = binds ∧
      ∀ bound, BoundValue.ofValues c.params = .ok bound →
        ∀ p : Prepared, p.sql = sql → ∃ pieces,
          Binding.pieces (p.reset.bindAll bound) = .ok pieces ∧
          BindText.names pieces = binds ∧
          (p.reset.bindAll bound).boundValues = positioned 1 bound ∧
          ∀ {σ : Type} (wire : Wire σ),
            Autobegin.execute wire (p.reset.bindAll bound) =
              Autobegin.run wire pieces (positioned 1 bound) ∧
            Autobegin.run wire pieces (positioned 1 bound) = Autobegin.settle wire (do
              Autobegin.ensureLine wire
              let result ← Autobegin.send wire sql (bound.map BoundValue.withoutTruth)
              Autobegin.receive result) := by
  intro sql binds
  have hq := Query.collect_collected clauses
  have hregular := hq.compile_regular h
  have hmarks : sql.toList.count '?' = c.params.length := by
    obtain ⟨text, -, hfills⟩ := hq.inline_fills (Dialect.ofDriver driver) (fun _ => []) h
    have htext : sql.toList = Token.render (Dialect.ofDriver driver).mark c.statement.tokens :=
      String.toList_ofList
    rw [htext, hfills.count, List.length_map]
  obtain ⟨hcount, htext, pieces, hpattern, hread, hnames, hshown⟩ :=
    hregular.exists_pieces (Dialect.ofDriver driver)
  change (convert sql).2 = sql.toList.count '?' at hcount
  change (convert sql).1.toList =
    fill sql.toList ((numbered 0 (sql.toList.count '?')).map (':' :: ·)) at htext
  change BindText.names pieces = numbered 0 (sql.toList.count '?') at hnames
  rw [hmarks] at hcount htext hnames
  have hchars : ∀ ch, BindPiece.char ch ∈ pieces → ch ≠ '\\' ∧ ch ≠ '%' ∧ ch ≠ '[' := by
    intro ch hch
    have hmem : ch ∈ sql.toList := hshown ▸ List.mem_map_of_mem hch
    have hnone : ∀ {sign : Char}, sign ∈ [':', '\\', '%', '['] → sign ∉ sql.toList :=
      hregular.sign_not_mem (Dialect.ofDriver driver)
    refine ⟨?_, ?_, ?_⟩ <;> rintro rfl <;> exact hnone (by decide) hmem
  refine ⟨hmarks, Prod.ext ?_ hcount, ?_, fun bound hbound p hp => ?_⟩
  · rw [← htext, String.ofList_toList]
  · exact (congrArg BindText.names hpattern).trans hnames
  have hlength : bound.length = c.params.length := BoundValue.length_ofValues hbound
  obtain ⟨hfits, hvalues, hsends⟩ := Prepared.sends_of_pieces hp (hcount.trans hlength.symm)
    hread (hlength ▸ hnames) hchars hshown
  exact ⟨pieces, hfits, hnames, hvalues, hsends⟩

/-- A change with three parameters, one of them a question mark, is converted and prepared. -/
theorem Command.binds_exactly_update :
    let clauses : List Clause := [.filter "id" (.list [.int 1, .int 2]) "in"]
    let command : Command := .update "users" [(.text "name", .text "?")]
    ∃ c, command.compile (Query.collect clauses) = .ok c ∧
      c.sql (Dialect.ofDriver "sqlite") =
        "UPDATE \"users\" SET \"name\" = ? WHERE \"id\" IN (?, ?)" ∧
      (convert (c.sql (Dialect.ofDriver "sqlite"))).2 = 3 ∧
      BindText.names (BindPattern.pieces (convert (c.sql (Dialect.ofDriver "sqlite"))).1.toList) =
        numbered 0 3 ∧
      ∃ pieces, Binding.pieces ((Prepared.mk 0 (c.sql (Dialect.ofDriver "sqlite")) []).reset.bindAll
        [.text "?", .int 1, .int 2]) = .ok pieces := by
  intro clauses command
  have h : command.compile (Query.collect clauses) = .ok
      ⟨.update ⟨⟨"users".toList, by decide⟩, []⟩ [⟨"name".toList, by decide⟩]
        [(.and, .among (.column ⟨⟨"id".toList, by decide⟩, []⟩) .isIn 2)] none,
        [.text "?", .int 1, .int 2]⟩ := rfl
  obtain ⟨-, hconvert, hnames, hbound⟩ := Command.binds_exactly "sqlite" clauses command _ h
  obtain ⟨pieces, hpieces, -⟩ := hbound [.text "?", .int 1, .int 2] rfl (Prepared.mk 0 _ []) rfl
  exact ⟨_, h, by decide +kernel, congrArg Prod.snd hconvert, hnames, pieces, hpieces⟩

end BoundSql
