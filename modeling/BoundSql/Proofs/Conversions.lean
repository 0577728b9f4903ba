import BoundSql.Proofs.QuotedRegions

/-!
# What becomes of the characters of a statement

When binds are put into a statement, its quoted regions and the neighbours of a character tell what
becomes of it. A question mark outside the regions becomes the bind with the next number, a colon
that would read as a bind gets a backslash wherever it stands, and everything else is copied.
-/

namespace BoundSql

open Text

namespace Placeholder

variable {s : List Char} {i : Nat} {regions : List Region} {c : Char}

/-! ## Conversions -/

/-- What becomes of a character. -/
inductive Conversion where
  /-- It is copied. -/
  | copied (c : Char)
  /-- A colon gets a backslash in front. -/
  | escaped
  /-- A question mark becomes the bind with this number. -/
  | bind (number : Nat)

namespace Conversion

/-- What is written for the character. -/
def written : Conversion → List Char
  | .copied c => [c]
  | .escaped => ['\\', ':']
  | .bind number => ':' :: bindName number

/-- What is left without the backslash that was put in and with a question mark for the bind. -/
def restored : Conversion → Char
  | .copied c => c
  | .escaped => ':'
  | .bind _ => '?'

end Conversion

/-- What becomes of a character between its neighbours, given the quote that is open there and the
count of placeholders before it. -/
def convertAt (before open? : Option Char) (count : Nat) (c : Char) (after : Option Char) :
    Conversion :=
  if c = ':' ∧ needsEscape before after = true then .escaped
  else if open? = none ∧ c = '?' then .bind (count + 1)
  else .copied c

/-- What becomes of each character of a text. -/
def conversionsFrom (before open? : Option Char) (count : Nat) : List Char → List Conversion
  | [] => []
  | c :: rest =>
    convertAt before open? count c rest.head? ::
      conversionsFrom (some c) (quoteAfter open? c) (count + holes open? [c]) rest

variable {before open? after : Option Char} {count : Nat}

theorem restored_convertAt : (convertAt before open? count c after).restored = c := by
  unfold convertAt
  split
  next h => exact h.1.symm
  next =>
    split
    next h => exact h.2.symm
    next => rfl

theorem map_restored_conversionsFrom :
    (conversionsFrom before open? count s).map Conversion.restored = s := by
  induction s generalizing before open? count with
  | nil => rfl
  | cons c rest ih => rw [conversionsFrom, List.map_cons, restored_convertAt, ih]

/-- What becomes of a character is known from what stands before it and the character behind. -/
theorem conversionsFrom_getElem? (i : Nat) :
    (conversionsFrom before open? count s)[i]? = s[i]?.map fun c =>
      convertAt ((s.take i).getLast?.or before) ((s.take i).foldl quoteAfter open?)
        (count + holes open? (s.take i)) c s[i + 1]? := by
  induction s generalizing before open? count i with
  | nil => rfl
  | cons c rest ih =>
    cases i with
    | zero =>
      rw [conversionsFrom, List.getElem?_cons_zero, List.getElem?_cons_zero,
        List.getElem?_cons_succ, ← List.head?_eq_getElem?]
      rfl
    | succ i =>
      have hbefore :
          (c :: rest.take i).getLast?.or before = (rest.take i).getLast?.or (some c) := by
        rw [List.getLast?_cons]
        cases (rest.take i).getLast? <;> rfl
      rw [conversionsFrom, List.getElem?_cons_succ, ih, List.take_succ_cons, hbefore, holes_cons,
        Nat.add_assoc]
      rfl

/-- One step of the conversion writes what becomes of the first character. -/
theorem convertFrom_cons (hquote : ∀ q, open? = some q → isQuote q = true) (rest : List Char) :
    convertFrom before open? count (c :: rest) =
      let r := convertFrom (some c) (quoteAfter open? c) (count + holes open? [c]) rest
      ((convertAt before open? count c rest.head?).written ++ r.1, r.2) := by
  by_cases hescape : c = ':' ∧ needsEscape before rest.head? = true
  · obtain ⟨rfl, hneeds⟩ := hescape
    have hnone : holes open? [':'] = 0 := holes_other (fun hmark => absurd hmark.2 (by decide)) []
    rw [convertFrom_escaped hneeds, convertAt, if_pos ⟨rfl, hneeds⟩, quoteAfter_colon hquote, hnone]
    rfl
  · by_cases hhole : open? = none ∧ c = '?'
    · obtain ⟨rfl, rfl⟩ := hhole
      rw [convertFrom_hole, convertAt, if_neg hescape, if_pos ⟨rfl, rfl⟩]
      rfl
    · have hcolon : c = ':' → needsEscape before rest.head? = false :=
        fun hc => Bool.eq_false_iff.mpr fun hneeds => hescape ⟨hc, hneeds⟩
      have hnone : holes open? [c] = 0 := holes_other hhole []
      rw [convertFrom_copied hcolon fun hc hopen => hhole ⟨hopen, hc⟩, convertAt, if_neg hescape,
        if_neg hhole, hnone]
      rfl

/-- The text that is made is what is written for its characters, one after another. -/
theorem convertFrom_eq (hquote : ∀ q, open? = some q → isQuote q = true) :
    convertFrom before open? count s =
      ((conversionsFrom before open? count s).flatMap Conversion.written,
        count + holes open? s) := by
  induction s generalizing before open? count with
  | nil => rfl
  | cons c rest ih =>
    have hnext : ∀ q, quoteAfter open? c = some q → isQuote q = true :=
      fun q => isQuote_of_quoteAfter hquote
    rw [convertFrom_cons hquote, ih hnext, conversionsFrom, List.flatMap_cons,
      holes_cons open? c rest, ← Nat.add_assoc]

/-! ## What is written for a text -/

/-- A colon that would read as a bind: a word character follows it, and no colon, word character or
backslash stands before it. -/
def ReadsAsBind (s : List Char) (i : Nat) : Prop :=
  s[i]? = some ':' ∧ (∃ c, s[i + 1]? = some c ∧ isWordChar c = true) ∧
    ∀ j c, j + 1 = i → s[j]? = some c → c ≠ ':' ∧ isWordChar c = false ∧ c ≠ '\\'

/-- What becomes of the characters of a text with these quoted regions. -/
structure Converted (s : List Char) (regions : List Region) (conversions : List Conversion) :
    Prop where
  /-- The colons that would read as binds get a backslash, within regions and outside them. -/
  escapes : ∀ i, conversions[i]? = some .escaped ↔ ReadsAsBind s i
  /-- The question marks outside the regions become binds, numbered in their order. -/
  binds : ∀ i number, conversions[i]? = some (.bind number) ↔
    IsPlaceholder s regions i ∧ number = Nat.count (IsPlaceholder s regions) i + 1
  /-- All else is copied, a question mark within a region too. -/
  copies : ∀ i c, conversions[i]? = some (.copied c) ↔
    s[i]? = some c ∧ ¬ ReadsAsBind s i ∧ ¬ IsPlaceholder s regions i
  /-- Without the backslashes and with question marks for the binds it is the text again. -/
  restores : conversions.map Conversion.restored = s

/-- The last character in front of a place is the one that stands right before it. -/
theorem isFree_getLast?_take (hi : i < s.length) :
    BindPattern.isFree (s.take i).getLast? = true ↔
      ∀ j c, j + 1 = i → s[j]? = some c → c ≠ ':' ∧ isWordChar c = false ∧ c ≠ '\\' := by
  cases i with
  | zero => exact ⟨fun _ j c hj => absurd hj (Nat.succ_ne_zero j), fun _ => rfl⟩
  | succ i =>
    have hbefore : s[i]? = some s[i] := List.getElem?_eq_getElem (Nat.lt_of_succ_lt hi)
    have hlast : (s.take (i + 1)).getLast? = some s[i] := by
      rw [List.take_add_one, hbefore, Option.toList_some, List.getLast?_concat]
    have hfree : BindPattern.isFree (some s[i]) = true ↔
        s[i] ≠ ':' ∧ isWordChar s[i] = false ∧ s[i] ≠ '\\' := by
      simp [BindPattern.isFree, and_assoc]
    rw [hlast, hfree]
    constructor
    · intro h j c hj hc
      obtain rfl : j = i := Nat.succ.inj hj
      obtain rfl := Option.some.inj (hbefore.symm.trans hc)
      exact h
    · exact fun h => h i s[i] rfl hbefore

/-- Such a colon is what gets a backslash between its neighbours. -/
theorem readsAsBind_iff (i : Nat) :
    ReadsAsBind s i ↔
      s[i]? = some ':' ∧ needsEscape (s.take i).getLast? s[i + 1]? = true := by
  refine and_congr_right fun hcolon => ?_
  have hi : i < s.length := (List.getElem?_eq_some_iff.mp hcolon).1
  rw [needsEscape_eq, Bool.and_eq_true, isFree_getLast?_take hi, Option.any_eq_true]

instance (s : List Char) : DecidablePred (ReadsAsBind s) :=
  fun i => decidable_of_iff _ (readsAsBind_iff i).symm

/-- What becomes of the character at a place is known from the regions and its neighbours. -/
theorem Quoting.conversion_iff {x : Conversion} (h : Quoting s 0 regions) :
    (conversionsFrom none none 0 s)[i]? = some x ↔ ∃ c, s[i]? = some c ∧
      (if ReadsAsBind s i then .escaped
        else if IsPlaceholder s regions i then .bind (Nat.count (IsPlaceholder s regions) i + 1)
        else .copied c) = x := by
  rw [conversionsFrom_getElem?, Option.map_eq_some_iff]
  refine exists_congr fun c => and_congr_right fun hc => ?_
  have hi : i ≤ s.length := (List.getElem?_eq_some_iff.mp hc).1.le
  have hcolon : (c = ':' ∧ needsEscape (s.take i).getLast? s[i + 1]? = true) ↔
      ReadsAsBind s i := by
    rw [readsAsBind_iff, hc, Option.some.injEq]
  have hplace : (openAt s i = none ∧ c = '?') ↔ IsPlaceholder s regions i := by
    rw [h.isPlaceholder_iff, hc, Option.some.injEq, and_comm]
  rw [Option.or_none, convertAt, h.count_placeholders hi, Nat.zero_add]
  exact Eq.congr_left (if_congr hcolon rfl (if_congr hplace rfl rfl))

/-- The conversions are those that the regions call for. -/
theorem Quoting.converted (h : Quoting s 0 regions) :
    Converted s regions (conversionsFrom none none 0 s) where
  escapes i := by
    rw [h.conversion_iff]
    constructor
    · rintro ⟨c, -, hx⟩
      split at hx
      next hcolon => exact hcolon
      next => split at hx <;> cases hx
    · exact fun hcolon => ⟨':', hcolon.1, if_pos hcolon⟩
  binds i number := by
    rw [h.conversion_iff]
    constructor
    · rintro ⟨c, -, hx⟩
      split at hx
      next => cases hx
      next =>
        split at hx
        next hplace => exact ⟨hplace, (Conversion.bind.inj hx).symm⟩
        next => cases hx
    · rintro ⟨hplace, rfl⟩
      have hcolon : ¬ ReadsAsBind s i := fun hcolon =>
        absurd (hplace.1.symm.trans hcolon.1) (by decide)
      exact ⟨'?', hplace.1, by rw [if_neg hcolon, if_pos hplace]⟩
  copies i c := by
    rw [h.conversion_iff]
    constructor
    · rintro ⟨d, hd, hx⟩
      split at hx
      next => cases hx
      next hcolon =>
        split at hx
        next => cases hx
        next hplace => exact ⟨hd.trans (congrArg some (Conversion.copied.inj hx)), hcolon, hplace⟩
    · rintro ⟨hc, hcolon, hplace⟩
      exact ⟨c, hc, by rw [if_neg hcolon, if_neg hplace]⟩
  restores := map_restored_conversionsFrom

/-- What is made of a statement is known from its quoted regions, of which there is one list. The
count is the number of question marks outside them. -/
theorem convert_by_regions (sql : String) :
    ∃ regions, Quoting sql.toList 0 regions ∧
      (∀ others, Quoting sql.toList 0 others → others = regions) ∧
      (convert sql).2 = Nat.count (IsPlaceholder sql.toList regions) sql.toList.length ∧
      ∃ conversions, Converted sql.toList regions conversions ∧
        (convert sql).1.toList = conversions.flatMap Conversion.written := by
  obtain ⟨regions, h⟩ := exists_quoting sql.toList 0
  have hconvert : convertFrom none none 0 sql.toList = _ := convertFrom_eq nofun
  refine ⟨regions, h, fun others hothers => hothers.unique h, ?_,
    conversionsFrom none none 0 sql.toList, h.converted, ?_⟩
  · rw [convert, hconvert, h.count_placeholders (Nat.le_refl _), List.take_length]
    exact Nat.zero_add _
  · rw [convert, hconvert, String.toList_ofList]

/-- Only the question marks outside quotes are binds; a colon is escaped in quotes too. -/
example :
    convert "a = ? AND b = \x27?:x\x22\x27 AND c = \x22\x27\x22 AND d = ?" =
      ("a = :p1 AND b = \x27?\\:x\x22\x27 AND c = \x22\x27\x22 AND d = :p2", 2) := by
  decide +kernel

end Placeholder

end BoundSql
