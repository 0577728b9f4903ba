import BoundSql.Json.Write
import BoundSql.Json.Read
import BoundSql.Proofs.Digits
import BoundSql.Proofs.References

/-!
# Numbers in documents

A number is written as a literal: digits without needless zeros in front, and with a point or an
exponent behind them if it is one of double precision. Where nothing follows that a number could go
on with, the reader takes in exactly the literal. An integer is read back as itself, and a number of
double precision as what its text stands for.
-/

namespace BoundSql.Json

open Text

/-- Nothing comes next that a number could go on with. -/
def Ends (rest : List Char) : Prop :=
  ∀ c ∈ rest.head?, isAsciiDigit c = false ∧ c ≠ '.' ∧ c ≠ 'e' ∧ c ≠ 'E'

theorem ends_nil : Ends [] := nofun

theorem ends_cons {c : Char} (h : isAsciiDigit c = false ∧ c ≠ '.' ∧ c ≠ 'e' ∧ c ≠ 'E')
    (rest : List Char) : Ends (c :: rest) := by
  rintro d ⟨⟩
  exact h

/-- A number or a word begins with the character. -/
def Leads (c : Char) : Prop := isAsciiDigit c = true ∨ c ∈ ['-', 'N', 'I', 'n', 't', 'f']

/-! ## Literals -/

/-- Digits that may stand in front of a point. -/
structure IsWhole (digits : List Char) : Prop where
  /-- There are some. -/
  ne_nil : digits ≠ []
  /-- They are digits. -/
  isDigit : ∀ c ∈ digits, isAsciiDigit c = true
  /-- They begin with no zero unless it is the only one. -/
  noZero : digits.head? = some '0' → digits = ['0']

/-- A literal without its sign. -/
structure Literal where
  /-- The digits in front of the point. -/
  whole : List Char
  /-- The digits behind the point; none, no point. -/
  fraction : List Char := []
  /-- The sign and the digits of the exponent. -/
  exponent : Option (Bool × List Char) := none

namespace Literal

/-- The characters of the fraction with its point. -/
def fractionChars (fraction : List Char) : List Char :=
  if fraction = [] then [] else '.' :: fraction

/-- The characters of the exponent with its mark and its sign. -/
def exponentChars : Option (Bool × List Char) → List Char
  | some (negative, digits) => 'e' :: (if negative then '-' else '+') :: digits
  | none => []

/-- The characters of a literal. -/
def chars (l : Literal) : List Char :=
  l.whole ++ (fractionChars l.fraction ++ exponentChars l.exponent)

/-- The power of ten that the exponent stands for. -/
def power : Option (Bool × List Char) → Option ℤ
  | some (negative, digits) =>
    some (if negative then -(digitsValue digits : ℤ) else digitsValue digits)
  | none => none

/-- The decimal number that a literal stands for. -/
def decimal (negative : Bool) (l : Literal) : DecimalText :=
  ⟨negative, digitsValue (l.whole ++ l.fraction), (power l.exponent).getD 0 - l.fraction.length⟩

/-- The digits of a literal are digits, and where there must be some there are. -/
structure Valid (l : Literal) : Prop where
  /-- In front of the point there are digits. -/
  whole : IsWhole l.whole
  /-- Behind the point there are digits. -/
  fraction : ∀ c ∈ l.fraction, isAsciiDigit c = true
  /-- So there are in the exponent, at least one. -/
  exponent : ∀ e ∈ l.exponent, e.2 ≠ [] ∧ ∀ c ∈ e.2, isAsciiDigit c = true

/-- The literal has a point or an exponent. -/
def IsReal (l : Literal) : Prop := l.fraction ≠ [] ∨ l.exponent.isSome = true

variable {rest : List Char}

theorem wholePart?_append {whole : List Char} (h : IsWhole whole)
    (hrest : ∀ c ∈ rest.head?, isAsciiDigit c = false) :
    wholePart? (whole ++ rest) = some (whole, rest) := by
  obtain ⟨c, more, rfl⟩ := List.exists_cons_of_ne_nil h.ne_nil
  by_cases hc : c = '0'
  · subst hc
    obtain rfl : more = [] := (List.cons.inj (h.noZero rfl)).2
    rfl
  · have hdigit : isAsciiDigit c = true := h.isDigit c List.mem_cons_self
    rw [List.cons_append, wholePart?]
    · rw [if_pos hdigit, ← List.cons_append, takeWhile_append_of_stop h.isDigit hrest,
        dropWhile_append_of_stop h.isDigit hrest]
    · exact hc

theorem fractionPart_append {fraction : List Char} (hdigits : ∀ c ∈ fraction, isAsciiDigit c = true)
    (hrest : ∀ c ∈ rest.head?, isAsciiDigit c = false ∧ c ≠ '.') :
    fractionPart (fractionChars fraction ++ rest) = (fraction, rest) := by
  have hstop : ∀ c ∈ rest.head?, isAsciiDigit c = false := fun c hc => (hrest c hc).1
  unfold fractionChars
  split
  next hnone =>
    subst hnone
    rw [List.nil_append, fractionPart]
    rintro more rfl
    exact (hrest '.' rfl).2 rfl
  next hsome =>
    rw [List.cons_append, fractionPart, takeWhile_append_of_stop hdigits hstop,
      dropWhile_append_of_stop hdigits hstop]
    simp [hsome]

theorem exponentOf_append {exponent : Option (Bool × List Char)}
    (hdigits : ∀ e ∈ exponent, e.2 ≠ [] ∧ ∀ c ∈ e.2, isAsciiDigit c = true) (hrest : Ends rest) :
    exponentOf (exponentChars exponent ++ rest) = (power exponent, rest) := by
  have hstop : ∀ c ∈ rest.head?, isAsciiDigit c = false := fun c hc => (hrest c hc).1
  cases exponent with
  | none =>
    cases rest with
    | nil => rfl
    | cons c more =>
      obtain ⟨-, -, he, hE⟩ := hrest c rfl
      simp [exponentChars, exponentOf, he, hE, power]
  | some e =>
    obtain ⟨negative, digits⟩ := e
    obtain ⟨hne, hdigits⟩ := hdigits _ rfl
    have htake := takeWhile_append_of_stop hdigits hstop
    have hdrop := dropWhile_append_of_stop hdigits hstop
    cases negative <;> simp [exponentChars, exponentOf, power, htake, hdrop, hne]

/-- An exponent begins with no digit and no point, nor does what follows a number. -/
theorem exponentChars_head (exponent : Option (Bool × List Char)) (hrest : Ends rest) :
    ∀ c ∈ (exponentChars exponent ++ rest).head?, isAsciiDigit c = false ∧ c ≠ '.' := by
  cases exponent with
  | none => exact fun c hc => ⟨(hrest c hc).1, (hrest c hc).2.1⟩
  | some e =>
    rintro c ⟨⟩
    decide

/-- A fraction begins with no digit either. -/
theorem fractionChars_head (fraction : List Char)
    (hrest : ∀ c ∈ rest.head?, isAsciiDigit c = false) :
    ∀ c ∈ (fractionChars fraction ++ rest).head?, isAsciiDigit c = false := by
  unfold fractionChars
  split
  · exact hrest
  · rintro c ⟨⟩
    decide

variable {l : Literal}

/-- The reader takes in a literal. -/
theorem Valid.readNumber_chars (h : l.Valid) (negative : Bool) (start : List Char) (hrest : Ends rest) :
    readNumber negative start (l.chars ++ rest) =
      if !l.fraction.isEmpty || (power l.exponent).isSome then
        .ok (.float (l.decimal negative).toDouble, rest)
      else if digitLimit < l.whole.length then .error (.tooLong l.whole.length)
      else
        .ok (.int (if negative then -(digitsValue l.whole : ℤ) else digitsValue l.whole), rest) := by
  have hexponent := exponentChars_head l.exponent hrest
  have hwhole := wholePart?_append h.whole
    (fractionChars_head l.fraction fun c hc => (hexponent c hc).1)
  rw [chars, List.append_assoc, List.append_assoc, readNumber, hwhole]
  dsimp only
  rw [fractionPart_append h.fraction hexponent]
  dsimp only
  rw [exponentOf_append h.exponent hrest]
  rfl

/-- A literal with a point or an exponent is read as the number of double precision it stands
for. -/
theorem Valid.readNumber_real (h : l.Valid) (hreal : l.IsReal) (negative : Bool)
    (start : List Char) (hrest : Ends rest) :
    readNumber negative start (l.chars ++ rest) =
      .ok (.float (l.decimal negative).toDouble, rest) := by
  rw [h.readNumber_chars negative start hrest, if_pos]
  rcases hreal with hfraction | hexponent
  · simp [hfraction]
  · obtain ⟨e, he⟩ := Option.isSome_iff_exists.mp hexponent
    simp [he, power]

theorem exponentPart?_chars {exponent : Option (Bool × List Char)}
    (hdigits : ∀ e ∈ exponent, e.2 ≠ [] ∧ ∀ c ∈ e.2, isAsciiDigit c = true) :
    exponentPart? (exponentChars exponent) = some ((power exponent).getD 0) := by
  cases exponent with
  | none => rfl
  | some e =>
    obtain ⟨negative, digits⟩ := e
    obtain ⟨hne, hdigits⟩ := hdigits _ rfl
    have hall : digits.all isAsciiDigit = true := List.all_eq_true.mpr hdigits
    cases negative <;> simp [exponentChars, exponentPart?, power, hne, hall]

/-- On its own a literal is read as the same decimal number. -/
theorem Valid.unsignedDecimal?_chars (h : l.Valid) (negative : Bool) :
    unsignedDecimal? negative l.chars = some (l.decimal negative) := by
  have hhead := exponentChars_head l.exponent ends_nil
  rw [List.append_nil] at hhead
  have hstop : ∀ c ∈ (exponentChars l.exponent).head?, isAsciiDigit c = false :=
    fun c hc => (hhead c hc).1
  have htail := fractionChars_head l.fraction hstop
  have hexponent := exponentPart?_chars h.exponent
  unfold unsignedDecimal?
  dsimp only
  rw [chars, takeWhile_append_of_stop h.whole.isDigit htail,
    dropWhile_append_of_stop h.whole.isDigit htail]
  by_cases hnone : l.fraction = []
  · have hpoint : ∀ more, exponentChars l.exponent ≠ '.' :: more := by
      intro more hmore
      exact (hhead '.' (by rw [hmore]; rfl)).2 rfl
    rw [fractionChars, if_pos hnone, List.nil_append]
    split
    next more hmore => exact absurd hmore (hpoint more)
    next =>
      rw [hexponent]
      simp [h.whole.ne_nil, decimal, hnone]
  · rw [fractionChars, if_neg hnone, List.cons_append]
    simp only [takeWhile_append_of_stop h.fraction hstop,
      dropWhile_append_of_stop h.fraction hstop, hexponent]
    simp [h.whole.ne_nil, decimal]

end Literal

/-! ## Integers -/

/-- The digits of a natural may stand in front of a point. -/
theorem isWhole_decimalDigits (n : ℕ) : IsWhole (decimalDigits n) where
  ne_nil := by
    by_cases hn : n = 0
    · simp [hn, decimalDigits_zero]
    · obtain ⟨d, rest, h, -, -⟩ := decimalDigits_head hn
      simp [h]
  isDigit := fun c hc => isAsciiDigit_of_mem_decimalDigits hc
  noZero := by
    by_cases hn : n = 0
    · simp [hn, decimalDigits_zero]
    · obtain ⟨d, rest, h, hlow, hhigh⟩ := decimalDigits_head hn
      intro hzero
      rw [h, List.head?_cons, Option.some.injEq] at hzero
      have hvalue := congrArg Char.toNat hzero
      rw [digitChar_toNat (by omega)] at hvalue
      have hchar : '0'.toNat = 48 := rfl
      omega

/-- A natural below a power of ten has no more digits than the power says. -/
theorem length_decimalDigits_le {n k : ℕ} (hk : 0 < k) (h : n < Nat.pow 10 k) :
    (decimalDigits n).length ≤ k := by
  rw [Nat.pow_eq] at h
  by_cases hn : n = 0
  · rw [hn, decimalDigits_zero]
    exact hk
  · rw [decimalDigits_eq hn, List.length_map, List.length_reverse]
    exact (Nat.digits_length_le_iff (by decide) n).mpr h

/-- A digit begins neither a word nor the infinity behind a minus. -/
theorem readScalar_digit {c : Char} (h : isAsciiDigit c = true) (rest : List Char) :
    readScalar (c :: rest) = readNumber false (c :: rest) (c :: rest) ∧
      readScalar ('-' :: c :: rest) = readNumber true ('-' :: c :: rest) (c :: rest) := by
  have hother := forall_digit (P := fun c => c != 'n' && c != 't' && c != 'f' && c != 'N' &&
    c != 'I' && c != '-') (by decide) h
  simp only [Bool.and_eq_true, bne_iff_ne] at hother
  obtain ⟨⟨⟨⟨⟨hn, ht⟩, hf⟩, hN⟩, hI⟩, hminus⟩ := hother
  constructor
  · rw [readScalar] <;> simp [*]
  · rw [readScalar]
    simp [*]

/-- A literal begins with a digit. -/
theorem Literal.Valid.exists_head {l : Literal} (h : l.Valid) :
    ∃ c more, l.chars = c :: more ∧ isAsciiDigit c = true := by
  obtain ⟨c, more, hwhole⟩ := List.exists_cons_of_ne_nil h.whole.ne_nil
  exact ⟨c, _, by rw [Literal.chars, hwhole, List.cons_append],
    h.whole.isDigit c (hwhole ▸ List.mem_cons_self)⟩

/-- Behind its sign a literal is read as a number. -/
theorem Literal.Valid.readScalar_chars {l : Literal} (h : l.Valid) (rest : List Char) :
    readScalar (l.chars ++ rest) = readNumber false (l.chars ++ rest) (l.chars ++ rest) ∧
      readScalar ('-' :: l.chars ++ rest) =
        readNumber true ('-' :: l.chars ++ rest) (l.chars ++ rest) := by
  obtain ⟨c, more, hchars, hdigit⟩ := h.exists_head
  rw [hchars]
  exact readScalar_digit hdigit _

/-- An integer that is written is read back. -/
theorem readScalar_integer {n : ℤ} {cs : List Char} (h : Value.numeralOf n = .ok cs)
    {rest : List Char} (hrest : Ends rest) : readScalar (cs ++ rest) = .ok (.int n, rest) := by
  unfold Value.numeralOf at h
  split at h
  next hsmall =>
    cases h
    have hvalid : (Literal.mk (decimalDigits n.natAbs) [] none).Valid :=
      ⟨isWhole_decimalDigits n.natAbs, nofun, nofun⟩
    have hchars : (Literal.mk (decimalDigits n.natAbs) [] none).chars = decimalDigits n.natAbs := by
      simp [Literal.chars, Literal.fractionChars, Literal.exponentChars]
    have hlength : ¬ digitLimit < (decimalDigits n.natAbs).length :=
      Nat.not_lt.mpr (length_decimalDigits_le (k := digitLimit) (by decide) hsmall)
    obtain ⟨hplain, hminus⟩ := hvalid.readScalar_chars rest
    have hread (negative : Bool) (start : List Char) := hvalid.readNumber_chars negative start hrest
    rw [hchars] at hplain hminus
    simp only [hchars, Literal.power, List.isEmpty_nil, Bool.not_true, Option.isSome_none,
      Bool.or_self, Bool.false_eq_true, if_false, hlength, digitsValue_decimalDigits] at hread
    unfold integerText
    split
    next hneg =>
      rw [hminus, hread, if_pos rfl]
      congr 3
      omega
    next hnonneg =>
      rw [hplain, hread, if_neg Bool.false_ne_true]
      congr 3
      omega
  next => cases h

/-- An integer is written with a digit or a sign in front. -/
theorem numeralOf_leads {n : ℤ} {cs : List Char} (h : Value.numeralOf n = .ok cs) :
    ∃ c rest, cs = c :: rest ∧ Leads c := by
  have hwhole := isWhole_decimalDigits n.natAbs
  obtain ⟨d, more, hdigits⟩ := List.exists_cons_of_ne_nil hwhole.ne_nil
  have hdigit := hwhole.isDigit d (hdigits ▸ List.mem_cons_self)
  unfold Value.numeralOf at h
  split at h
  next =>
    cases h
    rw [integerText, hdigits]
    split
    · exact ⟨'-', _, rfl, .inr (by decide)⟩
    · exact ⟨d, more, rfl, .inl hdigit⟩
  next => cases h

/-! ## Numbers of double precision -/

/-- Dropping zeros leaves a number that is not zero. -/
theorem dropZeros_ne_zero {fuel d : ℕ} {x : ℤ} (h : d ≠ 0) :
    (Double.dropZeros fuel d x).1 ≠ 0 := by
  induction fuel generalizing d x with
  | zero => exact h
  | succ fuel ih =>
    rw [Double.dropZeros]
    split
    next hdigit =>
      simp only [Bool.and_eq_true, decide_eq_true_eq, beq_iff_eq] at hdigit
      exact ih (by omega)
    next => exact h

/-- Zero is no neighbour on a grid inside an interval of positive numbers. -/
theorem onGrid?_ne_zero {low value high den d : ℕ} {closed : Bool} {grid : ℤ} (hlow : 0 < low)
    (h : Double.onGrid? low value high den closed grid = some d) : d ≠ 0 := by
  rintro rfl
  have hpos : 0 < low * Nat.pow 10 (-grid).toNat :=
    Nat.mul_pos hlow (Nat.pow_pos (by decide))
  unfold Double.onGrid? at h
  dsimp only at h
  generalize value * Nat.pow 10 (-grid).toNat / (Nat.pow 10 grid.toNat * den) = q at h
  generalize low * Nat.pow 10 (-grid).toNat = a at h hpos
  -- only the lower of the two neighbours could be zero, and zero lies outside the interval
  by_cases hq : q = 0
  · subst hq
    simp only [Nat.zero_mul, Nat.not_le.mpr hpos, Nat.not_lt_zero, decide_false, Bool.false_and,
      ite_self] at h
    grind
  · grind

/-- A search that finds digits finds some that are not zero. -/
theorem searchGrid_ne_zero {span : ℕ × ℕ × ℕ × ℕ} (hlow : 0 < span.1) (fuel digits : ℕ)
    (closed : Bool) (p : ℤ) :
    (Double.searchGrid fuel digits span closed p).1 ≠ 0 ∨
      Double.searchGrid fuel digits span closed p = (0, 0) := by
  induction fuel generalizing digits with
  | zero => exact .inr rfl
  | succ fuel ih =>
    rw [Double.searchGrid]
    split
    next d hd => exact .inl (onGrid?_ne_zero hlow hd)
    next => exact ih (digits + 1)

/-- The shortest digits are zero only without an exponent. -/
theorem shortest_eq_zero {m : ℕ} {e : ℤ} (h : (Double.shortest m e).1 = 0) :
    (Double.shortest m e).2 = 0 := by
  by_cases hm : m = 0
  · rw [Double.shortest, if_pos hm]
  · have hlow : 0 < (Double.interval m e).1 := by
      unfold Double.interval
      dsimp only
      refine Nat.mul_pos ?_ (Nat.pow_pos (by decide))
      split <;> omega
    rw [Double.shortest, if_neg hm] at h ⊢
    dsimp only at h ⊢
    rcases searchGrid_ne_zero hlow 17 1 (m % 2 == 0)
      (Double.magnitude (Double.interval m e).2.1 (Double.interval m e).2.2.2) with hne | hzero
    · exact absurd h (dropZeros_ne_zero hne)
    · rw [hzero]
      rfl

section Layouts

variable {digits : List Char}

theorem isDigit_of_mem_zeros {k : ℕ} {c : Char} (hc : c ∈ List.replicate k '0') :
    isAsciiDigit c = true := by
  rw [List.eq_of_mem_replicate hc]
  decide

/-- Digits with a point among them or behind them, or behind zeros, are a literal. -/
theorem positional_literal (h : IsWhole digits) {whole : ℤ} (hwhole : digits = ['0'] → whole ≤ 1) :
    ∃ l : Literal, l.Valid ∧ l.IsReal ∧ l.chars = Double.positional digits whole := by
  have hne := h.ne_nil
  unfold Double.positional
  split
  next =>
    have hfraction : ∀ c ∈ List.replicate (-whole).toNat '0' ++ digits, isAsciiDigit c = true := by
      intro c hc
      rcases List.mem_append.mp hc with hc | hc
      · exact isDigit_of_mem_zeros hc
      · exact h.isDigit c hc
    refine ⟨⟨['0'], List.replicate (-whole).toNat '0' ++ digits, none⟩,
      ⟨isWhole_decimalDigits 0, hfraction, nofun⟩, .inl (by simp [hne]), ?_⟩
    simp [Literal.chars, Literal.fractionChars, Literal.exponentChars, hne]
  next hpos =>
    dsimp only
    split
    next hshort =>
      have hpadded : IsWhole (digits ++ List.replicate (whole.toNat - digits.length) '0') := by
        refine ⟨by simp [hne], fun c hc => ?_, fun hc => ?_⟩
        · rcases List.mem_append.mp hc with hc | hc
          · exact h.isDigit c hc
          · exact isDigit_of_mem_zeros hc
        · rw [List.head?_append_of_ne_nil _ hne] at hc
          have hone := h.noZero hc
          have hsmall := hwhole hone
          rw [hone, show whole.toNat = 1 by omega]
          rfl
      refine ⟨⟨_, ['0'], none⟩, ⟨hpadded, fun c hc => ?_, nofun⟩, .inl (by simp), ?_⟩
      · rw [List.mem_singleton.mp hc]
        decide
      · simp [Literal.chars, Literal.fractionChars, Literal.exponentChars]
    next hlong =>
      have hpositive : whole.toNat ≠ 0 := by omega
      have hrest : digits.drop whole.toNat ≠ [] := by
        rw [Ne, List.drop_eq_nil_iff]
        omega
      have hfront : IsWhole (digits.take whole.toNat) := by
        refine ⟨by simp [hne, hpositive], fun c hc => h.isDigit c (List.mem_of_mem_take hc),
          fun hc => ?_⟩
        rw [List.head?_take, if_neg hpositive] at hc
        rw [h.noZero hc, List.length_singleton] at hlong
        omega
      refine ⟨⟨_, digits.drop whole.toNat, none⟩,
        ⟨hfront, fun c hc => h.isDigit c (List.mem_of_mem_drop hc), nofun⟩, .inl hrest, ?_⟩
      simp [Literal.chars, Literal.fractionChars, Literal.exponentChars, hrest]

/-- Digits with a point behind the first and an exponent are a literal. -/
theorem scientific_literal (h : IsWhole digits) (exponent : ℤ) :
    ∃ l : Literal, l.Valid ∧ l.IsReal ∧ l.chars = Double.scientific digits exponent := by
  obtain ⟨first, more, rfl⟩ := List.exists_cons_of_ne_nil h.ne_nil
  have hpower := isWhole_decimalDigits exponent.natAbs
  have hfirst : IsWhole [first] := by
    refine ⟨by simp, fun c hc => h.isDigit c (List.mem_singleton.mp hc ▸ List.mem_cons_self), ?_⟩
    rintro ⟨⟩
    rfl
  refine ⟨⟨[first], more, some (decide (exponent < 0),
    Double.padZeros Double.layout.exponentDigits (decimalDigits exponent.natAbs))⟩,
    ⟨hfirst, fun c hc => h.isDigit c (List.mem_cons_of_mem first hc), ?_⟩, .inr rfl, ?_⟩
  · rintro e ⟨⟩
    refine ⟨by simp [Double.padZeros, hpower.ne_nil], fun c hc => ?_⟩
    rcases List.mem_append.mp hc with hc | hc
    · exact isDigit_of_mem_zeros hc
    · exact hpower.isDigit c hc
  · cases more <;>
      simp [Literal.chars, Literal.fractionChars, Literal.exponentChars, Double.scientific]

end Layouts

/-- The text of a finite number without its sign is a literal with a point or an exponent. -/
theorem magnitudeText_literal (m : ℕ) (e : ℤ) :
    ∃ l : Literal, l.Valid ∧ l.IsReal ∧ l.chars = Double.magnitudeText m e := by
  have hwhole := isWhole_decimalDigits (Double.shortest m e).1
  unfold Double.magnitudeText
  dsimp only
  split
  next =>
    refine positional_literal hwhole fun hone => ?_
    have hzero : (Double.shortest m e).1 = 0 := by
      rw [← digitsValue_decimalDigits (Double.shortest m e).1, hone]
      rfl
    rw [shortest_eq_zero hzero, hone]
    decide
  next => exact scientific_literal hwhole _

/-- What the text of a number of double precision stands for. -/
def told (x : Double) : Double := (Double.read? x.text).getD x

/-- The text of a decimal number is no name of one. -/
theorem read?_of_decimal {cs : List Char} {d : DecimalText} (h : decimal? cs = some d) :
    Double.read? (String.ofList cs) = some d.toDouble := by
  have hother (name : String) (hname : (decimal? name.toList).isNone = true) :
      String.ofList cs ≠ name := by
    rintro rfl
    rw [String.toList_ofList, h] at hname
    cases hname
  unfold Double.read?
  split
  next heq => exact absurd heq (hother "nan" (by decide))
  next heq => exact absurd heq (hother "inf" (by decide))
  next heq => exact absurd heq (hother "-inf" (by decide))
  next => rw [String.toList_ofList, h, Option.map_some]

/-- On its own a literal with its sign is the decimal number it stands for. -/
theorem Literal.Valid.decimal?_chars {l : Literal} (h : l.Valid) (negative : Bool) :
    decimal? ((if negative then ['-'] else []) ++ l.chars) = some (l.decimal negative) := by
  cases negative with
  | true => exact h.unsignedDecimal?_chars true
  | false =>
    obtain ⟨c, more, hchars, hdigit⟩ := h.exists_head
    have hread := h.unsignedDecimal?_chars false
    rw [if_neg Bool.false_ne_true, List.nil_append, ← hread, hchars]
    unfold decimal?
    split
    next heq =>
      rw [(List.cons.inj heq).1] at hdigit
      cases hdigit
    next heq =>
      rw [(List.cons.inj heq).1] at hdigit
      cases hdigit
    next => rfl

/-- A number of double precision is written with a digit, a sign or a letter in front. -/
theorem number_leads {style : JsonStyle} {x : Double} {cs : List Char}
    (h : number style x = .ok cs) : ∃ c rest, cs = c :: rest ∧ Leads c := by
  unfold number at h
  cases x with
  | nan =>
    dsimp only at h
    split at h
    · cases h
      exact ⟨_, _, rfl, .inr (by decide)⟩
    · cases h
  | infinite negative =>
    dsimp only at h
    split at h
    · cases h
      cases negative <;> exact ⟨_, _, rfl, .inr (by decide)⟩
    · cases h
  | finite negative m e =>
    cases h
    obtain ⟨l, hvalid, -, hchars⟩ := magnitudeText_literal m e
    obtain ⟨c, more, hhead, hdigit⟩ := hvalid.exists_head
    have htext : (Double.finite negative m e).text.toList =
        (if negative then ['-'] else []) ++ c :: more := by
      rw [← hhead, hchars]
      exact String.toList_ofList
    rw [htext]
    cases negative with
    | true => exact ⟨'-', _, rfl, .inr (by decide)⟩
    | false => exact ⟨c, more, rfl, .inl hdigit⟩

/-- A number of double precision that is written is read as what its text stands for. -/
theorem readScalar_number {style : JsonStyle} {x : Double} {cs : List Char}
    (h : number style x = .ok cs) {rest : List Char} (hrest : Ends rest) :
    readScalar (cs ++ rest) = .ok (.float (told x), rest) := by
  unfold number at h
  cases x with
  | nan =>
    dsimp only at h
    split at h
    · cases h
      rfl
    · cases h
  | infinite negative =>
    dsimp only at h
    split at h
    · cases h
      cases negative <;> rfl
    · cases h
  | finite negative m e =>
    cases h
    obtain ⟨l, hvalid, hreal, hchars⟩ := magnitudeText_literal m e
    have htext : (Double.finite negative m e).text =
        String.ofList ((if negative then ['-'] else []) ++ l.chars) := by
      rw [hchars]
      rfl
    have htold : told (.finite negative m e) = (l.decimal negative).toDouble := by
      rw [told, htext, read?_of_decimal (hvalid.decimal?_chars negative), Option.getD_some]
    obtain ⟨hplain, hminus⟩ := hvalid.readScalar_chars rest
    rw [htold, htext, String.toList_ofList]
    cases negative with
    | true =>
      rw [if_pos rfl, List.singleton_append, hminus]
      exact hvalid.readNumber_real hreal true _ hrest
    | false =>
      rw [if_neg Bool.false_ne_true, List.nil_append, hplain]
      exact hvalid.readNumber_real hreal false _ hrest

end BoundSql.Json
