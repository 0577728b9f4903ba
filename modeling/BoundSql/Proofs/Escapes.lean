import Mathlib.Tactic.IntervalCases
import BoundSql.Json.Read
import BoundSql.Json.Write

/-!
# Texts in documents

Whatever characters a text consists of, and whether or not those outside ASCII are escaped, what is
written between its quote marks is read back as the text. Each character is written as itself, as a
short escape, as one unit of four hexadecimal digits or as a pair of units, and one step of the
reader takes exactly one character in.
-/

namespace BoundSql.Json

open Text

/-! ## Hexadecimal units -/

theorem hexValue?_hexDigitLower {d : ℕ} (h : d < 16) : hexValue? (hexDigitLower d) = some d := by
  interval_cases d <;> rfl

/-- Four digits are read back as the number they were written for. -/
theorem fourHex?_hexFixed {n : ℕ} (h : n < 0x10000) (rest : List Char) :
    fourHex? (hexFixed 4 n ++ rest) = some (n, rest) := by
  have hlast (m : ℕ) : hexValue? (hexDigitLower (m % 16)) = some (m % 16) :=
    hexValue?_hexDigitLower (Nat.mod_lt m (by decide))
  have hvalue : ((n / 16 / 16 / 16 % 16 * 16 + n / 16 / 16 % 16) * 16 + n / 16 % 16) * 16 + n % 16 =
      n := by omega
  simp [hexFixed, fourHex?, hlast, hvalue]

/-- The number of a character is none of those that stand for half a pair. -/
theorem toNat_not_unit (c : Char) : c.toNat < 0xd800 ∨ 0xdfff < c.toNat ∧ c.toNat < 0x110000 := by
  have h := c.valid
  unfold UInt32.isValidChar Nat.isValidChar at h
  exact h

/-- A second unit that something follows is read back. -/
theorem lowUnit?_unitEscape {n : ℕ} (hlow : 0xdc00 ≤ n) (hhigh : n ≤ 0xdfff) {rest : List Char}
    (hrest : rest ≠ []) : lowUnit? (unitEscape n ++ rest) = some (n, rest) := by
  have hunit := fourHex?_hexFixed (show n < 0x10000 by omega) rest
  simp [unitEscape, lowUnit?, hunit, hlow, hhigh, hrest]

/-! ## One character -/

variable {fuel start : ℕ} {done rest : List Char}

/-- A character that needs no escape is taken in as it is. -/
theorem readText_plain {c : Char} (hmark : c ≠ '\x22') (hsign : c ≠ '\\') (hcontrol : 32 ≤ c.toNat) :
    readText (fuel + 1) start done (c :: rest) = readText fuel start (c :: done) rest := by
  have hnot : ¬ c.toNat < 32 := by omega
  simp only [readText, if_neg hmark, if_neg hnot, if_pos hsign]

/-- A short escape is taken in as the character it stands for. -/
theorem readText_short {e plain : Char} (he : shortEscape? e = some plain) (hu : e ≠ 'u') :
    readText (fuel + 1) start done ('\\' :: e :: rest) = readText fuel start (plain :: done) rest := by
  rw [readText, if_neg (by decide), if_neg (by decide), if_neg (by decide), he]
  exact hu

/-- What is done with a unit once its digits are read. -/
theorem readText_unitEscape {n : ℕ} (hn : n < 0x10000) (hrest : rest ≠ []) :
    readText (fuel + 1) start done (unitEscape n ++ rest) =
      if 0xd800 ≤ n && n ≤ 0xdbff then
        match lowUnit? rest with
        | some (low, beyond) =>
          readText fuel start
            (Char.ofNat (0x10000 + (n - 0xd800) * 1024 + (low - 0xdc00)) :: done) beyond
        | none => readText fuel start (replacement :: done) rest
      else readText fuel start (Char.ofNat n :: done) rest := by
  have hread := fourHex?_hexFixed hn rest
  rw [unitEscape, List.cons_append, List.cons_append, readText, if_neg (by decide),
    if_neg (by decide), if_neg (by decide)]
  simp only [hread]
  exact if_neg (by rw [List.isEmpty_iff]; exact hrest)

/-- A character is taken in whose escape was written. -/
theorem readText_escape (c : Char) (hrest : rest ≠ []) :
    readText (fuel + 1) start done (escape c ++ rest) = readText fuel start (c :: done) rest := by
  unfold escape
  dsimp only
  split
  next hn =>
    have hunit : ¬ (0xd800 ≤ c.toNat && c.toNat ≤ 0xdbff) = true := by
      have hc := toNat_not_unit c
      simp only [Bool.and_eq_true, decide_eq_true_eq]
      omega
    rw [readText_unitEscape hn hrest, if_neg hunit, Char.ofNat_toNat]
  next hn =>
    -- a character beyond the first plane is a pair of units
    have hc := toNat_not_unit c
    have hhigh : (0xd800 + (c.toNat - 0x10000) / 1024) < 0x10000 := by omega
    have hfirst : (0xd800 ≤ 0xd800 + (c.toNat - 0x10000) / 1024 &&
        0xd800 + (c.toNat - 0x10000) / 1024 ≤ 0xdbff) = true := by
      simp only [Bool.and_eq_true, decide_eq_true_eq]
      omega
    have hlow := lowUnit?_unitEscape (n := 0xdc00 + (c.toNat - 0x10000) % 1024) (by omega)
      (by omega) hrest
    have hvalue : 0x10000 + (0xd800 + (c.toNat - 0x10000) / 1024 - 0xd800) * 1024 +
        (0xdc00 + (c.toNat - 0x10000) % 1024 - 0xdc00) = c.toNat := by omega
    rw [List.append_assoc, readText_unitEscape hhigh (by simp [unitEscape]), if_pos hfirst, hlow]
    dsimp only
    rw [hvalue, Char.ofNat_toNat]

/-- Every character of a text is taken in by one step. -/
theorem readText_textChar (asciiOnly : Bool) (c : Char) (hrest : rest ≠ []) :
    readText (fuel + 1) start done (textChar asciiOnly c ++ rest) =
      readText fuel start (c :: done) rest := by
  unfold textChar
  split_ifs with hmark hsign hline hreturn htab hfeed hback hescaped
  · subst hmark
    exact readText_short rfl (by decide)
  · subst hsign
    exact readText_short rfl (by decide)
  · subst hline
    exact readText_short rfl (by decide)
  · subst hreturn
    exact readText_short rfl (by decide)
  · subst htab
    exact readText_short rfl (by decide)
  · subst hfeed
    exact readText_short rfl (by decide)
  · subst hback
    exact readText_short rfl (by decide)
  · exact readText_escape c hrest
  · have hcontrol : 32 ≤ c.toNat := by
      simp only [Bool.or_eq_true, decide_eq_true_eq, not_or] at hescaped
      omega
    exact readText_plain hmark hsign hcontrol

theorem textChar_ne_nil (asciiOnly : Bool) (c : Char) : textChar asciiOnly c ≠ [] := by
  have hescape : escape c ≠ [] := by
    unfold escape unitEscape
    dsimp only
    split_ifs <;> simp
  unfold textChar
  split_ifs <;> simp [hescape]

/-! ## Whole texts -/

/-- The characters of a text are taken in one after another up to the mark behind them. -/
theorem readText_flatMap (asciiOnly : Bool) (s : List Char) (hfuel : s.length < fuel) :
    readText fuel start done (s.flatMap (textChar asciiOnly) ++ '\x22' :: rest) =
      .ok (String.ofList (done.reverse ++ s), rest) := by
  induction s generalizing fuel done with
  | nil =>
    obtain ⟨fuel, rfl⟩ : ∃ k, fuel = k + 1 := ⟨fuel - 1, by omega⟩
    rw [List.flatMap_nil, List.nil_append, readText.eq_def, List.append_nil]
    exact if_pos rfl
  | cons c s ih =>
    obtain ⟨fuel, rfl⟩ : ∃ k, fuel = k + 1 := ⟨fuel - 1, by omega⟩
    rw [List.flatMap_cons, List.append_assoc, readText_textChar asciiOnly c (by simp),
      ih (Nat.lt_of_succ_lt_succ hfuel), List.reverse_cons, List.append_assoc,
      List.singleton_append]

/-- There are at least as many characters in what is written as in the text. -/
theorem length_le_flatMap (asciiOnly : Bool) (s : List Char) :
    s.length ≤ (s.flatMap (textChar asciiOnly)).length := by
  induction s with
  | nil => exact Nat.le_refl 0
  | cons c s ih =>
    have hpos := List.length_pos_iff.mpr (textChar_ne_nil asciiOnly c)
    rw [List.flatMap_cons, List.length_append, List.length_cons]
    omega

/-- Behind its opening quote mark a text is read back. -/
theorem readText_text (asciiOnly : Bool) (s : String) (start : ℕ) (rest : List Char) :
    ∃ body, text asciiOnly s = '\x22' :: body ∧
      readText ((body ++ rest).length + 1) start [] (body ++ rest) = .ok (s, rest) := by
  refine ⟨s.toList.flatMap (textChar asciiOnly) ++ ['\x22'], rfl, ?_⟩
  have hlength := length_le_flatMap asciiOnly s.toList
  have hfuel : s.toList.length < (s.toList.flatMap (textChar asciiOnly) ++ ['\x22'] ++ rest).length +
      1 := by
    simp only [List.length_append]
    omega
  rw [List.append_assoc, List.singleton_append] at hfuel ⊢
  rw [readText_flatMap asciiOnly s.toList hfuel, List.reverse_nil, List.nil_append,
    String.ofList_toList]

end BoundSql.Json
