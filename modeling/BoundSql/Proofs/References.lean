import BoundSql.Settings.EnvReference
import Mathlib.Data.List.TakeWhile

/-!
# References as they are written

A reference is a dollar sign and, between braces, a name with blanks around it, and behind the name
there may be a fallback. The scan finds exactly these: at each place the reference that begins there
if there is one, and it goes on behind it. A text has one such reading only.
-/

namespace BoundSql

open Text

/-! ## Runs of characters -/

/-- Characters that pass are dropped up to the first that does not. -/
theorem Text.dropWhile_append_of_stop {p : Char → Bool} {s t : List Char}
    (hs : ∀ c ∈ s, p c = true) (ht : ∀ c ∈ t.head?, p c = false) :
    (s ++ t).dropWhile p = t := by
  rw [List.dropWhile_append_of_pos hs]
  cases t with
  | nil => rfl
  | cons c t =>
    have hc : p c = false := ht c rfl
    exact List.dropWhile_cons_of_neg (by rw [hc]; exact Bool.false_ne_true)

/-- They are kept up to there. -/
theorem Text.takeWhile_append_of_stop {p : Char → Bool} {s t : List Char}
    (hs : ∀ c ∈ s, p c = true) (ht : ∀ c ∈ t.head?, p c = false) :
    (s ++ t).takeWhile p = s := by
  rw [List.takeWhile_append_of_pos hs]
  cases t with
  | nil => simp
  | cons c t =>
    have hc : p c = false := ht c rfl
    rw [List.takeWhile_cons_of_neg (by rw [hc]; exact Bool.false_ne_true), List.append_nil]

namespace EnvReference

/-! ## The form of a reference -/

/-- A variable's name begins with a letter or a low line. -/
def IsName (name : List Char) : Prop :=
  ∃ c rest, name = c :: rest ∧ isNameStart c = true ∧ ∀ d ∈ rest, isNameChar d = true

/-- The end of a reference: its fallback, if there is one, and the closing brace. -/
def ending : Option (List Char) → List Char
  | none => ['\x7d']
  | some text => ':' :: '-' :: (text ++ ['\x7d'])

/-- A text is a reference as it is written. A fallback ends at the first closing brace. -/
def Written (r : EnvReference) (w : List Char) : Prop :=
  IsName r.name ∧ (∀ text ∈ r.fallback, '\x7d' ∉ text) ∧
    ∃ before behind, (∀ c ∈ before, isBlank c = true) ∧ (∀ c ∈ behind, isBlank c = true) ∧
      w = '$' :: '\x7b' :: (before ++ (r.name ++ (behind ++ ending r.fallback)))

variable {r q : EnvReference} {s t w x y after name : List Char} {c : Char}

theorem isNameChar_of_isNameStart (h : isNameStart c = true) : isNameChar c = true := by
  rw [isNameChar, h, Bool.true_or]

/-- No character of a name is a blank. -/
theorem isBlank_of_isNameChar (h : isNameChar c = true) : isBlank c = false := by
  have hcode : (97 ≤ c.toNat ∧ c.toNat ≤ 122) ∨ (65 ≤ c.toNat ∧ c.toNat ≤ 90) ∨
      c.toNat = 95 ∨ (48 ≤ c.toNat ∧ c.toNat ≤ 57) := by
    simp only [isNameChar, isNameStart, Bool.or_eq_true, Bool.and_eq_true, decide_eq_true_eq,
      beq_iff_eq] at h
    rcases h with ((h | h) | h) | h
    · exact .inl h
    · exact .inr (.inl h)
    · exact .inr (.inr (.inl (h ▸ rfl)))
    · exact .inr (.inr (.inr h))
  simp only [isBlank, Bool.or_eq_false_iff, Bool.and_eq_false_iff, decide_eq_false_iff_not,
    beq_eq_false_iff_ne]
  omega

theorem IsName.isNameChar (h : IsName name) : ∀ c ∈ name, isNameChar c = true := by
  obtain ⟨c, rest, rfl, hstart, hrest⟩ := h
  intro d hd
  rcases List.mem_cons.mp hd with rfl | hd
  · exact isNameChar_of_isNameStart hstart
  · exact hrest d hd

/-- The end of a reference begins with a colon or a closing brace. -/
theorem head?_ending (fallback : Option (List Char)) (after : List Char) :
    ∀ c ∈ (ending fallback ++ after).head?, c = ':' ∨ c = '\x7d' := by
  intro c hc
  cases fallback with
  | none => exact .inr (Option.some.inj hc).symm
  | some text => exact .inl (Option.some.inj hc).symm

/-- The end of a reference is read as what it is. -/
theorem readEnd?_ending (name : List Char) {fallback : Option (List Char)}
    (h : ∀ text ∈ fallback, '\x7d' ∉ text) (after : List Char) :
    readEnd? name (ending fallback ++ after) = some (⟨name, fallback⟩, after) := by
  cases fallback with
  | none => rfl
  | some text =>
    have hopen : ∀ c ∈ text, (c != '\x7d') = true := fun c hc =>
      bne_iff_ne.mpr fun heq => h text rfl (heq ▸ hc)
    have hclosed : ∀ c ∈ ('\x7d' :: after).head?, (c != '\x7d') = false := by
      rintro c ⟨⟩
      rfl
    have hform : ending (some text) ++ after = ':' :: '-' :: (text ++ '\x7d' :: after) := by
      simp [ending]
    rw [hform, readEnd?, Text.dropWhile_append_of_stop hopen hclosed,
      Text.takeWhile_append_of_stop hopen hclosed]

/-- Whatever is read as the end of a reference is one. -/
theorem of_readEnd? (h : readEnd? name s = some (r, after)) :
    r.name = name ∧ (∀ text ∈ r.fallback, '\x7d' ∉ text) ∧ s = ending r.fallback ++ after := by
  unfold readEnd? at h
  split at h
  next rest =>
    obtain ⟨rfl, rfl⟩ := Prod.mk.inj (Option.some.inj h)
    exact ⟨rfl, fun text htext => (by cases htext), rfl⟩
  next rest =>
    split at h
    next first rest' hdrop =>
      obtain ⟨rfl, rfl⟩ := Prod.mk.inj (Option.some.inj h)
      have hfirst : first = '\x7d' := by
        have hstop := List.head_dropWhile_not (l := rest) (· != '\x7d') (by rw [hdrop]; simp)
        simpa [hdrop] using hstop
      refine ⟨rfl, ?_, ?_⟩
      · rintro text ⟨⟩ hmem
        have hne := List.mem_takeWhile_imp hmem
        simp at hne
      · have hsplit := List.takeWhile_append_dropWhile (p := (· != '\x7d')) (l := rest)
        rw [hdrop, hfirst] at hsplit
        simp [ending, hsplit]
    next => cases h
  next => cases h

/-- A reference is read as what it is, whatever follows it. -/
theorem Written.read? (h : Written r w) (after : List Char) :
    read? (w ++ after) = some (r, after) := by
  obtain ⟨hname, hfallback, before, behind, hbefore, hbehind, rfl⟩ := h
  have hchars := hname.isNameChar
  obtain ⟨c, rest, hcons, hstart, _⟩ := hname
  have hend : ∀ d ∈ (ending r.fallback ++ after).head?,
      isBlank d = false ∧ isNameChar d = false := by
    intro d hd
    rcases head?_ending r.fallback after d hd with rfl | rfl <;> exact ⟨rfl, rfl⟩
  have hfirst : ∀ d ∈ (r.name ++ (behind ++ (ending r.fallback ++ after))).head?,
      isBlank d = false := by
    rw [hcons]
    rintro d ⟨⟩
    exact isBlank_of_isNameChar (isNameChar_of_isNameStart hstart)
  have hsecond : ∀ d ∈ (behind ++ (ending r.fallback ++ after)).head?, isNameChar d = false := by
    intro d hd
    cases behind with
    | nil => exact (hend d hd).2
    | cons b behind =>
      obtain rfl := Option.some.inj hd
      by_contra hchar
      have hblank := isBlank_of_isNameChar (Bool.not_eq_false _ ▸ hchar)
      rw [hbehind b List.mem_cons_self] at hblank
      cases hblank
  have htrim : trimLeft (before ++ (r.name ++ (behind ++ (ending r.fallback ++ after)))) =
      r.name ++ (behind ++ (ending r.fallback ++ after)) :=
    Text.dropWhile_append_of_stop hbefore hfirst
  have hread : readEnd? r.name (trimLeft (behind ++ (ending r.fallback ++ after))) =
      some (r, after) := by
    rw [trimLeft, Text.dropWhile_append_of_stop hbehind fun d hd => (hend d hd).1,
      readEnd?_ending r.name hfallback]
  have hcs : r.name ++ (behind ++ (ending r.fallback ++ after)) =
      c :: (rest ++ (behind ++ (ending r.fallback ++ after))) := by
    rw [hcons]
    rfl
  simp only [List.cons_append, List.append_assoc]
  rw [EnvReference.read?]
  simp only [htrim]
  rw [Text.takeWhile_append_of_stop hchars hsecond, Text.dropWhile_append_of_stop hchars hsecond,
    hread, hcs]
  simp [hstart]

/-- Whatever is read as a reference is one. -/
theorem exists_of_read? (h : EnvReference.read? s = some (r, after)) :
    ∃ w, Written r w ∧ s = w ++ after := by
  unfold EnvReference.read? at h
  split at h
  next rest =>
    dsimp only at h
    split at h
    next c more hcs =>
      split at h
      next hstart =>
        obtain ⟨hname, hfallback, hend⟩ := of_readEnd? h
        have hletters : r.name = c :: more.takeWhile isNameChar := by
          rw [hname, hcs, List.takeWhile_cons_of_pos (isNameChar_of_isNameStart hstart)]
        refine ⟨_, ⟨⟨c, _, hletters, hstart, fun d hd => List.mem_takeWhile_imp hd⟩, hfallback,
          rest.takeWhile isBlank, ((trimLeft rest).dropWhile isNameChar).takeWhile isBlank,
          fun d hd => List.mem_takeWhile_imp hd, fun d hd => List.mem_takeWhile_imp hd, rfl⟩, ?_⟩
        have hbefore : rest = rest.takeWhile isBlank ++ trimLeft rest :=
          List.takeWhile_append_dropWhile.symm
        have hwhole : trimLeft rest = r.name ++ (trimLeft rest).dropWhile isNameChar := by
          rw [hname]
          exact List.takeWhile_append_dropWhile.symm
        have hbehind : (trimLeft rest).dropWhile isNameChar =
            ((trimLeft rest).dropWhile isNameChar).takeWhile isBlank ++
              (ending r.fallback ++ after) := by
          rw [← hend]
          exact List.takeWhile_append_dropWhile.symm
        calc '$' :: '\x7b' :: rest
            = '$' :: '\x7b' :: (rest.takeWhile isBlank ++ trimLeft rest) := by rw [← hbefore]
          _ = '$' :: '\x7b' :: (rest.takeWhile isBlank ++ (r.name ++
                (((trimLeft rest).dropWhile isNameChar).takeWhile isBlank ++
                  (ending r.fallback ++ after)))) := by rw [← hbehind, ← hwhole]
          _ = _ := by simp only [List.cons_append, List.append_assoc]
      next => cases h
    next => cases h
  next => cases h

/-- At most one reference begins where a text does, and it ends in one place only. -/
theorem Written.unique (h : Written r w) {v : List Char} (hq : Written q v)
    (heq : w ++ x = v ++ y) : r = q ∧ w = v ∧ x = y := by
  have hread := h.read? x
  rw [heq, hq.read? y] at hread
  obtain ⟨rfl, rfl⟩ := Prod.mk.inj (Option.some.inj hread)
  exact ⟨rfl, List.append_cancel_right heq, rfl⟩

/-- A reference begins with a dollar sign. -/
theorem Written.exists_cons (h : Written r w) : ∃ v, w = '$' :: v := by
  obtain ⟨_, _, _, _, _, _, rfl⟩ := h
  exact ⟨_, rfl⟩

/-! ## Readings -/

/-- A reading of a text from left to right: a reference where one begins, else a character. -/
inductive Scanned : List Char → List Piece → Prop where
  /-- Nothing is left. -/
  | done : Scanned [] []
  /-- A reference begins here; the reading goes on behind it. -/
  | reference {r : EnvReference} {w after : List Char} {ps : List Piece} (written : Written r w)
      (rest : Scanned after ps) : Scanned (w ++ after) (.reference r :: ps)
  /-- No reference begins here. -/
  | char {c : Char} {s : List Char} {ps : List Piece}
      (none : ∀ r w after, Written r w → c :: s ≠ w ++ after) (rest : Scanned s ps) :
      Scanned (c :: s) (.char c :: ps)

/-- Characters that belong to a reference are passed over. -/
theorem piecesFrom_append (s t : List Char) : piecesFrom s.length (s ++ t) = piecesFrom 0 t := by
  induction s with
  | nil => rfl
  | cons c s ih =>
    rw [List.cons_append, List.length_cons, piecesFrom]
    exact ih

theorem pieces_of_written (h : Written r w) (after : List Char) :
    pieces (w ++ after) = .reference r :: pieces after := by
  have hread := h.read? after
  obtain ⟨v, rfl⟩ := h.exists_cons
  rw [List.cons_append] at hread ⊢
  have hskip : (v ++ after).length - after.length = v.length := by
    rw [List.length_append, Nat.add_sub_cancel]
  rw [pieces, piecesFrom]
  simp only [hread, hskip]
  rw [piecesFrom_append, pieces]

theorem pieces_of_none (h : ∀ r w after, Written r w → c :: s ≠ w ++ after) :
    pieces (c :: s) = .char c :: pieces s := by
  have hread : EnvReference.read? (c :: s) = none := by
    cases hread : EnvReference.read? (c :: s) with
    | none => rfl
    | some found =>
      obtain ⟨r, after⟩ := found
      obtain ⟨w, hw, heq⟩ := exists_of_read? hread
      exact absurd heq (h r w after hw)
  rw [pieces, piecesFrom]
  simp only [hread]
  rfl

/-- The pieces of a text are a reading of it. -/
theorem scanned_pieces (s : List Char) : Scanned s (pieces s) := by
  induction hlength : s.length using Nat.strong_induction_on generalizing s with
  | _ n ih =>
    subst hlength
    cases s with
    | nil => exact .done
    | cons c s =>
      by_cases hfound : ∃ r w after, Written r w ∧ c :: s = w ++ after
      · obtain ⟨r, w, after, hw, heq⟩ := hfound
        rw [heq, pieces_of_written hw]
        refine .reference hw (ih after.length ?_ after rfl)
        obtain ⟨v, rfl⟩ := hw.exists_cons
        have hsum := congrArg List.length heq
        rw [List.length_append, List.length_cons, List.length_cons] at hsum
        rw [List.length_cons]
        omega
      · have hnone : ∀ r w after, Written r w → c :: s ≠ w ++ after := fun r w after hw heq =>
          hfound ⟨r, w, after, hw, heq⟩
        rw [pieces_of_none hnone]
        exact .char hnone (ih s.length (Nat.lt_succ_self _) s rfl)

/-- There is no other reading. -/
theorem Scanned.eq_pieces {ps : List Piece} (h : Scanned s ps) : ps = pieces s := by
  induction h with
  | done => rfl
  | reference written rest ih => rw [pieces_of_written written, ih]
  | char none rest ih => rw [pieces_of_none none, ih]

end EnvReference

end BoundSql
