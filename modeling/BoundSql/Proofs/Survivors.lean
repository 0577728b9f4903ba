import BoundSql.Proofs.Expansion

/-!
# References that come up in a filled tree

A tree is filled in one pass, so what is put in may make a reference together with what stands
around it, and a fallback may hold the beginning of another reference. If neither is the case and
the variables hold no dollar sign, no text of the filled tree holds a reference, and filling it
again changes nothing.
-/

namespace BoundSql

open Text

/-- Trimming adds no characters. -/
theorem Text.mem_of_mem_trim {c : Char} {s : List Char} (h : c ∈ trim s) : c ∈ s := by
  rw [trim, trimRight, List.mem_reverse] at h
  have hleft := (List.dropWhile_sublist _).subset h
  rw [List.mem_reverse] at hleft
  exact (List.dropWhile_sublist _).subset hleft

namespace EnvReference

variable {env : Environment} {v w : Value} {s t : List Char} {ps : List Piece}

/-- A reference stands somewhere in a text. -/
def HoldsReference (t : List Char) : Prop :=
  ∃ r w before after, Written r w ∧ t = before ++ (w ++ after)

/-- The beginning of a reference without its end. -/
def Unfinished (s : List Char) : Prop :=
  s ≠ [] ∧ ∃ r rest, rest ≠ [] ∧ Written r (s ++ rest)

/-- A text in which filling makes no new references. -/
structure Calm (env : Environment) (ps : List Piece) : Prop where
  /-- A fallback that is put in has no dollar sign. -/
  fallback : ∀ r ∈ amongPieces ps, env.lookup (String.ofList r.name) = none →
    ∀ text ∈ r.fallback, '$' ∉ text
  /-- The characters in front of a reference do not end in an unfinished one. -/
  finished : ∀ before run r after, ps = before ++ (run.map .char ++ .reference r :: after) →
    ¬ Unfinished run

theorem Calm.tail {p : Piece} (h : Calm env (p :: ps)) : Calm env ps where
  fallback r hr := h.fallback r (by
    cases p with
    | char c => exact hr
    | reference q => exact .tail q hr)
  finished before run r after heq := h.finished (p :: before) run r after (heq ▸ rfl)

/-- A text without a plain dollar sign is calm if its fallbacks have none. -/
theorem Calm.of_plain (hchars : Piece.char '$' ∉ ps)
    (hfallbacks : ∀ r ∈ amongPieces ps, ∀ text ∈ r.fallback, '$' ∉ text) : Calm env ps where
  fallback r hr _ := hfallbacks r hr
  finished := by
    rintro before run r after rfl ⟨hne, q, rest, _, hwritten⟩
    obtain ⟨c, run, rfl⟩ := List.exists_cons_of_ne_nil hne
    obtain ⟨u, hu⟩ := hwritten.exists_cons
    have hc : c = '$' := (List.cons.inj hu).1
    exact hchars (by simp [hc])

/-! ## Runs of characters -/

/-- Pieces begin with a run of characters, up to their end or to a reference. -/
theorem exists_run (ps : List Piece) : ∃ (run : List Char) (rest : List Piece),
    ps = run.map .char ++ rest ∧ (rest = [] ∨ ∃ r after, rest = .reference r :: after) := by
  induction ps with
  | nil => exact ⟨[], [], rfl, .inl rfl⟩
  | cons p ps ih =>
    cases p with
    | char c =>
      obtain ⟨run, rest, rfl, hrest⟩ := ih
      exact ⟨c :: run, rest, rfl, hrest⟩
    | reference r => exact ⟨[], _, rfl, .inr ⟨r, ps, rfl⟩⟩

/-- A text begins with the run with which its pieces begin. -/
theorem Scanned.exists_append {run : List Char} (h : Scanned s (run.map .char ++ ps)) :
    ∃ after, s = run ++ after := by
  induction run generalizing s with
  | nil => exact ⟨s, rfl⟩
  | cons c run ih =>
    cases h with
    | char _ rest =>
      obtain ⟨after, rfl⟩ := ih rest
      exact ⟨after, rfl⟩

/-- A run is written out as it is. -/
theorem WrittenOut.exists_append {run : List Char} (h : WrittenOut env (run.map .char ++ ps) t) :
    ∃ after, WrittenOut env ps after ∧ t = run ++ after := by
  induction run generalizing t with
  | nil => exact ⟨t, h, rfl⟩
  | cons c run ih =>
    cases h with
    | char rest =>
      obtain ⟨after, hafter, rfl⟩ := ih rest
      exact ⟨after, hafter, rfl⟩

/-! ## One text -/

/-- What is put in has no dollar sign. -/
theorem Stands.dollar_not_mem {r : EnvReference}
    (hvalues : ∀ entry ∈ env, '$' ∉ entry.2.toList) (hcalm : Calm env ps)
    (hr : r ∈ amongPieces ps) (h : Stands env r t) : '$' ∉ t := by
  cases h with
  | value isSet =>
    obtain ⟨before, after, rfl, _⟩ := List.lookup_eq_some_iff.mp isSet
    exact hvalues _ (List.mem_append_right _ List.mem_cons_self)
  | fallback unset given =>
    exact fun hmem => hcalm.fallback r hr unset _ given (Text.mem_of_mem_trim hmem)

/-- A reference in a calm text that is written out would begin at a plain dollar sign. It does not
end before the run of characters there does, or it would have been read as a reference, and it does
not go on behind the run, which would be an unfinished reference then. -/
theorem WrittenOut.not_holdsReference (hvalues : ∀ entry ∈ env, '$' ∉ entry.2.toList)
    (hscanned : Scanned s ps) (hcalm : Calm env ps) (h : WrittenOut env ps t) :
    ¬ HoldsReference t := by
  rintro ⟨q, w, before, behind, hw, heq⟩
  obtain ⟨u, hu⟩ := hw.exists_cons
  induction hscanned generalizing t before with
  | done =>
    cases h with
    | done =>
      rw [hu] at heq
      simp at heq
  | @reference r written after ps hwritten hrest ih =>
    cases h with
    | @reference _ _ value t stands out =>
      have hvalue := stands.dollar_not_mem hvalues hcalm List.mem_cons_self
      rcases List.append_eq_append_iff.mp heq with ⟨more, hbefore, hmore⟩ | ⟨more, hmore, hout⟩
      · exact ih hcalm.tail out more hmore
      · cases more with
        | nil => exact ih hcalm.tail out [] hout.symm
        | cons c more =>
          rw [hu] at hout
          obtain ⟨rfl, _⟩ := List.cons.inj hout
          exact hvalue (hmore ▸ List.mem_append_right _ List.mem_cons_self)
  | @char c s ps hnone hrest ih =>
    cases h with
    | @char _ _ t out =>
      cases before with
      | cons b before => exact ih hcalm.tail out before (List.cons.inj heq).2
      | nil =>
        obtain ⟨run, rest, rfl, hends⟩ := exists_run ps
        obtain ⟨source, rfl⟩ := hrest.exists_append
        obtain ⟨result, hresult, rfl⟩ := out.exists_append
        have hbegin : (c :: run) ++ result = w ++ behind := heq
        rcases List.append_eq_append_iff.mp hbegin with ⟨more, hlonger, hmore⟩ | ⟨more, hwhole, _⟩
        · by_cases hempty : more = []
          · rw [hempty, List.append_nil] at hlonger
            exact hnone q w source hw (by rw [hlonger, List.cons_append])
          · rcases hends with rfl | ⟨r, after, rfl⟩
            · cases hresult with
              | done => exact hempty (List.append_eq_nil_iff.mp hmore.symm).1
            · exact hcalm.finished [] (c :: run) r after rfl
                ⟨List.cons_ne_nil _ _, q, more, hempty, hlonger ▸ hw⟩
        · refine hnone q w (more ++ source) hw ?_
          rw [← List.append_assoc, ← hwhole, List.cons_append]

/-! ## Trees -/

/-- Each text of a filled tree is a text of the tree written out. -/
def OutOf (env : Environment) (texts : List String) (t : String) : Prop :=
  ∃ s ∈ texts, ∃ ps, Scanned s.toList ps ∧ WrittenOut env ps t.toList

theorem OutOf.mono {texts more : List String} {t : String} (h : OutOf env texts t)
    (hmore : texts ⊆ more) : OutOf env more t := by
  obtain ⟨s, hs, out⟩ := h
  exact ⟨s, hmore hs, out⟩

mutual
theorem Filled.outOf {v w : Value} (h : Filled env v w) : ∀ t ∈ w.texts, OutOf env v.texts t := by
  cases h with
  | @text s ps out scanned written =>
    intro t ht
    rw [List.mem_singleton.mp ht]
    exact ⟨s, List.mem_singleton_self s, ps, scanned, String.toList_ofList ▸ written⟩
  | list each => exact each.outOf
  | mapping each => exact each.outOf
  | other noText noList noMapping =>
    cases v with
    | text s => exact absurd rfl (noText s)
    | list items => exact absurd rfl (noList items)
    | mapping fields => exact absurd rfl (noMapping fields)
    | _ => exact fun t ht => absurd ht List.not_mem_nil
theorem FilledItems.outOf {items others : List Value} (h : FilledItems env items others) :
    ∀ t ∈ Value.textsOfItems others, OutOf env (Value.textsOfItems items) t := by
  cases h with
  | done => exact fun t ht => absurd ht List.not_mem_nil
  | item first more =>
    intro t ht
    rcases List.mem_append.mp ht with ht | ht
    · exact (first.outOf t ht).mono (List.subset_append_left _ _)
    · exact (more.outOf t ht).mono (List.subset_append_right _ _)
theorem FilledFields.outOf {fields others : List (Value × Value)}
    (h : FilledFields env fields others) :
    ∀ t ∈ Value.textsOfFields others, OutOf env (Value.textsOfFields fields) t := by
  cases h with
  | done => exact fun t ht => absurd ht List.not_mem_nil
  | field first more =>
    intro t ht
    rcases List.mem_append.mp ht with ht | ht
    · exact (first.outOf t ht).mono (List.subset_append_left _ _)
    · exact (more.outOf t ht).mono (List.subset_append_right _ _)
end

/-- A text without a reference is read as its characters. -/
theorem scanned_of_not_holdsReference (h : ¬ HoldsReference s) : Scanned s (s.map .char) := by
  induction s with
  | nil => exact .done
  | cons c s ih =>
    refine .char (fun r w after hw heq => h ⟨r, w, [], after, hw, heq⟩) (ih fun hholds => ?_)
    obtain ⟨r, w, before, after, hw, heq⟩ := hholds
    exact h ⟨r, w, c :: before, after, hw, heq ▸ rfl⟩

/-- Characters are written out as they are. -/
theorem writtenOut_chars (env : Environment) (s : List Char) :
    WrittenOut env (s.map .char) s := by
  induction s with
  | nil => exact .done
  | cons c s ih => exact .char ih

mutual
/-- A tree without references is filled as it is. -/
theorem filled_self (env : Environment) (v : Value)
    (h : ∀ s ∈ v.texts, ¬ HoldsReference s.toList) : Filled env v v := by
  cases v with
  | text s =>
    have hscanned := scanned_of_not_holdsReference (h s (List.mem_singleton_self s))
    have hfilled : Filled env (.text s) (.text (String.ofList s.toList)) :=
      .text hscanned (writtenOut_chars env s.toList)
    rwa [String.ofList_toList] at hfilled
  | list items => exact .list (filledItems_self env items h)
  | mapping fields => exact .mapping (filledFields_self env fields h)
  | _ => exact .other (fun _ => nofun) (fun _ => nofun) fun _ => nofun
theorem filledItems_self (env : Environment) (items : List Value)
    (h : ∀ s ∈ Value.textsOfItems items, ¬ HoldsReference s.toList) :
    FilledItems env items items := by
  cases items with
  | nil => exact .done
  | cons v rest =>
    exact .item (filled_self env v fun s hs => h s (List.mem_append_left _ hs))
      (filledItems_self env rest fun s hs => h s (List.mem_append_right _ hs))
theorem filledFields_self (env : Environment) (fields : List (Value × Value))
    (h : ∀ s ∈ Value.textsOfFields fields, ¬ HoldsReference s.toList) :
    FilledFields env fields fields := by
  cases fields with
  | nil => exact .done
  | cons field rest =>
    obtain ⟨key, v⟩ := field
    exact .field (filled_self env v fun s hs => h s (List.mem_append_left _ hs))
      (filledFields_self env rest fun s hs => h s (List.mem_append_right _ hs))
end

/-- If the variables hold no dollar sign and every text of a tree is calm, the expanded tree has no
references, and expanding it in whatever environment changes nothing. -/
theorem expand_leaves_no_reference (hvalues : ∀ entry ∈ env, '$' ∉ entry.2.toList)
    (hcalm : ∀ s ∈ v.texts, ∀ ps, Scanned s.toList ps → Calm env ps)
    (h : expand env v = .ok w) :
    (∀ t ∈ w.texts, ¬ HoldsReference t.toList) ∧ ∀ later, expand later w = .ok w := by
  obtain ⟨refs, _, hresolves⟩ := expand_resolves env v
  rw [h] at hresolves
  have hfilled : Filled env v w := by
    cases hresolves with
    | all _ result => exact result
  have hnone : ∀ t ∈ w.texts, ¬ HoldsReference t.toList := by
    intro t ht
    obtain ⟨s, hs, ps, hscanned, hout⟩ := hfilled.outOf t ht
    exact hout.not_holdsReference hvalues hscanned (hcalm s hs ps hscanned)
  exact ⟨hnone, fun later => (filled_self later w hnone).expand_eq⟩

theorem expand_leaves_no_reference_region :
    expand [("REGION", "eu")] (.list [.text "db-$\x7bREGION\x7d", .text "$\x7bZONE:- a \x7d"]) =
      .ok (.list [.text "db-eu", .text "a"]) ∧
    (∀ t ∈ (Value.list [.text "db-eu", .text "a"]).texts, ¬ HoldsReference t.toList) ∧
    ∀ later, expand later (.list [.text "db-eu", .text "a"]) =
      .ok (.list [.text "db-eu", .text "a"]) := by
  have h : expand [("REGION", "eu")]
      (.list [.text "db-$\x7bREGION\x7d", .text "$\x7bZONE:- a \x7d"]) =
        .ok (.list [.text "db-eu", .text "a"]) := rfl
  refine ⟨h, expand_leaves_no_reference (by decide) (fun s hs ps hscanned => ?_) h⟩
  rw [hscanned.eq_pieces]
  have htexts : s = "db-$\x7bREGION\x7d" ∨ s = "$\x7bZONE:- a \x7d" := by
    simpa [Value.texts, Value.textsOfItems] using hs
  rcases htexts with rfl | rfl
  · exact .of_plain (by decide) (by decide)
  · exact .of_plain (by decide) (by decide)

/-- Without these conditions a reference may be left: one that a fallback begins, and one that the
text around another makes together with what that stands for. Expanding again replaces it. -/
theorem expand_leaves_reference :
    (expand [] (.text "$\x7bA:-$\x7bB:-x\x7d\x7d") = .ok (.text "$\x7bB:-x\x7d") ∧
      HoldsReference "$\x7bB:-x\x7d".toList ∧
      expand [] (.text "$\x7bB:-x\x7d") = .ok (.text "x")) ∧
    (∀ entry ∈ [("ENV", "prod")], '$' ∉ String.toList entry.2) ∧
      expand [("ENV", "prod")] (.text "$\x7bPRE_$\x7bENV\x7d\x7d") =
        .ok (.text "$\x7bPRE_prod\x7d") ∧
      HoldsReference "$\x7bPRE_prod\x7d".toList ∧
      expand [("ENV", "prod")] (.text "$\x7bPRE_prod\x7d") =
        .error (.configuration (.unsetVariable "PRE_prod")) := by
  have hfirst : EnvReference.read? "$\x7bB:-x\x7d".toList =
      some (⟨['B'], some ['x']⟩, []) := by decide
  have hsecond : EnvReference.read? "$\x7bPRE_prod\x7d".toList =
      some (⟨"PRE_prod".toList, none⟩, []) := by decide
  obtain ⟨w, hw, hweq⟩ := exists_of_read? hfirst
  obtain ⟨u, hu, hueq⟩ := exists_of_read? hsecond
  exact ⟨⟨rfl, ⟨_, w, [], [], hw, hweq⟩, rfl⟩, by decide, rfl, ⟨_, u, [], [], hu, hueq⟩, rfl⟩

end EnvReference

end BoundSql
