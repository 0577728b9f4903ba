import BoundSql.Adapter
import BoundSql.Proofs.Opening
import BoundSql.Proofs.Results
import Mathlib.Data.List.TakeWhile

/-!
# What is shown of settings that differ in secrets

Settings may differ in the password on its own and in the one within the data source name. There it
stands behind the user of an address, or in the entries of a list that cannot be read as one. Then
the same is shown of them, and the same adapter is chosen for them, if the lists are refused with
the same error: a list that begins like an address is refused with the text behind its port, and
that text may be a secret.
-/

namespace BoundSql

open Text

/-! ## Entries -/

namespace Text

/-- Blanks in front of a sign that is none go with what they stand behind. -/
theorem trimLeft_append {c : Char} (hc : isBlank c = false) (s rest : List Char) :
    trimLeft (s ++ c :: rest) = trimLeft s ++ c :: rest := by
  have hkeep : (c :: rest).dropWhile isBlank = c :: rest :=
    List.dropWhile_cons_of_neg (by rw [hc]; exact Bool.false_ne_true)
  unfold trimLeft
  rw [List.dropWhile_append]
  split
  next hempty =>
    rw [List.isEmpty_iff.mp hempty, hkeep]
    rfl
  next => rfl

/-- So do blanks behind it. -/
theorem trimRight_append {c : Char} (hc : isBlank c = false) (s rest : List Char) :
    trimRight (s ++ c :: rest) = s ++ c :: trimRight rest := by
  have hreverse : (s ++ c :: rest).reverse = rest.reverse ++ c :: s.reverse := by
    rw [List.reverse_append, List.reverse_cons, List.append_assoc]
    rfl
  have htrim := trimLeft_append hc rest.reverse s.reverse
  unfold trimLeft at htrim
  unfold trimRight
  rw [hreverse, htrim, List.reverse_append, List.reverse_cons, List.reverse_reverse,
    List.append_assoc]
  rfl

theorem trim_trimLeft (s : List Char) : trim (trimLeft s) = trim s := by
  have htwice : trimLeft (trimLeft s) = trimLeft s := by
    unfold trimLeft
    induction s with
    | nil => rfl
    | cons c s ih =>
      by_cases hc : isBlank c = true
      · rw [List.dropWhile_cons_of_pos hc, ih]
      · rw [List.dropWhile_cons_of_neg hc, List.dropWhile_cons_of_neg hc]
  rw [trim, htwice, trim]

end Text

namespace Dsn

/-- Two entries are the same, or both give a value to a key whose values are secret. -/
def SameEntry (e f : List Char) : Prop :=
  f = e ∨ ∃ key v w : List Char, '=' ∉ key ∧ lower (trim key) ∈ secretKeys ∧
    e = key ++ '=' :: v ∧ f = key ++ '=' :: w

/-- The key of an entry is what stands before the sign, whatever stands behind it. -/
theorem entryKey_trim {key : List Char} (hkey : '=' ∉ key) (v : List Char) :
    entryKey (trim (key ++ '=' :: v)) = lower (trim key) := by
  have hsign : isBlank '=' = false := by decide
  have htrim : trim (key ++ '=' :: v) = trimLeft key ++ '=' :: trimRight v := by
    rw [trim, trimLeft_append hsign, trimRight_append hsign]
  have hfree : ∀ c ∈ trimLeft key, (c != '=') = true := by
    intro c hc
    have hmem : c ∈ key := (List.dropWhile_sublist isBlank).subset hc
    exact bne_iff_ne.mpr fun h => hkey (h ▸ hmem)
  have hstop : ('=' :: trimRight v).takeWhile (· != '=') = [] := by
    rw [List.takeWhile_cons_of_neg]
    simp
  rw [entryKey, htrim, List.takeWhile_append_of_pos hfree, hstop, List.append_nil, trim_trimLeft]

/-- What is shown of a list of entries. -/
def shownEntries (entries : List (List Char)) : List (List Char) :=
  ((entries.map trim).filter fun entry => !entry.isEmpty).map maskEntry

/-- An entry with a secret value is shown without it. -/
theorem shownEntries_secret {key : List Char} (hkey : '=' ∉ key)
    (hsecret : lower (trim key) ∈ secretKeys) (v : List Char) (rest : List (List Char)) :
    shownEntries ((key ++ '=' :: v) :: rest) =
      (lower (trim key) ++ ['=', '*', '*', '*']) :: shownEntries rest := by
  have hnonempty : (trim (key ++ '=' :: v)).isEmpty = false := by
    have hsign : isBlank '=' = false := by decide
    rw [trim, trimLeft_append hsign, trimRight_append hsign]
    cases trimLeft key <;> rfl
  have hmask : maskEntry (trim (key ++ '=' :: v)) = lower (trim key) ++ ['=', '*', '*', '*'] := by
    rw [maskEntry, entryKey_trim hkey, if_pos hsecret]
  rw [shownEntries, List.map_cons, List.filter_cons_of_pos (by rw [hnonempty]; rfl),
    List.map_cons, hmask]
  rfl

/-- The same is shown of entries that differ in secret values. -/
theorem shownEntries_eq {entries others : List (List Char)}
    (h : List.Forall₂ SameEntry entries others) : shownEntries others = shownEntries entries := by
  induction h with
  | nil => rfl
  | @cons e f entries others hentry _ ih =>
    rcases hentry with rfl | ⟨key, v, w, hkey, hsecret, rfl, rfl⟩
    · unfold shownEntries at ih ⊢
      rw [List.map_cons, List.map_cons, List.filter_cons, List.filter_cons]
      split
      · rw [List.map_cons, List.map_cons, ih]
      · exact ih
    · rw [shownEntries_secret hkey hsecret, shownEntries_secret hkey hsecret, ih]

end Dsn

/-! ## Addresses -/

namespace Text

/-- What stands before a sign and behind it is found again. -/
theorem cutAt?_append {c : Char} {s : List Char} (hs : c ∉ s) (rest : List Char) :
    cutAt? c (s ++ c :: rest) = some (s, rest) := by
  induction s with
  | nil => exact if_pos rfl
  | cons d s ih =>
    have hd : d ≠ c := fun h => hs (h ▸ List.mem_cons_self)
    rw [List.cons_append, cutAt?, if_neg hd, ih fun h => hs (List.mem_cons_of_mem d h)]
    rfl

end Text

namespace Url

/-- Two addresses differ in nothing but their password, and both have one. -/
def SameButPassword (u v : Url) : Prop :=
  ∃ p q, u.password = some p ∧ v = { u with password := some q }

/-- A masked address does not depend on the password. -/
theorem SameButPassword.render_eq {u v : Url} (h : u.SameButPassword v) :
    v.render true = u.render true := by
  obtain ⟨p, q, hp, rfl⟩ := h
  simp only [render, renderChars, renderCredentials, hp]
  rfl

theorem SameButPassword.backend_eq {u v : Url} (h : u.SameButPassword v) :
    v.backend = u.backend := by
  obtain ⟨p, q, -, rfl⟩ := h
  rfl

/-- The text of an address with a user and a password. -/
def addressed (name user password rest : List Char) : List Char :=
  name ++ ':' :: '/' :: '/' :: (user ++ ':' :: (password ++ '@' :: rest))

section

variable {name user password other : List Char} (rest : List Char)

/-- The name is found in front of its sign. -/
theorem splitName?_append (hname : name ≠ []) (hletters : ∀ c ∈ name, isNameLetter c = true) :
    splitName? (name ++ ':' :: '/' :: '/' :: rest) = some (name, rest) := by
  have htake : (name ++ ':' :: '/' :: '/' :: rest).takeWhile isNameLetter = name := by
    rw [List.takeWhile_append_of_pos hletters, List.takeWhile_cons_of_neg (by decide),
      List.append_nil]
  have hdrop : (name ++ ':' :: '/' :: '/' :: rest).dropWhile isNameLetter =
      ':' :: '/' :: '/' :: rest := by
    rw [List.dropWhile_append_of_pos hletters, List.dropWhile_cons_of_neg (by decide)]
  have hsome : name.isEmpty = false := List.isEmpty_eq_false_iff.mpr hname
  rw [splitName?, htake, hdrop, hsome]
  rfl

/-- User and password are found in front of theirs. -/
theorem splitCredentials_append (huser : ∀ c ∈ user, isUserLetter c = true)
    (hpassword : '@' ∉ password) :
    splitCredentials (user ++ ':' :: (password ++ '@' :: rest)) =
      (some ⟨user, some password⟩, rest) := by
  have htake : (user ++ ':' :: (password ++ '@' :: rest)).takeWhile isUserLetter = user := by
    rw [List.takeWhile_append_of_pos huser, List.takeWhile_cons_of_neg (by decide),
      List.append_nil]
  have hdrop : (user ++ ':' :: (password ++ '@' :: rest)).dropWhile isUserLetter =
      ':' :: (password ++ '@' :: rest) := by
    rw [List.dropWhile_append_of_pos huser, List.dropWhile_cons_of_neg (by decide)]
  have hsplit : splitPassword? (':' :: (password ++ '@' :: rest)) = some (password, rest) :=
    cutAt?_append hpassword rest
  rw [splitCredentials, htake, hdrop, hsplit]

/-- Addresses that differ in their password are read alike. -/
theorem readChars_addressed (hname : name ≠ []) (hletters : ∀ c ∈ name, isNameLetter c = true)
    (huser : ∀ c ∈ user, isUserLetter c = true) (hpassword : '@' ∉ password)
    (hother : '@' ∉ other) :
    Act.Matching SameButPassword (readChars (addressed name user password rest))
      (readChars (addressed name user other rest)) := by
  unfold readChars addressed
  rw [splitName?_append _ hname hletters, splitName?_append _ hname hletters]
  dsimp only
  rw [splitCredentials_append rest huser hpassword, splitCredentials_append rest huser hother]
  exact Act.Matching.after _ fun port _ => ⟨_, _, rfl, rfl⟩

end

/-- A text that does not begin like an address is none. -/
theorem read_of_splitName?_eq_none {s : String} (h : splitName? s.toList = none) :
    read s = .error .unparsableUrl := by
  rw [read, readChars, h]

/-- A port that cannot be read is no integer. -/
theorem readPort_error {port : Option (List Char)} {e : Error} (h : readPort port = .error e) :
    ∃ fault, e = .integer fault := by
  cases port with
  | none => cases h
  | some digits =>
    dsimp only [readPort, Value.integerOfText] at h
    cases hread : readIntegerNumeral (String.ofList digits).toList with
    | ok n =>
      rw [hread] at h
      cases h
    | error fault =>
      rw [hread] at h
      cases fault <;> exact ⟨_, (Except.error.inj h).symm⟩

/-- A text does not begin like an address, or its port is no integer. -/
theorem readChars_error {s : List Char} {e : Error} (h : readChars s = .error e) :
    splitName? s = none ∧ e = .unparsableUrl ∨ ∃ fault, e = .integer fault := by
  unfold readChars at h
  split at h
  next hname => exact .inl ⟨hname, (Except.error.inj h).symm⟩
  next name rest hname =>
    rcases bind_eq_error_iff.mp h with hport | ⟨port, -, hrest⟩
    · exact .inr (readPort_error hport)
    · cases hrest

end Url

/-! ## Data source names -/

namespace Dsn

/-- Two data source names differ in nothing but secrets. -/
inductive SameButSecret : String → String → Prop
  /-- They are the same. -/
  | same (dsn : String) : SameButSecret dsn dsn
  /-- They are addresses with different passwords. -/
  | address {name user password other : List Char} (rest : List Char) (hname : name ≠ [])
      (hletters : ∀ c ∈ name, Url.isNameLetter c = true)
      (huser : ∀ c ∈ user, Url.isUserLetter c = true) (hpassword : '@' ∉ password)
      (hother : '@' ∉ other) :
      SameButSecret (String.ofList (Url.addressed name user password rest))
        (String.ofList (Url.addressed name user other rest))
  /-- They are lists that cannot be read as addresses, with different values of secret keys. -/
  | entries {dsn other : String} (hdsn : (Url.read dsn).isOk = false)
      (hother : (Url.read other).isOk = false)
      (h : List.Forall₂ SameEntry (splitAt ';' dsn.toList) (splitAt ';' other.toList)) :
      SameButSecret dsn other

/-- If the one cannot be read as an address, neither can the other, with the same error. -/
def RefusedAlike (dsn other : String) : Prop :=
  ∀ e, Url.read dsn = .error e → Url.read other = .error e

theorem looksLikeUrl_append (before rest : List Char) :
    looksLikeUrl (before ++ ':' :: '/' :: '/' :: rest) = true := by
  induction before with
  | nil => rfl
  | cons c before ih =>
    unfold looksLikeUrl
    rw [List.cons_append]
    dsimp only
    rw [ih, Bool.or_true]

variable {dsn other : String}

/-- What does not begin like an address is shown as a list of entries. -/
theorem redact_of_unparsable (h : Url.read dsn = .error .unparsableUrl) :
    redact dsn = .ok (String.ofList (joinWith [';'] (shownEntries (splitAt ';' dsn.toList)))) := by
  unfold redact
  rw [h]
  split <;> rfl

/-- What begins like one is shown as an address with its password masked, or is refused. -/
theorem redact_of_named (h : Url.read dsn ≠ .error .unparsableUrl) :
    redact dsn = (Url.read dsn).map (Url.render true) := by
  have hlooks : looksLikeUrl dsn.toList = true := by
    cases hname : Url.splitName? dsn.toList with
    | none => exact absurd (Url.read_of_splitName?_eq_none hname) h
    | some found =>
      unfold Url.splitName? at hname
      split at hname
      next rest hrest =>
        rw [← List.takeWhile_append_dropWhile (p := Url.isNameLetter) (l := dsn.toList), hrest]
        exact looksLikeUrl_append _ _
      next => cases hname
  unfold redact
  rw [if_pos hlooks]
  cases hread : Url.read dsn with
  | ok url => rfl
  | error e =>
    obtain ⟨-, rfl⟩ | ⟨fault, rfl⟩ := Url.readChars_error hread
    · exact absurd hread h
    · rfl

/-- What is refused as an address is shown as a list of entries, or is refused here as well. -/
theorem redact_of_error {e : Error} (h : Url.read dsn = .error e) :
    e = .unparsableUrl ∨ redact dsn = .error e := by
  by_cases hunparsable : e = .unparsableUrl
  · exact .inl hunparsable
  · refine .inr ?_
    rw [redact_of_named fun hread => hunparsable (Except.error.inj (h.symm.trans hread)), h]
    rfl

/-- An error in place of what is shown is about the port. -/
theorem redact_error {e : Error} (h : redact dsn = .error e) : ∃ fault, e = .integer fault := by
  by_cases hunparsable : Url.read dsn = .error .unparsableUrl
  · rw [redact_of_unparsable hunparsable] at h
    cases h
  · rw [redact_of_named hunparsable] at h
    cases hread : Url.read dsn with
    | ok url =>
      rw [hread] at h
      cases h
    | error other =>
      rw [hread] at h
      obtain rfl : other = e := Except.error.inj h
      exact (Url.readChars_error hread).resolve_left fun hnone => hunparsable (hnone.2 ▸ hread)

/-- An address begins like one. -/
theorem read_addressed_ne {name : List Char} (user password rest : List Char) (hname : name ≠ [])
    (hletters : ∀ c ∈ name, Url.isNameLetter c = true) :
    Url.read (String.ofList (Url.addressed name user password rest)) ≠ .error .unparsableUrl := by
  intro hread
  rw [Url.read, String.toList_ofList] at hread
  obtain ⟨hnone, -⟩ | ⟨fault, hfault⟩ := Url.readChars_error hread
  · rw [Url.addressed, Url.splitName?_append _ hname hletters] at hnone
    cases hnone
  · cases hfault

/-- A list that cannot be read as an address is refused. -/
theorem exists_read_eq_error (h : (Url.read dsn).isOk = false) :
    ∃ e, Url.read dsn = .error e := by
  cases hread : Url.read dsn with
  | ok url =>
    rw [hread] at h
    cases h
  | error e => exact ⟨e, rfl⟩

/-- Data source names that differ in secrets are read alike if they are refused alike. -/
theorem SameButSecret.read_matching (h : SameButSecret dsn other)
    (hrefused : RefusedAlike dsn other) :
    Act.Matching (fun u v => v.render true = u.render true ∧ v.backend = u.backend)
      (Url.read dsn) (Url.read other) := by
  cases h with
  | same => exact (Act.Matching.refl _).imp fun u v huv => huv ▸ ⟨rfl, rfl⟩
  | address rest hname hletters huser hpassword hother =>
    have hread := Url.readChars_addressed rest hname hletters huser hpassword hother
    rw [Url.read, Url.read, String.toList_ofList, String.toList_ofList]
    exact hread.imp fun u v huv => ⟨huv.render_eq, huv.backend_eq⟩
  | entries hdsn =>
    obtain ⟨e, he⟩ := exists_read_eq_error hdsn
    rw [he, hrefused e he]
    exact rfl

/-- Addresses are refused alike whatever their passwords are. -/
theorem refusedAlike_addressed {name user password other : List Char} (rest : List Char)
    (hname : name ≠ []) (hletters : ∀ c ∈ name, Url.isNameLetter c = true)
    (huser : ∀ c ∈ user, Url.isUserLetter c = true) (hpassword : '@' ∉ password)
    (hother : '@' ∉ other) :
    RefusedAlike (String.ofList (Url.addressed name user password rest))
      (String.ofList (Url.addressed name user other rest)) := by
  intro e he
  rw [Url.read, String.toList_ofList] at he ⊢
  exact (Url.readChars_addressed rest hname hletters huser hpassword hother).error_iff.mp he

/-- The same is shown of data source names that are refused alike. -/
theorem SameButSecret.redact_eq (h : SameButSecret dsn other) (hrefused : RefusedAlike dsn other) :
    redact other = redact dsn := by
  by_cases hunparsable : Url.read dsn = .error .unparsableUrl
  · cases h with
    | same => rfl
    | address rest hname hletters =>
      exact absurd hunparsable (read_addressed_ne _ _ rest hname hletters)
    | entries _ _ hentries =>
      rw [redact_of_unparsable hunparsable, redact_of_unparsable (hrefused _ hunparsable),
        shownEntries_eq hentries]
  · have hread := h.read_matching hrefused
    have hnamed : Url.read other ≠ .error .unparsableUrl :=
      fun hother => hunparsable (hread.error_iff.mpr hother)
    rw [redact_of_named hunparsable, redact_of_named hnamed]
    exact (hread.imp fun u v huv => huv.1).map_eq

/-- It is shown of no others: the error tells them apart. -/
theorem SameButSecret.refusedAlike (h : SameButSecret dsn other)
    (hshown : redact other = redact dsn) : RefusedAlike dsn other := by
  cases h with
  | same => exact fun e he => he
  | address rest hname hletters huser hpassword hother =>
    exact refusedAlike_addressed rest hname hletters huser hpassword hother
  | entries _ hother =>
    intro e he
    obtain ⟨f, hf⟩ := exists_read_eq_error hother
    rw [hf]
    obtain rfl | hdsn := redact_of_error he <;> obtain rfl | hother := redact_of_error hf
    · rfl
    · rw [hother, redact_of_unparsable he] at hshown
      cases hshown
    · rw [hdsn, redact_of_unparsable hf] at hshown
      cases hshown
    · rw [hother, hdsn] at hshown
      exact congrArg _ (Except.error.inj hshown)

/-- A list that begins like an address is told of with its secret, where the port should be. -/
theorem secret_behind_port :
    let dsn := "sqlserver://db:1433;password=a"
    let other := "sqlserver://db:1433;password=b"
    let told (dsn : String) : String :=
      match redact dsn with
      | .ok shown => shown
      | .error e => e.message
    SameButSecret dsn other ∧
      told dsn = "invalid literal for int() with base 10: '1433;password=a'" ∧
      told other = "invalid literal for int() with base 10: '1433;password=b'" := by
  intro dsn other told
  have hsplit : splitAt ';' dsn.toList = ["sqlserver://db:1433".toList, "password=a".toList] := by
    decide +kernel
  have hother : splitAt ';' other.toList = ["sqlserver://db:1433".toList, "password=b".toList] := by
    decide +kernel
  have hentry : SameEntry "password=a".toList "password=b".toList :=
    .inr ⟨"password".toList, ['a'], ['b'], by decide, by decide +kernel, rfl, rfl⟩
  have hentries : List.Forall₂ SameEntry (splitAt ';' dsn.toList) (splitAt ';' other.toList) := by
    rw [hsplit, hother]
    exact .cons (.inl rfl) (.cons hentry .nil)
  exact ⟨.entries (by decide +kernel) (by decide +kernel) hentries, by decide +kernel,
    by decide +kernel⟩

end Dsn

/-! ## Settings -/

/-- Settings differ in nothing but their password and the secret in their data source name. -/
structure ConnectionSettings.SameButSecret (a b : ConnectionSettings) : Prop where
  /-- The data source names differ in nothing but secrets. -/
  dsn : Dsn.SameButSecret a.dsn b.dsn
  /-- All else but the password is the same. -/
  rest : b = { a with dsn := b.dsn, password := b.password }

namespace ConnectionSettings.SameButSecret

variable {a b : ConnectionSettings}

/-- Logs show the same of settings, or the same error takes its place, exactly if their data source
names are refused alike. -/
theorem publicView_eq_iff (h : a.SameButSecret b) :
    b.publicView = a.publicView ↔ Dsn.RefusedAlike a.dsn b.dsn := by
  constructor
  · intro hviews
    refine h.dsn.refusedAlike ?_
    unfold publicView at hviews
    cases ha : Dsn.redact a.dsn with
    | ok shown =>
      rw [ha, ok_bind] at hviews
      obtain ⟨other, hb, hviews⟩ := bind_eq_ok_iff.mp hviews
      obtain rfl : other = shown := congrArg PublicSettings.dsn (Except.ok.inj hviews)
      exact hb
    | error e =>
      rw [ha] at hviews
      obtain hb | ⟨other, -, hviews⟩ := bind_eq_error_iff.mp hviews
      · exact hb
      · cases hviews
  · intro hrefused
    rw [publicView, publicView, h.dsn.redact_eq hrefused, h.rest]

/-- The same adapter is chosen for settings that are refused alike, or they are refused here. -/
theorem choose_eq (h : a.SameButSecret b) (hrefused : Dsn.RefusedAlike a.dsn b.dsn)
    (registry : AdapterRegistry) : registry.choose b = registry.choose a := by
  have hread := h.dsn.read_matching hrefused
  unfold AdapterRegistry.choose
  rw [h.publicView_eq_iff.mpr hrefused]
  generalize Url.read a.dsn = x at hread
  generalize Url.read b.dsn = y at hread
  cases x with
  | ok u =>
    cases y with
    | ok v =>
      dsimp only
      rw [hread.2]
    | error e => exact hread.elim
  | error e =>
    cases y with
    | ok v => exact hread.elim
    | error other =>
      obtain rfl : other = e := hread
      rfl

end ConnectionSettings.SameButSecret

end BoundSql
