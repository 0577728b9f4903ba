import BoundSql.Proofs.Trimming
import BoundSql.Proofs.Usable

/-!
# Settings that are read again

The settings of a connection come from a mapping whose entries may go by two names and may be texts,
truth values or numbers of several kinds. Once they were accepted they are settled: written as a
mapping under their own names they are read to the same settings. A mapping that is not accepted is
refused with issues, and each of them leads to an entry that was looked up.
-/

namespace BoundSql

open Text

variable {α β : Type}

/-! ## Refusals of entries -/

/-- There are issues, and each leads to an entry with one of these names. -/
structure Blaming (names : List String) (issues : List Issue) : Prop where
  /-- There are issues. -/
  ne_nil : issues ≠ []
  /-- The path of each begins with one of the names. -/
  named : ∀ issue ∈ issues, ∃ name ∈ names, issue.path.head? = some (.text name)

/-- More names may be to blame. -/
theorem Blaming.mono {names more : List String} {issues : List Issue} (h : Blaming names issues)
    (hsubset : names ⊆ more) : Blaming more issues := by
  refine ⟨h.ne_nil, fun issue hissue => ?_⟩
  obtain ⟨name, hname, hpath⟩ := h.named issue hissue
  exact ⟨name, hsubset hname, hpath⟩

namespace Checked

/-- A refusal gives at least one issue. -/
def Explained : Checked α → Prop
  | .ok _ => True
  | .error issues => issues ≠ []

/-- A refusal blames entries with these names. -/
def Blames (names : List String) : Checked α → Prop
  | .ok _ => True
  | .error issues => Blaming names issues

theorem explained_ok (a : α) : Explained (.ok a) := trivial

theorem explained_fault (f : Fault) : Explained (fault f : Checked α) := List.cons_ne_nil _ _

theorem Explained.bind {x : Checked α} {f : α → Checked β} (hx : x.Explained)
    (hf : ∀ a, (f a).Explained) : Explained (x >>= f) := by
  cases x with
  | ok a => exact hf a
  | error issues => exact hx

theorem Explained.map {x : Checked α} (hx : x.Explained) (f : α → β) :
    Explained (Except.map f x) := by
  cases x with
  | ok a => exact explained_ok (f a)
  | error issues => exact hx

theorem Explained.under {x : Checked α} (hx : x.Explained) (key : Value) :
    (x.under key).Explained := by
  cases x with
  | ok a => exact explained_ok a
  | error issues => exact fun hnil => hx (List.map_eq_nil_iff.mp hnil)

theorem Explained.apply {f : Checked (α → β)} {x : Checked α} (hf : f.Explained)
    (hx : x.Explained) : (f.apply x).Explained := by
  cases f with
  | ok g =>
    cases x with
    | ok a => exact explained_ok (g a)
    | error issues => exact hx
  | error issues =>
    cases x with
    | ok a => exact hf
    | error more => exact List.append_ne_nil_of_left_ne_nil hf more

theorem blames_of (a : α) : (Checked.of a).Blames [] := trivial

/-- What is read under a name blames that name. -/
theorem Explained.blames {x : Checked α} (hx : x.Explained) {name : String} {names : List String}
    (hname : name ∈ names) : (x.under (.text name)).Blames names := by
  cases x with
  | ok a => exact trivial
  | error issues =>
    refine ⟨fun hnil => hx (List.map_eq_nil_iff.mp hnil), fun issue hissue => ?_⟩
    obtain ⟨deeper, -, rfl⟩ := List.mem_map.mp hissue
    exact ⟨name, hname, rfl⟩

/-- Where several entries are read all names may be to blame. -/
theorem Blames.apply {f : Checked (α → β)} {x : Checked α} {names more : List String}
    (hf : f.Blames names) (hx : x.Blames more) : (f.apply x).Blames (names ++ more) := by
  have hleft : names ⊆ names ++ more := List.subset_append_left names more
  have hright : more ⊆ names ++ more := List.subset_append_right names more
  cases f with
  | ok g =>
    cases x with
    | ok a => exact trivial
    | error issues => exact Blaming.mono hx hright
  | error issues =>
    have hfirst : Blaming (names ++ more) issues := Blaming.mono hf hleft
    cases x with
    | ok a => exact hfirst
    | error others =>
      have hsecond : Blaming (names ++ more) others := Blaming.mono hx hright
      refine ⟨List.append_ne_nil_of_left_ne_nil hfirst.ne_nil others, fun issue hissue => ?_⟩
      rcases List.mem_append.mp hissue with hissue | hissue
      · exact hfirst.named issue hissue
      · exact hsecond.named issue hissue

end Checked

open Checked

section Entries

variable {fields : Fields} {read : Value → Checked α}

theorem requiredEntry_blames (hread : ∀ v, (read v).Explained) (name : String) :
    (requiredEntry fields name read).Blames [name] := by
  unfold requiredEntry
  split
  next v _ => exact (hread v).blames List.mem_cons_self
  next => exact (explained_fault .missing).blames List.mem_cons_self

theorem optionalEntry_blames (hread : ∀ v, (read v).Explained) (names : List String)
    (default : α) : (optionalEntry fields names default read).Blames names := by
  unfold optionalEntry
  split
  next name v hentry =>
    obtain ⟨other, hother, hfound⟩ := List.exists_of_findSome?_eq_some hentry
    obtain ⟨_, _, hpair⟩ := Option.map_eq_some_iff.mp hfound
    obtain rfl : other = name := congrArg Prod.fst hpair
    exact (hread v).blames hother
  next => exact trivial

/-- What holds of the default and of all that is read holds of an entry that may be absent. -/
theorem optionalEntry_keeps {P : α → Prop} {names : List String} {default a : α}
    (hdefault : P default) (hread : ∀ v a, read v = .ok a → P a)
    (h : optionalEntry fields names default read = .ok a) : P a := by
  unfold optionalEntry at h
  split at h
  next name v _ => exact hread v a (under_eq_ok_iff.mp h)
  next => exact Except.ok.inj h ▸ hdefault

/-- An entry that is there is read. -/
theorem requiredEntry_of_named {name : String} {v : Value} {a : α}
    (hnamed : fields.named? name = some v) (hv : read v = .ok a) :
    requiredEntry fields name read = .ok a := by
  unfold requiredEntry
  rw [hnamed]
  exact under_eq_ok_iff.mpr hv

/-- An entry that may be absent is read if it goes by its first name. -/
theorem optionalEntry_of_named {name : String} {more : List String} {default a : α} {v : Value}
    (hnamed : fields.named? name = some v) (hv : read v = .ok a) :
    optionalEntry fields (name :: more) default read = .ok a := by
  have hentry : fields.entry? (name :: more) = some (name, v) := by
    rw [Fields.entry?, List.findSome?_cons, hnamed]
    rfl
  unfold optionalEntry
  rw [hentry]
  exact under_eq_ok_iff.mpr hv

end Entries

/-! ## Refusals of values -/

theorem readText_explained (v : Value) : (readText v).Explained := by
  unfold readText
  split
  next => exact explained_ok _
  next => exact explained_fault _
  next => exact explained_fault _

theorem readDoubleInteger_explained (x : Double) : (readDoubleInteger x).Explained := by
  unfold readDoubleInteger
  split
  next => exact explained_fault _
  next =>
    split
    · exact explained_fault _
    · split
      · exact explained_ok _
      · exact explained_fault _

theorem readDecimalInteger_explained (d : Decimal) : (readDecimalInteger d).Explained := by
  unfold readDecimalInteger
  split
  next => exact explained_fault _
  next =>
    split
    · exact explained_fault _
    · exact explained_ok _

theorem readInteger_explained (v : Value) : (readInteger v).Explained := by
  unfold readInteger
  split
  next => exact explained_ok _
  next => exact explained_ok _
  next => exact readDoubleInteger_explained _
  next => exact readDecimalInteger_explained _
  next =>
    split
    · exact explained_ok _
    · exact explained_fault _
  next => exact explained_fault _
  next => exact explained_fault _

theorem readNatural_explained (v : Value) : (readNatural v).Explained := by
  refine (readInteger_explained v).bind fun n => ?_
  split
  · exact explained_fault _
  · exact explained_ok _

theorem truthOfInteger_explained (n : Int) : (truthOfInteger n).Explained := by
  unfold truthOfInteger
  split
  · exact explained_ok _
  · split
    · exact explained_ok _
    · exact explained_fault _

theorem truthOfDouble_explained (x : Double) : (truthOfDouble x).Explained := by
  unfold truthOfDouble
  split
  next => exact truthOfInteger_explained _
  next => exact explained_fault _

theorem readTruth_explained (v : Value) : (readTruth v).Explained := by
  unfold readTruth
  split
  next => exact explained_ok _
  next =>
    split
    · exact truthOfInteger_explained _
    · exact explained_fault _
  next => exact truthOfDouble_explained _
  next => exact truthOfDouble_explained _
  next =>
    unfold truthOfText
    split
    · exact explained_ok _
    · exact explained_fault _
  next => exact explained_fault _
  next => exact explained_fault _

theorem readEntries_explained {read : Value → Checked α} (hread : ∀ v, (read v).Explained)
    (fields : Fields) : (readEntries read fields).Explained := by
  induction fields with
  | nil => exact explained_ok _
  | cons field rest ih =>
    have hname := ((readText_explained field.1).under (.text "[key]")).under (pathKey field.1)
    have hvalue := (hread field.2).under (pathKey field.1)
    exact (((explained_ok _).apply hname).apply hvalue).apply ih

theorem readMapping_explained {read : Value → Checked α} (hread : ∀ v, (read v).Explained)
    (v : Value) : (readMapping read v).Explained := by
  cases v with
  | mapping fields => exact (readEntries_explained hread fields).map _
  | _ => exact explained_fault _

/-! ## Mappings of named values -/

/-- Named values are read to themselves. -/
theorem readEntries_named (entries : List (String × Value)) :
    readEntries Except.ok (entries.map fun e => (.text e.1, e.2)) = .ok entries := by
  induction entries with
  | nil => rfl
  | cons entry rest ih =>
    rw [List.map_cons, readEntries, ih]
    rfl

/-- A mapping of named values is read to them if no name stands twice. -/
theorem readMapping_named {entries : List (String × Value)} (h : NamedOnce entries) :
    readMapping Except.ok (.ofNamed entries) = .ok entries := by
  have hput := foldl_putNamed_eq [] entries h
  rw [Value.ofNamed, readMapping, readEntries_named]
  exact congrArg Except.ok hput

/-! ## Settings of a connection -/

namespace ConnectionSettings

/-- What is known of settings that were accepted. -/
structure Valid (s : ConnectionSettings) : Prop where
  /-- The data source name is not empty. -/
  dsn_ne : s.dsn ≠ ""
  /-- It begins with no blank. -/
  dsn_head : ∀ c ∈ s.dsn.toList.head?, isBlank c = false
  /-- It ends with no blank. -/
  dsn_last : ∀ c ∈ s.dsn.toList.getLast?, isBlank c = false
  /-- The time limit is not below zero. -/
  timeout_nonneg : 0 ≤ s.timeout
  /-- No name of an option stands twice. -/
  options_once : NamedOnce s.options
  /-- The count of cached statements is not below zero. -/
  cacheSize_nonneg : 0 ≤ s.cacheSize

/-- The names of all entries that are looked up. -/
def entryNames : List String :=
  ["dsn", "username", "user", "password", "pass", "charset", "timeout_seconds", "timeout",
    "persistent", "driver_options", "options", "statement_cache_size"]

variable {fields : Fields} {s : ConnectionSettings} {v : Value}

theorem readDsn_explained (v : Value) : (readDsn v).Explained := by
  refine (readText_explained v).bind fun text => ?_
  split
  · exact explained_fault _
  · exact explained_ok _

theorem readTimeout_explained (v : Value) : (readTimeout v).Explained :=
  (readInteger_explained v).bind fun _ => explained_ok _

/-- A mapping that is refused has an entry that is to blame. -/
theorem readFields_blames (fields : Fields) : (readFields fields).Blames entryNames :=
  ((((((((blames_of ConnectionSettings.mk).apply
    (requiredEntry_blames readDsn_explained "dsn")).apply
    (optionalEntry_blames readText_explained ["username", "user"] "")).apply
    (optionalEntry_blames readText_explained ["password", "pass"] "")).apply
    (optionalEntry_blames readText_explained ["charset"] "utf8mb4")).apply
    (optionalEntry_blames readTimeout_explained ["timeout_seconds", "timeout"] 5)).apply
    (optionalEntry_blames readTruth_explained ["persistent"] false)).apply
    (optionalEntry_blames (readMapping_explained explained_ok) ["driver_options", "options"]
      [])).apply
    (optionalEntry_blames readNatural_explained ["statement_cache_size"] 128)

theorem readDsn_eq_ok {dsn : String} (h : readDsn v = .ok dsn) :
    ∃ text, dsn = strip text ∧ strip text ≠ "" := by
  obtain ⟨text, -, h⟩ := bind_eq_ok_iff.mp h
  obtain ⟨hne, hdsn⟩ := unless_eq_ok_iff.mp h
  exact ⟨text, (Except.ok.inj hdsn).symm, hne⟩

theorem readTimeout_nonneg {n : Int} (h : readTimeout v = .ok n) : 0 ≤ n := by
  obtain ⟨given, -, h⟩ := bind_eq_ok_iff.mp h
  obtain rfl : max 0 given = n := Except.ok.inj h
  exact Int.le_max_left 0 given

theorem readNatural_nonneg {n : Int} (h : readNatural v = .ok n) : 0 ≤ n := by
  obtain ⟨given, -, h⟩ := bind_eq_ok_iff.mp h
  obtain ⟨hnonneg, hn⟩ := unless_eq_ok_iff.mp h
  obtain rfl := Except.ok.inj hn
  exact Int.not_lt.mp hnonneg

/-- The settings that the entries of a mapping are read to. -/
structure ReadFrom (fields : Fields) (s : ConnectionSettings) : Prop where
  /-- The data source name must be there. -/
  dsn : requiredEntry fields "dsn" readDsn = .ok s.dsn
  /-- The user name. -/
  username : optionalEntry fields ["username", "user"] "" readText = .ok s.username
  /-- The password. -/
  password : optionalEntry fields ["password", "pass"] "" readText = .ok s.password
  /-- The character set. -/
  charset : optionalEntry fields ["charset"] "utf8mb4" readText = .ok s.charset
  /-- The time limit. -/
  timeout : optionalEntry fields ["timeout_seconds", "timeout"] 5 readTimeout = .ok s.timeout
  /-- Whether connections are kept open. -/
  persistent : optionalEntry fields ["persistent"] false readTruth = .ok s.persistent
  /-- The options of the driver. -/
  options : optionalEntry fields ["driver_options", "options"] [] (readMapping Except.ok) =
    .ok s.options
  /-- The count of cached statements. -/
  cacheSize : optionalEntry fields ["statement_cache_size"] 128 readNatural = .ok s.cacheSize

/-- A mapping is accepted when each of its entries is. -/
theorem readFields_eq_ok_iff : readFields fields = .ok s ↔ s.ReadFrom fields := by
  constructor
  · intro h
    obtain ⟨withOptions, cacheSize, hmost, hcache, rfl⟩ := apply_eq_ok_iff.mp h
    obtain ⟨withPersistent, options, hpersist, hoptions, rfl⟩ := apply_eq_ok_iff.mp hmost
    obtain ⟨withTimeout, persistent, htimed, hpersistent, rfl⟩ := apply_eq_ok_iff.mp hpersist
    obtain ⟨withCharset, timeout, hencoded, htimeout, rfl⟩ := apply_eq_ok_iff.mp htimed
    obtain ⟨withPassword, charset, hsecret, hcharset, rfl⟩ := apply_eq_ok_iff.mp hencoded
    obtain ⟨withUsername, password, huser, hpassword, rfl⟩ := apply_eq_ok_iff.mp hsecret
    obtain ⟨withDsn, username, hsource, husername, rfl⟩ := apply_eq_ok_iff.mp huser
    obtain ⟨_, dsn, hmake, hdsn, rfl⟩ := apply_eq_ok_iff.mp hsource
    cases hmake
    exact ⟨hdsn, husername, hpassword, hcharset, htimeout, hpersistent, hoptions, hcache⟩
  · intro h
    rw [readFields, h.dsn, h.username, h.password, h.charset, h.timeout, h.persistent, h.options,
      h.cacheSize]
    rfl

/-- Settings that were accepted are valid. -/
theorem ReadFrom.valid (h : s.ReadFrom fields) : s.Valid := by
  obtain ⟨v, -, hv⟩ := requiredEntry_eq_ok h.dsn
  obtain ⟨text, hdsn, hne⟩ := readDsn_eq_ok hv
  have hletters : s.dsn.toList = trim text.toList := by
    rw [hdsn, strip, String.toList_ofList]
  have hhead := trim_head text.toList
  have hlast := trim_last text.toList
  have hempty : NamedOnce ([] : List (String × Value)) := List.nodup_nil
  rw [← hletters] at hhead hlast
  exact {
    dsn_ne := hdsn ▸ hne
    dsn_head := hhead
    dsn_last := hlast
    timeout_nonneg :=
      optionalEntry_keeps (P := (0 ≤ ·)) (by decide) (fun _ _ => readTimeout_nonneg) h.timeout
    options_once :=
      optionalEntry_keeps (P := NamedOnce) hempty (fun _ _ => readMapping_namedOnce) h.options
    cacheSize_nonneg :=
      optionalEntry_keeps (P := (0 ≤ ·)) (by decide) (fun _ _ => readNatural_nonneg) h.cacheSize }

/-- Valid settings are read from their own fields. -/
theorem Valid.readFrom_fields (h : s.Valid) : s.ReadFrom s.fields := by
  have htext : ∀ t, readText (.text t) = .ok t := fun _ => rfl
  have htruth : ∀ b, readTruth (.bool b) = .ok b := fun _ => rfl
  have hstrip : strip s.dsn = s.dsn := by
    rw [strip, trim_of_ends h.dsn_head h.dsn_last, String.ofList_toList]
  have hdsn : readDsn (.text s.dsn) = .ok s.dsn := by
    rw [readDsn, htext, ok_bind, hstrip, if_neg h.dsn_ne]
  have htimeout : readTimeout (.int s.timeout) = .ok s.timeout :=
    congrArg Except.ok (Int.max_eq_right h.timeout_nonneg)
  have hcache : readNatural (.int s.cacheSize) = .ok s.cacheSize :=
    if_neg (Int.not_lt.mpr h.cacheSize_nonneg)
  have hoptions := readMapping_named h.options_once
  exact {
    dsn := requiredEntry_of_named (by simp [fields, Fields.named?]) hdsn
    username := optionalEntry_of_named (by simp [fields, Fields.named?]) (htext s.username)
    password := optionalEntry_of_named (by simp [fields, Fields.named?]) (htext s.password)
    charset := optionalEntry_of_named (by simp [fields, Fields.named?]) (htext s.charset)
    timeout := optionalEntry_of_named (by simp [fields, Fields.named?]) htimeout
    persistent := optionalEntry_of_named (by simp [fields, Fields.named?]) (htruth s.persistent)
    options := optionalEntry_of_named (by simp [fields, Fields.named?]) hoptions
    cacheSize := optionalEntry_of_named (by simp [fields, Fields.named?]) hcache }

/-- A mapping of settings is accepted or refused. Settings that were accepted are valid, and their
own fields are read to the same settings; a refusal blames entries that were looked up. -/
theorem read_again_or_refused (fields : Fields) :
    (∃ s, read fields = .ok s ∧ s.Valid ∧ read s.fields = .ok s) ∨
      ∃ issues, read fields = .error (.configuration (.invalidConnection issues)) ∧
        Blaming entryNames issues := by
  cases h : readFields fields with
  | ok s =>
    have hvalid := (readFields_eq_ok_iff.mp h).valid
    have hagain := readFields_eq_ok_iff.mpr hvalid.readFrom_fields
    refine .inl ⟨s, ?_, hvalid, ?_⟩
    · rw [read, h]
    · rw [read, hagain]
  | error issues =>
    have hblames := readFields_blames fields
    rw [h] at hblames
    exact .inr ⟨issues, by rw [read, h], hblames⟩

/-- Entries under short names, with blanks, a word for a truth value and a limit below zero. -/
theorem read_again_or_refused_short :
    let given : Fields :=
      [(.text "pass", .text "s3cret"), (.text "timeout", .text " -3 "), (.text "user", .text "app"),
        (.text "dsn", .text "\t sqlite:///app.db \n"), (.int 1, .null),
        (.text "options", .ofNamed [("ssl", .ofNamed [("verify", .bool true)]), ("tries", .int 3)]),
        (.text "persistent", .text "Yes"), (.text "statement_cache_size", .float (Double.ofInt 64))]
    let s : ConnectionSettings :=
      ⟨"sqlite:///app.db", "app", "s3cret", "utf8mb4", 0, true,
        [("ssl", .ofNamed [("verify", .bool true)]), ("tries", .int 3)], 64⟩
    read given = .ok s ∧ s.Valid ∧ read s.fields = .ok s := by
  intro given s
  have hread : read given = .ok s := eq_ok_of_toOption (by decide +kernel)
  rcases read_again_or_refused given with ⟨accepted, haccepted, hagain⟩ | ⟨issues, hrefused, -⟩
  · obtain rfl : s = accepted := Except.ok.inj (hread.symm.trans haccepted)
    exact ⟨hread, hagain⟩
  · cases hread.symm.trans hrefused

end ConnectionSettings

end BoundSql
