import BoundSql.Proofs.Results
import BoundSql.Session.Builder
import Mathlib.Data.List.Nodup

/-!
# Settings that can be used

What was loaded can be used: every connection of the settings is kept under its name, and the
builder is on the default connection, whose settings are found. Three places have a say in names.
Loading refuses blank ones and settles the default, and keeping takes away the blanks around a name.
So names must not differ in these blanks only, and the default must have none.
-/

namespace BoundSql

open Text

variable {α β : Type}

/-! ## Named entries -/

/-- No name stands twice. -/
def NamedOnce (entries : List (String × α)) : Prop := (entries.map Prod.fst).Nodup

/-- No two names differ in nothing but the blanks around them. -/
def NamedApart (entries : List (String × α)) : Prop :=
  ∀ e ∈ entries, ∀ f ∈ entries, strip e.1 = strip f.1 → e.1 = f.1

/-- The names after one was set: the same, or with the new one at the end. -/
theorem keys_putNamed (name : String) (value : α) (entries : List (String × α)) :
    (putNamed name value entries).map Prod.fst =
      if name ∈ entries.map Prod.fst then entries.map Prod.fst
      else entries.map Prod.fst ++ [name] := by
  induction entries with
  | nil => rfl
  | cons entry rest ih =>
    by_cases hkey : entry.1 = name
    · rw [putNamed, if_pos hkey, List.map_cons, List.map_cons, hkey, if_pos List.mem_cons_self]
    · rw [putNamed, if_neg hkey, List.map_cons, List.map_cons, ih]
      have hmem : name ∈ entry.1 :: rest.map Prod.fst ↔ name ∈ rest.map Prod.fst := by
        rw [List.mem_cons, or_iff_right (Ne.symm hkey)]
      by_cases hrest : name ∈ rest.map Prod.fst
      · rw [if_pos hrest, if_pos (hmem.mpr hrest)]
      · rw [if_neg hrest, if_neg (mt hmem.mp hrest), List.cons_append]

/-- Setting a name leaves every name once. -/
theorem NamedOnce.putNamed {entries : List (String × α)} (h : NamedOnce entries) (name : String)
    (value : α) : NamedOnce (putNamed name value entries) := by
  unfold NamedOnce at h ⊢
  rw [keys_putNamed]
  split
  next => exact h
  next hfresh =>
    refine List.nodup_append.mpr ⟨h, List.nodup_singleton name, fun key hkey other hother => ?_⟩
    rw [List.mem_singleton.mp hother]
    rintro rfl
    exact hfresh hkey

/-- So does setting names one after another. -/
theorem NamedOnce.foldl_putNamed {named : List (String × α)} (h : NamedOnce named)
    (entries : List (String × α)) :
    NamedOnce (entries.foldl (fun named e => BoundSql.putNamed e.1 e.2 named) named) := by
  induction entries generalizing named with
  | nil => exact h
  | cons entry rest ih => exact ih (h.putNamed entry.1 entry.2)

/-- Names that stand once are kept in their order when they are set one after another. -/
theorem foldl_putNamed_eq (named entries : List (String × α)) (h : NamedOnce (named ++ entries)) :
    entries.foldl (fun named e => putNamed e.1 e.2 named) named = named ++ entries := by
  induction entries generalizing named with
  | nil => rw [List.foldl_nil, List.append_nil]
  | cons entry rest ih =>
    have hfresh : named.lookup entry.1 = none := by
      refine List.lookup_eq_none_iff.mpr fun other hother => ?_
      rw [NamedOnce, List.map_append] at h
      have hne := (List.nodup_append.mp h).2.2 other.1 (List.mem_map_of_mem hother) entry.1
        List.mem_cons_self
      simpa using Ne.symm hne
    rw [List.foldl_cons, putNamed_of_lookup_none hfresh, ih, List.append_assoc,
      List.singleton_append]
    rw [List.append_assoc, List.singleton_append]
    exact h

/-- The entries without the blanks around their names. -/
def stripNames (entries : List (String × α)) : List (String × α) :=
  entries.map fun e => (strip e.1, e.2)

/-- Names that stand once and apart stand once without the blanks around them. -/
theorem NamedOnce.stripNames {entries : List (String × α)} (h : NamedOnce entries)
    (hapart : NamedApart entries) : NamedOnce (stripNames entries) := by
  have hkeys : (BoundSql.stripNames entries).map Prod.fst = (entries.map Prod.fst).map strip := by
    rw [BoundSql.stripNames, List.map_map, List.map_map]
    rfl
  rw [NamedOnce, hkeys]
  refine h.map_on fun name hname other hother hstrip => ?_
  obtain ⟨e, he, rfl⟩ := List.mem_map.mp hname
  obtain ⟨f, hf, rfl⟩ := List.mem_map.mp hother
  exact hapart e he f hf hstrip

/-- A name that has no blanks around it has the same value then. -/
theorem lookup_stripNames {entries : List (String × α)} {name : String} {value : α}
    (hapart : NamedApart entries) (hname : strip name = name)
    (h : entries.lookup name = some value) : (stripNames entries).lookup name = some value := by
  obtain ⟨before, after, rfl, hbefore⟩ := List.lookup_eq_some_iff.mp h
  refine List.lookup_eq_some_iff.mpr ⟨stripNames before, stripNames after, ?_, fun f hf => ?_⟩
  · rw [stripNames, List.map_append, List.map_cons, hname]
    rfl
  · obtain ⟨e, he, rfl⟩ := List.mem_map.mp hf
    have hother : name ≠ e.1 := by simpa using hbefore e he
    have hne : name ≠ strip e.1 := by
      intro heq
      refine hother (hapart (name, value) ?_ e (List.mem_append_left _ he) (hname.trans heq))
      exact List.mem_append_right _ List.mem_cons_self
    simpa using hne

/-! ## Checked entries -/

namespace Checked

/-- A checked function was applied when it and its argument have no issues. -/
theorem apply_eq_ok_iff {f : Checked (α → β)} {a : Checked α} {b : β} :
    f.apply a = .ok b ↔ ∃ g x, f = .ok g ∧ a = .ok x ∧ g x = b := by
  constructor
  · intro h
    cases f with
    | error issues => cases a <;> cases h
    | ok g =>
      cases a with
      | error issues => cases h
      | ok x => exact ⟨g, x, rfl, rfl, Except.ok.inj h⟩
  · rintro ⟨g, x, rfl, rfl, rfl⟩
    rfl

/-- A result further out is the same result. -/
theorem under_eq_ok_iff {key : Value} {checked : Checked α} {a : α} :
    checked.under key = .ok a ↔ checked = .ok a := by
  cases checked with
  | ok x => exact Iff.rfl
  | error issues => exact ⟨nofun, nofun⟩

end Checked

/-- An entry that must be there was there, and was read. -/
theorem requiredEntry_eq_ok {fields : Fields} {name : String} {read : Value → Checked α} {a : α}
    (h : requiredEntry fields name read = .ok a) :
    ∃ v, fields.named? name = some v ∧ read v = .ok a := by
  unfold requiredEntry at h
  split at h
  next v hv => exact ⟨v, hv, Checked.under_eq_ok_iff.mp h⟩
  next => cases Checked.under_eq_ok_iff.mp h

/-- A mapping that was read has every name once. -/
theorem readMapping_namedOnce {read : Value → Checked α} {v : Value}
    {entries : List (String × α)} (h : readMapping read v = .ok entries) : NamedOnce entries := by
  cases v with
  | mapping fields =>
    obtain ⟨all, -, rfl⟩ := map_eq_ok_iff.mp h
    have hempty : NamedOnce ([] : List (String × α)) := List.nodup_nil
    exact hempty.foldl_putNamed all
  | _ => cases h

namespace Settings

/-- Connections that were read have every name once and none of them blank. -/
theorem readConnections_eq_ok {v : Value} {entries : List (String × ConnectionSettings)}
    (h : readConnections v = .ok entries) :
    NamedOnce entries ∧ ∀ e ∈ entries, strip e.1 ≠ "" := by
  obtain ⟨connections, hconnections, h⟩ := bind_eq_ok_iff.mp h
  split at h
  next => cases h
  next hblank =>
    cases h
    refine ⟨readMapping_namedOnce hconnections, fun e he hname => hblank ?_⟩
    exact List.any_eq_true.mpr ⟨e, he, decide_eq_true hname⟩

/-- The default is settled on a connection that is there. -/
def DefaultThere (s : Settings) : Prop :=
  ∃ name settings, s.defaultConnection = some name ∧ s.connections.lookup name = some settings

/-- Settling the default leaves the connections, and it is there if there are any. -/
theorem settleDefault_eq_ok {s t : Settings} (h : settleDefault s = .ok t) :
    t.connections = s.connections ∧ (t.connections ≠ [] → t.DefaultThere) := by
  unfold settleDefault at h
  split at h
  next name hchosen =>
    split at h
    next hthere =>
      cases h
      refine ⟨rfl, fun _ => ?_⟩
      have hdefault : s.defaultConnection = some name := by
        cases hgiven : s.defaultConnection with
        | none =>
          rw [hgiven] at hchosen
          cases hchosen
        | some given =>
          rw [hgiven, chosen?] at hchosen
          split at hchosen
          · cases hchosen
          · exact hchosen
      obtain ⟨e, he, hname⟩ := List.any_eq_true.mp hthere
      cases hfound : s.connections.lookup name with
      | some settings => exact ⟨name, settings, hdefault, hfound⟩
      | none =>
        have hother := List.lookup_eq_none_iff.mp hfound e he
        rw [of_decide_eq_true hname] at hother
        simp at hother
    next => cases h
  next =>
    split at h
    next first rest hconnections =>
      cases h
      refine ⟨rfl, fun _ => ⟨first.1, first.2, rfl, ?_⟩⟩
      show s.connections.lookup first.1 = some first.2
      rw [hconnections, lookup_cons_eq, if_pos rfl]
    next hconnections =>
      cases h
      exact ⟨rfl, fun hsome => absurd hconnections hsome⟩

/-- What is known of settings that were loaded: no name stands twice, none is blank, and the default
is there if there are connections. -/
structure Loaded (s : Settings) : Prop where
  /-- No name stands twice. -/
  once : NamedOnce s.connections
  /-- No name is blank. -/
  named : ∀ e ∈ s.connections, strip e.1 ≠ ""
  /-- The default is there. -/
  default : s.connections ≠ [] → s.DefaultThere

theorem loaded_of_check {fields : Fields} {s : Settings} (h : check fields = .ok s) :
    s.Loaded := by
  obtain ⟨read, hread, hsettle⟩ := bind_eq_ok_iff.mp h
  obtain ⟨withLimit, mode, hlimit, -, rfl⟩ := Checked.apply_eq_ok_iff.mp hread
  obtain ⟨withDebug, limit, hdebug, -, rfl⟩ := Checked.apply_eq_ok_iff.mp hlimit
  obtain ⟨withDefault, debug, hdefault, -, rfl⟩ := Checked.apply_eq_ok_iff.mp hdebug
  obtain ⟨withConnections, name, hgiven, -, rfl⟩ := Checked.apply_eq_ok_iff.mp hdefault
  obtain ⟨_, connections, hmake, hconnections, rfl⟩ := Checked.apply_eq_ok_iff.mp hgiven
  cases hmake
  obtain ⟨v, -, hv⟩ := requiredEntry_eq_ok hconnections
  obtain ⟨honce, hnamed⟩ := readConnections_eq_ok hv
  obtain ⟨hsame, hdefault⟩ := settleDefault_eq_ok hsettle
  exact ⟨hsame ▸ honce, hsame ▸ hnamed, hdefault⟩

theorem loaded_of_load {env : Environment} {v : Value} {s : Settings} (h : load env v = .ok s) :
    s.Loaded := by
  cases v with
  | mapping fields =>
    obtain ⟨expanded, -, h⟩ := bind_eq_ok_iff.mp h
    split at h
    next settings hcheck =>
      cases h
      exact loaded_of_check hcheck
    next => cases h
  | _ => cases h

end Settings

/-- Settings with names that are not blank are all kept, without the blanks around the names. -/
theorem Connections.ofSettings_eq {entries : List (String × ConnectionSettings)}
    (h : ∀ e ∈ entries, strip e.1 ≠ "") :
    ofSettings entries = .ok
      { settings := (stripNames entries).foldl (fun named e => putNamed e.1 e.2 named) [] } := by
  have hfrom : ∀ c : Connections,
      entries.foldlM (fun c entry => c.add entry.1 entry.2) c = (.ok
        { c with settings :=
            (stripNames entries).foldl (fun named e => putNamed e.1 e.2 named) c.settings } :
        Except Error Connections) := by
    induction entries with
    | nil => exact fun c => rfl
    | cons entry rest ih =>
      intro c
      have hadd : c.add entry.1 entry.2 =
          .ok { c with settings := putNamed (strip entry.1) entry.2 c.settings } :=
        if_neg (h entry List.mem_cons_self)
      rw [List.foldlM_cons, hadd, ok_bind]
      exact ih (fun e he => h e (List.mem_cons_of_mem _ he)) _
  exact hfrom {}

/-- Settings that were loaded can be used: every connection is kept under its name, none of them is
lost, and the builder is on the default connection, whose settings are found. -/
theorem Settings.load_usable {env : Environment} {v : Value} {s : Settings}
    (hload : load env v = .ok s) (hsome : s.connections ≠ []) (hapart : NamedApart s.connections)
    (hdefault : ∀ name, s.defaultConnection = some name → strip name = name) :
    ∃ c name settings, Connections.ofSettings s.connections = .ok c ∧
      c.settings = stripNames s.connections ∧ c.names.Nodup ∧
      (Builder.ofSettings s).connection = some name ∧ name ∈ c.names ∧
      s.connections.lookup name = some settings ∧
      (c.chosenName (Builder.ofSettings s).connection >>= c.getSettings) = .ok settings := by
  have hloaded := loaded_of_load hload
  have honce := hloaded.once.stripNames hapart
  obtain ⟨name, settings, hname, hsettings⟩ := hloaded.default hsome
  have hkept := foldl_putNamed_eq [] (stripNames s.connections) honce
  have hfound := lookup_stripNames hapart (hdefault name hname) hsettings
  have hconnection : (Builder.ofSettings s).connection = some name := hname
  let c : Connections := { settings := stripNames s.connections }
  refine ⟨c, name, settings, ?_, rfl, honce, hconnection, ?_, hsettings, ?_⟩
  · rw [Connections.ofSettings_eq hloaded.named, hkept]
    rfl
  · obtain ⟨before, after, hsplit, -⟩ := List.lookup_eq_some_iff.mp hfound
    show name ∈ (stripNames s.connections).map Prod.fst
    rw [hsplit, List.map_append]
    exact List.mem_append_right _ List.mem_cons_self
  · rw [hconnection]
    show c.getSettings name = .ok settings
    rw [Connections.getSettings, hfound]

deriving instance DecidableEq for Settings

/-- The default comes from the environment here, and blanks around another name do no harm. -/
theorem Settings.load_usable_replica :
    let v := Value.ofNamed
      [("connections", .ofNamed [(" replica", .ofNamed [("dsn", .text "sqlite:///r")]),
        ("main", .ofNamed [("dsn", .text "sqlite://")])]),
        ("default_connection", .text "$\x7bDB\x7d")]
    let replica : ConnectionSettings := ⟨"sqlite:///r", "", "", "utf8mb4", 5, false, [], 128⟩
    let main : ConnectionSettings := ⟨"sqlite://", "", "", "utf8mb4", 5, false, [], 128⟩
    let s : Settings :=
      ⟨[(" replica", replica), ("main", main)], some "main", false, 200, .raise⟩
    load [("DB", "main")] v = .ok s ∧ s.connections ≠ [] ∧ NamedApart s.connections ∧
      (∀ name, s.defaultConnection = some name → strip name = name) ∧
      ∃ c, Connections.ofSettings s.connections = .ok c ∧
        c.settings = [("replica", replica), ("main", main)] ∧
        (c.chosenName (Builder.ofSettings s).connection >>= c.getSettings) = .ok main := by
  intro v replica main s
  have hload : load [("DB", "main")] v = .ok s := eq_ok_of_toOption (by decide +kernel)
  have hsome : s.connections ≠ [] := List.cons_ne_nil _ _
  have hapart : NamedApart s.connections := by
    show ∀ e ∈ s.connections, ∀ f ∈ s.connections, strip e.1 = strip f.1 → e.1 = f.1
    decide +kernel
  have hdefault : ∀ name, s.defaultConnection = some name → strip name = name := by
    rintro name ⟨⟩
    decide +kernel
  have hstripped : stripNames s.connections = [("replica", replica), ("main", main)] := by
    decide +kernel
  obtain ⟨c, name, settings, hc, hkept, -, hname, -, hsettings, hfound⟩ :=
    Settings.load_usable hload hsome hapart hdefault
  obtain rfl : "main" = name := Option.some.inj hname
  obtain rfl : main = settings := by
    have hmain : s.connections.lookup "main" = some main := by decide +kernel
    exact Option.some.inj (hmain.symm.trans hsettings)
  exact ⟨hload, hsome, hapart, hdefault, c, hc, hkept.trans hstripped, hfound⟩

/-- Settings without connections are loaded, and the builder has no connection then. -/
theorem Settings.load_without_connections :
    let v := Value.ofNamed [("connections", .ofNamed [])]
    let s : Settings := ⟨[], none, false, 200, .raise⟩
    let c : Connections := {}
    load [] v = .ok s ∧ Connections.ofSettings s.connections = .ok c ∧
      (c.chosenName (Builder.ofSettings s).connection >>= c.getSettings) =
        .error (.configuration (.unknownConnection none [])) := by
  intro v s c
  exact ⟨eq_ok_of_toOption (by decide +kernel), rfl, rfl⟩

end BoundSql
