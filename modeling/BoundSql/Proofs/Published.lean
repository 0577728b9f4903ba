import BoundSql.Proofs.Notes
import BoundSql.Proofs.Redaction

/-!
# Where settings are shown

A session shows settings in three places: to the hook behind an opened connection, in the error of a
connection that could not be opened, and in its status. It shows their public view and nothing else.
So two sessions whose settings differ in secrets show the same, whatever their databases do with the
passwords, as long as their data source names are refused alike.
-/

namespace BoundSql

open Text

variable {σ τ α β : Type}

/-! ## What is shown -/

/-- What an error shows of settings. -/
def Error.shown? : Error → Option PublicSettings
  | .connectFailed _ shown _ => some shown
  | .charsetFailed _ shown _ => some shown
  | .configuration (.invalidDsn shown) => shown
  | _ => none

/-- What a note shows of settings: what the hook behind an opened connection is told. -/
def Note.shown? : Note → Option PublicSettings
  | .called (.onConnect _ shown _) _ => some shown
  | _ => none

/-- The hook behind opened connections and lines that are closed fail with errors of their own, which
show no settings. -/
structure Surroundings.Reticent (around : Surroundings σ) : Prop where
  /-- Closing a line does. -/
  close : ∀ handle s e, (around.driver.close handle s).1 = .error e → e.shown? = none
  /-- So does the hook. -/
  greet : ∀ name shown driver s e,
    (around.hooks.call (.onConnect name shown driver) s).1 = .error e → e.shown? = none

/-- All that asking for the connection of a name shows of settings. -/
def Session.shownBy (around : Surroundings σ) (name : String) (s : Session σ) :
    List PublicSettings :=
  let ended := connection around.noting name s.unnoted
  ended.2.notes.filterMap Note.shown? ++
    match ended.1 with
    | .ok _ => []
    | .error e => e.shown?.toList

/-- An error shows one view at most. -/
def Error.ShowsOnly (view : Except Error PublicSettings) (e : Error) : Prop :=
  ∀ shown, e.shown? = some shown → view = .ok shown

theorem Error.ShowsOnly.of_none {view : Except Error PublicSettings} {e : Error}
    (h : e.shown? = none) : e.ShowsOnly view := by
  intro shown hshown
  rw [h] at hshown
  cases hshown

/-- What takes the place of a view shows nothing. -/
theorem ConnectionSettings.publicView_error {settings : ConnectionSettings} {e : Error}
    (h : settings.publicView = .error e) : e.shown? = none := by
  rcases bind_eq_error_iff.mp h with hredact | ⟨text, -, hrest⟩
  · obtain ⟨fault, rfl⟩ := Dsn.redact_error hredact
    rfl
  · cases hrest

/-- Settings for which there is no adapter are refused with their view or without one. -/
theorem AdapterRegistry.choose_error {registry : AdapterRegistry} {settings : ConnectionSettings}
    {e : Error} (h : registry.choose settings = .error e) : e.ShowsOnly settings.publicView := by
  unfold choose at h
  split at h
  next => cases h
  next =>
    rcases bind_eq_error_iff.mp h with hview | ⟨view, hview, hrest⟩
    · exact .of_none (ConnectionSettings.publicView_error hview)
    · cases hrest
      intro shown hshown
      cases hshown
      exact hview
  next error hnone hread =>
    cases h
    obtain ⟨fault, rfl⟩ := (Url.readChars_error hread).resolve_left fun hunparsable =>
      hnone hunparsable.2
    exact .of_none rfl

/-! ## Opening a connection -/

namespace Session

/-- Notes show one view at most. -/
def Showing (view : Except Error PublicSettings) (s : Session (σ × List Note)) : Prop :=
  ∀ note ∈ s.notes, ∀ shown, note.shown? = some shown → view = .ok shown

/-- Notes show one view at most, and so does an error. -/
def Shown (view : Except Error PublicSettings) (P : α → Prop) :
    Except Error α → Session (σ × List Note) → Prop :=
  Act.Split (fun a s => P a ∧ Showing view s) fun e s => e.ShowsOnly view ∧ Showing view s

variable {view : Except Error PublicSettings}

/-- A chain shows what its steps show. -/
theorem bind_shown {P : α → Prop} {Q : β → Prop} {I : Session (σ × List Note) → Prop}
    {act : Act (Session (σ × List Note)) α} {next : α → Act (Session (σ × List Note)) β}
    (h : Act.Ends I act (Shown view P))
    (hnext : ∀ a, P a → Act.Ends (Showing view) (next a) (Shown view Q)) :
    Act.Ends I (act >>= next) (Shown view Q) := by
  refine Act.Ends.bind h (fun a s hs => ?_) fun e s hs => hs
  exact hnext a hs.1 s hs.2

/-- A result shows what its error shows. -/
theorem ofExcept_shown {result : Except Error α}
    (h : ∀ e, result = .error e → e.ShowsOnly view) :
    Act.Ends (Showing view : Session (σ × List Note) → Prop) (Act.ofExcept result)
      (Shown view fun a => result = .ok a) := by
  intro s hs
  rw [Act.ofExcept_apply]
  cases result with
  | ok a => exact ⟨rfl, hs⟩
  | error e => exact ⟨h e rfl, hs⟩

theorem pure_shown (a : α) :
    Act.Ends (Showing view : Session (σ × List Note) → Prop) (pure a)
      (Shown view fun _ => True) := fun _ hs => ⟨trivial, hs⟩

/-- An error that shows nothing may end everything. -/
theorem throw_shown {e : Error} (h : e.ShowsOnly view) {P : α → Prop} :
    Act.Ends (Showing view : Session (σ × List Note) → Prop)
      (throw e : Act (Session (σ × List Note)) α) (Shown view P) := fun _ hs => ⟨h, hs⟩

/-- What is done outside and is not written down shows what its error shows. -/
theorem quietly_shown {act : Act σ α} (h : ∀ s e, (act s).1 = .error e → e.ShowsOnly view) :
    Act.Ends (Showing view) (onOutside act.quietly) (Shown view fun _ => True) := by
  intro s hs
  have hended : (onOutside act.quietly s).1 = (act s.outside.1).1 := rfl
  have hkept : Showing view (onOutside act.quietly s).2 := hs
  cases hresult : (onOutside act.quietly s).1 with
  | ok a => exact ⟨trivial, hkept⟩
  | error e => exact ⟨h _ e (hended ▸ hresult), hkept⟩

/-- Looking outside shows nothing. -/
theorem look_shown (f : σ × List Note → α) :
    Act.Ends (Showing view) (onOutside (Act.look f)) (Shown view fun _ => True) :=
  fun _ hs => ⟨trivial, hs⟩

/-- Nor does what becomes of the connections. -/
theorem update_shown (f : Connections → Connections) :
    Act.Ends (Showing view : Session (σ × List Note) → Prop) (update f)
      (Shown view fun _ => True) :=
  fun _ hs => ⟨trivial, hs⟩

/-- Of a failure that is looked at nothing is shown. -/
theorem attempt_quietly_shown (act : Act σ α) :
    Act.Ends (Showing view) (Act.attempt (onOutside act.quietly)) (Shown view fun _ => True) :=
  fun _ hs => ⟨trivial, hs⟩

variable {around : Surroundings σ} {settings : ConnectionSettings} {name : String}

/-- The view of settings is shown by whoever asks for it. -/
theorem publicView_shown (settings : ConnectionSettings) :
    Act.Ends (Showing settings.publicView : Session (σ × List Note) → Prop)
      (Act.ofExcept settings.publicView)
      (Shown settings.publicView fun shown => settings.publicView = .ok shown) :=
  ofExcept_shown fun _ he => .of_none (ConnectionSettings.publicView_error he)

/-- The settings of a name are found where they are known. -/
theorem getSettings_shown :
    Act.Ends (fun s : Session (σ × List Note) =>
        s.connections.getSettings name = .ok settings ∧ Showing view s)
      (getSettings name) (Shown view fun found => found = settings) := by
  rintro s ⟨hsettings, hs⟩
  show Shown _ _ (s.connections.getSettings name) s
  rw [hsettings]
  exact ⟨rfl, hs⟩

/-- Choosing the character set shows the view if it fails. -/
theorem chooseCharset_shown (h : around.Reticent) (handle : Handle) (dialect : Dialect) :
    Act.Ends (Showing settings.publicView)
      (chooseCharset around.noting name handle dialect settings)
      (Shown settings.publicView fun _ => True) := by
  have hclose : Act.Ends (Showing settings.publicView)
      (onOutside (around.noting.driver.close handle)) (Shown settings.publicView fun _ => True) :=
    quietly_shown fun s e he => .of_none (h.close handle s e he)
  unfold chooseCharset
  split
  next =>
    split
    next =>
      refine bind_shown (attempt_quietly_shown _) fun ended _ => ?_
      cases ended with
      | ok _ => exact pure_shown ()
      | error e =>
        refine bind_shown hclose fun _ _ => ?_
        refine bind_shown (publicView_shown settings) fun shown hshown => throw_shown ?_
        rintro _ ⟨⟩
        exact hshown
    next => exact bind_shown hclose fun _ _ => throw_shown (.of_none rfl)
  next => exact pure_shown ()

/-- The hook behind an opened connection is shown the view that it is told. -/
theorem notify_shown (h : around.Reticent) {shown : PublicSettings} (hview : view = .ok shown)
    (driver : String) :
    Act.Ends (Showing view)
      (onOutside (around.noting.hooks.notify (.onConnect name shown driver)))
      (Shown view fun _ => True) := by
  unfold Hooks.notify
  split
  next =>
    rw [onOutside_bind]
    refine bind_shown (P := fun _ => True) (fun s hs => ?_) fun _ _ => pure_shown ()
    let call := HookCall.onConnect name shown driver
    let told := onOutside (around.noting.hooks.call call) s
    have hnotes : told.2.notes = s.notes ++ [.called call told.1] := rfl
    have hshowing : Showing view told.2 := by
      intro note hnote other hother
      rw [hnotes] at hnote
      rcases List.mem_append.mp hnote with hnote | hnote
      · exact hs note hnote other hother
      · rw [List.mem_singleton.mp hnote] at hother
        cases hother
        exact hview
    show Shown view _ told.1 told.2
    cases hended : told.1 with
    | ok answer => exact ⟨trivial, hshowing⟩
    | error e => exact ⟨.of_none (h.greet name shown driver _ e hended), hshowing⟩
  next => exact pure_shown ()

/-- Opening a connection shows the view of its settings and nothing else. -/
theorem openConnection_shown (h : around.Reticent) :
    Act.Ends (fun s => s.connections.getSettings name = .ok settings ∧
        Showing settings.publicView s)
      (openConnection around.noting name) (Shown settings.publicView fun _ => True) := by
  unfold openConnection
  refine bind_shown getSettings_shown fun found hfound => ?_
  subst hfound
  refine bind_shown (ofExcept_shown fun e he => AdapterRegistry.choose_error he) fun kind _ => ?_
  refine bind_shown (attempt_quietly_shown _) fun ended _ => ?_
  cases ended with
  | error e =>
    refine bind_shown (publicView_shown found) fun shown hshown => throw_shown ?_
    rintro _ ⟨⟩
    exact hshown
  | ok handle =>
    refine bind_shown (look_shown _) fun driverName _ => ?_
    generalize Dialect.ofDriver driverName = dialect
    refine bind_shown (chooseCharset_shown h handle dialect) fun _ _ => ?_
    refine bind_shown (update_shown _) fun _ _ => ?_
    refine bind_shown (publicView_shown found) fun shown hshown => ?_
    exact bind_shown (notify_shown h hshown _) fun _ _ => pure_shown _

/-- Whatever asking for a connection shows is the view of its settings. -/
theorem publicView_of_mem_shownBy (h : around.Reticent) {s : Session σ} {shown : PublicSettings}
    (hshown : shown ∈ shownBy around name s) :
    ∃ settings, s.connections.getSettings name = .ok settings ∧
      settings.publicView = .ok shown := by
  have hfresh : ∀ view, Showing view s.unnoted := fun _ => nofun
  have hof : ∀ view, Shown view (fun _ => True) (connection around.noting name s.unnoted).1
      (connection around.noting name s.unnoted).2 → view = .ok shown := by
    intro view hview
    unfold shownBy at hshown
    generalize connection around.noting name s.unnoted = ended at hview hshown
    obtain ⟨result, t⟩ := ended
    rcases List.mem_append.mp hshown with hnoted | herror
    · obtain ⟨note, hnote, htold⟩ := List.mem_filterMap.mp hnoted
      cases result with
      | ok opened => exact hview.2 note hnote shown htold
      | error e => exact hview.2 note hnote shown htold
    · cases result with
      | ok opened => cases herror
      | error e => exact hview.1 shown (Option.mem_toList.mp herror)
  cases hopened : s.connections.opened.lookup name with
  | some opened =>
    have hfound := connection_of_lookup around.noting (s := s.unnoted) hopened
    have hnone := hof (.error (.unparsableUrl)) (by rw [hfound]; exact ⟨trivial, hfresh _⟩)
    cases hnone
  | none =>
    have hopens := connection_of_lookup_none around.noting (s := s.unnoted) hopened
    cases hsettings : s.connections.getSettings name with
    | ok settings =>
      refine ⟨settings, rfl, hof _ ?_⟩
      rw [hopens]
      exact openConnection_shown h s.unnoted ⟨hsettings, hfresh _⟩
    | error e =>
      have hrefused : openConnection around.noting name s.unnoted = (.error e, s.unnoted) :=
        Act.bind_of_error (congrArg (·, s.unnoted) hsettings)
      have hunknown : e.shown? = none := by
        unfold Connections.getSettings at hsettings
        split at hsettings
        next => cases hsettings
        next => exact Except.error.inj hsettings ▸ rfl
      have hnone := hof (.error e) (by rw [hopens, hrefused]; exact ⟨.of_none hunknown, hfresh _⟩)
      cases hnone

end Session

/-! ## Sessions that differ in secrets -/

/-- Entries with the same names hold related values under each of them. -/
theorem lookup_rel {R : α → β → Prop} {entries : List (String × α)} {others : List (String × β)}
    (h : List.Forall₂ (fun e f => f.1 = e.1 ∧ R e.2 f.2) entries others) (name : String) :
    Option.Rel R (entries.lookup name) (others.lookup name) := by
  induction h with
  | nil => exact .none
  | @cons e f entries others hentry _ ih =>
    obtain ⟨_, a⟩ := e
    obtain ⟨key, b⟩ := f
    obtain ⟨rfl, hab⟩ := hentry
    rw [lookup_cons_eq, lookup_cons_eq]
    split
    next => exact .some hab
    next => exact ih

/-- What is found under each name holds of the entries, if each name stands once. -/
theorem forall₂_of_lookup {R P : α → β → Prop} {entries : List (String × α)}
    {others : List (String × β)}
    (h : List.Forall₂ (fun e f => f.1 = e.1 ∧ R e.2 f.2) entries others)
    (hnodup : (entries.map Prod.fst).Nodup)
    (hfound : ∀ name a b, entries.lookup name = some a → others.lookup name = some b → P a b) :
    List.Forall₂ (fun e f => f.1 = e.1 ∧ R e.2 f.2 ∧ P e.2 f.2) entries others := by
  induction h with
  | nil => exact .nil
  | @cons e f entries others hentry _ ih =>
    obtain ⟨_, a⟩ := e
    obtain ⟨key, b⟩ := f
    obtain ⟨rfl, hab⟩ := hentry
    obtain ⟨hfresh, hrest⟩ := List.nodup_cons.mp hnodup
    refine .cons ⟨rfl, hab, ?_⟩ (ih hrest fun name a' b' ha' hb' => ?_)
    · refine hfound key a b ?_ ?_ <;> rw [lookup_cons_eq, if_pos rfl]
    · have hname : name ≠ key := by
        rintro rfl
        obtain ⟨before, after, rfl, -⟩ := List.lookup_eq_some_iff.mp ha'
        exact hfresh (by simp)
      refine hfound name a' b' ?_ ?_
      · rw [lookup_cons_eq, if_neg hname, ha']
      · rw [lookup_cons_eq, if_neg hname, hb']

/-- Two states of connections differ in nothing but secrets. -/
structure Connections.SameButSecret (c d : Connections) : Prop where
  /-- The settings of each name differ in nothing but secrets. -/
  settings : List.Forall₂ (fun e f => f.1 = e.1 ∧ e.2.SameButSecret f.2) c.settings d.settings
  /-- Each name has settings once. -/
  named : c.names.Nodup
  /-- What is open is the same. -/
  opened : d.opened = c.opened
  /-- So are the depths. -/
  depths : d.depths = c.depths

/-- The data source names under each name are refused alike. -/
def Connections.RefusedAlike (c d : Connections) : Prop :=
  ∀ name a b, c.getSettings name = .ok a → d.getSettings name = .ok b →
    Dsn.RefusedAlike a.dsn b.dsn

/-- It is enough that the data source names of the entries are. -/
theorem Connections.refusedAlike_of_forall₂ {c d : Connections}
    (h : List.Forall₂ (fun e f => f.1 = e.1 ∧ Dsn.RefusedAlike e.2.dsn f.2.dsn) c.settings
      d.settings) : c.RefusedAlike d := by
  intro name a b ha hb
  have hfound := lookup_rel (R := fun a b : ConnectionSettings => Dsn.RefusedAlike a.dsn b.dsn) h
    name
  unfold getSettings at ha hb
  split at ha
  next hc =>
    split at hb
    next hd =>
      cases ha
      cases hb
      rw [hc, hd] at hfound
      cases hfound with
      | some hab => exact hab
    next => cases hb
  next => cases ha

namespace Connections.SameButSecret

variable {c d : Connections}

/-- The settings of a name differ in nothing but secrets, or both states have none. -/
theorem getSettings_matching (h : c.SameButSecret d) (name : String) :
    Act.Matching ConnectionSettings.SameButSecret (c.getSettings name) (d.getSettings name) := by
  have hnames : d.names = c.names := by
    unfold Connections.names
    have hsettings := h.settings
    generalize c.settings = entries at hsettings
    generalize d.settings = others at hsettings
    induction hsettings with
    | nil => rfl
    | cons hentry _ ih => rw [List.map_cons, List.map_cons, hentry.1, ih]
  have hlookup := lookup_rel h.settings name
  unfold getSettings
  rw [hnames]
  generalize c.settings.lookup name = found at hlookup
  generalize d.settings.lookup name = other at hlookup
  cases hlookup with
  | none => exact rfl
  | some hab => exact hab

/-- The same is shown of settings that are refused alike. -/
theorem view_eq (h : c.SameButSecret d) (hrefused : c.RefusedAlike d) (name : String) :
    (d.getSettings name >>= ConnectionSettings.publicView) =
      (c.getSettings name >>= ConnectionSettings.publicView) := by
  have hsettings := h.getSettings_matching name
  cases ha : c.getSettings name with
  | ok a =>
    cases hb : d.getSettings name with
    | ok b =>
      rw [ha, hb] at hsettings
      exact hsettings.publicView_eq_iff.mpr (hrefused name a b ha hb)
    | error e =>
      rw [ha, hb] at hsettings
      exact hsettings.elim
  | error e =>
    rw [hsettings.error_iff.mp ha]

/-- It is shown of no others. -/
theorem refusedAlike_of_view_eq (h : c.SameButSecret d)
    (hviews : ∀ name, (d.getSettings name >>= ConnectionSettings.publicView) =
      (c.getSettings name >>= ConnectionSettings.publicView)) : c.RefusedAlike d := by
  intro name a b ha hb
  have hsettings := h.getSettings_matching name
  have hview := hviews name
  rw [ha, hb] at hsettings hview
  exact hsettings.publicView_eq_iff.mp hview

/-- The status of settings that are refused alike is the same. -/
theorem status_eq (h : c.SameButSecret d) (hrefused : c.RefusedAlike d) :
    d.status = c.status := by
  have hstatus : ∀ {a b : ConnectionSettings}, a.SameButSecret b → Dsn.RefusedAlike a.dsn b.dsn →
      ∀ name, d.statusOf name b = c.statusOf name a := by
    intro a b hab halike name
    unfold statusOf Connections.depth
    rw [h.opened, h.depths, hab.publicView_eq_iff.mpr halike]
  have hfound : ∀ name a b, c.settings.lookup name = some a → d.settings.lookup name = some b →
      Dsn.RefusedAlike a.dsn b.dsn := by
    intro name a b ha hb
    refine hrefused name a b ?_ ?_
    · rw [getSettings, ha]
    · rw [getSettings, hb]
  have hsettings := forall₂_of_lookup h.settings h.named hfound
  unfold status
  generalize c.settings = entries at hsettings
  generalize d.settings = others at hsettings
  induction hsettings with
  | nil => rfl
  | @cons e f entries others hentry _ ih =>
    obtain ⟨hname, hab, halike⟩ := hentry
    rw [List.mapM_cons, List.mapM_cons, hname, hstatus hab halike, ih]

end Connections.SameButSecret

/-- Of settings that differ in secrets the same is shown, or the same error takes its place, exactly
if their data source names are refused alike. Then the status is the same as well, and so is all that
asking for a connection shows to the hook behind it and in its error, whatever the databases do with
the passwords. -/
theorem Session.secrets_unpublished_iff {c d : Connections} (h : c.SameButSecret d) :
    ((∀ name, (d.getSettings name >>= ConnectionSettings.publicView) =
        (c.getSettings name >>= ConnectionSettings.publicView)) ∧
      d.status = c.status ∧
      ∀ (around : Surroundings σ) (other : Surroundings τ), around.Reticent → other.Reticent →
        ∀ name outside beyond, ∀ shown ∈ shownBy around name ⟨c, outside⟩,
          ∀ view ∈ shownBy other name ⟨d, beyond⟩, view = shown) ↔
      c.RefusedAlike d := by
  constructor
  · rintro ⟨hviews, -, -⟩
    exact h.refusedAlike_of_view_eq hviews
  · intro hrefused
    refine ⟨h.view_eq hrefused, h.status_eq hrefused, fun around other hreticent hother name outside
      beyond shown hshown view hview => ?_⟩
    obtain ⟨a, ha, hshown⟩ := publicView_of_mem_shownBy hreticent hshown
    obtain ⟨b, hb, hview⟩ := publicView_of_mem_shownBy hother hview
    have hviews := h.view_eq hrefused name
    rw [ha, hb, ok_bind, ok_bind, hshown, hview] at hviews
    exact Except.ok.inj hviews

/-- A database that opens connections for whoever has a password, with a hook behind them. -/
def Surroundings.guarded : Surroundings Unit where
  driver :=
    { connect := fun _ settings =>
        if settings.password = "" then throw (.raised "OperationalError" "access denied") else pure 0
      dialectName := fun _ _ => "sqlite"
      prepare := fun _ _ => pure ()
      execute := fun _ => pure ⟨none, 0, .null⟩
      start := fun _ => pure ()
      commit := fun _ => pure ()
      rollback := fun _ => pure ()
      command := fun _ _ => pure ()
      insertId := fun _ _ => .null
      close := fun _ => pure () }
  hooks := ⟨fun point => point = .onConnect, fun _ => pure .null⟩
  sleep _ := pure ()
  adapters := .standard

/-- One password opens a connection and the other one does not, and both times the same is shown. -/
theorem Session.secrets_unpublished_iff_guarded :
    let settings (dsn password : String) : ConnectionSettings :=
      ⟨dsn, "ann", password, "utf8mb4", 5, false, [], 8⟩
    let c : Connections :=
      { settings := [("main", settings "mysql+pymysql://ann:s3c/ret:@db:3306/app?tls=1" "x"),
        ("old", settings "Server=db; PWD = one;Database=app" "")] }
    let d : Connections :=
      { settings := [("main", settings "mysql+pymysql://ann:@db:3306/app?tls=1" ""),
        ("old", settings "Server=db; PWD = two=2://;Database=app" "y")] }
    let around := Surroundings.guarded
    c.SameButSecret d ∧ c.RefusedAlike d ∧ around.Reticent ∧ c.status.isOk = true ∧ d.status = c.status ∧
      (connection around "main" ⟨c, ()⟩).1.isOk = true ∧
      (connection around "main" ⟨d, ()⟩).1.isOk = false ∧
      (shownBy around "main" ⟨c, ()⟩).length = 1 ∧ (shownBy around "main" ⟨d, ()⟩).length = 1 ∧
      ∀ shown ∈ shownBy around "main" ⟨c, ()⟩, ∀ view ∈ shownBy around "main" ⟨d, ()⟩,
        view = shown := by
  intro settings c d around
  let rest := "db:3306/app?tls=1".toList
  have haddress : Dsn.SameButSecret "mysql+pymysql://ann:s3c/ret:@db:3306/app?tls=1"
      "mysql+pymysql://ann:@db:3306/app?tls=1" := by
    show Dsn.SameButSecret
      (String.ofList (Url.addressed "mysql+pymysql".toList "ann".toList "s3c/ret:".toList rest))
      (String.ofList (Url.addressed "mysql+pymysql".toList "ann".toList [] rest))
    exact .address rest (by simp) (List.all_eq_true.mp (by decide +kernel))
      (List.all_eq_true.mp (by decide +kernel)) (by decide +kernel) (by decide +kernel)
  have hentries : Dsn.SameButSecret "Server=db; PWD = one;Database=app"
      "Server=db; PWD = two=2://;Database=app" := by
    have hsplit : splitAt ';' "Server=db; PWD = one;Database=app".toList =
        ["Server=db".toList, " PWD = one".toList, "Database=app".toList] := by decide +kernel
    have hother : splitAt ';' "Server=db; PWD = two=2://;Database=app".toList =
        ["Server=db".toList, " PWD = two=2://".toList, "Database=app".toList] := by decide +kernel
    have hentry : Dsn.SameEntry " PWD = one".toList " PWD = two=2://".toList :=
      .inr ⟨" PWD ".toList, " one".toList, " two=2://".toList, by decide, by decide +kernel,
        rfl, rfl⟩
    refine .entries (by decide +kernel) (by decide +kernel) ?_
    rw [hsplit, hother]
    exact .cons (.inl rfl) (.cons hentry (.cons (.inl rfl) .nil))
  have hsecret : c.SameButSecret d :=
    ⟨.cons ⟨rfl, haddress, rfl⟩ (.cons ⟨rfl, hentries, rfl⟩ .nil), by decide, rfl, rfl⟩
  have hreticent : around.Reticent := by
    constructor
    · rintro _ _ _ ⟨⟩
    · rintro _ _ _ _ _ ⟨⟩
  have hrefused : c.RefusedAlike d := by
    refine Connections.refusedAlike_of_forall₂ (.cons ⟨rfl, ?_⟩ (.cons ⟨rfl, ?_⟩ .nil))
    · intro e he
      have hread : (Url.read "mysql+pymysql://ann:s3c/ret:@db:3306/app?tls=1").isOk = true := by
        decide +kernel
      rw [he] at hread
      cases hread
    · intro e he
      rw [Url.read_of_splitName?_eq_none (by decide +kernel)] at he ⊢
      exact he
  obtain ⟨-, hstatus, hshown⟩ := (Session.secrets_unpublished_iff hsecret).mpr hrefused
  exact ⟨hsecret, hrefused, hreticent, by decide +kernel, hstatus, by decide +kernel, by decide +kernel,
    by decide +kernel, by decide +kernel, hshown around around hreticent hreticent "main" () ()⟩

end BoundSql
