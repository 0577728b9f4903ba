import BoundSql.Proofs.Servers
import BoundSql.Session.Connections

/-!
# Data source names whose port is no number

There are three ways in which a data source name can be read. It is an address; it does not begin
like one, and is a list of entries; or it begins like an address and there is no numeral where its
port should be. Only the third is no fault of configuration to anyone: the choice of an adapter and
the address of one end with the error of the numeral, and so does all that would show the name.
-/

namespace BoundSql

open Text

/-! ## The three ways of reading -/

/-- A port can be read if there is none or it is a numeral. -/
theorem Url.readPort_isOk_iff {port : Option (List Char)} :
    (readPort port).isOk = true ↔ ∀ text ∈ port, (readIntegerNumeral text).isOk = true := by
  cases port with
  | none => exact ⟨fun _ => nofun, fun _ => rfl⟩
  | some digits =>
    have hnumeral : (Value.integerOfText (String.ofList digits)).isOk =
        (readIntegerNumeral digits).isOk := by
      rw [Value.integerOfText, String.toList_ofList]
      rcases readIntegerNumeral digits with (_ | _) | _ <;> rfl
    rw [readPort, map_isOk, hnumeral]
    simp

namespace Dsn

/-- Where a port should be there is none, or a numeral. -/
def PortReadable (dsn : String) : Prop :=
  ∀ port, Url.HasPort dsn.toList port → (readIntegerNumeral port).isOk = true

theorem portReadable_iff {dsn : String} :
    PortReadable dsn ↔ (Url.readPort (Url.portText? dsn.toList)).isOk = true := by
  rw [Url.readPort_isOk_iff]
  exact forall_congr' fun port => imp_congr Url.portText?_eq_some_iff.symm Iff.rfl

instance (dsn : String) : Decidable (PortReadable dsn) :=
  decidable_of_iff _ portReadable_iff.symm

example : PortReadable "postgresql://bob:pw@[::1]:5432/app" ∧
    ¬PortReadable "sqlserver://db:1433;user=bob" := by decide +kernel

/-- How a data source name is read. -/
inductive Reading (dsn : String) : Prop
  /-- It is an address. -/
  | address (url : Url) (hread : Url.read dsn = .ok url) (hport : PortReadable dsn)
  /-- It does not begin like one. -/
  | entries (hread : Url.read dsn = .error .unparsableUrl) (hport : PortReadable dsn)
  /-- It begins like one, and its port is no numeral. -/
  | badPort (fault : IntegerFault) (hread : Url.read dsn = .error (.integer fault))
    (hport : ¬PortReadable dsn)

/-- There is no other way to read one. -/
theorem reading (dsn : String) : Reading dsn := by
  cases hname : Url.splitName? dsn.toList with
  | none =>
    refine .entries (Url.read_of_splitName?_eq_none hname) ?_
    rw [portReadable_iff, Url.portText?, hname]
    rfl
  | some found =>
    have hread : (Url.read dsn).isOk = true ↔ PortReadable dsn := by
      rw [portReadable_iff, Url.portText?, Url.read, Url.readChars, hname]
      exact Iff.of_eq (congrArg (· = true) (bind_isOk_of fun _ => rfl))
    cases hresult : Url.read dsn with
    | ok url => exact .address url hresult (hread.mp (by rw [hresult]; rfl))
    | error e =>
      obtain ⟨hnone, -⟩ | ⟨fault, rfl⟩ := Url.readChars_error hresult
      · rw [hname] at hnone
        cases hnone
      · refine .badPort fault hresult fun hgood => ?_
        rw [← hread, hresult] at hgood
        cases hgood

/-- What only a bad port prevents holds exactly if the port can be read. -/
theorem iff_portReadable {dsn : String} {p : Prop} (haddress : ∀ url, Url.read dsn = .ok url → p)
    (hentries : Url.read dsn = .error .unparsableUrl → p)
    (hbad : ∀ fault, Url.read dsn = .error (.integer fault) → ¬p) : p ↔ PortReadable dsn := by
  cases reading dsn with
  | address url hread hport => exact iff_of_true (haddress url hread) hport
  | entries hread hport => exact iff_of_true (hentries hread) hport
  | badPort fault hread hport => exact iff_of_false (hbad fault hread) hport

/-- A bad port takes the place of what would be shown. -/
theorem redact_of_badPort {dsn : String} {fault : IntegerFault}
    (h : Url.read dsn = .error (.integer fault)) : redact dsn = .error (.integer fault) :=
  (redact_of_error h).resolve_left nofun

/-- Nothing else does. -/
theorem redact_isOk_iff {dsn : String} : (redact dsn).isOk = true ↔ PortReadable dsn := by
  refine iff_portReadable (fun url hread => ?_) (fun hread => ?_) fun fault hread => ?_
  · rw [redact_of_named (by rw [hread]; nofun), hread]
    rfl
  · rw [redact_of_unparsable hread]
    rfl
  · rw [redact_of_badPort hread]
    exact nofun

end Dsn

/-! ## Adapters, views and states -/

/-- A result is a value or a fault of configuration. -/
def Reported {α : Type} (x : Except Error α) : Prop :=
  ∀ e, x = .error e → ∃ fault, e = .configuration fault

theorem reported_ok {α : Type} (a : α) : Reported (.ok a) := nofun

theorem reported_configuration {α : Type} (fault : ConfigurationFault) :
    Reported (.error (.configuration fault) : Except Error α) := by
  rintro e ⟨⟩
  exact ⟨fault, rfl⟩

theorem not_reported_integer {α : Type} (fault : IntegerFault) :
    ¬Reported (.error (.integer fault) : Except Error α) := by
  intro h
  obtain ⟨other, hother⟩ := h _ rfl
  cases hother

/-- Exactly settings with a bad port cannot be shown. -/
theorem ConnectionSettings.publicView_isOk_iff {settings : ConnectionSettings} :
    settings.publicView.isOk = true ↔ Dsn.PortReadable settings.dsn := by
  rw [publicView, bind_isOk_of fun _ => rfl, Dsn.redact_isOk_iff]

/-- The choice of an adapter reports all but bad ports. -/
theorem AdapterRegistry.choose_reported_iff (registry : AdapterRegistry)
    (settings : ConnectionSettings) :
    Reported (registry.choose settings) ↔ Dsn.PortReadable settings.dsn := by
  refine Dsn.iff_portReadable (fun url hread => ?_) (fun hread => ?_) fun fault hread => ?_
  · rw [choose, hread]
    exact reported_ok _
  · rw [choose, hread, ConnectionSettings.publicView, Dsn.redact_of_unparsable hread]
    exact reported_configuration _
  · rw [choose, hread]
    exact not_reported_integer fault

/-- So does the address of an adapter. -/
theorem Adapter.address_reported_iff (a : Adapter) :
    Reported a.address ↔ Dsn.PortReadable a.settings.dsn := by
  refine Dsn.iff_portReadable (fun url hread => ?_) (fun hread => ?_) fun fault hread => ?_
  · rw [address, hread]
    exact reported_ok _
  · rw [address, hread]
    exact reported_configuration _
  · rw [address, hread]
    exact not_reported_integer fault

/-- The states of all connections can be shown if no port is bad. -/
theorem Connections.status_isOk_iff (c : Connections) :
    c.status.isOk = true ↔ ∀ entry ∈ c.settings, Dsn.PortReadable entry.2.dsn := by
  have hentry (entry : String × ConnectionSettings) :
      (c.statusOf entry.1 entry.2).isOk = true ↔ Dsn.PortReadable entry.2.dsn := by
    rw [statusOf, bind_isOk_of fun _ => rfl, ConnectionSettings.publicView_isOk_iff]
  rw [status, mapM_isOk_iff]
  exact forall₂_congr fun entry _ => hentry entry

/-- A data source name that is no address is a fault of configuration to the choice of an adapter
and to its address, and can be shown, alone and among the states of connections, exactly if there is
a numeral where it may have a port. Otherwise all of them end with what is wrong with the numeral. -/
theorem Dsn.fault_reported_iff (registry : AdapterRegistry) (a : Adapter) (c : Connections) :
    (Reported (registry.choose a.settings) ↔ PortReadable a.settings.dsn) ∧
      (Reported a.address ↔ PortReadable a.settings.dsn) ∧
      ((redact a.settings.dsn).isOk = true ↔ PortReadable a.settings.dsn) ∧
      (a.settings.publicView.isOk = true ↔ PortReadable a.settings.dsn) ∧
      (c.status.isOk = true ↔ ∀ entry ∈ c.settings, PortReadable entry.2.dsn) ∧
      (¬PortReadable a.settings.dsn → ∃ fault,
        registry.choose a.settings = .error (.integer fault) ∧
        a.address = .error (.integer fault) ∧
        redact a.settings.dsn = .error (.integer fault)) := by
  refine ⟨registry.choose_reported_iff a.settings, a.address_reported_iff, redact_isOk_iff,
    ConnectionSettings.publicView_isOk_iff, c.status_isOk_iff, fun hbad => ?_⟩
  cases reading a.settings.dsn with
  | address url hread hport => exact absurd hport hbad
  | entries hread hport => exact absurd hport hbad
  | badPort fault hread =>
    refine ⟨fault, ?_, ?_, ?_⟩
    · rw [AdapterRegistry.choose, hread]
    · rw [Adapter.address, hread]
    · exact redact_of_badPort hread

/-- An address with a word for its port is neither reported nor shown. -/
theorem Dsn.word_for_port :
    let settings : ConnectionSettings :=
      ⟨"postgresql://db:port/app", "", "", "utf8mb4", 5, false, [], 128⟩
    ¬Reported (AdapterRegistry.standard.choose settings) ∧
      ¬Reported (Adapter.mk .postgresql settings none).address ∧
      redact settings.dsn = .error (.integer (.literal 10 "'port'")) := by
  have hread : Url.read "postgresql://db:port/app" =
      .error (.integer (.literal 10 "'port'")) := by rfl
  intro settings
  refine ⟨?_, ?_, redact_of_badPort hread⟩
  · rw [AdapterRegistry.choose, hread]
    exact not_reported_integer _
  · rw [Adapter.address, hread]
    exact not_reported_integer _

end BoundSql
