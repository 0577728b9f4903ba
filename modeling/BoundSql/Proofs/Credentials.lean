import BoundSql.Adapter
import BoundSql.Proofs.Results

/-!
# Addresses with configured credentials

Settings may have a user and a password of their own, to stand in the address in place of those of
the data source name. Nothing else of the address changes. The configured user, if there is one, is
always in it. The configured password is in it unless it is configured without a user: then the
address stays as it was read, and has the password only if it had it before.
-/

namespace BoundSql

namespace Url

/-- What is configured, or what the address has itself if nothing is. -/
def preferred (configured : String) (own : Option (List Char)) : Option (List Char) :=
  if configured = "" then own else some configured.toList

@[simp]
theorem preferred_empty (own : Option (List Char)) : preferred "" own = own := if_pos rfl

@[simp]
theorem preferred_of_ne {configured : String} (h : configured ≠ "") (own : Option (List Char)) :
    preferred configured own = some configured.toList := if_neg h

/-- Two addresses lead to the same database, with any credentials. -/
structure SameTarget (u v : Url) : Prop where
  /-- The backend and its driver are the same. -/
  name : v.name = u.name
  /-- So is the host. -/
  host : v.host = u.host
  /-- So is the port. -/
  port : v.port = u.port
  /-- So is the database. -/
  database : v.database = u.database
  /-- So is the query. -/
  query : v.query = u.query

/-- A password is configured without a user, and is not the one of the address. -/
def LosesPassword (username password : String) (own : Url) : Prop :=
  username = "" ∧ password ≠ "" ∧ own.password ≠ some password.toList

variable {username password : String} (own : Url)

@[simp]
theorem withCredentials_empty (password : String) : own.withCredentials "" password = own :=
  if_pos rfl

theorem withCredentials_of_ne (h : username ≠ "") (password : String) :
    own.withCredentials username password =
      { own with username := some username.toList, password := preferred password own.password } :=
  if_neg h

/-- Credentials change nothing but the user and the password. -/
theorem sameTarget_withCredentials (username password : String) :
    own.SameTarget (own.withCredentials username password) := by
  by_cases husername : username = ""
  · rw [husername, withCredentials_empty]
    exact ⟨rfl, rfl, rfl, rfl, rfl⟩
  · rw [withCredentials_of_ne own husername]
    exact ⟨rfl, rfl, rfl, rfl, rfl⟩

/-- The configured user wins. -/
theorem withCredentials_username (username password : String) :
    (own.withCredentials username password).username = preferred username own.username := by
  by_cases husername : username = ""
  · rw [husername, withCredentials_empty, preferred_empty]
  · rw [withCredentials_of_ne own husername, preferred_of_ne husername]

/-- The configured password wins unless it is lost. -/
theorem withCredentials_password_iff :
    (own.withCredentials username password).password = preferred password own.password ↔
      ¬LosesPassword username password own := by
  by_cases husername : username = ""
  · subst husername
    rw [withCredentials_empty]
    by_cases hgiven : password = ""
    · subst hgiven
      exact iff_of_true (preferred_empty _).symm fun hlost => hlost.2.1 rfl
    · rw [preferred_of_ne hgiven]
      exact ⟨fun hsame hlost => hlost.2.2 hsame,
        fun hkept => by_contra fun hother => hkept ⟨rfl, hgiven, hother⟩⟩
  · rw [withCredentials_of_ne own husername]
    exact iff_of_true rfl fun hlost => husername hlost.1

end Url

namespace Adapter

/-- An adapter without an engine creates one for its address. -/
theorem getEngine_of_address {a : Adapter} {address : Url} (h : a.address = .ok address) :
    ∃ engine, engine.url = address ∧
      { a with engine := none }.getEngine = .ok (engine, { a with engine := some engine }) := by
  have hnew : { a with engine := none }.address = .ok address := h
  refine ⟨⟨address, a.settings.persistent, a.connectOptions⟩, rfl, ?_⟩
  rw [getEngine, hnew]
  rfl

/-- Once it has an engine, it asks for that one again. -/
theorem getEngine_again {a b : Adapter} {engine : Engine} (h : a.getEngine = .ok (engine, b)) :
    b.getEngine = .ok (engine, b) := by
  unfold getEngine at h
  split at h
  next hengine =>
    cases h
    rw [getEngine, hengine]
  next =>
    obtain ⟨address, -, hcreated⟩ := bind_eq_ok_iff.mp h
    cases hcreated
    rfl

/-- The address of an adapter, which is also that of the engine it creates and then keeps, has the
configured user if there is one and leads to the database of the data source name. It has the
configured password, if there is one, exactly if that is not lost for want of a user. -/
theorem credentials_win_iff (a : Adapter) {own : Url} (hread : Url.read a.settings.dsn = .ok own) :
    ∃ address,
      a.address = .ok address ∧
      (∃ engine b, { a with engine := none }.getEngine = .ok (engine, b) ∧
        b.getEngine = .ok (engine, b) ∧ engine.url = address) ∧
      own.SameTarget address ∧
      address.username = Url.preferred a.settings.username own.username ∧
      (address.password = Url.preferred a.settings.password own.password ↔
        ¬Url.LosesPassword a.settings.username a.settings.password own) := by
  have haddress :
      a.address = .ok (own.withCredentials a.settings.username a.settings.password) := by
    rw [Adapter.address, hread]
  obtain ⟨engine, hurl, hengine⟩ := getEngine_of_address haddress
  exact ⟨_, haddress, ⟨engine, _, hengine, getEngine_again hengine, hurl⟩,
    own.sameTarget_withCredentials _ _, own.withCredentials_username _ _,
    own.withCredentials_password_iff⟩

/-- Both credentials are configured, in place of the user of the data source name. -/
theorem credentials_win_iff_both :
    let settings : ConnectionSettings :=
      ⟨"postgresql://alice@db/app", "bob", "s3cret", "utf8mb4", 5, false, [], 128⟩
    ∃ own address, Url.read settings.dsn = .ok own ∧ own.username = some "alice".toList ∧
      (Adapter.mk .postgresql settings none).address = .ok address ∧ own.SameTarget address ∧
      address.username = some "bob".toList ∧ address.password = some "s3cret".toList := by
  have hread : Url.read "postgresql://alice@db/app" =
      .ok ⟨"postgresql".toList, some "alice".toList, none, some "db".toList, none,
        some "app".toList, []⟩ := by rfl
  intro settings
  obtain ⟨address, haddress, -, htarget, husername, hpassword⟩ :=
    credentials_win_iff ⟨.postgresql, settings, none⟩ hread
  exact ⟨_, address, hread, rfl, haddress, htarget, husername,
    hpassword.mpr fun hlost => absurd hlost.1 (by decide)⟩

/-- A password configured for the user of the data source name is in no address. -/
theorem password_without_user :
    let settings : ConnectionSettings :=
      ⟨"postgresql://alice@db/app", "", "s3cret", "utf8mb4", 5, false, [], 128⟩
    ∃ own, Url.read settings.dsn = .ok own ∧
      (Adapter.mk .postgresql settings none).address = .ok own ∧ own.password = none ∧
      Url.preferred settings.password own.password = some "s3cret".toList :=
  ⟨⟨"postgresql".toList, some "alice".toList, none, some "db".toList, none, some "app".toList, []⟩,
    by rfl, by rfl, rfl, by decide⟩

end Adapter

end BoundSql
