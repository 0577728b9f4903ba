import BoundSql.Proofs.Redaction
import BoundSql.Proofs.Trimming

/-!
# Where the port of an address stands

An address may have a login, a host, a port and more behind its name, and any sign that marks one of
these may also stand in another. `Url.HasPort` says which text is the port, by the form of what is
around it; it does not say how the text is searched. A login is left out only where none can be read,
a password ends at the first at sign behind it and a user at the last one, a host between brackets
ends at the last bracket. `Url.portText?_eq_some_iff` says that the port is found by reading from
left to right.
-/

namespace BoundSql

open Text

namespace Text

variable {separator : Char} {s before behind : List Char}

/-- A text is cut at the first occurrence of a sign. -/
theorem cutAt?_eq_some_iff :
    cutAt? separator s = some (before, behind) ↔
      s = before ++ separator :: behind ∧ separator ∉ before := by
  constructor
  · intro h
    induction s generalizing before with
    | nil => cases h
    | cons c s ih =>
      rw [cutAt?] at h
      split at h
      next hc =>
        obtain ⟨rfl, rfl⟩ := Prod.mk.inj (Option.some.inj h)
        exact ⟨congrArg (· :: s) hc, List.not_mem_nil⟩
      next hc =>
        obtain ⟨⟨first, rest⟩, hrest, hparts⟩ := Option.map_eq_some_iff.mp h
        obtain ⟨rfl, rfl⟩ := Prod.mk.inj hparts
        obtain ⟨rfl, hfree⟩ := ih hrest
        exact ⟨rfl, List.not_mem_cons_of_ne_of_not_mem (Ne.symm hc) hfree⟩
  · rintro ⟨rfl, hfree⟩
    exact cutAt?_append hfree behind

/-- Where a sign is missing nothing is cut. -/
theorem cutAt?_eq_none_iff : cutAt? separator s = none ↔ separator ∉ s := by
  constructor
  · intro h hmem
    obtain ⟨before, behind, rfl, hfree⟩ := List.eq_append_cons_of_mem hmem
    rw [cutAt?_append hfree] at h
    cases h
  · intro h
    by_contra hsome
    obtain ⟨⟨before, behind⟩, hcut⟩ := Option.ne_none_iff_exists'.mp hsome
    obtain ⟨rfl, -⟩ := cutAt?_eq_some_iff.mp hcut
    exact h (List.mem_append_right _ List.mem_cons_self)

end Text

namespace Url

variable {separator : Char} {s before behind name login server host port rest : List Char}

/-! ## Cutting at the last occurrence -/

theorem cutAtLast?_eq_none_iff : cutAtLast? separator s = none ↔ separator ∉ s := by
  rw [cutAtLast?, Option.map_eq_none_iff, cutAt?_eq_none_iff, List.mem_reverse]

/-- A text is cut at the last occurrence of a sign. -/
theorem cutAtLast?_eq_some_iff :
    cutAtLast? separator s = some (before, behind) ↔
      s = before ++ separator :: behind ∧ separator ∉ behind := by
  have hreverse : s = before ++ separator :: behind ↔
      s.reverse = behind.reverse ++ separator :: before.reverse := by
    rw [← List.reverse_inj, List.reverse_append, List.reverse_cons, List.append_assoc]
    rfl
  rw [hreverse, ← List.mem_reverse, ← cutAt?_eq_some_iff, cutAtLast?, Option.map_eq_some_iff]
  constructor
  · rintro ⟨parts, hcut, hparts⟩
    obtain ⟨rfl, rfl⟩ := Prod.mk.inj hparts
    rw [List.reverse_reverse, List.reverse_reverse]
    exact hcut
  · intro hcut
    exact ⟨_, hcut, by rw [List.reverse_reverse, List.reverse_reverse]⟩

/-! ## Logins -/

/-- A text begins with a user and an at sign, with or without a password in between. -/
inductive BeginsWithLogin : List Char → Prop
  /-- There is no password. -/
  | user {user : List Char} (huser : ∀ c ∈ user, isUserLetter c = true) (rest : List Char) :
    BeginsWithLogin (user ++ '@' :: rest)
  /-- There is one behind a colon. -/
  | password {user : List Char} (huser : ∀ c ∈ user, isUserLetter c = true)
    (password rest : List Char) : BeginsWithLogin (user ++ ':' :: (password ++ '@' :: rest))

/-- What stands in front of a server. -/
inductive Login (server : List Char) : List Char → Prop
  /-- Nothing, if the server does not begin with what could be a login. -/
  | none (hserver : ¬BeginsWithLogin server) : Login server []
  /-- A user, if the server does not begin with what could be the rest of a login. -/
  | user {user : List Char} (huser : ∀ c ∈ user, isUserLetter c = true)
    (hserver : ¬BeginsWithLogin server) : Login server (user ++ ['@'])
  /-- A user and a password. -/
  | password {user password : List Char} (huser : ∀ c ∈ user, isUserLetter c = true)
    (hpassword : '@' ∉ password) : Login server (user ++ ':' :: (password ++ ['@']))

theorem splitPassword?_eq_some_iff :
    splitPassword? s = some (before, behind) ↔
      s = ':' :: (before ++ '@' :: behind) ∧ '@' ∉ before := by
  constructor
  · intro h
    unfold splitPassword? at h
    split at h
    next rest =>
      obtain ⟨rfl, hfree⟩ := cutAt?_eq_some_iff.mp h
      exact ⟨rfl, hfree⟩
    next => cases h
  · rintro ⟨rfl, hfree⟩
    exact cutAt?_append hfree behind

/-- A login shows in the longest run that a user could be, or behind it. -/
theorem beginsWithLogin_iff {run : List Char} (hrun : ∀ c ∈ run, isUserLetter c = true)
    (hrest : ∀ c ∈ rest.head?, isUserLetter c = false) :
    BeginsWithLogin (run ++ rest) ↔ '@' ∈ run ∨ splitPassword? rest ≠ none := by
  constructor
  · intro h
    generalize hs : run ++ rest = s at h
    cases h with
    | @user user huser more =>
      -- the run goes on behind the at sign, which is in it
      obtain ⟨after, rest', rfl, hafter, hrest'⟩ := exists_run isUserLetter more
      have hwhole : ∀ c ∈ user ++ '@' :: after, isUserLetter c = true :=
        run_append huser (by decide) hafter
      rw [← List.cons_append, ← List.append_assoc] at hs
      obtain ⟨rfl, -⟩ := run_inj hrun hwhole hrest hrest' hs
      exact .inl (List.mem_append_right _ List.mem_cons_self)
    | @password user huser password more =>
      have hcolon : ∀ c ∈ (':' :: (password ++ '@' :: more)).head?, isUserLetter c = false := by
        rintro c ⟨⟩
        decide
      obtain ⟨-, rfl⟩ := run_inj hrun huser hrest hcolon hs
      refine .inr fun hnone => ?_
      exact cutAt?_eq_none_iff.mp hnone (List.mem_append_right _ List.mem_cons_self)
  · rintro (hmem | hpassword)
    · obtain ⟨user, more, rfl⟩ := List.append_of_mem hmem
      rw [List.append_assoc]
      exact .user (fun c hc => hrun c (List.mem_append_left _ hc)) _
    · obtain ⟨⟨password, more⟩, hsplit⟩ := Option.ne_none_iff_exists'.mp hpassword
      obtain ⟨rfl, -⟩ := splitPassword?_eq_some_iff.mp hsplit
      exact .password hrun password more

/-- How a text is split whose first run that a user could be is known. -/
theorem splitCredentials_run {run : List Char} (hrun : ∀ c ∈ run, isUserLetter c = true)
    (hrest : ∀ c ∈ rest.head?, isUserLetter c = false) :
    splitCredentials (run ++ rest) =
      match splitPassword? rest with
      | some (password, more) => (some ⟨run, some password⟩, more)
      | none =>
        match cutAtLast? '@' run with
        | some (user, more) => (some ⟨user, none⟩, more ++ rest)
        | none => (none, run ++ rest) := by
  have htake := takeWhile_append_of_stop hrun hrest
  have hdrop := dropWhile_append_of_stop hrun hrest
  cases hpassword : splitPassword? rest with
  | some parts =>
    obtain ⟨password, more⟩ := parts
    rw [splitCredentials, htake, hdrop, hpassword]
  | none =>
    cases huser : cutAtLast? '@' run with
    | some parts =>
      obtain ⟨user, more⟩ := parts
      rw [splitCredentials, htake, hdrop, hpassword, huser]
    | none => rw [splitCredentials, htake, hdrop, hpassword, huser]

/-- The server is found behind its login. -/
theorem Login.server_eq (h : Login server login) :
    (splitCredentials (login ++ server)).2 = server := by
  obtain ⟨run, rest, rfl, hrun, hrest⟩ := exists_run isUserLetter server
  cases h with
  | none hserver =>
    rw [beginsWithLogin_iff hrun hrest, not_or, not_not] at hserver
    rw [List.nil_append, splitCredentials_run hrun hrest, hserver.2,
      cutAtLast?_eq_none_iff.mpr hserver.1]
  | @user user huser hserver =>
    rw [beginsWithLogin_iff hrun hrest, not_or, not_not] at hserver
    have hlonger : ∀ c ∈ user ++ '@' :: run, isUserLetter c = true :=
      run_append huser (by decide) hrun
    have hcut : cutAtLast? '@' (user ++ '@' :: run) = some (user, run) :=
      cutAtLast?_eq_some_iff.mpr ⟨rfl, hserver.1⟩
    have hform : user ++ ['@'] ++ (run ++ rest) = (user ++ '@' :: run) ++ rest := by simp
    rw [hform, splitCredentials_run hlonger hrest, hserver.2, hcut]
  | password huser hpassword =>
    rw [List.append_assoc, List.cons_append, List.append_assoc, List.singleton_append,
      splitCredentials_append _ huser hpassword]

/-- What is found is a server behind its login. -/
theorem exists_login (s : List Char) :
    ∃ login, s = login ++ (splitCredentials s).2 ∧ Login (splitCredentials s).2 login := by
  obtain ⟨run, rest, rfl, hrun, hrest⟩ := exists_run isUserLetter s
  rw [splitCredentials_run hrun hrest]
  cases hpassword : splitPassword? rest with
  | some parts =>
    obtain ⟨password, more⟩ := parts
    obtain ⟨rfl, hfree⟩ := splitPassword?_eq_some_iff.mp hpassword
    exact ⟨_, by simp, .password hrun hfree⟩
  | none =>
    cases huser : cutAtLast? '@' run with
    | some parts =>
      obtain ⟨user, more⟩ := parts
      obtain ⟨rfl, hfree⟩ := cutAtLast?_eq_some_iff.mp huser
      have hmore : ∀ c ∈ more, isUserLetter c = true := fun c hc =>
        hrun c (List.mem_append_right _ (List.mem_cons_of_mem _ hc))
      refine ⟨user ++ ['@'], by simp, .user (fun c hc => hrun c (List.mem_append_left _ hc)) ?_⟩
      rw [beginsWithLogin_iff hmore hrest, hpassword]
      simp [hfree]
    | none =>
      refine ⟨[], rfl, .none ?_⟩
      rw [beginsWithLogin_iff hrun hrest, hpassword]
      simp [cutAtLast?_eq_none_iff.mp huser]

/-! ## Hosts -/

/-- What stands between the login and the port. -/
inductive Host (port : List Char) : List Char → Prop
  /-- A host between brackets; no bracket comes behind them. -/
  | bracketed {inside : List Char} (hinside : inside ≠ [])
    (hletters : ∀ c ∈ inside, isHostLetter c = true) (hport : ']' ∉ port) :
    Host port ('[' :: (inside ++ [']']))
  /-- A host without colons, or none; together with the port it does not begin with a host between
  brackets. -/
  | plain {host : List Char} (hletters : ∀ c ∈ host, isHostLetter c = true ∧ c ≠ ':')
    (hopen : ∀ inside more, host ++ ':' :: port = '[' :: (inside ++ ']' :: more) → inside = []) :
    Host port host

/-- Without a bracket in front there is no host between brackets. -/
theorem splitBracketed?_of_head (h : ∀ c ∈ s.head?, c ≠ '[') : splitBracketed? s = none := by
  unfold splitBracketed?
  split
  next rest => exact absurd rfl (h '[' rfl)
  next => rfl

/-- A host between brackets is found in the run of characters that may be a host and a port. -/
theorem splitBracketed?_eq_some_iff {run : List Char} (hrun : ∀ c ∈ run, isHostLetter c = true)
    (hrest : ∀ c ∈ rest.head?, isHostLetter c = false) :
    splitBracketed? (run ++ rest) = some (host, behind) ↔
      ∃ more, run = '[' :: (host ++ ']' :: more) ∧ ']' ∉ more ∧ host ≠ [] ∧
        behind = more ++ rest := by
  by_cases hopen : ∃ inside, run = '[' :: inside
  · obtain ⟨inside, rfl⟩ := hopen
    have hinside : ∀ c ∈ inside, isHostLetter c = true := fun c hc =>
      hrun c (List.mem_cons_of_mem _ hc)
    simp only [List.cons.injEq, true_and, ← and_assoc (a := inside = _), ← cutAtLast?_eq_some_iff]
    rw [List.cons_append, splitBracketed?, takeWhile_append_of_stop hinside hrest,
      dropWhile_append_of_stop hinside hrest]
    cases cutAtLast? ']' inside with
    | none => simp
    | some parts =>
      obtain ⟨found, more⟩ := parts
      dsimp only
      constructor
      · intro h
        split at h
        next => cases h
        next hfound =>
          obtain ⟨rfl, rfl⟩ := Prod.mk.inj (Option.some.inj h)
          exact ⟨more, rfl, fun hempty => hfound (List.isEmpty_iff.mpr hempty), rfl⟩
      · rintro ⟨after, hparts, hhost, rfl⟩
        obtain ⟨rfl, rfl⟩ := Prod.mk.inj (Option.some.inj hparts)
        rw [if_neg fun hempty => hhost (List.isEmpty_iff.mp hempty)]
  · have hhead : ∀ c ∈ (run ++ rest).head?, c ≠ '[' := by
      rintro c hc rfl
      cases run with
      | nil => exact absurd (hrest '[' hc) (by decide)
      | cons d run =>
        cases hc
        exact hopen ⟨run, rfl⟩
    rw [splitBracketed?_of_head hhead]
    refine iff_of_false nofun ?_
    rintro ⟨more, hform, -⟩
    exact hopen ⟨_, hform⟩

/-- None is found exactly if there is none, or there is nothing between the brackets. -/
theorem splitBracketed?_eq_none_iff {run : List Char} (hrun : ∀ c ∈ run, isHostLetter c = true)
    (hrest : ∀ c ∈ rest.head?, isHostLetter c = false) :
    splitBracketed? (run ++ rest) = none ↔
      ∀ inside more, run = '[' :: (inside ++ ']' :: more) → inside = [] := by
  constructor
  · intro hnone inside more hform
    by_contra hinside
    -- the last closing bracket is not the one behind the opening one
    obtain ⟨before, after, hlast, hafter⟩ : ∃ before after,
        inside ++ ']' :: more = before ++ ']' :: after ∧ ']' ∉ after := by
      cases hcut : cutAtLast? ']' (inside ++ ']' :: more) with
      | none =>
        exact absurd (List.mem_append_right _ List.mem_cons_self) (cutAtLast?_eq_none_iff.mp hcut)
      | some parts => exact ⟨_, _, cutAtLast?_eq_some_iff.mp hcut⟩
    have hbefore : before ≠ [] := by
      rintro rfl
      cases inside with
      | nil => exact hinside rfl
      | cons c inside =>
        obtain ⟨-, rfl⟩ := List.cons.inj hlast
        exact hafter (List.mem_append_right _ List.mem_cons_self)
    rw [hlast] at hform
    have hfound := (splitBracketed?_eq_some_iff hrun hrest).mpr
      ⟨after, hform, hafter, hbefore, rfl⟩
    rw [hnone] at hfound
    cases hfound
  · intro h
    by_contra hsome
    obtain ⟨⟨inside, behind⟩, hfound⟩ := Option.ne_none_iff_exists'.mp hsome
    obtain ⟨more, hform, -, hinside, -⟩ := (splitBracketed?_eq_some_iff hrun hrest).mp hfound
    exact hinside (h inside more hform)

/-- A host that is not between brackets ends at the first colon, if nothing ends it before. -/
theorem splitHost_of_plain (hnone : splitBracketed? (host ++ rest) = none)
    (hhost : ∀ c ∈ host, (isHostLetter c && c != ':') = true)
    (hrest : ∀ c ∈ rest.head?, (isHostLetter c && c != ':') = false) :
    (splitHost (host ++ rest)).2 = rest := by
  rw [splitHost, hnone]
  dsimp only
  rw [takeWhile_append_of_stop hhost hrest, dropWhile_append_of_stop hhost hrest]
  split
  next hempty => rw [List.isEmpty_iff.mp hempty, List.nil_append]
  next => rfl

theorem colon_ends_host (s : List Char) :
    ∀ c ∈ (':' :: s).head?, (isHostLetter c && c != ':') = false := by
  rintro c ⟨⟩
  decide

/-- Host and port are one run of characters. -/
theorem host_port_letters (hhost : ∀ c ∈ host, isHostLetter c = true)
    (hport : ∀ c ∈ port, isHostLetter c = true) : ∀ c ∈ host ++ ':' :: port, isHostLetter c = true :=
  run_append hhost (by decide) hport

/-- The port is found behind its host. -/
theorem Host.server_eq (h : Host port host) (hport : ∀ c ∈ port, isHostLetter c = true)
    (hrest : ∀ c ∈ rest.head?, isHostLetter c = false) :
    (splitHost (host ++ ':' :: (port ++ rest))).2 = ':' :: (port ++ rest) := by
  have hform : host ++ ':' :: (port ++ rest) = (host ++ ':' :: port) ++ rest := by simp
  cases h with
  | @bracketed inside hinside hletters hfree =>
    have hbrackets : ∀ c ∈ '[' :: (inside ++ [']']), isHostLetter c = true := by
      simpa [or_imp, forall_and] using ⟨by decide, hletters, by decide⟩
    have hfound := (splitBracketed?_eq_some_iff (host_port_letters hbrackets hport) hrest).mpr
      ⟨':' :: port, by simp, List.not_mem_cons_of_ne_of_not_mem (by decide) hfree, hinside, rfl⟩
    rw [splitHost, hform, hfound]
    rfl
  | plain hletters hopen =>
    have hnone := (splitBracketed?_eq_none_iff
      (host_port_letters (fun c hc => (hletters c hc).1) hport) hrest).mpr hopen
    rw [← hform] at hnone
    refine splitHost_of_plain hnone (fun c hc => ?_) (colon_ends_host _)
    simpa using hletters c hc

/-- What is found behind a colon after the host is a port behind a host. -/
theorem exists_host (hport : ∀ c ∈ port, isHostLetter c = true)
    (hrest : ∀ c ∈ rest.head?, isHostLetter c = false)
    (h : (splitHost s).2 = ':' :: (port ++ rest)) :
    ∃ host, s = host ++ ':' :: (port ++ rest) ∧ Host port host := by
  cases hbracketed : splitBracketed? s with
  | some parts =>
    obtain ⟨inside, behind⟩ := parts
    obtain rfl : behind = ':' :: (port ++ rest) := by
      rw [splitHost, hbracketed] at h
      exact h
    obtain ⟨run, after, rfl, hrun, hafter⟩ := exists_run isHostLetter s
    obtain ⟨more, rfl, hfree, hinside, hbehind⟩ :=
      (splitBracketed?_eq_some_iff hrun hafter).mp hbracketed
    have hmore : ∀ c ∈ more, isHostLetter c = true := fun c hc => hrun c (by simp [hc])
    obtain ⟨rfl, rfl⟩ := run_inj (host_port_letters (List.forall_mem_nil _) hport) hmore hrest
      hafter hbehind
    refine ⟨'[' :: (inside ++ [']']), by simp, .bracketed hinside (fun c hc => hrun c ?_) ?_⟩
    · simp [hc]
    · exact fun hmem => hfree (List.mem_cons_of_mem _ hmem)
  | none =>
    obtain ⟨host, after, rfl, hhost, hafter⟩ :=
      exists_run (fun c => isHostLetter c && c != ':') s
    rw [splitHost_of_plain hbracketed hhost hafter] at h
    subst h
    have hletters : ∀ c ∈ host, isHostLetter c = true ∧ c ≠ ':' := by simpa using hhost
    have hform : host ++ ':' :: (port ++ rest) = (host ++ ':' :: port) ++ rest := by simp
    rw [hform] at hbracketed
    exact ⟨host, rfl, .plain hletters ((splitBracketed?_eq_none_iff
      (host_port_letters (fun c hc => (hletters c hc).1) hport) hrest).mp hbracketed)⟩

/-! ## Ports -/

/-- What stands where the port of an address should be. -/
def portText? (s : List Char) : Option (List Char) :=
  (splitName? s).bind fun found => (splitPort (splitHost (splitCredentials found.2).2).2).1

/-- A text stands where the port of an address should be: behind a name, perhaps a login, and
perhaps a host, and before a slash, a question mark or the end. -/
inductive HasPort : List Char → List Char → Prop
  | intro {name login host port rest : List Char} (hname : name ≠ [])
    (hletters : ∀ c ∈ name, isNameLetter c = true)
    (hlogin : Login (host ++ ':' :: (port ++ rest)) login) (hhost : Host port host)
    (hport : ∀ c ∈ port, isHostLetter c = true)
    (hrest : ∀ c ∈ rest.head?, isHostLetter c = false) :
    HasPort (name ++ ':' :: '/' :: '/' :: (login ++ (host ++ ':' :: (port ++ rest)))) port

/-- A name is found with what its letters are. -/
theorem of_splitName? (h : splitName? s = some (name, rest)) :
    s = name ++ ':' :: '/' :: '/' :: rest ∧ name ≠ [] ∧ ∀ c ∈ name, isNameLetter c = true := by
  obtain ⟨run, behind, rfl, hrun, hbehind⟩ := exists_run isNameLetter s
  rw [splitName?, takeWhile_append_of_stop hrun hbehind, dropWhile_append_of_stop hrun hbehind] at h
  split at h
  next more =>
    split at h
    next => cases h
    next hsome =>
      obtain ⟨rfl, rfl⟩ := Prod.mk.inj (Option.some.inj h)
      exact ⟨rfl, fun hnil => hsome (List.isEmpty_iff.mpr hnil), hrun⟩
  next => cases h

/-- A port is found behind a colon and ends where a host would. -/
theorem of_splitPort (h : (splitPort s).1 = some port) : ∃ rest, s = ':' :: (port ++ rest) ∧
    (∀ c ∈ port, isHostLetter c = true) ∧ ∀ c ∈ rest.head?, isHostLetter c = false := by
  unfold splitPort at h
  split at h
  next more =>
    obtain ⟨run, rest, rfl, hrun, hrest⟩ := exists_run isHostLetter more
    obtain rfl : run = port := by
      rw [← takeWhile_append_of_stop hrun hrest]
      exact Option.some.inj h
    exact ⟨rest, rfl, hrun, hrest⟩
  next => cases h

/-- The text that is found is the port. -/
theorem portText?_eq_some_iff : portText? s = some port ↔ HasPort s port := by
  constructor
  · intro h
    obtain ⟨⟨name, behind⟩, hname, hport⟩ := Option.bind_eq_some_iff.mp h
    obtain ⟨rfl, hne, hletters⟩ := of_splitName? hname
    obtain ⟨login, hbehind, hlogin⟩ := exists_login behind
    obtain ⟨rest, hserver, hport, hrest⟩ := of_splitPort hport
    obtain ⟨host, hform, hhost⟩ := exists_host hport hrest hserver
    rw [hbehind, hform]
    rw [hform] at hlogin
    exact .intro hne hletters hlogin hhost hport hrest
  · rintro ⟨hname, hletters, hlogin, hhost, hport, hrest⟩
    rw [portText?, splitName?_append _ hname hletters, Option.bind_some, hlogin.server_eq,
      hhost.server_eq hport hrest, splitPort, takeWhile_append_of_stop hport hrest]

/-- There is one port at most. -/
theorem HasPort.unique {other : List Char} (h : HasPort s port) (hother : HasPort s other) :
    port = other :=
  Option.some.inj ((portText?_eq_some_iff.mpr h).symm.trans (portText?_eq_some_iff.mpr hother))

end Url

end BoundSql
