/-!
# Named entries

Entries in the order in which their names first came. Setting a name that is there leaves its
place.
-/

namespace BoundSql

variable {α : Type}

/-- Sets the value of a name: in its place if the name is there, else at the end. -/
def putNamed (name : String) (value : α) : List (String × α) → List (String × α)
  | [] => [(name, value)]
  | entry :: rest =>
    if entry.1 = name then (name, value) :: rest else entry :: putNamed name value rest

/-- Removes a name. -/
def dropNamed (name : String) (entries : List (String × α)) : List (String × α) :=
  entries.filter fun entry => entry.1 ≠ name

theorem lookup_cons_eq (name other : String) (value : α) (rest : List (String × α)) :
    List.lookup other ((name, value) :: rest) =
      if other = name then some value else rest.lookup other := by
  by_cases h : other = name
  · subst h
    rw [List.lookup_cons_self, if_pos rfl]
  · rw [List.lookup_cons, beq_eq_false_iff_ne.mpr h, if_neg h]

/-- The name that was set has the new value, every other name its old one. -/
theorem lookup_putNamed (name other : String) (value : α) (entries : List (String × α)) :
    (putNamed name value entries).lookup other =
      if other = name then some value else entries.lookup other := by
  induction entries with
  | nil => simp [putNamed, lookup_cons_eq]
  | cons entry rest ih =>
    obtain ⟨key, v⟩ := entry
    by_cases hk : key = name
    · subst hk
      by_cases h : other = key <;> simp [putNamed, lookup_cons_eq, h]
    · have hput :
          putNamed name value ((key, v) :: rest) = (key, v) :: putNamed name value rest := by
        simp [putNamed, hk]
      rw [hput, lookup_cons_eq, lookup_cons_eq, ih]
      by_cases h : other = key
      · subst h; simp [hk]
      · simp [h]

/-- A name that is not there comes last when it is set. -/
theorem putNamed_of_lookup_none {name : String} {entries : List (String × α)}
    (h : entries.lookup name = none) (value : α) :
    putNamed name value entries = entries ++ [(name, value)] := by
  induction entries with
  | nil => rfl
  | cons entry rest ih =>
    obtain ⟨key, old⟩ := entry
    rw [lookup_cons_eq] at h
    by_cases hkey : name = key
    · rw [if_pos hkey] at h
      cases h
    · rw [if_neg hkey] at h
      rw [putNamed, if_neg (Ne.symm hkey), ih h]
      rfl

/-- The removed name has no value, every other name its old one. -/
theorem lookup_dropNamed (name other : String) (entries : List (String × α)) :
    (dropNamed name entries).lookup other =
      if other = name then none else entries.lookup other := by
  induction entries with
  | nil => simp [dropNamed]
  | cons entry rest ih =>
    obtain ⟨key, v⟩ := entry
    by_cases hk : key = name
    · subst hk
      have hdrop : dropNamed key ((key, v) :: rest) = dropNamed key rest := by
        simp [dropNamed]
      rw [hdrop, ih, lookup_cons_eq]
      by_cases h : other = key <;> simp [h]
    · have hdrop : dropNamed name ((key, v) :: rest) = (key, v) :: dropNamed name rest := by
        simp [dropNamed, hk]
      rw [hdrop, lookup_cons_eq, lookup_cons_eq, ih]
      by_cases h : other = key
      · subst h; simp [hk]
      · simp [h]

end BoundSql
