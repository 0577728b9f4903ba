import BoundSql.Proofs.Journal
import BoundSql.Proofs.Statements

/-!
# Handles that change hands

A handle is returned by the driver when a connection is opened, and given back when it is closed.
Opening the connection of a name comes to one of few things: it is refused, the driver cannot be
reached, the handle is given back at once because its character set could not be chosen, or the
connection is kept and the hook behind it is called.
-/

namespace BoundSql

variable {σ α ℓ : Type}

/-! ## What a journal says of handles -/

namespace DriverCall

/-- The handle that was returned. -/
def returned? : DriverCall → Option Handle
  | .connected (.ok handle) => some handle
  | _ => none

/-- The handle that was given back, well or not. -/
def closed? : DriverCall → Option Handle
  | .closed handle _ => some handle
  | _ => none

/-- The call is not about opening or closing: no handle changes hands and no connection is
greeted. -/
def isQuiet : DriverCall → Bool
  | .connected (.ok _) | .closed _ _ | .notified _ _ => false
  | _ => true

end DriverCall

/-- What was read of the hook behind opened connections: the handle that was returned last, and the
names for which the hook was called, each with the handle that was the last one then. -/
structure Greetings where
  /-- The handle that was returned last. -/
  last : Option Handle := none
  /-- The calls of the hook. -/
  calls : List (String × Option Handle) := []

/-- Reads one more call. -/
def Greetings.read (g : Greetings) : DriverCall → Greetings
  | .connected (.ok handle) => { g with last := some handle }
  | .notified (.onConnect name _ _) _ => { g with calls := g.calls ++ [(name, g.last)] }
  | _ => g

namespace Journal

variable (journal : Journal ℓ)

/-- Calls entered with a label. -/
def enter (label : ℓ) (calls : List DriverCall) : Journal ℓ :=
  journal ++ calls.map fun call => (label, call)

/-- The handles that were returned, each with its label. -/
def returned : List (ℓ × Handle) :=
  journal.filterMap fun entry => entry.2.returned?.map fun handle => (entry.1, handle)

/-- The handles that were given back. -/
def closed : List Handle := journal.filterMap fun entry => entry.2.closed?

/-- The connections for which the hook behind opened ones was called. -/
def greetings : List (String × Option Handle) :=
  (journal.foldl (fun g entry => g.read entry.2) ({} : Greetings)).calls

/-- How often a handle was returned. -/
def timesReturned (handle : Handle) : Nat := (journal.returned.map Prod.snd).count handle

/-- How often a handle was given back. -/
def timesClosed (handle : Handle) : Nat := journal.closed.count handle

variable (label : ℓ) (calls : List DriverCall)

@[simp] theorem enter_nil : journal.enter label [] = journal := List.append_nil journal

theorem enter_append (more : List DriverCall) :
    journal.enter label (calls ++ more) = (journal.enter label calls).enter label more := by
  simp [enter]

theorem mem_enter {entry : ℓ × DriverCall} (h : entry ∈ journal) :
    entry ∈ journal.enter label calls := List.mem_append_left _ h

theorem returned_enter :
    (journal.enter label calls).returned =
      journal.returned ++ (calls.filterMap DriverCall.returned?).map fun h => (label, h) := by
  rw [returned, enter, List.filterMap_append, List.filterMap_map, List.map_filterMap]
  rfl

theorem closed_enter :
    (journal.enter label calls).closed = journal.closed ++ calls.filterMap DriverCall.closed? := by
  rw [closed, enter, List.filterMap_append, List.filterMap_map]
  rfl

theorem greetings_enter :
    (journal.enter label calls).greetings =
      (calls.foldl Greetings.read
        (journal.foldl (fun g entry => g.read entry.2) ({} : Greetings))).calls := by
  rw [greetings, enter, List.foldl_append, List.foldl_map]

theorem timesReturned_enter (handle : Handle) :
    (journal.enter label calls).timesReturned handle =
      journal.timesReturned handle + (calls.filterMap DriverCall.returned?).count handle := by
  have hmap : ∀ handles : List Handle,
      (handles.map fun h => (label, h)).map Prod.snd = handles := by
    intro handles
    rw [List.map_map]
    exact List.map_id handles
  rw [timesReturned, timesReturned, returned_enter, List.map_append, List.count_append, hmap]

theorem timesClosed_enter (handle : Handle) :
    (journal.enter label calls).timesClosed handle =
      journal.timesClosed handle + (calls.filterMap DriverCall.closed?).count handle := by
  rw [timesClosed, timesClosed, closed_enter, List.count_append]

end Journal

/-! ## Quiet calls -/

/-- None of the calls is about opening or closing. -/
def Quiet (calls : List DriverCall) : Prop := ∀ call ∈ calls, call.isQuiet = true

namespace Quiet

variable {calls : List DriverCall}

theorem nil : Quiet [] := fun _ h => nomatch h

theorem single {call : DriverCall} (h : call.isQuiet = true) : Quiet [call] := by
  intro other hother
  rw [List.mem_singleton.mp hother]
  exact h

theorem returned_eq_nil (h : Quiet calls) : calls.filterMap DriverCall.returned? = [] := by
  refine List.filterMap_eq_nil_iff.mpr fun call hcall => ?_
  have hquiet := h call hcall
  unfold DriverCall.returned?
  split
  · cases hquiet
  · rfl

theorem closed_eq_nil (h : Quiet calls) : calls.filterMap DriverCall.closed? = [] := by
  refine List.filterMap_eq_nil_iff.mpr fun call hcall => ?_
  have hquiet := h call hcall
  unfold DriverCall.closed?
  split
  · cases hquiet
  · rfl

theorem read_eq (h : Quiet calls) (g : Greetings) : calls.foldl Greetings.read g = g := by
  induction calls generalizing g with
  | nil => rfl
  | cons call rest ih =>
    have hquiet := h call List.mem_cons_self
    have hread : g.read call = g := by
      unfold Greetings.read
      split
      · cases hquiet
      · cases hquiet
      · rfl
    rw [List.foldl_cons, hread]
    exact ih (fun other hother => h other (List.mem_cons_of_mem _ hother)) g

/-- Behind a handle that was returned, quiet calls may be left out. -/
theorem returned_cons (h : Quiet calls) (handle : Handle) (more : List DriverCall) :
    (DriverCall.connected (.ok handle) :: (calls ++ more)).filterMap DriverCall.returned? =
      handle :: more.filterMap DriverCall.returned? := by
  show handle :: (calls ++ more).filterMap DriverCall.returned? = _
  rw [List.filterMap_append, h.returned_eq_nil, List.nil_append]

theorem closed_cons (h : Quiet calls) (handle : Handle) (more : List DriverCall) :
    (DriverCall.connected (.ok handle) :: (calls ++ more)).filterMap DriverCall.closed? =
      more.filterMap DriverCall.closed? := by
  show (calls ++ more).filterMap DriverCall.closed? = _
  rw [List.filterMap_append, h.closed_eq_nil, List.nil_append]

theorem read_cons (h : Quiet calls) (handle : Handle) (more : List DriverCall) (g : Greetings) :
    (DriverCall.connected (.ok handle) :: (calls ++ more)).foldl Greetings.read g =
      more.foldl Greetings.read { g with last := some handle } := by
  rw [List.foldl_cons, List.foldl_append, h.read_eq]
  rfl

end Quiet

/-! ## Opening a connection -/

/-- What the hook behind an opened connection has left in a journal. -/
def Greets (present : Bool) (name : String) (calls : List DriverCall) : Prop :=
  if present then ∃ shown driver ended, calls = [.notified (.onConnect name shown driver) ended]
  else calls = []

namespace Session

variable {around : Surroundings σ} {label : ℓ} {name : String} {s : Session (σ × Journal ℓ)}
  {connections : Connections} {calls : List DriverCall}

end Session

end BoundSql
