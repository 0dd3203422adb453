import BrokerClient.Dispatcher

/-!
# Chronicles of a dispatcher

A dispatcher changes only by a step on an event, and the events come in any order. A `Chronicle` is a
dispatcher together with what was asked of it, the channels that its calls got, and everything it did so
far; nothing in the step depends on that past. A schedule is any list of events in which no two calls have
the same name.
-/

namespace BrokerClient.Dispatcher

variable {κ α : Type}

/-- What happens next, and which channels are open when it does. -/
structure Moment (κ : Type) where
  isOpen : ChannelId → Bool
  event : Event κ

/-- What was asked, what was got and what was done. -/
structure Past (κ α : Type) where
  requests : List (RequestId × Request) := []
  /-- The channels that were created for a call. -/
  opened : List (RequestId × ChannelId) := []
  done : List (Action κ α) := []

structure Chronicle (κ α : Type) where
  now : Dispatcher κ := {}
  past : Past κ α := {}

/-- The call that an event is. -/
def Event.request? : Event κ → Option (RequestId × Request)
  | .call id r => some (id, r)
  | _ => none

/-- The channel that an event gives to the call that waits for one. -/
def opening? (d : Dispatcher κ) : Event κ → Option (RequestId × ChannelId)
  | .created id (.ok channel) => match d.current with
    | some (current, .opening) => if current = id then some (id, channel) else none
    | _ => none
  | _ => none

namespace Past

def notice (h : Past κ α) (d : Dispatcher κ) (e : Event κ) : Past κ α :=
  { h with requests := h.requests ++ e.request?.toList, opened := h.opened ++ (d.opening? e).toList }

def log (h : Past κ α) (actions : List (Action κ α)) : Past κ α := { h with done := h.done ++ actions }

end Past

/-- The calls of a schedule, in the order in which they come. -/
def requests (ms : List (Moment κ)) : List (RequestId × Request) := ms.filterMap (·.event.request?)

/-- Every call has a name of its own. -/
def Schedule (ms : List (Moment κ)) : Prop := ((requests ms).map (·.1)).Nodup

instance decidableSchedule (ms : List (Moment κ)) : Decidable (Schedule ms) :=
  inferInstanceAs (Decidable ((requests ms).map (·.1)).Nodup)

theorem Schedule.left {ms ms' : List (Moment κ)} (hs : Schedule (ms ++ ms')) : Schedule ms := by
  simp only [Schedule, requests, List.filterMap_append, List.map_append] at hs
  exact (List.nodup_append.1 hs).1

variable [DecidableEq κ]

namespace Chronicle

def next (s : Setup α) (c : Chronicle κ α) (m : Moment κ) : Chronicle κ α :=
  let r := c.now.step s m.isOpen m.event
  ⟨r.1, (c.past.notice c.now m.event).log r.2⟩

def run (s : Setup α) (c : Chronicle κ α) (ms : List (Moment κ)) : Chronicle κ α := ms.foldl (next s) c

/-- A moment at which a start ends. -/
def Ends (s : Setup α) (c : Chronicle κ α) (m : Moment κ) (id : RequestId) (result : Outcome) : Prop :=
  (id, .start) ∈ (c.next s m).past.requests ∧ .finish id result ∈ (c.now.step s m.isOpen m.event).2

theorem run_cons (s : Setup α) (c : Chronicle κ α) (m : Moment κ) (ms : List (Moment κ)) :
    c.run s (m :: ms) = (c.next s m).run s ms := rfl

end Chronicle

/-- What becomes of a new dispatcher. -/
def chronicle (s : Setup α) (ms : List (Moment κ)) : Chronicle κ α := ({} : Chronicle κ α).run s ms

theorem chronicle_append (s : Setup α) (ms ms' : List (Moment κ)) :
    (chronicle s (ms ++ ms') : Chronicle κ α) = (chronicle s ms).run s ms' := List.foldl_append

theorem chronicle_append_cons (s : Setup α) (ms : List (Moment κ)) (m : Moment κ) (ms' : List (Moment κ)) :
    (chronicle s (ms ++ m :: ms') : Chronicle κ α) = ((chronicle s ms).next s m).run s ms' := by
  rw [chronicle_append, Chronicle.run_cons]

theorem requests_run (s : Setup α) (c : Chronicle κ α) (ms : List (Moment κ)) :
    (c.run s ms).past.requests = c.past.requests ++ requests ms := by
  induction ms generalizing c with
  | nil => exact (List.append_nil _).symm
  | cons m ms ih =>
    rw [Chronicle.run_cons, ih, requests, requests]
    simp only [Chronicle.next, Past.log, Past.notice, List.append_assoc]
    rw [List.filterMap_cons]
    cases m.event.request? <;> rfl

theorem requests_chronicle (s : Setup α) (ms : List (Moment κ)) :
    (chronicle s ms : Chronicle κ α).past.requests = requests ms := requests_run s {} ms

end BrokerClient.Dispatcher
