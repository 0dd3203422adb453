import BrokerClient.Connection.Manager

/-!
# Chronicles of a manager

A manager changes only by a step on an event, and the events come in any order and at any time. A `Chronicle` is a
manager together with everything it did so far and when; nothing in the step depends on that past. What it did for one
call is the call's `own` part of it. A schedule is any list of moments in which no two calls have the same name.
-/

namespace BrokerClient.Manager

/-- What happens, when, and which connections are open then. -/
structure Moment where
  time : Nat
  isOpen : ConnectionId → Bool
  event : Event

/-- What a manager does about what happens. -/
def act (m : Manager) (i : Moment) : Effect := m.step i.isOpen i.time i.event

structure Chronicle where
  now : Manager
  done : List (Nat × Action) := []

/-- The call that an event begins. -/
def Event.request? : Event → Option CallId
  | .acquire call | .ask call => some call
  | .turn _ | .ended .. | .resume .. | .interrupt | .noticed _ | .abandon _ => none

/-- The calls of a schedule, in the order in which they come. -/
def requests (is : List Moment) : List CallId := is.filterMap (·.event.request?)

@[simp] theorem requests_append (is is' : List Moment) : requests (is ++ is') = requests is ++ requests is' :=
  List.filterMap_append

/-- Every call has a name of its own. -/
def Schedule (is : List Moment) : Prop := (requests is).Nodup

instance decidableSchedule (is : List Moment) : Decidable (Schedule is) :=
  inferInstanceAs (Decidable (requests is).Nodup)

theorem Schedule.left {is is' : List Moment} (hs : Schedule (is ++ is')) : Schedule is := by
  rw [Schedule, requests_append] at hs
  exact (List.nodup_append.1 hs).1

/-- A call that comes next has not come before. -/
theorem Schedule.new {is : List Moment} {i : Moment} {call : CallId} (hs : Schedule (is ++ [i]))
    (hi : i.event.request? = some call) : call ∉ requests is := by
  rw [Schedule, requests_append] at hs
  intro hm
  exact (List.nodup_append.1 hs).2.2 call hm call (by simp [requests, hi]) rfl

/-! ## What is done for a call -/

/-- The call that an action is for. Reports are for nobody, and a wake does not concern a call before it runs. -/
def Action.call? : Action → Option CallId
  | .connect call _ _ | .pause call _ _ | .finish call _ => some call
  | .log _ | .wake _ => none

def own (call : CallId) (actions : List Action) : List Action := actions.filter fun a => a.call? == some call

theorem mem_own {call : CallId} {actions : List Action} {a : Action} :
    a ∈ own call actions ↔ a ∈ actions ∧ a.call? = some call := by
  simp [own]

@[simp] theorem own_append (call : CallId) (a b : List Action) : own call (a ++ b) = own call a ++ own call b :=
  List.filter_append ..

@[simp] theorem own_logs (call : CallId) (logs : List LogEntry) : own call (logs.map .log) = [] := by
  simp [own, Action.call?]

@[simp] theorem own_wakes {α : Type} (call : CallId) (f : α → Event) (as : List α) :
    own call (as.map fun a => .wake (f a)) = [] := by
  simp [own, Action.call?]

namespace Chronicle

def next (c : Chronicle) (i : Moment) : Chronicle := ⟨(c.now.act i).1, c.done ++ (c.now.act i).2.map (i.time, ·)⟩

def run (c : Chronicle) (is : List Moment) : Chronicle := is.foldl next c

/-- What was done for a call, and when. -/
def own (c : Chronicle) (call : CallId) : List (Nat × Action) := c.done.filter fun x => x.2.call? == some call

theorem own_next (c : Chronicle) (i : Moment) (call : CallId) :
    (c.next i).own call = c.own call ++ (Manager.own call (c.now.act i).2).map (i.time, ·) := by
  simp [own, next, Manager.own, List.filter_append, List.filter_map, Function.comp_def]

end Chronicle

/-- What becomes of a new manager. -/
def chronicle (policy : RetryPolicy) (is : List Moment) : Chronicle := Chronicle.run ⟨{ policy }, []⟩ is

theorem chronicle_append (policy : RetryPolicy) (is is' : List Moment) :
    chronicle policy (is ++ is') = (chronicle policy is).run is' := List.foldl_append

theorem chronicle_concat (policy : RetryPolicy) (is : List Moment) (i : Moment) :
    chronicle policy (is ++ [i]) = (chronicle policy is).next i := chronicle_append policy is [i]

end BrokerClient.Manager
