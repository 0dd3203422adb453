import BrokerClient.Pool

/-!
# Schedules of a pool

A pool only ever changes by a step on an event. A schedule is the list of the events that reach it, in any
order whatever, each with the verdict that the items' validity gets at that moment; a run is the final state
and everything done on the way. Borrowers have names of their own, and an item that was just made is not one
that the pool already has: `Admits` says that of one event, and `Schedule` of all.
-/

namespace BrokerClient.Pool

variable {ι : Type}

/-- What happens next, and which items are valid when it does. -/
structure Moment (ι : Type) where
  isValid : ι → Bool
  event : Event ι

/-- One event after the other. -/
def run (p : Pool ι) : List (Moment ι) → Effect ι
  | [] => (p, [])
  | m :: ms =>
    let first := p.step m.isValid m.event
    let rest := run first.1 ms
    (rest.1, first.2 ++ rest.2)

/-- The item that a phase keeps from everybody else. -/
def Phase.item? : Phase ι → Option ι
  | .lent item | .discarding item => some item
  | .waiting | .granted | .creating => none

/-- The items that borrowers have. -/
def held (p : Pool ι) : List ι := p.borrows.filterMap (·.phase.item?)

/-- A borrower comes under a name that nobody has, and an item that was made is not one that is there. -/
def Admits (p : Pool ι) : Event ι → Prop
  | .borrow b _ => ∀ x ∈ p.borrows, x.id ≠ b
  | .created _ (.ok item) => item ∉ p.idle ++ p.held
  | _ => True

/-- Every event is admitted when it comes. -/
def Schedule (p : Pool ι) : List (Moment ι) → Prop
  | [] => True
  | m :: ms => p.Admits m.event ∧ Schedule (p.step m.isValid m.event).1 ms

instance decidableAdmits [DecidableEq ι] (p : Pool ι) : (e : Event ι) → Decidable (p.Admits e)
  | .borrow b _ => inferInstanceAs (Decidable (∀ x ∈ p.borrows, x.id ≠ b))
  | .created _ (.ok item) => inferInstanceAs (Decidable (item ∉ p.idle ++ p.held))
  | .created _ (.error _) | .turn _ | .worked _ _ | .giveBack _ | .abandon _ | .close _ | .itemClosed _ _
  | .abandonClose _ => isTrue trivial

instance decidableSchedule [DecidableEq ι] (p : Pool ι) : (ms : List (Moment ι)) → Decidable (p.Schedule ms)
  | [] => isTrue trivial
  | m :: ms =>
    have := decidableSchedule (p.step m.isValid m.event).1 ms
    inferInstanceAs (Decidable (p.Admits m.event ∧ Schedule (p.step m.isValid m.event).1 ms))

theorem schedule_append (p : Pool ι) (ms ms' : List (Moment ι)) :
    p.Schedule (ms ++ ms') ↔ p.Schedule ms ∧ (p.run ms).1.Schedule ms' := by
  induction ms generalizing p with
  | nil => simp [run, Schedule]
  | cons m ms ih => simp [run, Schedule, ih, and_assoc]

/-- What every admitted step keeps, every run keeps. -/
theorem run_induction {P : Pool ι → Prop} (hstep : ∀ p isValid e, P p → p.Admits e → P (p.step isValid e).1)
    (p : Pool ι) (hp : P p) (ms : List (Moment ι)) (h : p.Schedule ms) : P (p.run ms).1 := by
  induction ms generalizing p with
  | nil => exact hp
  | cons m ms ih => exact ih _ (hstep p m.isValid m.event hp h.1) h.2

end BrokerClient.Pool
