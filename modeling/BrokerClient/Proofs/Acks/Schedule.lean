import BrokerClient.Acks

/-!
# Schedules of acknowledgements

The acknowledgements of a consumer only ever change by a step on an event, and the events come in any order
whatever. A caller stands for one call at a time: `Admits` says that of one event, and `Schedule` of all. An attempt
is a request to settle a handle that is there, whichever of its clones it comes through, with what was done about it;
`attempts` lists those of one handle.
-/

namespace BrokerClient.Acks

variable {κ : Type} [DecidableEq κ]

/-- What becomes of a state. -/
def after (s : Acks κ) (es : List (Event κ)) : Acks κ := es.foldl (fun s e => (s.step e).1) s

/-- Nobody whose call is in flight makes another one. -/
def Admits (s : Acks κ) : Event κ → Prop
  | .settle caller _ _ => ∀ c ∈ s.inFlight, c.caller ≠ caller
  | _ => True

/-- Every event is admitted when it comes. -/
def Schedule (s : Acks κ) : List (Event κ) → Prop
  | [] => True
  | e :: es => s.Admits e ∧ Schedule (s.step e).1 es

instance decidableAdmits (s : Acks κ) : (e : Event κ) → Decidable (s.Admits e)
  | .settle caller _ _ => inferInstanceAs (Decidable (∀ c ∈ s.inFlight, c.caller ≠ caller))
  | .register _ _ | .clone _ | .drop _ | .answered _ _ | .await _ | .look _ | .abandon _ => isTrue trivial

instance decidableSchedule (s : Acks κ) : (es : List (Event κ)) → Decidable (s.Schedule es)
  | [] => isTrue trivial
  | e :: es =>
    have := decidableSchedule (s.step e).1 es
    inferInstanceAs (Decidable (s.Admits e ∧ Schedule (s.step e).1 es))

theorem Schedule.left {s : Acks κ} {es es' : List (Event κ)} (h : s.Schedule (es ++ es')) : s.Schedule es := by
  induction es generalizing s with
  | nil => exact trivial
  | cons e es ih => exact ⟨h.1, ih h.2⟩

/-- What every admitted step keeps, every schedule keeps. -/
theorem after_induction {P : Acks κ → Prop} (hstep : ∀ s e, P s → s.Admits e → P (s.step e).1) (s : Acks κ) (hs : P s)
    (es : List (Event κ)) (h : s.Schedule es) : P (s.after es) := by
  induction es generalizing s with
  | nil => exact hs
  | cons e es ih => exact ih (s.step e).1 (hstep s e hs h.1) h.2

/-! ## Attempts -/

/-- A request to settle a handle, and what was done about it. -/
structure Attempt (κ : Type) where
  caller : κ
  verdict : Verdict
  actions : List (Action κ)

/-- The attempt on a handle that an event is, if the handle is there. -/
def attempt? (s : Acks κ) (h : HandleId) (e : Event κ) : Option (Attempt κ) :=
  match e with
  | .settle caller (.manual k) verdict =>
    if k = h ∧ (s.find? h).isSome then some ⟨caller, verdict, (s.step e).2⟩ else none
  | _ => none

/-- All attempts on a handle, in the order in which they come. -/
def attempts (h : HandleId) (s : Acks κ) : List (Event κ) → List (Attempt κ)
  | [] => []
  | e :: es => (s.attempt? h e).toList ++ attempts h (s.step e).1 es

end BrokerClient.Acks
