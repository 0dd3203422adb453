import BrokerClient.Log

/-!
# Scripted worlds

A world in which everything outside the client follows a script and time moves only when told to. Events
are handled one at a time: what a call answers at once comes before what is ready, what is woken comes
behind it, and what is due at a later time waits for the clock. Whatever is due now is handled before an
answer is given. The calls in progress are kept in the order in which they were started.
-/

namespace BrokerClient.Scripted

/-! ## Scripts -/

/-- When a scripted call answers. -/
inductive Wait where
  | none
  | ms (n : Nat)
  | forever
deriving DecidableEq, Repr

/-- What one scripted call does: it waits, and then fails with a text or succeeds. -/
structure Play where
  wait : Wait := .none
  failure : Option String := none
deriving DecidableEq, Repr, Inhabited

/-- What the calls of each name do, one after the other; after the end of its list a call succeeds. -/
abbrev Script := List (String × List Play)

/-- What the next call of a name does. -/
def Script.next : Script → String → Play × Script
  | [], _ => ({}, [])
  | (n, plays) :: rest, name =>
    if n = name then
      match plays with
      | [] => ({}, (n, []) :: rest)
      | play :: plays => (play, (n, plays) :: rest)
    else
      let (play, rest) := Script.next rest name
      (play, (n, plays) :: rest)

/-! ## Calls in progress -/

/-- A call, numbered in the order of starts. -/
structure Running where
  id : Nat
  name : String

/-- A call that returned. -/
structure Returned (ρ : Type) where
  id : Nat
  name : String
  result : ρ

/-- What is shown after a step. -/
structure Report (ρ : Type) where
  now : Nat
  returned : List (Returned ρ)
  pending : List String
  logs : List LogEntry

/-! ## Worlds -/

structure World (σ ε ρ : Type) where
  state : σ
  now : Nat := 0
  /-- Events to be handled now, first come first. -/
  ready : List ε := []
  /-- Events to be handled later, by time, first come first at one time. -/
  timers : List (Nat × ε) := []
  calls : Nat := 0
  running : List Running := []
  returned : List (Returned ρ) := []
  /-- Reports of the client, last first. -/
  logs : List LogEntry := []

namespace World

variable {σ ε ρ : Type}

/-- Handles an event before all others. -/
def soon (w : World σ ε ρ) (e : ε) : World σ ε ρ := { w with ready := e :: w.ready }

/-- Handles an event behind those that are ready. -/
def later (w : World σ ε ρ) (e : ε) : World σ ε ρ := { w with ready := w.ready ++ [e] }

/-- Adds a timer behind those of the same time. -/
def insertTimer (time : Nat) (e : ε) : List (Nat × ε) → List (Nat × ε)
  | [] => [(time, e)]
  | t :: rest => if time < t.1 then (time, e) :: t :: rest else t :: insertTimer time e rest

/-- Handles an event when some time has passed. -/
def after (w : World σ ε ρ) (ms : Nat) (e : ε) : World σ ε ρ :=
  { w with timers := insertTimer (w.now + ms) e w.timers }

/-- Handles an event when a scripted call answers. -/
def play (w : World σ ε ρ) (p : Play) (e : ε) : World σ ε ρ :=
  match p.wait with
  | .none => w.soon e
  | .ms n => w.after n e
  | .forever => w

def log (w : World σ ε ρ) (entry : LogEntry) : World σ ε ρ := { w with logs := entry :: w.logs }

/-- Starts a call. -/
def start (w : World σ ε ρ) (name : String) : Nat × World σ ε ρ :=
  (w.calls, { w with calls := w.calls + 1, running := w.running ++ [⟨w.calls, name⟩] })

/-- Ends a call, unless it is no longer running. -/
def finish (w : World σ ε ρ) (id : Nat) (result : ρ) : World σ ε ρ :=
  match w.running.find? (·.id == id) with
  | none => w
  | some r => { w with running := w.running.filter (·.id != id), returned := w.returned ++ [⟨id, r.name, result⟩] }

/-- Lets the running call of a name go, if there is one. -/
def abandon (w : World σ ε ρ) (name : String) : Option Nat × World σ ε ρ :=
  match w.running.find? (·.name == name) with
  | none => (none, w)
  | some r => (some r.id, { w with running := w.running.filter (·.id != r.id) })

/-- The next event to be handled now. -/
def next? (w : World σ ε ρ) : Option (ε × World σ ε ρ) :=
  match w.ready, w.timers with
  | e :: ready, _ => some (e, { w with ready })
  | [], (time, e) :: timers => if time ≤ w.now then some (e, { w with timers }) else none
  | [], [] => none

/-- Handles events until none is due, at most so many. -/
def settle (handle : World σ ε ρ → ε → World σ ε ρ) : Nat → World σ ε ρ → World σ ε ρ
  | 0, w => w
  | fuel + 1, w => match w.next? with
    | none => w
    | some (e, w) => settle handle fuel (handle w e)

/-- How many events are handled at one time. -/
def patience : Nat := 1000000

/-- Moves the clock, stopping at each timer on the way, at most so often. -/
def advanceTo (handle : World σ ε ρ → ε → World σ ε ρ) (time : Nat) : Nat → World σ ε ρ → World σ ε ρ
  | 0, w => { w with now := time }
  | fuel + 1, w => match w.timers with
    | [] => { w with now := time }
    | (t, _) :: _ =>
      if t ≤ time then advanceTo handle time fuel (settle handle patience { w with now := max w.now t })
      else { w with now := time }

/-- Lets some time pass. -/
def advance (handle : World σ ε ρ → ε → World σ ε ρ) (ms : Nat) (w : World σ ε ρ) : World σ ε ρ :=
  advanceTo handle (w.now + ms) patience w

/-- What is shown, and the world in which it has been shown. -/
def report (w : World σ ε ρ) : Report ρ × World σ ε ρ :=
  (⟨w.now, w.returned.mergeSort fun a b => a.id ≤ b.id, w.running.map (·.name), w.logs.reverse⟩,
    { w with returned := [], logs := [] })

end World
end BrokerClient.Scripted
