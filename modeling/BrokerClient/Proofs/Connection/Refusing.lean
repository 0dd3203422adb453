import BrokerClient.Connection.Address
import BrokerClient.Proofs.Connection.Acquiring

/-!
# Addresses that are refused

A connector whose client library refuses the address never reaches the broker, whatever that would do. Each attempt
fails at once with the text of the library and is reported with it, until there were enough attempts or the time is up.
The reports of an acquisition go along with its attempts: one behind while an attempt is in progress, on a level with
them in a pause, and one ahead, with the reason for giving up, in the end (`Refused`).
-/

namespace BrokerClient

/-- What a connector does with attempts at an address, where the broker would do something. -/
def ClientLibrary.replies (library : ClientLibrary) (address : String) (broker : Nat → Manager.Reply) (number : Nat) :
    Manager.Reply :=
  match library.failure? address with
  | some e => .answers 0 (.error e)
  | none => broker number

namespace Manager

/-! ## What is reported -/

def Action.report? : Action → Option LogEntry
  | .log entry => some entry
  | _ => none

namespace Timeline

/-- What was reported so far. -/
def reports (x : Timeline) : List LogEntry := x.done.filterMap fun (_, a) => a.report?

theorem reports_record {connector : Nat → Reply} {x : Timeline} {now : Nat} {m : Manager} {a : Acquisition} {r : Retry}
    {logs : List LogEntry} {next : Retry.Next} :
    (x.record connector now (m.proceed a (r, logs, next))).reports = x.reports ++ logs := by
  cases next with
  | connect budget => simp [reports, record, proceed, List.filterMap_map, Function.comp_def, Action.report?]
  | pause ms => simp [reports, record, proceed, List.filterMap_map, Function.comp_def, Action.report?]
  | finish result =>
    obtain ⟨m', woken, -, eq⟩ := conclude_cases m a result
    simp [reports, record, proceed, eq, List.filterMap_map, Function.comp_def, Action.report?]

end Timeline

/-- The reports about attempts that failed in one way. -/
def refusals (e : Error) (tries : List Try) : List LogEntry :=
  tries.map fun t => .warn "failure to connect" [("error", e.message), Retry.attemptDetail t.number]

/-- A report says why an acquisition was given up. -/
def Explains (last : LogEntry) (e : Error) : Prop :=
  ∃ r : Retry, last = r.attemptsExhausted ∧ e = .attemptsExhausted r.attempts ∨
    last = r.budgetExhausted ∧ ∃ elapsed, e = .deadlineExceeded r.attempts elapsed

section

variable (connector : Nat → Reply) (policy : RetryPolicy) (started : Nat) (call : CallId) (e : Error)

/-- How far an acquisition is whose attempts are refused, and what was reported so far. -/
inductive Refused (x : Timeline) : Prop
  | trying (a : Acquisition) (trying : Trying connector policy started call x a)
    (reports : x.reports = refusals e (x.tries call).dropLast)
  | pausing (a : Acquisition) (pausing : Pausing connector policy started call x a)
    (reports : x.reports = refusals e (x.tries call))
  | finished (why : Error) (last : LogEntry) (finished : Finished connector policy started call x (.error why))
    (explains : Explains last why) (reports : x.reports = refusals e (x.tries call) ++ [last])

end

section

variable {connector : Nat → Reply} {isOpen : ConnectionId → Bool} {policy : RetryPolicy} {started : Nat}
  {call : CallId} {e : Error} {x : Timeline} {a : Acquisition}

/-- The report about the attempt in progress is the one that is missing. -/
theorem Trying.refusals_tries (h : Trying connector policy started call x a) :
    refusals e (x.tries call) = refusals e (x.tries call).dropLast ++ [a.retry.report (.failed e)] := by
  obtain ⟨earlier, t, tries, -⟩ := h.last
  have number : t.number = a.retry.attempts := by
    have numbers := h.numbers
    rw [tries, List.map_append, List.length_append, List.length_singleton, List.range'_1_concat] at numbers
    have last : t.number = 1 + earlier.length := List.singleton_injective (List.append_inj' numbers rfl).2
    rw [h.counted, tries, List.length_append, List.length_singleton, last, Nat.add_comm]
  rw [tries, List.dropLast_concat, refusals, List.map_append, List.map_singleton, number]
  rfl

/-- An attempt is refused at once. -/
theorem Trying.refused (refuses : ∀ n budget, (connector n).within budget = (0, .failed e))
    (h : Trying connector policy started call x a) (reports : x.reports = refusals e (x.tries call).dropLast) :
    Refused connector policy started call e (x.next connector isOpen) := by
  have level := h.refusals_tries (e := e)
  have ends := @Trying.next _ isOpen _ _ _ _ _ h
  obtain rfl := h.mine
  obtain ⟨-, t, -, -, due, -⟩ := h.last
  rw [refuses, Nat.add_zero] at due
  rw [h.next_ended h.trying due] at ends ⊢
  rcases ended_cases a.retry x.now (.failed e) with ⟨c, connected, -⟩ | ⟨-, ⟨-, eq⟩ | ⟨-, delay, ms, -, eq⟩⟩
  · cases connected
  · rw [eq] at ends ⊢
    generalize recorded : x.record connector x.now _ = y at ends ⊢
    obtain ⟨-, -, -, tries, results⟩ := Timeline.record_finish _ y recorded.symm
    have reported : y.reports = _ := recorded ▸ Timeline.reports_record
    rw [h.silent, List.nil_append] at results
    rcases ends with ⟨b, pausing, -⟩ | ⟨result, finished⟩
    · cases pausing.silent.symm.trans results
    · obtain ⟨-, rfl⟩ := Prod.mk.inj (List.singleton_injective (finished.told.symm.trans results))
      refine .finished _ a.retry.attemptsExhausted finished ⟨a.retry, .inl ⟨rfl, rfl⟩⟩ ?_
      rw [reported, reports, tries, level, List.append_assoc]
      rfl
  · rw [eq] at ends ⊢
    generalize recorded : x.record connector x.now _ = y at ends ⊢
    obtain ⟨-, -, -, tries, results, -⟩ := Timeline.record_pause ms y recorded.symm
    have reported : y.reports = _ := recorded ▸ Timeline.reports_record
    rcases ends with ⟨b, pausing, -⟩ | ⟨result, finished⟩
    · exact .pausing b pausing (by rw [reported, reports, tries, level])
    · cases finished.told.symm.trans (results.trans h.silent)

/-- After a pause there is another attempt, or the time is up. -/
theorem Pausing.refused (h : Pausing connector policy started call x a)
    (reports : x.reports = refusals e (x.tries call)) :
    Refused connector policy started call e (x.next connector isOpen) := by
  have ends := @Pausing.next _ isOpen _ _ _ _ _ h
  obtain rfl := h.mine
  obtain ⟨ms, due, -⟩ := h.resumes
  rw [h.next_resumed h.pausing due] at ends ⊢
  rcases attempt_cases a.retry (x.now + ms) with ⟨-, eq⟩ | eq
  · rw [eq] at ends ⊢
    generalize recorded : x.record connector _ _ = y at ends ⊢
    obtain ⟨-, -, -, tries, results⟩ := Timeline.record_finish _ y recorded.symm
    have reported : y.reports = _ := recorded ▸ Timeline.reports_record
    rw [h.silent, List.nil_append] at results
    rcases ends with ⟨b, trying, -⟩ | ⟨result, finished⟩
    · cases trying.silent.symm.trans results
    · obtain ⟨-, rfl⟩ := Prod.mk.inj (List.singleton_injective (finished.told.symm.trans results))
      refine .finished _ a.retry.budgetExhausted finished ⟨a.retry, .inr ⟨rfl, _, rfl⟩⟩ ?_
      rw [reported, reports, tries]
  · rw [eq] at ends ⊢
    generalize recorded : x.record connector _ _ = y at ends ⊢
    obtain ⟨-, -, -, tries, results, -⟩ := Timeline.record_connect _ y recorded.symm
    have reported : y.reports = _ := recorded ▸ Timeline.reports_record
    rcases ends with ⟨b, trying, -⟩ | ⟨result, finished⟩
    · exact .trying b trying (by rw [reported, reports, tries, List.dropLast_concat, List.append_nil])
    · cases finished.told.symm.trans (results.trans h.silent)

theorem Refused.next (refuses : ∀ n budget, (connector n).within budget = (0, .failed e))
    (h : Refused connector policy started call e x) :
    Refused connector policy started call e (x.next connector isOpen) := by
  cases h with
  | trying a trying reports => exact trying.refused refuses reports
  | pausing a pausing reports => exact pausing.refused reports
  | finished why last finished explains reports =>
    rw [Timeline.next, finished.done]
    exact .finished why last finished explains reports

theorem Refused.after (refuses : ∀ n budget, (connector n).within budget = (0, .failed e))
    (h : Refused connector policy started call e x) (k : Nat) :
    Refused connector policy started call e (x.after connector isOpen k) := by
  induction k generalizing x with
  | zero => exact h
  | succ k ih => exact ih (h.next refuses)

end

/-- An acquisition whose attempts all fail at once in one way ends in vain, and reports that way for each of them. -/
theorem vain_acquire {connector : Nat → Reply} {e : Error}
    (refuses : ∀ n budget, (connector n).within budget = (0, .failed e)) (isOpen : ConnectionId → Bool) (m : Manager)
    (now : Nat) (call : CallId) (shared : Bool) :
    ∃ x why last, x = (Timeline.acquire connector m now call shared).after connector isOpen
        (2 * max 1 m.policy.maxAttempts) ∧
      Finished connector m.policy now call x (.error why) ∧ Explains last why ∧
      x.reports = refusals e (x.tries call) ++ [last] := by
  have trying := trying_acquire connector m now call shared
  have alone : ((Timeline.acquire connector m now call shared).tries call).dropLast = [] := by
    rw [List.dropLast_eq_take, ← trying.counted]
    rfl
  have quiet : (Timeline.acquire connector m now call shared).reports = refusals e [] := Timeline.reports_record
  have course := (course_acquire connector m now call shared).after isOpen (2 * max 1 m.policy.maxAttempts)
  rw [Nat.sub_self] at course
  obtain ⟨result, ends⟩ := course.finished
  have refused := Refused.trying _ trying (alone ▸ quiet)
  cases refused.after refuses (2 * max 1 m.policy.maxAttempts) with
  | trying a trying => cases trying.silent.symm.trans ends.told
  | pausing a pausing => cases pausing.silent.symm.trans ends.told
  | finished why last finished explains reports => exact ⟨_, why, last, rfl, finished, explains, reports⟩

/-- **At an address that the client library refuses, no connection is made, whatever the broker would do. The caller is
told in time that the time is up or that there were enough attempts. Every attempt is reported with the text of the
library, in order, and then why it was given up; nothing else is.** -/
theorem refused_address {library : ClientLibrary} {address text : String}
    (refusal : library.refusal? address = some text) (broker : Nat → Reply) (isOpen : ConnectionId → Bool)
    (m : Manager) (now : Nat) (call : CallId) (shared : Bool) :
    ∃ x why last, x = (Timeline.acquire (library.replies address broker) m now call shared).after
        (library.replies address broker) isOpen (2 * max 1 m.policy.maxAttempts) ∧
      Finished (library.replies address broker) m.policy now call x (.error why) ∧ Explains last why ∧
      x.reports = refusals (.connection text) (x.tries call) ++ [last] := by
  refine vain_acquire (fun n budget => ?_) isOpen m now call shared
  simp [ClientLibrary.replies, ClientLibrary.failure?, refusal, Reply.within]

/-- A library that reads addresses as URLs refuses one without a scheme. -/
example : Address.library.refusal? "nope" = some "IO error: relative URL without a base" := by decide +kernel

end Manager
end BrokerClient
