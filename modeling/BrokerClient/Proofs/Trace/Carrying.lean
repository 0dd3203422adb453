import BrokerClient.Proofs.Text.Utf8
import BrokerClient.Trace
import Mathlib.Data.List.Induction
import Mathlib.Data.List.Nodup

/-!
# Trace contexts in headers

A context is written into headers under its keys in lower case, and only those headers change
(`get?_injectHeaders_eq`). Where the keys differ in lower case too, each header then holds the value of its own pair
(`get?_injectHeaders_of_mem`), and a value is read back from its bytes. So a pair is found under its key in lower case,
which is the key it was set under if that is how it was spelled (`carried`). A key with a capital in it is looked up as
it is spelled, and is not found (`carried_unfound`).
-/

namespace BrokerClient

namespace TraceContext

variable {context : TraceContext} {pair : String × String} {headers : Table} {key value : String}

/-! ## Writing -/

/-- The value that a context has for a key in lower case, the last one if it has several. -/
def value? (context : TraceContext) (key : String) : Option String :=
  (context.reverse.find? fun pair => Text.lowercase pair.1 == key).map (·.2)

/-- A context leaves a header alone if none of its keys is the header's in lower case. -/
def Spares (context : TraceContext) (key : String) : Prop := ∀ pair ∈ context, Text.lowercase pair.1 ≠ key

/-- The keys are different from each other in lower case too. -/
def Distinct (context : TraceContext) : Prop := (context.map fun pair => Text.lowercase pair.1).Nodup

theorem Spares.value?_eq (h : context.Spares key) : context.value? key = none := by
  have hfind : (context.reverse.find? fun pair => Text.lowercase pair.1 == key) = none :=
    List.find?_eq_none.2 fun pair hpair => by simpa using h pair (List.mem_reverse.1 hpair)
  rw [value?, hfind, Option.map_none]

theorem Distinct.value?_eq (h : context.Distinct) (hpair : pair ∈ context) :
    context.value? (Text.lowercase pair.1) = some pair.2 := by
  cases hfind : context.reverse.find? fun other => Text.lowercase other.1 == Text.lowercase pair.1 with
  | none => simpa using List.find?_eq_none.1 hfind pair (List.mem_reverse.2 hpair)
  | some other =>
    have hkey : Text.lowercase other.1 = Text.lowercase pair.1 := by simpa using List.find?_some hfind
    have hother : other ∈ context := List.mem_reverse.1 (List.mem_of_find?_eq_some hfind)
    rw [value?, hfind, Option.map_some, List.inj_on_of_nodup_map h hother hpair hkey]

/-- Under the keys of a context the headers have its values, and under the others what they had. -/
theorem get?_injectHeaders_eq (context : TraceContext) (headers : Table) (key : String) :
    (injectHeaders context headers).get? key = ((context.value? key).map FieldValue.text).or (headers.get? key) := by
  induction context using List.reverseRecOn with
  | nil => rfl
  | append_singleton context pair ih =>
    rw [injectHeaders, List.foldl_concat, set, value?, List.reverse_concat, List.find?_cons]
    by_cases heq : Text.lowercase pair.1 = key
    · simp [heq]
    · rw [Dictionary.get?_insert_of_ne _ heq, beq_eq_false_iff_ne.2 heq]
      exact ih

theorem get?_injectHeaders (h : context.Spares key) (headers : Table) :
    (injectHeaders context headers).get? key = headers.get? key := by
  rw [get?_injectHeaders_eq, h.value?_eq, Option.map_none, Option.none_or]

theorem get?_injectHeaders_of_mem (h : context.Distinct) (hpair : pair ∈ context) (headers : Table) :
    (injectHeaders context headers).get? (Text.lowercase pair.1) = some (.text pair.2) := by
  rw [get?_injectHeaders_eq, h.value?_eq hpair, Option.map_some, Option.some_or]

/-! ## Reading -/

theorem valueText?_text (s : String) : valueText? (.text s) = some s := Text.Utf8.toString?_ofString s

/-- What is found under a key is part of the context that is read. -/
theorem mem_extract (h : get? headers key = some value) : (key, value) ∈ extract headers := by
  obtain ⟨held, hheld, htext⟩ := Option.bind_eq_some_iff.1 h
  exact List.mem_filterMap.2 ⟨(key, held), Entries.mem_of_get? hheld, by simp only [htext, Option.map_some]⟩

/-- **What becomes of a context in headers.** Where its keys differ in lower case too, every value is found under its
key in lower case, and so under the key itself if it is set in lower case, and is part of the context that is read. All
other headers stay as they are, so a key with a capital in it finds what was there under it before, and all other
properties stay. -/
theorem carried (h : context.Distinct) (p : Properties) :
    (∀ key value, (key, value) ∈ context →
      get? (inject context p).headers (Text.lowercase key) = some value ∧
      (Text.lowercase key = key → get? (inject context p).headers key = some value) ∧
      (Text.lowercase key, value) ∈ extract (inject context p).headers) ∧
    (∀ key, context.Spares key → (inject context p).headers.get? key = p.headers.get? key) ∧
    { inject context p with headers := p.headers } = p := by
  refine ⟨fun key value hpair => ?_, fun key hspares => get?_injectHeaders hspares p.headers, rfl⟩
  have hfound : get? (inject context p).headers (Text.lowercase key) = some value := by
    rw [get?, inject, get?_injectHeaders_of_mem h hpair, Option.bind_some, valueText?_text]
  exact ⟨hfound, fun hlower => hlower ▸ hfound, mem_extract hfound⟩

/-- An order for a tenant, with a parent from before. -/
def tenanted : Properties where
  headers := .ofEntries [("tenant", .text "acme"), ("traceparent", .text "00-old")]
  kind := some "order"

/-- A child of `00-ab`, in the state `x=1`. -/
def child : TraceContext := [("traceparent", "00-ab"), ("tracestate", "x=1")]

theorem carried_tenanted : get? (inject child tenanted).headers "traceparent" = some "00-ab" ∧
    get? (inject child tenanted).headers "tracestate" = some "x=1" ∧
    (inject child tenanted).headers.get? "tenant" = some (.text "acme") := by
  have hparent : Text.lowercase "traceparent" = "traceparent" := by decide +kernel
  have hstate : Text.lowercase "tracestate" = "tracestate" := by decide +kernel
  have hdistinct : child.Distinct := by simp [child, Distinct, hparent, hstate]
  have hspares : child.Spares "tenant" := by simp [child, Spares, hparent, hstate]
  obtain ⟨hread, hkept, -⟩ := carried hdistinct tenanted
  exact ⟨(hread _ _ (.head _)).2.1 hparent, (hread _ _ (.tail _ (.head _))).2.1 hstate, hkept _ hspares⟩

/-- A parent that is set under a key with capitals is not found under it. -/
theorem carried_unfound : ¬∀ (context : TraceContext) (p : Properties), context.Distinct →
    ∀ key value, (key, value) ∈ context → get? (inject context p).headers key = some value := by
  intro h
  have hdistinct : Distinct [("TraceParent", "00-abc")] := by simp [Distinct]
  have hfound := h [("TraceParent", "00-abc")] {} hdistinct _ _ (.head _)
  have hlower : Text.lowercase "TraceParent" = "traceparent" := by decide +kernel
  have hspares : Spares [("TraceParent", "00-abc")] "TraceParent" := by simp [Spares, hlower]
  rw [get?, inject, get?_injectHeaders hspares] at hfound
  cases hfound

end TraceContext
end BrokerClient
