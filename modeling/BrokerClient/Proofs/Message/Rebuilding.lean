import BrokerClient.Proofs.Message.Envelopes
import BrokerClient.Proofs.Message.Pinning

/-!
# Building a message again

Taking a message apart and building it again runs the rules for its pattern once more, which fill in ids, check them
and set the destination. On a message that is `Valid` they find everything done: a request has its ids, and a response
the destination and the correlation id of its request (`Valid.build_ofMessage`). Every way to make a message gives a
valid one (`Made.valid`), so building again is the identity, however often it is done (`rebuilt`).
-/

namespace BrokerClient

variable {α β : Type} {m : Outgoing α}

namespace Outgoing

/-- The ways to come by a message: by its pattern, from a builder, and with another content. -/
inductive Made : {α : Type} → Outgoing α → Prop where
  | cast {α : Type} (exchange routingKey : String) (p : Properties) (content : α) :
    Made (ofCast exchange routingKey p content)
  | request {α : Type} (fresh exchange routingKey : String) (p : Properties) (content : α) :
    Made (ofRequest fresh exchange routingKey p content)
  | response {α : Type} {m : Outgoing α} {origin : Origin} {p : Properties} {content : α}
    (made : ofResponse origin p content = .ok m) : Made m
  | built {α : Type} {m : Outgoing α} {b : Builder α} {fresh : String} (made : b.build fresh = .ok m) : Made m
  | withContent {α β : Type} {m : Outgoing α} (made : Made m) (content : β) : Made (m.withContent content)

theorem Made.valid (h : m.Made) : m.Valid := by
  induction h with
  | cast exchange routingKey p content => exact valid_ofCast exchange routingKey p content
  | request fresh exchange routingKey p content => exact valid_ofRequest fresh exchange routingKey p content
  | response made => exact valid_ofResponse made
  | built made => exact Builder.valid_build made
  | withContent _ content ih => exact ih.withContent content

/-- A request that has its ids keeps them. -/
theorem ofRequest_of_isSome {e : Envelope α} (hreply : e.properties.replyTo.isSome)
    (hid : e.properties.correlationId.isSome) (fresh : String) :
    ofRequest fresh e.exchange e.routingKey e.properties e.content = .request e := by
  obtain ⟨replyTo, hreply⟩ := Option.isSome_iff_exists.1 hreply
  obtain ⟨id, hid⟩ := Option.isSome_iff_exists.1 hid
  obtain ⟨exchange, routingKey, ⟨_, _, _, _, _, _, _⟩, content⟩ := e
  cases hreply
  cases hid
  rfl

/-- A response under the correlation id of its request keeps its properties. -/
theorem ofResponse_of_eq {origin : Origin} {p : Properties} (hid : p.correlationId = some origin.correlationId)
    (content : α) :
    ofResponse origin p content = .ok (.response ⟨defaultExchange, origin.replyTo, p, content⟩ origin) := by
  unfold ofResponse
  simp only [hid, if_true]

/-- What is taken apart is built again as it was, and the id for a request that has none goes unused. -/
theorem Valid.build_ofMessage (h : m.Valid) (fresh : String) : (Builder.ofMessage m).build fresh = .ok m := by
  cases m with
  | cast e => rfl
  | request e => exact congrArg Except.ok (ofRequest_of_isSome h.1 h.2 fresh)
  | response e origin =>
    obtain ⟨exchange, routingKey, p, content⟩ := e
    obtain ⟨rfl, rfl, hid⟩ := h
    exact ofResponse_of_eq hid content

/-- Takes a message apart, does something to the builder, and builds a message of it, again and again. Each stage
comes with the id for a request that has none. -/
def throughStages (m : Outgoing α) : List (String × Builder.Program α α) → Except EnvelopeError (Outgoing α)
  | [] => .ok m
  | (fresh, program) :: rest => do (← (program.run (Builder.ofMessage m)).build fresh).throughStages rest

/-- **Building again is the identity.** A message, however it was made, is built again from its parts and comes out the
same: its pattern with the request that it answers, its destination, all its properties and its content. So it goes
unchanged through any number of stages that change nothing, and keeps the ids it was given at first. -/
theorem rebuilt (h : m.Made) : (∀ fresh, (Builder.ofMessage m).build fresh = .ok m) ∧
    ∀ stages : List (String × Builder.Program α α),
      (∀ stage ∈ stages, stage.2.run (Builder.ofMessage m) = Builder.ofMessage m) → m.throughStages stages = .ok m := by
  have hbuild := h.valid.build_ofMessage
  refine ⟨hbuild, fun stages hidle => ?_⟩
  induction stages with
  | nil => rfl
  | cons stage rest ih =>
    obtain ⟨hstage, hrest⟩ := List.forall_mem_cons.1 hidle
    rw [throughStages, hstage, hbuild]
    exact ih hrest

/-- A request for a quote, which came without ids. -/
def quoted : Outgoing String := .ofRequest "c-1" "rpc" "quote" { kind := some "quote" } "12.50"

/-- Its first correlation id outlives two stages, the second of which sets the kind that it has and builds it once in
between. -/
theorem rebuilt_quoted : quoted.properties.correlationId = some "c-1" ∧
    quoted.throughStages [("c-2", .done), ("c-3", .andThen (.set (.kind "quote")) (.andThen (.rebuild "c-4") .done))] =
      .ok quoted := by
  have hmade : quoted.Made := .request "c-1" "rpc" "quote" { kind := some "quote" } "12.50"
  obtain ⟨-, hstages⟩ := rebuilt hmade
  exact ⟨rfl, hstages _ (List.forall_mem_cons.2 ⟨rfl, List.forall_mem_cons.2 ⟨rfl, nofun⟩⟩)⟩

end Outgoing
end BrokerClient
