import BrokerClient.Message.Builder

/-!
# What a message's envelope keeps

A request has a reply-to and a correlation id, and a response goes to where its request wants it, under that request's
correlation id. However a message is made, it is `Valid` in this sense: by the three ways to make one, by a builder,
and with another content.
-/

namespace BrokerClient

variable {α β : Type} {m : Outgoing α}

namespace Outgoing

/-- The pattern of a message, with the request that it answers. -/
def pattern : Outgoing α → Pattern
  | .cast _ => .cast
  | .request _ => .request
  | .response _ origin => .response origin

/-- A request can be answered, and a response answers its request. -/
def Valid : Outgoing α → Prop
  | .cast _ => True
  | .request e => e.properties.replyTo.isSome ∧ e.properties.correlationId.isSome
  | .response e origin => e.exchange = defaultExchange ∧ e.routingKey = origin.replyTo ∧
    e.properties.correlationId = some origin.correlationId

theorem pattern_withEnvelope (m : Outgoing α) (e : Envelope β) : (m.withEnvelope e).pattern = m.pattern := by
  cases m <;> rfl

theorem origin?_eq_of_pattern {m' : Outgoing β} (h : m'.pattern = m.pattern) : m'.origin? = m.origin? := by
  cases m <;> cases m' <;> simp_all [pattern, origin?]

/-- Nothing but the destination and the two ids matters. -/
theorem Valid.congr {m' : Outgoing β} (h : m.Valid) (hp : m'.pattern = m.pattern)
    (he : m'.envelope.exchange = m.envelope.exchange) (hk : m'.envelope.routingKey = m.envelope.routingKey)
    (hr : m'.properties.replyTo = m.properties.replyTo)
    (hc : m'.properties.correlationId = m.properties.correlationId) : m'.Valid := by
  cases m with
  | cast e =>
    cases m' with
    | cast e' => exact trivial
    | request _ | response _ _ => cases hp
  | request e =>
    cases m' with
    | request e' => exact ⟨(congrArg Option.isSome hr).trans h.1, (congrArg Option.isSome hc).trans h.2⟩
    | cast _ | response _ _ => cases hp
  | response e origin =>
    cases m' with
    | response e' origin' =>
      cases hp
      exact ⟨he.trans h.1, hk.trans h.2.1, hc.trans h.2.2⟩
    | cast _ | request _ => cases hp

theorem valid_ofCast (exchange routingKey : String) (p : Properties) (content : α) :
    (ofCast exchange routingKey p content).Valid := trivial

/-- What a request lacks is filled in. -/
theorem valid_ofRequest (fresh exchange routingKey : String) (p : Properties) (content : α) :
    (ofRequest fresh exchange routingKey p content).Valid := ⟨rfl, rfl⟩

theorem valid_ofResponse {origin : Origin} {p : Properties} {content : α} (h : ofResponse origin p content = .ok m) :
    m.Valid := by
  unfold ofResponse at h
  split at h
  · rename_i id hid
    split at h
    · rename_i heq
      cases h
      exact ⟨rfl, rfl, heq ▸ hid⟩
    · cases h
  · cases h
    exact ⟨rfl, rfl, rfl⟩

theorem Valid.withContent (h : m.Valid) (content : β) : (m.withContent content).Valid := by
  cases m <;> exact h

end Outgoing

/-- Whatever was done to a builder, the message that it builds is valid. -/
theorem Builder.valid_build {b : Builder α} {fresh : String} (h : b.build fresh = .ok m) : m.Valid := by
  unfold Builder.build at h
  split at h
  · cases h
  · split at h
    · cases h
      exact Outgoing.valid_ofCast ..
    · cases h
      exact Outgoing.valid_ofRequest ..
    · exact Outgoing.valid_ofResponse h

end BrokerClient
