import BrokerClient.Message.Builder

/-!
# A response cannot leave its request

A `Program` is any finite sequence of the things that can be done to a builder: setting a part, setting a
content of another type, and building the message only to take it apart again. Whatever fails leaves the
builder as it was. `response_pinned` says what every program can make of the builder for a reply: the
destination, the correlation id and the request that the message answers are fixed from the start, and the
only ways for `build` to fail are a missing content and a bag that brought another correlation id in.
-/

namespace BrokerClient.Builder

variable {α β γ : Type}

/-! ## Programs -/

/-- Sets the content, possibly of another type. -/
def withContent (b : Builder α) (content : β) : Builder β :=
  ⟨b.pattern, b.exchange, b.routingKey, b.properties, some content⟩

/-- One thing to do to a builder. The types are those of the content before and after. -/
inductive Move : Type → Type → Type 1 where
  | set {α : Type} (part : Step α) : Move α α
  | content {α β : Type} (value : β) : Move α β
  /-- Build and take apart; `fresh` is the correlation id that a request would get. -/
  | rebuild {α : Type} (fresh : String) : Move α α

inductive Program : Type → Type → Type 1 where
  | done {α : Type} : Program α α
  | andThen {α β γ : Type} (first : Move α β) (rest : Program β γ) : Program α γ

/-- What was made, or the builder itself if that failed. -/
def orKeep (b : Builder α) (r : Except EnvelopeError (Builder α)) : Builder α := r.toOption.getD b

@[simp] theorem orKeep_ok (b b' : Builder α) : b.orKeep (.ok b') = b' := rfl

@[simp] theorem orKeep_error (b : Builder α) (e : EnvelopeError) : b.orKeep (.error e) = b := rfl

def Move.run (b : Builder α) : Move α β → Builder β
  | .set part => b.orKeep (b.apply part)
  | .content value => b.withContent value
  | .rebuild fresh => b.orKeep (b.rebuild fresh)

def Program.run {α β : Type} : Program α β → Builder α → Builder β
  | .done, b => b
  | .andThen first rest, b => rest.run (first.run b)

/-- Whether a content is set. -/
def Move.setsContent : Move α β → Bool
  | .set (.content _) | .content _ => true
  | _ => false

def Program.setsContent {α β : Type} : Program α β → Bool
  | .done => false
  | .andThen first rest => first.setsContent || rest.setsContent

/-! ## The invariant -/

/-- The builder is one for a reply to `origin`, with the destination of such a reply. -/
structure Pinned (origin : Origin) (b : Builder α) : Prop where
  pattern : b.pattern = .response origin
  exchange : b.exchange = defaultExchange
  routingKey : b.routingKey = origin.replyTo

variable {origin : Origin}

theorem pinned_response : Pinned origin (response origin : Builder α) := ⟨rfl, rfl, rfl⟩

theorem Pinned.update {b : Builder α} (h : Pinned origin b) (f : Properties → Properties) :
    Pinned origin (b.update f) := ⟨h.pattern, h.exchange, h.routingKey⟩

theorem Pinned.withContent {b : Builder α} (h : Pinned origin b) (value : β) :
    Pinned origin (b.withContent value) := ⟨h.pattern, h.exchange, h.routingKey⟩

/-- Neither half of the destination can be set. -/
theorem Pinned.apply_destination {b : Builder α} (h : Pinned origin b) (name : String) :
    b.apply (.exchange name) = .error (.destinationPinned "exchange") ∧
    b.apply (.routingKey name) = .error (.destinationPinned "routing key") := by
  simp only [apply, h.pattern, and_self]

theorem Pinned.apply {b b' : Builder α} (h : Pinned origin b) (part : Step α) (hs : b.apply part = .ok b') :
    Pinned origin b' := by
  cases part with
  | exchange name => rw [(h.apply_destination name).1] at hs; cases hs
  | routingKey key => rw [(h.apply_destination key).2] at hs; cases hs
  | correlationId id =>
    simp only [Builder.apply, h.pattern] at hs
    split at hs
    · cases hs; exact h.update _
    · cases hs
  | properties bag => cases hs; exact ⟨h.pattern, h.exchange, h.routingKey⟩
  | content value => cases hs; exact h.withContent value
  | contentType _ | contentEncoding _ | header _ _ | acceptEncoding _ | deliveryMode _ | kind _ | replyTo _ =>
    cases hs; exact h.update _

/-! ## Finishing a pinned builder -/

/-- Without a content nothing is built. -/
theorem build_none {b : Builder α} (hc : b.content? = none) (fresh : String) :
    b.build fresh = .error .missingContent := by
  simp only [build, hc]

/-- A bag under another correlation id is refused. -/
theorem Pinned.build_mismatch {b : Builder α} (h : Pinned origin b) {content : α} (hc : b.content? = some content)
    {id : String} (hi : b.properties.correlationId = some id) (hne : id ≠ origin.correlationId) (fresh : String) :
    b.build fresh = .error (.correlationMismatch origin.correlationId id) := by
  simp only [build, hc, h.pattern, Outgoing.ofResponse, hi, if_neg hne]

/-- Any other bag goes out under the correlation id of the request. -/
theorem Pinned.build_ok {b : Builder α} (h : Pinned origin b) {content : α} (hc : b.content? = some content)
    (hi : ∀ id, b.properties.correlationId = some id → id = origin.correlationId) (fresh : String) :
    b.build fresh = .ok (.response ⟨defaultExchange, origin.replyTo,
      { b.properties with correlationId := some origin.correlationId }, content⟩ origin) := by
  simp only [build, hc, h.pattern, Outgoing.ofResponse]
  cases hid : b.properties.correlationId with
  | none => rfl
  | some id =>
    obtain rfl := hi id hid
    simp only [if_true, ← hid]

/-- The three ways for `build` to end. -/
theorem Pinned.build_cases {b : Builder α} (h : Pinned origin b) (fresh : String) :
    (b.content? = none ∧ b.build fresh = .error .missingContent) ∨
    (∃ content, b.content? = some content ∧
      ((∃ id, b.properties.correlationId = some id ∧ id ≠ origin.correlationId ∧
          b.build fresh = .error (.correlationMismatch origin.correlationId id)) ∨
        ((∀ id, b.properties.correlationId = some id → id = origin.correlationId) ∧
          b.build fresh = .ok (.response ⟨defaultExchange, origin.replyTo,
            { b.properties with correlationId := some origin.correlationId }, content⟩ origin)))) := by
  cases hc : b.content? with
  | none => exact .inl ⟨rfl, build_none hc fresh⟩
  | some content =>
    refine .inr ⟨content, rfl, ?_⟩
    by_cases hi : ∃ id, b.properties.correlationId = some id ∧ id ≠ origin.correlationId
    · obtain ⟨id, hid, hne⟩ := hi
      exact .inl ⟨id, hid, hne, h.build_mismatch hc hid hne fresh⟩
    · have hsame : ∀ id, b.properties.correlationId = some id → id = origin.correlationId :=
        fun id hid => Classical.not_not.1 fun hne => hi ⟨id, hid, hne⟩
      exact .inr ⟨hsame, h.build_ok hc hsame fresh⟩

theorem Pinned.rebuild {b b' : Builder α} (h : Pinned origin b) (fresh : String)
    (hr : b.rebuild fresh = .ok b') : Pinned origin b' ∧ b'.content?.isSome = b.content?.isSome := by
  rcases h.build_cases fresh with ⟨-, hb⟩ | ⟨content, hc, ⟨id, -, -, hb⟩ | ⟨-, hb⟩⟩
  · rw [Builder.rebuild, hb] at hr; cases hr
  · rw [Builder.rebuild, hb] at hr; cases hr
  · rw [Builder.rebuild, hb] at hr
    cases hr
    exact ⟨⟨rfl, rfl, rfl⟩, by simp only [hc, ofMessage, Option.isSome_some]⟩

/-! ## Runs -/

theorem Pinned.run_move {b : Builder α} (h : Pinned origin b) (m : Move α β) : Pinned origin (m.run b) := by
  cases m with
  | set part =>
    cases hs : b.apply part with
    | ok b' => simpa only [Move.run, hs, orKeep_ok, orKeep_error] using h.apply part hs
    | error e => simpa only [Move.run, hs, orKeep_ok, orKeep_error] using h
  | content value => exact h.withContent value
  | rebuild fresh =>
    cases hr : b.rebuild fresh with
    | ok b' => simpa only [Move.run, hr, orKeep_ok, orKeep_error] using (h.rebuild fresh hr).1
    | error e => simpa only [Move.run, hr, orKeep_ok, orKeep_error] using h

theorem Pinned.run {b : Builder α} (h : Pinned origin b) (p : Program α β) : Pinned origin (p.run b) := by
  induction p with
  | done => exact h
  | andThen first rest ih => exact ih (h.run_move first)

/-- Setting a part other than the content keeps the content. -/
theorem content?_of_apply {b b' : Builder α} (part : Step α) (hs : b.apply part = .ok b') :
    b'.content?.isSome = (b.content?.isSome || (Move.set part).setsContent) := by
  cases part with
  | content value => cases hs; simp only [Move.setsContent, Bool.or_true, Option.isSome_some]
  | exchange _ | routingKey _ =>
    simp only [Builder.apply] at hs
    split at hs
    · cases hs
    · cases hs; simp only [Move.setsContent, Bool.or_false]
  | correlationId id =>
    simp only [Builder.apply] at hs
    split at hs
    · split at hs
      · cases hs; simp only [update, Move.setsContent, Bool.or_false]
      · cases hs
    · cases hs; simp only [update, Move.setsContent, Bool.or_false]
  | properties _ | contentType _ | contentEncoding _ | header _ _ | acceptEncoding _ | deliveryMode _ | kind _
  | replyTo _ => cases hs; simp only [update, Move.setsContent, Bool.or_false]

/-- A step that fails is not one that sets the content. -/
theorem setsContent_of_error {b : Builder α} {part : Step α} {e : EnvelopeError} (hs : b.apply part = .error e) :
    (Move.set part).setsContent = false := by
  cases part with
  | content value => cases hs
  | _ => rfl

theorem Pinned.content?_run_move {b : Builder α} (h : Pinned origin b) (m : Move α β) :
    (m.run b).content?.isSome = (b.content?.isSome || m.setsContent) := by
  cases m with
  | set part =>
    cases hs : b.apply part with
    | ok b' => simpa only [Move.run, hs, orKeep_ok, orKeep_error] using content?_of_apply part hs
    | error e => simp only [Move.run, hs, orKeep_error, setsContent_of_error hs, Bool.or_false]
  | content value => simp only [Move.run, Builder.withContent, Move.setsContent, Bool.or_true, Option.isSome_some]
  | rebuild fresh =>
    simp only [Move.setsContent, Bool.or_false]
    cases hr : b.rebuild fresh with
    | ok b' => simpa only [Move.run, hr, orKeep_ok, orKeep_error] using (h.rebuild fresh hr).2
    | error e => simp only [Move.run, hr, orKeep_error]

/-- A content is there exactly when one was there before or the program sets one. -/
theorem Pinned.content?_run {b : Builder α} (h : Pinned origin b) (p : Program α β) :
    (p.run b).content?.isSome = (b.content?.isSome || p.setsContent) := by
  induction p with
  | done => simp only [Program.run, Program.setsContent, Bool.or_false]
  | andThen first rest ih =>
    rw [Program.run, ih (h.run_move first), h.content?_run_move first, Program.setsContent, Bool.or_assoc]

/-- **A response cannot leave its request.** Every program started on the reply to a request ends on a
builder that refuses another exchange or routing key; what it builds is the response to that request, through
the default exchange, to the reply-to of the request, under its correlation id; and it fails to build
exactly when the program set no content, or set one and left a bag with another correlation id. -/
theorem response_pinned (request : Incoming γ) (start : Builder α) (h : reply? request = some start)
    (p : Program α β) :
    ∃ origin, request.origin? = some origin ∧
      (∀ name, (p.run start).apply (.exchange name) = .error (.destinationPinned "exchange")) ∧
      (∀ key, (p.run start).apply (.routingKey key) = .error (.destinationPinned "routing key")) ∧
      (∀ fresh m, (p.run start).build fresh = .ok m →
        ∃ e, m = .response e origin ∧ e.exchange = defaultExchange ∧ e.routingKey = origin.replyTo ∧
          e.properties.correlationId = some origin.correlationId) ∧
      (∀ fresh e, (p.run start).build fresh = .error e ↔
        (p.setsContent = false ∧ e = .missingContent) ∨
        (p.setsContent = true ∧ ∃ id, (p.run start).properties.correlationId = some id ∧
          id ≠ origin.correlationId ∧ e = .correlationMismatch origin.correlationId id)) := by
  obtain ⟨origin, ho, rfl⟩ := Option.map_eq_some_iff.1 h
  have hp : Pinned origin (p.run (response origin)) := pinned_response.run p
  have hc : (p.run (response origin)).content?.isSome = p.setsContent := by
    rw [pinned_response.content?_run p]; rfl
  refine ⟨origin, ho, fun name => (hp.apply_destination name).1, fun key => (hp.apply_destination key).2, ?_, ?_⟩
  · intro fresh m hm
    rcases hp.build_cases fresh with ⟨-, hb⟩ | ⟨content, -, ⟨id, -, -, hb⟩ | ⟨-, hb⟩⟩
    · rw [hb] at hm; cases hm
    · rw [hb] at hm; cases hm
    · rw [hb] at hm; cases hm
      exact ⟨_, rfl, rfl, rfl, rfl⟩
  · intro fresh e
    rcases hp.build_cases fresh with ⟨hn, hb⟩ | ⟨content, hs, ⟨id, hid, hne, hb⟩ | ⟨hi, hb⟩⟩
    · have hset : p.setsContent = false := by rw [← hc, hn]; rfl
      rw [hb, hset]
      simp [eq_comm]
    · have hset : p.setsContent = true := by rw [← hc, hs]; rfl
      rw [hb, hset, hid]
      simp [hne, eq_comm]
    · have hset : p.setsContent = true := by rw [← hc, hs]; rfl
      rw [hb, hset]
      constructor
      · rintro ⟨⟩
      · rintro (⟨hf, -⟩ | ⟨-, id, hid, hne, -⟩)
        · cases hf
        · exact absurd (hi id hid) hne

/-- A request as it comes from a queue. -/
def ping : Incoming Bytes :=
  .request ⟨"rpc", "echo", { replyTo := some "replies", correlationId := some "abc-123" }, [1, 2]⟩ ⟨"echo", 7, false⟩
    ⟨"rpc", "echo", "replies", "abc-123", none⟩

/-- A bag brought in between two rebuilds is caught however late the message is built. -/
theorem response_pinned_ping :
    ∃ start : Builder Unit, reply? ping = some start ∧
      ∀ fresh, (Program.run (.andThen (.content "pong") (.andThen (.rebuild "x")
        (.andThen (.set (.properties { correlationId := some "other" })) (.andThen (.rebuild "y") .done))))
          start).build fresh = .error (.correlationMismatch "abc-123" "other") := by
  refine ⟨_, rfl, fun fresh => ?_⟩
  obtain ⟨origin, ho, -, -, -, hb⟩ := response_pinned ping _ rfl (.andThen (.content "pong")
    (.andThen (.rebuild "x") (.andThen (.set (.properties { correlationId := some "other" }))
      (.andThen (.rebuild "y") .done))))
  cases ho
  exact (hb fresh _).2 (.inr ⟨rfl, "other", rfl, by decide, rfl⟩)

end BrokerClient.Builder
