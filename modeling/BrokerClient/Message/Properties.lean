import BrokerClient.Field.Value

/-!
# Message properties

The properties of a message in two forms: `Properties`, the bag that applications work with, and
`WireProperties`, the set of optional fields that a broker carries. Reading the wire form fails only on
an unknown delivery mode; writing always sets the delivery mode and the headers. Reading back what was
written gives the same bag (`ofWire_toWire`).
-/

namespace BrokerClient

/-- Why a message cannot be put together or taken in (`EnvelopeError`). -/
inductive EnvelopeError where
  | invalidDeliveryMode (value : Nat)
  | correlationMismatch (expected found : String)
  | destinationPinned (part : String)
  | missingContent
  | missingCorrelationId
deriving DecidableEq, Repr

def EnvelopeError.message : EnvelopeError → String
  | .invalidDeliveryMode value =>
    "invalid delivery mode `" ++ toString value ++ "`, expected 1 (transient) or 2 (persistent)"
  | .correlationMismatch expected found =>
    "response correlation id `" ++ found ++ "` does not match request correlation id `" ++ expected ++ "`"
  | .destinationPinned part =>
    "the " ++ part ++ " of a response is derived from its request and cannot be changed"
  | .missingContent => "message has no content"
  | .missingCorrelationId => "incoming response has no correlation id"

/-- Whether the broker keeps a message on disk (`DeliveryMode`). -/
inductive DeliveryMode where
  | transient
  | persistent
deriving DecidableEq, Repr, Inhabited

namespace DeliveryMode

/-- The number of a mode on the wire (`DeliveryMode::as_u8`). -/
def value : DeliveryMode → Nat
  | .transient => 1
  | .persistent => 2

/-- The mode of a number, which is 1 or 2 (`DeliveryMode::try_from`). -/
def ofValue : Nat → Except EnvelopeError DeliveryMode
  | 1 => .ok .transient
  | 2 => .ok .persistent
  | n => .error (.invalidDeliveryMode n)

@[simp] theorem ofValue_value (m : DeliveryMode) : ofValue m.value = .ok m := by cases m <;> rfl

end DeliveryMode

/-- The header that names the encodings a requester accepts for its reply (`HEADER_ACCEPT_ENCODING`). -/
def acceptEncodingHeader : String := "accept-encoding"

/-- The property bag of a message (`MessageProperties`). -/
structure Properties where
  contentType : Option String := none
  contentEncoding : Option String := none
  headers : Table := .nil
  deliveryMode : DeliveryMode := .transient
  correlationId : Option String := none
  replyTo : Option String := none
  /-- The type tag. -/
  kind : Option String := none

/-- The properties of a message as a broker carries them (`BasicProperties`). -/
structure WireProperties where
  contentType : Option String := none
  contentEncoding : Option String := none
  headers : Option Table := none
  deliveryMode : Option Nat := none
  priority : Option Nat := none
  correlationId : Option String := none
  replyTo : Option String := none
  expiration : Option String := none
  messageId : Option String := none
  timestamp : Option Nat := none
  kind : Option String := none
  userId : Option String := none
  appId : Option String := none
  clusterId : Option String := none

namespace Properties

/-- Reads the wire form (`MessageProperties::try_from`). Only an unknown delivery mode fails. -/
def ofWire (w : WireProperties) : Except EnvelopeError Properties := do
  let deliveryMode ← match w.deliveryMode with
    | some n => DeliveryMode.ofValue n
    | none => pure .transient
  return {
    contentType := w.contentType
    contentEncoding := w.contentEncoding
    headers := w.headers.getD .nil
    deliveryMode
    correlationId := w.correlationId
    replyTo := w.replyTo
    kind := w.kind }

/-- The wire form, with the delivery mode and the headers always set (`BasicProperties::from`). -/
def toWire (p : Properties) : WireProperties := {
  contentType := p.contentType
  contentEncoding := p.contentEncoding
  headers := some p.headers
  deliveryMode := some p.deliveryMode.value
  correlationId := p.correlationId
  replyTo := p.replyTo
  kind := p.kind }

/-- Sets a header, replacing an earlier value (`MessageProperties::with_header`). -/
def withHeader (p : Properties) (key : String) (value : FieldValue) : Properties :=
  { p with headers := p.headers.insert key value }

/-- The text of a header that holds one; ill-formed bytes in it are replaced (`MessageProperties::header_str`). -/
def headerText? (p : Properties) (key : String) : Option String :=
  match p.headers.get? key with
  | some (.longString bytes) => some (Text.Utf8.toStringLossy bytes)
  | some (.shortString s) => some s
  | _ => none

/-- The encodings that a requester accepts for its reply. -/
def acceptEncoding (p : Properties) : Option String := p.headerText? acceptEncodingHeader

@[simp] theorem ofWire_toWire (p : Properties) : ofWire p.toWire = .ok p := by
  simp [ofWire, toWire, bind, Except.bind, pure, Except.pure]

end Properties
end BrokerClient
