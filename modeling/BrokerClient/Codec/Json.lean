import BrokerClient.Codec.Negotiator
import BrokerClient.Text.Blank

/-!
# The JSON codec

Payloads that have a JSON form are read from contents whose type is JSON or not given, and written as
compact JSON under the JSON content type, with a type tag where one is configured and the message has
none.
-/

namespace BrokerClient

open ByteStream

/-- Payloads with a JSON form: how it is read at some depth, and what it is. -/
class JsonPayload (α : Type) where
  read : Nat → Json.Parser α
  toValue : α → Json.Value

instance : JsonPayload String := ⟨fun _ => Json.Parser.text, .string⟩

/-- Bytes as the list of their numbers. -/
instance : JsonPayload Bytes where
  read := Json.Parser.list fun _ => (fun n => n.toUInt8) <$> Json.Parser.naturalBelow 256 "u8"
  toValue bytes := .array (bytes.map fun b => .number (.integer b.toNat))

instance : JsonPayload Json.Value := ⟨Json.Parser.value, id⟩

namespace JsonCodec

/-- The content type that the codec writes (`JSON_CONTENT_TYPE`). -/
def contentType : String := "application/json"

/-- Whether a content type is JSON's or ends in its suffix, parameters aside (`is_json`). No type may be JSON. -/
def isJson : Option String → Bool
  | none => true
  | some type =>
    let essence := String.ofList (Text.trimChars (type.toList.takeWhile (· != ';')))
    Text.Ascii.sameLetters essence contentType || essence.endsWith "+json"

variable {α : Type} [JsonPayload α]

/-- The reading half of `JsonCodec`. -/
def reader (priority : Int := 0) : Reader α where
  applicable m := isJson m.properties.contentType
  priority
  read bound _ := do
    return match ← Json.reading JsonPayload.read bound with
      | .ok a => .ok a
      | .error e => .error (.decode e.message)

/-- Sets the content type, and the type tag where there is none. -/
def describe (kind : Option String) (p : Properties) : Properties :=
  { p with contentType := some contentType, kind := p.kind <|> kind }

/-- The writing half of `JsonCodec`, with the type tag of `JsonCodec::with_kind`. -/
def writer (kind : Option String := none) (priority : Int := 0) : Writer α where
  applicable _ := true
  priority
  write value p := do
    return match ← Writing.writeAll (Text.Utf8.ofString (JsonPayload.toValue value).render) with
      | .ok _ => .ok (describe kind p)
      | .error e => .error (.encode e.message)

end JsonCodec
end BrokerClient
