import BrokerClient.Log
import BrokerClient.Message.Properties
import BrokerClient.Text.Lowercase

/-!
# Trace contexts

A trace context travels in the headers of a message as pairs of texts. `inject` writes each pair under
its key in lower case; `extract` reads every header that holds a text, passing over the others and
reporting those whose bytes are not text. A consumer opens a span for each delivery, whose parent is the
context found there.
-/

namespace BrokerClient

/-- A trace context: keys with values. -/
abbrev TraceContext := List (String × String)

namespace TraceContext

/-- Writes one pair (`RabbitMQTracePropagator::set`). -/
def set (headers : Table) (pair : String × String) : Table :=
  headers.insert (Text.lowercase pair.1) (.text pair.2)

/-- Writes a context into headers, pair by pair. -/
def injectHeaders (context : TraceContext) (headers : Table) : Table := context.foldl set headers

/-- Writes a context into the headers of a message (`inject_context`). -/
def inject (context : TraceContext) (p : Properties) : Properties :=
  { p with headers := injectHeaders context p.headers }

/-- The report about a header whose bytes are not text. -/
def undecodable (d : Text.Utf8.Defect) : LogEntry :=
  let length := match d.length with
    | some n => "Some(" ++ toString n ++ ")"
    | none => "None"
  .error ("Error decoding header value Utf8Error \x7b valid_up_to: " ++ toString d.validUpTo ++
    ", error_len: " ++ length ++ " \x7d")

/-- The text of a header's value, if it holds one. -/
def valueText? : FieldValue → Option String
  | .longString bytes => Text.Utf8.toString? bytes
  | .shortString s => some s
  | _ => none

/-- The text under a key (`RabbitMQTracePropagator::get`). -/
def get? (headers : Table) (key : String) : Option String := (headers.get? key).bind valueText?

/-- The report that reading a header's value makes, if any. -/
def report? : FieldValue → Option LogEntry
  | .longString bytes => (Text.Utf8.defect? bytes).map undecodable
  | _ => none

/-- The context that headers carry (`extract_context`). -/
def extract (headers : Table) : TraceContext :=
  headers.toList.filterMap fun e => (valueText? e.2).map fun text => (e.1, text)

/-- The reports made while a context is read. -/
def reports (headers : Table) : List LogEntry := headers.toList.filterMap fun e => report? e.2

end TraceContext

/-- How a span ended. -/
inductive SpanStatus where
  | unset
  | ok
  | error (description : String)
deriving DecidableEq, Repr

/-- The work on one delivery: its name, the context it continues, and the failures recorded in it. -/
structure Span where
  name : String
  parent : TraceContext
  errors : List String := []
  status : SpanStatus := .unset
deriving DecidableEq, Repr

/-- A span on the context that headers carry (`new_span`). -/
def Span.start (headers : Table) (name : String) : Span := ⟨name, TraceContext.extract headers, [], .unset⟩

end BrokerClient
