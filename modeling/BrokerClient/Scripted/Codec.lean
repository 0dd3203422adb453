import BrokerClient.Codec.Json
import BrokerClient.Codec.Plain
import BrokerClient.Text.Hex

/-!
# Scripted codecs

Readers and writers that do what a list says: requests of given sizes, each with a record of its answer,
or given pieces written and flushed one by one. They show what a codec of any kind sees of its stream.
`Order` is a payload of two fields for the JSON codec.
-/

namespace BrokerClient.Scripted

open ByteStream

/-! ## A payload -/

structure Order where
  id : Nat := 0
  items : List String := []
deriving DecidableEq, Repr, Inhabited

namespace Order

open Json Parser in
def shape : RecordShape Order where
  name := "Order"
  fields := [
    .of "id" (fun _ => naturalBelow (Nat.pow 2 64) "u64") fun n o => { o with id := n },
    .of "items" (list fun _ => text) fun items o => { o with items }]
  start := {}
  required := true

instance : JsonPayload Order where
  read := Json.Parser.record shape
  toValue o := .object [("id", .number (.integer o.id)), ("items", .array (o.items.map .string))]

end Order

/-! ## Which messages a codec is for -/

/-- Messages of one kind, or else all or none. -/
structure Audience where
  kind : Option String := none
  never : Bool := false

def Audience.admits (a : Audience) (kind : Option String) : Bool :=
  match a.kind with
  | some k => kind == some k
  | none => !a.never

/-! ## Reading -/

/-- The answer to a request as text. -/
def record : Except IoError Bytes → String
  | .ok bytes => toString bytes.length ++ ":" ++ Text.Hex.encode bytes
  | .error e => e.kind.name ++ ":" ++ e.message

/-- Makes requests and records the answers. -/
def requests : List Nat → Reading (List String)
  | [] => return []
  | n :: rest => do
    let answer ← Reading.request n
    return record answer :: (← requests rest)

/-- What a scripted reader does: requests, a failure, or a value. -/
structure ReaderScript (α : Type) where
  audience : Audience := {}
  priority : Int := 0
  sizes : Option (List Nat) := none
  failure : Option String := none
  value : α
  /-- The value that the records of the requests are. -/
  ofRecords : String → α

def ReaderScript.toReader {α : Type} (s : ReaderScript α) : Reader α where
  applicable m := s.audience.admits m.properties.kind
  priority := s.priority
  read _ _ := do
    let records ← requests (s.sizes.getD [])
    return match s.failure with
      | some text => .error (.decode text)
      | none => .ok (if s.sizes.isSome then s.ofRecords ("|".intercalate records) else s.value)

/-! ## Writing -/

/-- Writes and flushes pieces, up to the first failure unless failures are ignored. -/
def pieces (ignoreErrors : Bool) : List Bytes → Writing (Except IoError Unit)
  | [] => return .ok ()
  | piece :: rest => do
    let written ← match ← Writing.writeAll piece with
      | .ok _ => Writing.flushAll
      | .error e => pure (.error e)
    match written with
    | .ok _ => pieces ignoreErrors rest
    | .error e => if ignoreErrors then pieces ignoreErrors rest else return .error e

/-- What a scripted writer does: pieces, changes of properties, a failure. -/
structure WriterScript where
  audience : Audience := {}
  priority : Int := 0
  pieces : List Bytes := []
  ignoreErrors : Bool := false
  change : Properties → Properties := id
  failure : Option String := none

def WriterScript.toWriter {α : Type} (s : WriterScript) : Writer α where
  applicable m := s.audience.admits m.properties.kind
  priority := s.priority
  write _ p := do
    return match ← Scripted.pieces s.ignoreErrors s.pieces with
      | .error e => .error (.encode e.message)
      | .ok _ => match s.failure with
        | some text => .error (.encode text)
        | none => .ok (s.change p)

end BrokerClient.Scripted
