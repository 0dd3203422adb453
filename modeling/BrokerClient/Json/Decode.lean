import BrokerClient.Json.Skip

/-!
# Values of an expected shape

Parsers for what a JSON text may be expected to stand for: any value, a text, a natural number in a
range, a list, a dictionary, one of some names, a record. A record is an object with its fields as
members, in any order and among others, or a list of its fields in order. Brackets may be nested
`maxDepth - 1` deep.
-/

namespace BrokerClient.Json

/-- The depth at which an opening bracket is refused. -/
def maxDepth : Nat := 128

namespace Parser

variable {α ρ : Type}

/-- Refuses a value of another type than the one expected, of which only simple ones are read. -/
def refuse (start : Char) (expected : String) : Parser α := do
  let wrong (f : Found) : Parser α := throw (.wrongType f expected)
  match start with
  | 'n' => skip; word "ull".toList; wrong .null
  | 't' => skip; word "rue".toList; wrong (.bool true)
  | 'f' => skip; word "alse".toList; wrong (.bool false)
  | '"' => skip; wrong (.string (← stringRest))
  | '[' => wrong .sequence
  | '\x7b' => wrong .map
  | _ => if startsNumber start then wrong (.number (← number start)) else throw .expectedValue

/-! ## Simple values -/

def text (expected : String := "a string") : Parser String := do
  let c ← valueStart
  if c = '"' then skip; stringRest else refuse c expected

/-- A natural number below a bound. -/
def naturalBelow (bound : Nat) (expected : String) : Parser Nat := do
  let c ← valueStart
  if startsNumber c then
    match ← number c with
    | .integer n =>
      if 0 ≤ n ∧ n < bound then return n.toNat else throw (.wrongValue (.integer n) expected)
    | n => throw (.wrongType (.number n) expected)
  else refuse c expected

/-- The value without content. -/
def unit : Parser Unit := do
  let c ← valueStart
  if c = 'n' then skip; word "ull".toList else refuse c "unit"

/-! ## Brackets -/

/-- Takes an opening bracket at some depth, and gives the depth inside. -/
def openBracket (depth : Nat) : Parser Nat := do
  if depth ≤ 1 then throw .recursionLimit
  skip
  return depth - 1

/-- Whether a list goes on, from behind its bracket or behind an item. -/
def hasItem (first : Bool) : Parser Bool := do
  match ← significant with
  | none => throw (.unfinished .list)
  | some ']' => return false
  | some ',' =>
    if first then return true
    skip
    match ← significant with
    | none => throw (.unfinished .value)
    | some ']' => throw .trailingComma
    | some _ => return true
  | some _ => if first then return true else throw .expectedCommaOrBracket

/-- The end of a list. -/
def closeList : Parser Unit := do
  match ← significant with
  | none => throw (.unfinished .list)
  | some ']' => skip
  | some ',' =>
    skip
    match ← attempt significant with
    | .ok (some ']') => throw .trailingComma
    | _ => throw .trailingCharacters
  | some _ => throw .trailingCharacters

/-- Whether an object goes on, from behind its bracket or behind a member. -/
def hasMember (first : Bool) : Parser Bool := do
  match ← significant with
  | none => throw (.unfinished .object)
  | some '\x7d' => return false
  | some c =>
    if first then
      if c = '"' then return true else throw .keyNotString
    else if c = ',' then
      skip
      match ← significant with
      | none => throw (.unfinished .value)
      | some '"' => return true
      | some '\x7d' => throw .trailingComma
      | some _ => throw .keyNotString
    else throw .expectedCommaOrBrace

/-- The end of an object. -/
def closeObject : Parser Unit := do
  match ← significant with
  | none => throw (.unfinished .object)
  | some '\x7d' => skip
  | some ',' => throw .trailingComma
  | some _ => throw .trailingCharacters

/-- The key of a member, whose quote has been looked at. -/
def key : Parser String := do
  skip
  stringRest

def colon : Parser Unit := do
  match ← significant with
  | none => throw (.unfinished .object)
  | some ':' => skip
  | some _ => throw .expectedColon

/-- The items of a list, given those before them, last first. -/
def items (item : Parser α) : Nat → List α → Parser (List α)
  | 0, found => return found.reverse
  | fuel + 1, found => do
    if ← hasItem found.isEmpty then
      let a ← item
      items item fuel (a :: found)
    else return found.reverse

/-- The members of an object, given those before them, last first. -/
def members (value : Parser α) : Nat → List (String × α) → Parser (List (String × α))
  | 0, found => return found.reverse
  | fuel + 1, found => do
    if ← hasMember found.isEmpty then
      let k ← key
      colon
      let a ← value
      members value fuel ((k, a) :: found)
    else return found.reverse

/-! ## Shapes -/

/-- Any value. -/
def value : Nat → Parser Value
  | 0 => throw .recursionLimit
  | depth + 1 => do
    let c ← valueStart
    match c with
    | 'n' => skip; word "ull".toList; return .null
    | 't' => skip; word "rue".toList; return .bool true
    | 'f' => skip; word "alse".toList; return .bool false
    | '"' => skip; return .string (← stringRest)
    | '[' =>
      discard (openBracket (depth + 1))
      return .array (← enclosed (do items (value depth) (← rounds) []) closeList)
    | '\x7b' =>
      discard (openBracket (depth + 1))
      return .object (Dictionary.ofEntries (← enclosed (do members (value depth) (← rounds) []) closeObject)).toList
    | _ => if startsNumber c then return .number (← number c) else throw .expectedValue

/-- A list. -/
def list (item : Nat → Parser α) (depth : Nat) : Parser (List α) := do
  let c ← valueStart
  if c = '[' then
    let inner ← openBracket depth
    enclosed (do items (item inner) (← rounds) []) closeList
  else refuse c "a sequence"

/-- A dictionary, in which a later member replaces an earlier one of the same key. -/
def dictionary (item : Nat → Parser α) (depth : Nat) : Parser (Dictionary α) := do
  let c ← valueStart
  if c = '\x7b' then
    let inner ← openBracket depth
    return Dictionary.ofEntries (← enclosed (do members (item inner) (← rounds) []) closeObject)
  else refuse c "a map"

/-- A text that is one of some names, from its opening quote on. -/
def name (names : List (String × α)) : Parser α := do
  let word ← text "variant identifier"
  match names.lookup word with
  | some a => return a
  | none => throw (.unknownVariant word (names.map (·.1)))

/-- One of some names, written as a text or as the key of nothing. -/
def oneOf (names : List (String × α)) (depth : Nat) : Parser α := do
  match ← significant with
  | some '"' => name names
  | some '\x7b' =>
    discard (openBracket depth)
    match ← significant with
    | some '"' =>
      let a ← name names
      colon
      unit
      match ← significant with
      | some '\x7d' => skip; return a
      | some _ => throw .expectedValue
      | none => throw (.unfinished .object)
    | some '\x7d' => throw .expectedValue
    | some _ => throw .keyNotString
    | none => throw (.unfinished .value)
  | some _ => throw .expectedValue
  | none => throw (.unfinished .value)

/-! ## Records -/

/-- A field of a record: its name, and how its value at some depth changes the record. -/
structure RecordField (ρ : Type) where
  name : String
  change : Nat → Parser (ρ → ρ)

/-- A field that takes a value as it is. -/
def RecordField.of (name : String) (value : Nat → Parser α) (set : α → ρ → ρ) : RecordField ρ :=
  ⟨name, fun depth => set <$> value depth⟩

/-- A kind of record: its name, its fields, and the record before any field is read. Unless fields are
`required`, one that is not given keeps its value. -/
structure RecordShape (ρ : Type) where
  name : String
  fields : List (RecordField ρ)
  start : ρ
  required : Bool

namespace RecordShape

/-- A kind of record in the text of an error. -/
def describe (s : RecordShape ρ) : String := "struct " ++ s.name

/-- A kind of record with the number of its fields. -/
def describeLength (s : RecordShape ρ) : String :=
  s.describe ++ " with " ++ toString s.fields.length ++ " elements"

/-- The fields as the items of a list. -/
def fromItems (s : RecordShape ρ) (depth : Nat) : List (RecordField ρ) → Nat → ρ → Parser ρ
  | [], _, record => return record
  | field :: rest, count, record => do
    if ← hasItem (count = 0) then
      let change ← field.change depth
      s.fromItems depth rest (count + 1) (change record)
    else if s.required then throw (.wrongLength count s.describeLength)
    else return record

/-- The fields as the members of an object, given the names of those before them. -/
def fromMembers (s : RecordShape ρ) (depth : Nat) : Nat → Bool → List String → ρ → Parser ρ
  | 0, _, _, record => return record
  | fuel + 1, first, seen, record => do
    if ← hasMember first then
      let k ← key
      match s.fields.find? (·.name == k) with
      | none =>
        colon
        skipValue
        s.fromMembers depth fuel false seen record
      | some field =>
        if seen.contains k then throw (.duplicateField k)
        colon
        let change ← field.change depth
        s.fromMembers depth fuel false (k :: seen) (change record)
    else
      match s.fields.find? fun f => s.required && !seen.contains f.name with
      | some f => throw (.missingField f.name)
      | none => return record

end RecordShape

/-- A record. -/
def record (s : RecordShape ρ) (depth : Nat) : Parser ρ := do
  let c ← valueStart
  match c with
  | '[' =>
    let inner ← openBracket depth
    enclosed (s.fromItems inner s.fields 0 s.start) closeList
  | '\x7b' =>
    let inner ← openBracket depth
    enclosed (do s.fromMembers inner (← rounds) true [] s.start) closeObject
  | _ => refuse c s.describe

/-! ## Whole texts -/

/-- A value of a shape, with nothing but blanks behind it. -/
def document (p : Nat → Parser α) : Parser α := do
  let a ← p maxDepth
  match ← significant with
  | none => return a
  | some _ => throw .trailingCharacters

end Parser

/-- Reads a value of a shape from a source of at most `bound` bytes. -/
def reading {α : Type} (p : Nat → Parser α) (bound : Nat) : ByteStream.Reading (Except Error α) :=
  (Parser.document p).toReading bound

/-- The value of a shape that bytes stand for. -/
def decode {α : Type} (p : Nat → Parser α) (bytes : Bytes) : Except Error α :=
  ((reading p bytes.length).run bytes).1

end BrokerClient.Json
