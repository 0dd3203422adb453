import BrokerClient.Dictionary
import BrokerClient.Number.Shortest
import BrokerClient.Text.Quoted

/-!
# JSON values

A JSON value and its compact text: no blanks, members in the order of their keys, and only those
characters escaped that must be. Numbers are integers or doubles; a double is written as the shortest
decimal that reads back, with an exponent below 1e-5 and from 1e16 on.
-/

namespace BrokerClient.Json

inductive Number where
  | integer (n : Int)
  /-- The bit pattern of a finite double. -/
  | double (bits : Nat)
deriving DecidableEq, Repr, Inhabited

inductive Value where
  | null
  | bool (b : Bool)
  | number (n : Number)
  | string (s : String)
  | array (items : List Value)
  | object (members : List (String × Value))
deriving Inhabited

/-! ## Text -/

/-- How doubles are written. -/
def numberStyle : Number.Style := ⟨-5, 16, true, .even⟩

def Number.render : Number → String
  | .integer n => toString n
  | .double bits => numberStyle.text BrokerClient.Number.double bits

/-- The four digits of an escaped character below U+10000. -/
def hexEscape (n : Nat) : String :=
  let digits := Text.hexDigits n
  "\\u" ++ String.ofList (List.replicate (4 - digits.length) '0') ++ digits

def escapeChar (c : Char) : String :=
  if c = '"' then "\\\""
  else if c = '\\' then "\\\\"
  else if c = '\n' then "\\n"
  else if c = '\r' then "\\r"
  else if c = '\t' then "\\t"
  else if c.toNat = 8 then "\\b"
  else if c.toNat = 12 then "\\f"
  else if c.toNat < 0x20 then hexEscape c.toNat
  else c.toString

/-- A text between quotes. -/
def renderString (s : String) : String :=
  "\"" ++ s.foldl (fun text c => text ++ escapeChar c) "" ++ "\""

mutual

/-- The compact text of a value. -/
def Value.render : Value → String
  | .null => "null"
  | .bool b => toString b
  | .number n => n.render
  | .string s => renderString s
  | .array items => "[" ++ ",".intercalate (Value.renderItems items) ++ "]"
  | .object members => "\x7b" ++ ",".intercalate (Value.renderMembers members) ++ "\x7d"

def Value.renderItems : List Value → List String
  | [] => []
  | v :: rest => v.render :: Value.renderItems rest

def Value.renderMembers : List (String × Value) → List String
  | [] => []
  | (key, v) :: rest => (renderString key ++ ":" ++ v.render) :: Value.renderMembers rest

end
end BrokerClient.Json
