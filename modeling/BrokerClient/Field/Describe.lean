import BrokerClient.Field.Value
import BrokerClient.Number.Shortest
import BrokerClient.Text.Quoted

/-!
# Values in descriptions

The text of a value or a table inside the description of a declaration: the kind of the value, then its
content in brackets. Bytes are listed in decimal, short texts are quoted, and floating-point numbers are
the shortest decimals that read back, with an exponent below 1e-4 and from 1e16 on.
-/

namespace BrokerClient

/-- How floating-point numbers are written in descriptions. -/
def FieldValue.numberStyle : Number.Style := ⟨-4, 16, false, .up⟩

/-- Items between brackets, separated by commas. -/
def listing (opening : String) (items : List String) (closing : String) : String :=
  opening ++ ", ".intercalate items ++ closing

def describeBytes (bytes : Bytes) : String := listing "[" (bytes.map fun b => toString b.toNat) "]"

def describeKey (key : String) : String := "ShortString(" ++ Text.quoted key ++ ")"

/-- A kind and its content. -/
def tagged (kind content : String) : String := kind ++ "(" ++ content ++ ")"

mutual

def FieldValue.describe : FieldValue → String
  | .boolean b => tagged "Boolean" (toString b)
  | .shortShortInt n => tagged "ShortShortInt" (toString n.toInt)
  | .shortShortUInt n => tagged "ShortShortUInt" (toString n.toNat)
  | .shortInt n => tagged "ShortInt" (toString n.toInt)
  | .shortUInt n => tagged "ShortUInt" (toString n.toNat)
  | .longInt n => tagged "LongInt" (toString n.toInt)
  | .longUInt n => tagged "LongUInt" (toString n.toNat)
  | .longLongInt n => tagged "LongLongInt" (toString n.toInt)
  | .float bits => tagged "Float" (FieldValue.numberStyle.text Number.single bits.toNat)
  | .double bits => tagged "Double" (FieldValue.numberStyle.text Number.double bits.toNat)
  | .decimal scale value =>
    tagged "DecimalValue" ("DecimalValue \x7b scale: " ++ toString scale.toNat ++ ", value: " ++
      toString value.toNat ++ " \x7d")
  | .shortString s => tagged "ShortString" (describeKey s)
  | .longString bytes => tagged "LongString" (tagged "LongString" (describeBytes bytes))
  | .array items => tagged "FieldArray" (tagged "FieldArray" (listing "[" (describeItems items) "]"))
  | .timestamp seconds => tagged "Timestamp" (toString seconds.toNat)
  | .table entries =>
    tagged "FieldTable" (tagged "FieldTable" (listing "\x7b" (describeEntries entries) "\x7d"))
  | .byteArray bytes => tagged "ByteArray" (tagged "ByteArray" (describeBytes bytes))
  | .void => "Void"

def FieldValue.describeItems : List FieldValue → List String
  | [] => []
  | v :: rest => v.describe :: describeItems rest

def FieldValue.describeEntries {bound : Option String} : Entries FieldValue bound → List String
  | .nil => []
  | .cons k _ v rest => (describeKey k ++ ": " ++ v.describe) :: describeEntries rest

end

def Table.describe (t : Table) : String := listing "\x7b" (FieldValue.describeEntries t) "\x7d"

end BrokerClient
