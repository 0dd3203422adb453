import BrokerClient.Dictionary
import BrokerClient.Text.Utf8

/-!
# Field values and tables

The values that message headers and declaration arguments carry. A table maps short texts to values and
is a dictionary, so that it is printed and sent in the order of its keys.
-/

namespace BrokerClient

/-- A typed value. Floating-point numbers are kept as their bit patterns. -/
inductive FieldValue where
  | boolean (b : Bool)
  | shortShortInt (n : Int8)
  | shortShortUInt (n : UInt8)
  | shortInt (n : Int16)
  | shortUInt (n : UInt16)
  | longInt (n : Int32)
  | longUInt (n : UInt32)
  | longLongInt (n : Int64)
  | float (bits : UInt32)
  | double (bits : UInt64)
  | decimal (scale : UInt8) (value : UInt32)
  | shortString (s : String)
  | longString (bytes : Bytes)
  | array (items : List FieldValue)
  | timestamp (seconds : UInt64)
  | table (entries : Entries FieldValue none)
  | byteArray (bytes : Bytes)
  | void
deriving Inhabited

/-- A table: keys in rising order, each with its value. -/
abbrev Table := Dictionary FieldValue

/-- A long text given as characters. -/
def FieldValue.text (s : String) : FieldValue := .longString (Text.Utf8.ofString s)

end BrokerClient
