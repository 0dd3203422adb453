import BrokerClient.ByteStream.Source
import BrokerClient.Json.Value

/-!
# Why a JSON text is refused

A text can fail to be read, end too early, break the grammar, or stand for a value of another shape than
the one expected.
-/

namespace BrokerClient.Json

/-- What is being read when a text ends. -/
inductive Construct where
  | value
  | list
  | object
  | string
deriving DecidableEq, Repr

/-- A value in the text of an error: simple values as they are, others by kind. -/
inductive Found where
  | null
  | bool (b : Bool)
  | number (n : Number)
  | string (s : String)
  | sequence
  | map
deriving DecidableEq, Repr

inductive Error where
  | input (cause : ByteStream.IoError)
  | unfinished (construct : Construct)
  | expectedValue
  | expectedWord
  | expectedColon
  | expectedCommaOrBracket
  | expectedCommaOrBrace
  | trailingComma
  | trailingCharacters
  | keyNotString
  | invalidNumber
  | numberOutOfRange
  | invalidEscape
  | unfinishedEscape
  | loneSurrogate
  | controlCharacter
  | invalidCodePoint
  | recursionLimit
  | wrongType (found : Found) (expected : String)
  | wrongValue (found : Number) (expected : String)
  | wrongLength (length : Nat) (expected : String)
  | missingField (name : String)
  | duplicateField (name : String)
  | unknownVariant (name : String) (expected : List String)
deriving DecidableEq, Repr

def Construct.describe : Construct → String
  | .value => "a value"
  | .list => "a list"
  | .object => "an object"
  | .string => "a string"

def backquoted (s : String) : String := "`" ++ s ++ "`"

def describeNumber : Number → String
  | .integer n => "integer " ++ backquoted (Number.integer n).render
  | .double bits => "floating point " ++ backquoted (Number.double bits).render

def Found.describe : Found → String
  | .null => "null"
  | .bool b => "boolean " ++ backquoted (toString b)
  | .number n => describeNumber n
  | .string s => "string " ++ Text.quoted s
  | .sequence => "sequence"
  | .map => "map"

def Error.message : Error → String
  | .input cause => cause.message
  | .unfinished c => "EOF while parsing " ++ c.describe
  | .expectedValue => "expected value"
  | .expectedWord => "expected ident"
  | .expectedColon => "expected `:`"
  | .expectedCommaOrBracket => "expected `,` or `]`"
  | .expectedCommaOrBrace => "expected `,` or `\x7d`"
  | .trailingComma => "trailing comma"
  | .trailingCharacters => "trailing characters"
  | .keyNotString => "key must be a string"
  | .invalidNumber => "invalid number"
  | .numberOutOfRange => "number out of range"
  | .invalidEscape => "invalid escape"
  | .unfinishedEscape => "unexpected end of hex escape"
  | .loneSurrogate => "lone leading surrogate in hex escape"
  | .controlCharacter => "control character (\\u0000-\\u001F) found while parsing a string"
  | .invalidCodePoint => "invalid unicode code point"
  | .recursionLimit => "recursion limit exceeded"
  | .wrongType found expected => "invalid type: " ++ found.describe ++ ", expected " ++ expected
  | .wrongValue found expected => "invalid value: " ++ describeNumber found ++ ", expected " ++ expected
  | .wrongLength length expected => "invalid length " ++ toString length ++ ", expected " ++ expected
  | .missingField name => "missing field " ++ backquoted name
  | .duplicateField name => "duplicate field " ++ backquoted name
  | .unknownVariant name expected =>
    "unknown variant " ++ backquoted name ++ ", expected " ++ " or ".intercalate (expected.map backquoted)

end BrokerClient.Json
