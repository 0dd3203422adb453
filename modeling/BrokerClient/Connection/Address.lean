import BrokerClient.Connection.Connector
import BrokerClient.Text.Lowercase
import BrokerClient.Url.Basic

/-!
# Addresses of brokers

A broker's address is a URL of one of two schemes. Its path names a virtual host, and some of its
parameters set limits and say how to log in. `Address.defect?` says why a text is not the address of a
broker, if it is not: first what makes it no URL, then what a broker cannot be reached by. `Address.library` is a client
library that reads addresses in this way.
-/

namespace BrokerClient

namespace Address

inductive Defect where
  | url (e : Url.Error)
  /-- A URL whose path does not start with a slash. -/
  | noSlash (address : String)
  | scheme (name : String)
  | utf8 (d : Text.Utf8.Defect)
  | emptyNumber
  | notNumber
  | numberTooLarge
  | mechanism (name : String)

def Defect.message : Defect → String
  | .url e => e.message
  | .noSlash address => "Invalid URL: '" ++ address ++ "'"
  | .scheme name => "Invalid AMQP scheme: " ++ name
  | .utf8 ⟨validUpTo, some length⟩ =>
    "invalid utf-8 sequence of " ++ toString length ++ " bytes from index " ++ toString validUpTo
  | .utf8 ⟨validUpTo, none⟩ => "incomplete utf-8 byte sequence from index " ++ toString validUpTo
  | .emptyNumber => "cannot parse integer from empty string"
  | .notNumber => "invalid digit found in string"
  | .numberTooLarge => "number too large to fit in target type"
  | .mechanism name => "Invalid SASL mechanism: " ++ name

def schemes : List String := ["amqp", "amqps"]

/-! ## Checks -/

def checkText (cs : List Char) : Except Defect Unit :=
  match Text.Utf8.defect? (Url.percentDecoded cs) with
  | some d => .error (.utf8 d)
  | none => .ok ()

/-- The host, unless it is a number. -/
def checkHost : Option Url.Host → Except Defect Unit
  | some (.name text) => checkText text
  | _ => .ok ()

/-- The virtual host, if the path names one. -/
def checkPath : Url.Path → Except Defect Unit
  | .segments texts => checkText (['/'].intercalate texts)
  | .text cs => checkText cs

/-- The parameters that are numbers, with the bounds on them. -/
def numbers : List (String × Nat) :=
  [("frame_max", Nat.pow 2 32), ("channel_max", Nat.pow 2 16), ("heartbeat", Nat.pow 2 16),
    ("connection_timeout", Nat.pow 2 64)]

/-- Digits on top of a number that stays below a bound. The first fault is the one that counts. -/
def checkDigits (bound : Nat) (value : Nat) : List Char → Except Defect Unit
  | [] => .ok ()
  | c :: rest =>
    let value := 10 * value + Text.Hex.value c
    if !Text.Ascii.isDigit c then .error .notNumber
    else if bound ≤ value then .error .numberTooLarge
    else checkDigits bound value rest

/-- A natural number below a bound, perhaps with a plus sign. -/
def checkNumber (bound : Nat) (value : List Char) : Except Defect Unit :=
  match value with
  | [] => .error .emptyNumber
  | ['+'] => .error .notNumber
  | '+' :: digits => checkDigits bound 0 digits
  | digits => checkDigits bound 0 digits

/-- The ways to log in. -/
def mechanisms : List String := ["amqplain", "external", "plain", "rabbit-cr-demo"]

/-- A way to log in, whatever the case of its letters. -/
def checkMechanism (name : String) : Except Defect Unit :=
  let name := Text.lowercase name
  if mechanisms.contains name then .ok () else .error (.mechanism name)

/-- The parameters. Of one that is given twice the first counts. -/
def checkQuery (query : List Char) : Except Defect Unit := do
  let given := Url.parameters query
  numbers.forM fun (name, bound) => match given.lookup name with
    | some value => checkNumber bound value.toList
    | none => .ok ()
  match given.lookup "auth_mechanism" with
  | some name => checkMechanism name
  | none => return

def check (address : String) : Except Defect Unit := do
  let url ← (Url.parse address).mapError .url
  match url.path with
  | .text _ => throw (.noSlash address)
  | .segments _ => pure ()
  if !schemes.contains url.scheme then throw (.scheme url.scheme)
  checkText url.authority.user
  checkText url.authority.password
  checkHost url.authority.host
  checkPath url.path
  checkQuery (url.query.getD [])

/-- Why a text is not the address of a broker. -/
def defect? (address : String) : Option Defect :=
  match check address with
  | .ok _ => none
  | .error d => some d

/-- A client library that refuses what is not the address of a broker. -/
def library : ClientLibrary := ⟨fun address => (defect? address).map fun d => "IO error: " ++ d.message⟩

end Address
end BrokerClient
