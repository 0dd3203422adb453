import BrokerClient.Encoding.Content
import BrokerClient.Number.Binary
import BrokerClient.Text.Blank

/-!
# Preference lists

A list of encoding tokens with weights, `token[;q=weight]` between commas. A token without a weight
has weight 1; a token listed twice has its highest weight and its first place. A weight is a decimal
rounded to single precision, kept as the pattern of its magnitude, so that weights compare as natural
numbers. `Accept.parse` ranks the tokens of positive weight, heaviest first and earlier first among
equals, and sets the tokens of weight 0 apart.
-/

namespace BrokerClient

/-- A weight between 0 and 1: the pattern of a magnitude in single precision. -/
abbrev Weight := Nat

/-- The weight of a token listed without one. -/
def Weight.one : Weight := Number.single.nearest 1 1

/-- A token and its weight (`Preference`). -/
structure Preference where
  token : String
  weight : Weight
deriving DecidableEq, Repr

namespace Preference

/-! ## One entry -/

/-- The characters of tokens (`is_token_char`). -/
def isTokenChar (c : Char) : Bool :=
  Text.Ascii.isAlphanumeric c || c == '-' || c == '_' || c == '.' || c == '+' || c == '*'

def isToken (cs : List Char) : Bool := !cs.isEmpty && cs.all isTokenChar

/-- Digits with at most one point, which does not come first. -/
def isDecimal (cs : List Char) : Bool :=
  !cs.isEmpty && cs.all (fun c => Text.Ascii.isDigit c || c == '.') && cs.count '.' ≤ 1 &&
    cs.head? != some '.'

/-- The natural number that the digits of a text spell, its other characters passed over. -/
def digitsValue (cs : List Char) : Nat :=
  cs.foldl (fun n c => if Text.Ascii.isDigit c then 10 * n + (c.toNat - '0'.toNat) else n) 0

/-- A decimal as a quotient: its digits over a power of ten, one for each place after the point. -/
def decimalQuotient (cs : List Char) : Nat × Nat :=
  (digitsValue cs, Nat.pow 10 ((cs.dropWhile (· != '.')).drop 1).length)

/-- The weight that the text of a `q` parameter spells (`parse_weight`). -/
def parseWeight (entry value : List Char) : Except EncodingError Weight :=
  if isDecimal value then
    let (num, den) := decimalQuotient value
    let weight := Number.single.nearest num den
    if weight ≤ Weight.one then .ok weight else .error (.weightOutOfRange (String.ofList value))
  else .error (.malformed (String.ofList entry))

/-- One parameter of an entry, given the weight that the parameters before it set. -/
def parseParameter (entry : List Char) (weight : Option Weight) (param : List Char) :
    Except EncodingError (Option Weight) :=
  match Text.splitOnce '=' param with
  | none => .error (.malformed (String.ofList entry))
  | some (key, value) =>
    if Text.Ascii.sameLetters (String.ofList (Text.trimChars key)) "q" && weight.isNone then
      some <$> parseWeight entry (Text.trimChars value)
    else .error (.malformed (String.ofList entry))

/-- An entry that is not blank (`parse_entry`). -/
def parseEntry (entry : List Char) : Except EncodingError Preference :=
  match (Text.splitChars ';' entry).map Text.trimChars with
  | [] => .error (.malformed (String.ofList entry))
  | token :: params =>
    if isToken token then do
      let weight ← params.foldlM (parseParameter entry) none
      return ⟨Text.Ascii.lower (String.ofList token), weight.getD Weight.one⟩
    else .error (.malformed (String.ofList entry))

/-! ## The whole list -/

/-- Adds an entry to the tokens collected so far: a new token at the end, a known one in its place
with the higher weight. -/
def collect (seen : List Preference) (p : Preference) : List Preference :=
  if seen.any (·.token == p.token) then
    seen.map fun q => if q.token = p.token then ⟨q.token, max q.weight p.weight⟩ else q
  else seen ++ [p]

/-- The entries of a header that are not blank, trimmed. -/
def entries (header : String) : List (List Char) :=
  ((Text.splitChars ',' header.toList).map Text.trimChars).filter (!·.isEmpty)

end Preference

/-- A parsed preference list (`AcceptEncoding`). -/
structure Accept where
  /-- The header it was read from. -/
  header : String
  /-- The tokens of positive weight, best first. -/
  acceptable : List Preference
  /-- The tokens of weight 0, in alphabetical order. -/
  unacceptable : List String
deriving DecidableEq, Repr

namespace Accept

/-- Ranks collected tokens: a stable sort by falling weight, so that equals keep their order. -/
def rank (seen : List Preference) : List Preference := seen.mergeSort fun a b => b.weight ≤ a.weight

/-- Reads a header (`AcceptEncoding::parse`). The first entry that is malformed is the failure. -/
def parse (header : String) : Except EncodingError Accept := do
  let listed ← (Preference.entries header).mapM Preference.parseEntry
  let ranked := rank (listed.foldl Preference.collect [])
  return {
    header
    acceptable := ranked.filter (0 < ·.weight)
    unacceptable := ((ranked.filter (·.weight == 0)).map (·.token)).mergeSort fun s t => s ≤ t }

end Accept
end BrokerClient
