import BrokerClient.Text.Ascii

/-!
# Content encodings

The encodings a message's content can be written in and read from, their tokens, and what can go
wrong when one has to be agreed on. Tokens are looked up without regard to case, and every encoding
is found under its own token (`ofToken?_token`).
-/

namespace BrokerClient

/-- An encoding that contents can be written in (`ContentEncoding`). -/
inductive ContentEncoding where
  | identity
  | gzip
  | deflate
deriving DecidableEq, Repr, Inhabited

namespace ContentEncoding

/-- Every encoding, identity first (`ContentEncoding::ALL`). -/
def all : List ContentEncoding := [.identity, .gzip, .deflate]

/-- The token of an encoding in headers (`ContentEncoding::token`). -/
def token : ContentEncoding → String
  | .identity => "identity"
  | .gzip => "gzip"
  | .deflate => "deflate"

/-- The encoding with this token in any case (`ContentEncoding::from_token`). -/
def ofToken? (t : String) : Option ContentEncoding := all.find? fun e => Text.Ascii.sameLetters e.token t

theorem ofToken?_token (e : ContentEncoding) : ofToken? e.token = some e := by
  cases e <;> decide +kernel

end ContentEncoding

/-- Why a list of preferences or an encoding's token is refused (`EncodingError`). -/
inductive EncodingError where
  | malformed (entry : String)
  | weightOutOfRange (weight : String)
  | notAcceptable (header : String)
  | unsupported (token : String)
deriving DecidableEq, Repr

def EncodingError.message : EncodingError → String
  | .malformed entry => "malformed accept-encoding entry `" ++ entry ++ "`"
  | .weightOutOfRange weight => "accept-encoding weight `" ++ weight ++ "` is out of range [0, 1]"
  | .notAcceptable header => "no acceptable content encoding in `" ++ header ++ "`"
  | .unsupported token => "unsupported content encoding `" ++ token ++ "`"

end BrokerClient
