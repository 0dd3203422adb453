import BrokerClient.Encoding.Content

/-!
# Failures of encoding and decoding
-/

namespace BrokerClient

/-- Why a content cannot be encoded or decoded (`CodecError`). `noReader` and `noWriter` name the payload's type. -/
inductive CodecError where
  | noReader (payload : String)
  | noWriter (payload : String)
  | tooLarge (max : Nat)
  | decode (text : String)
  | encode (text : String)
  | encoding (cause : EncodingError)
deriving DecidableEq, Repr

/-- The text for a content longer than `max` bytes. -/
def tooLargeText (max : Nat) : String :=
  "message too large: exceeds the maximum of " ++ toString max ++ " bytes"

def CodecError.message : CodecError → String
  | .noReader payload => "no applicable reader for payload type `" ++ payload ++ "`"
  | .noWriter payload => "no applicable writer for payload type `" ++ payload ++ "`"
  | .tooLarge max => tooLargeText max
  | .decode text => "failure to decode payload: " ++ text
  | .encode text => "failure to encode payload: " ++ text
  | .encoding cause => cause.message

end BrokerClient
