import BrokerClient.Codec.Negotiator

/-!
# The codecs for text and bytes

Texts are read from contents of a text type and written as they are. Bytes are passed through, at the
lowest priority, so that anything more specific comes first.
-/

namespace BrokerClient

open ByteStream

/-- The size of the pieces in which a content is read to its end. -/
def pieceSize : Nat := 8192

/-- Reads everything, of at most `bound` bytes. -/
def readAll (bound : Nat) : Reading (Except IoError Bytes) := .toEnd pieceSize (bound + 1) []

namespace TextCodec

def contentType : String := "text/plain; charset=utf-8"

def notText : CodecError := .decode "stream did not contain valid UTF-8"

/-- The reading half of `TextCodec`. -/
def reader : Reader String where
  applicable m := m.properties.contentType.any (·.startsWith "text/")
  read bound _ := do
    return match ← readAll bound with
      | .error e => .error (.decode e.message)
      | .ok bytes => match Text.Utf8.toString? bytes with
        | some s => .ok s
        | none => .error notText

/-- The writing half of `TextCodec`. -/
def writer : Writer String where
  applicable _ := true
  write value p := do
    return match ← Writing.writeAll (Text.Utf8.ofString value) with
      | .ok _ => .ok { p with contentType := some contentType }
      | .error e => .error (.encode e.message)

end TextCodec

namespace BytesCodec

def contentType : String := "application/octet-stream"

/-- The lowest priority there is. -/
def lowest : Int := -2147483648

/-- The reading half of `BytesCodec`. -/
def reader : Reader Bytes where
  applicable _ := true
  priority := lowest
  read bound _ := do
    return match ← readAll bound with
      | .error e => .error (.decode e.message)
      | .ok bytes => .ok bytes

/-- The writing half of `BytesCodec`. -/
def writer : Writer Bytes where
  applicable _ := true
  priority := lowest
  write value p := do
    return match ← Writing.writeAll value with
      | .ok _ => .ok { p with contentType := p.contentType <|> some contentType }
      | .error e => .error (.encode e.message)

end BytesCodec
end BrokerClient
