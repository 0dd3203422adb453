import BrokerClient.Encoding.Preference

/-!
# Choosing an encoding

`Accept.select` takes the best encoding of a preference list that is also supported. A wildcard
stands for the supported encodings that the list does not name, identity first. When nothing on the
list is supported, identity is used unless the list rules it out, by name or through a wildcard of
weight 0. No list at all means identity.
-/

namespace BrokerClient.Accept

/-- The token that stands for every encoding not named. -/
def wildcard : String := "*"

/-- Whether the list has an entry for a token, of any weight (`AcceptEncoding::mentions`). -/
def mentions (a : Accept) (token : String) : Bool :=
  a.unacceptable.contains token || a.acceptable.any (·.token == token)

/-- The supported encodings that a wildcard stands for. -/
def unnamed (a : Accept) (supported : List ContentEncoding) : List ContentEncoding :=
  supported.filter fun e => !a.mentions e.token

/-- The encoding that one preference leads to, if it leads to a supported one. -/
def choose (a : Accept) (supported : List ContentEncoding) (p : Preference) : Option ContentEncoding :=
  if p.token = wildcard then
    let rest := a.unnamed supported
    if rest.contains .identity then some .identity else rest.head?
  else
    (ContentEncoding.ofToken? p.token).filter supported.contains

/-- Whether the list rules identity out, by name or through the wildcard. -/
def refusesIdentity (a : Accept) : Bool :=
  a.unacceptable.contains ContentEncoding.identity.token ||
    (a.unacceptable.contains wildcard && !a.mentions ContentEncoding.identity.token)

/-- The most preferred supported encoding (`AcceptEncoding::select`). -/
def select (a : Accept) (supported : List ContentEncoding) : Except EncodingError ContentEncoding :=
  match a.acceptable.findSome? (a.choose supported) with
  | some e => .ok e
  | none =>
    if a.refusesIdentity || !supported.contains .identity then .error (.notAcceptable a.header)
    else .ok .identity

/-- The encoding for a reply to a requester with this header, or with none (`negotiate`). -/
def negotiate (header : Option String) (supported : List ContentEncoding) :
    Except EncodingError ContentEncoding :=
  match header with
  | none => .ok .identity
  | some h => do (← parse h).select supported

end BrokerClient.Accept
