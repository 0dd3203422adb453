import BrokerClient.Url.Host

/-!
# Addresses

An address has a scheme, perhaps an authority that names a user, a host and a service there, a path,
and parameters behind a question mark. `Url.parse` reads one. Some schemes stand for well-known protocols:
their addresses always have an authority, whose host is a domain name, and a backslash counts as a slash.
-/

namespace BrokerClient

namespace Url

/-- Which rules the addresses of a scheme follow. -/
inductive SchemeKind where
  /-- Well known: there is a host, a domain name. -/
  | known
  /-- Files: there may be a host, a domain name, but no user and no service. -/
  | file
  /-- Any other scheme. -/
  | other
deriving DecidableEq, Repr

def knownSchemes : List String := ["http", "https", "ws", "wss", "ftp"]

def SchemeKind.ofName (name : String) : SchemeKind :=
  if knownSchemes.contains name then .known else if name = "file" then .file else .other

/-- What stands between the two slashes and the path, as it is written. -/
structure Authority where
  user : List Char := []
  password : List Char := []
  host : Option Host := none
  /-- The number of the service at the host. -/
  service : Option Nat := none
deriving DecidableEq, Repr

inductive Path where
  /-- Behind a slash: the texts between slashes. -/
  | segments (texts : List (List Char))
  /-- Directly behind the scheme: any text. -/
  | text (cs : List Char)
deriving DecidableEq, Repr

end Url

/-- An address. -/
structure Url where
  scheme : String
  authority : Url.Authority := {}
  path : Url.Path
  query : Option (List Char) := none
deriving DecidableEq, Repr

namespace Url

/-! ## Pieces of the text -/

/-- A text without blanks and control characters at its ends, and without line ends and tabs. -/
def cleaned (cs : List Char) : List Char :=
  let hidden (c : Char) : Bool := c.toNat ≤ 0x20
  (((cs.dropWhile hidden).reverse.dropWhile hidden).reverse).filter fun c => c != '\t' && c != '\n' && c != '\r'

def isLetter (c : Char) : Bool := Text.Ascii.isAlphanumeric c && !Text.Ascii.isDigit c

/-- The scheme in small letters, and what follows its colon. -/
def scheme? (cs : List Char) : Option (String × List Char) := do
  let (name, rest) ← Text.splitOnce ':' cs
  let ok := name.head?.any isLetter &&
    name.all fun c => Text.Ascii.isAlphanumeric c || c == '+' || c == '-' || c == '.'
  if ok then some (Text.Ascii.lower (String.ofList name), rest) else none

def isSlash (kind : SchemeKind) (c : Char) : Bool := c == '/' || (kind != .other && c == '\\')

/-- Whether a character ends the authority. -/
def isEnd (kind : SchemeKind) (c : Char) : Bool := isSlash kind c || c == '?' || c == '#'

/-! ## Authorities -/

/-- What stands before the last at sign, if there is one, and what stands behind it. -/
def splitUser (cs : List Char) : Option (List Char) × List Char :=
  let behind := (cs.reverse.takeWhile (· != '@')).reverse
  if behind.length = cs.length then (none, cs) else (some (cs.take (cs.length - behind.length - 1)), behind)

/-- A host, up to a colon that is not between brackets, and what follows. -/
def splitHost (inside : Bool) : List Char → List Char × List Char
  | [] => ([], [])
  | c :: rest =>
    if c = ':' ∧ !inside then ([], c :: rest)
    else
      let (host, behind) := splitHost (if c = '[' then true else if c = ']' then false else inside) rest
      (c :: host, behind)

/-- The number of a service behind the colon, if any, and what follows. It may end at a backslash in any
address. No digits are no number. -/
def takeService : List Char → Except Error (Option Nat × List Char)
  | ':' :: rest =>
    let digits := rest.takeWhile Text.Ascii.isDigit
    let behind := rest.drop digits.length
    let value := digits.foldl (fun n c => 10 * n + Text.Hex.value c) 0
    if 65535 < value ∨ behind.head?.any (!isEnd .known ·) then .error .serviceNumber
    else .ok (if digits.isEmpty then none else some value, behind)
  | cs => .ok (none, cs)

/-- The host that a text names under a kind of scheme. -/
def readHost (kind : SchemeKind) (cs : List Char) : Except Error (Option Host) :=
  match cs, kind with
  | [], .known => .error .emptyHost
  | [], _ => .ok none
  | cs, .other => some <$> plainHost cs
  | cs, _ => some <$> domainHost cs

/-- The authority at the start of a text, and what follows it. -/
def takeAuthority (kind : SchemeKind) (cs : List Char) : Except Error (Authority × List Char) := do
  let whole := cs.takeWhile (!isEnd kind ·)
  let tail := cs.drop whole.length
  let (user?, place) := splitUser whole
  if user? = some [] ∧ place.isEmpty ∧ !tail.isEmpty then throw .emptyHost
  let (hostText, behind) := splitHost false place
  let host ← readHost kind hostText
  if host.isNone ∧ !behind.isEmpty then throw .emptyHost
  let (service, behind) ← takeService (behind ++ tail)
  let login := user?.getD []
  let user := login.takeWhile (· != ':')
  let password := login.drop (user.length + 1)
  if host.isNone ∧ !(user.isEmpty && password.isEmpty) then throw .emptyHost
  return ({ user, password, host, service }, behind)

/-- Whether a text is a letter and a colon or a bar, which names a drive and no host. -/
def isDrive : List Char → Bool
  | [a, b] => isLetter a && (b == ':' || b == '|')
  | _ => false

/-- The host of a file behind two slashes, and what follows it. -/
def takeFileHost (cs : List Char) : Except Error (Authority × List Char) := do
  let text := cs.takeWhile (!isEnd .file ·)
  if isDrive text then return ({}, cs)
  return ({ host := ← readHost .file text }, cs.drop text.length)

/-! ## Paths -/

/-- Whether a segment is a dot, or the percent sign and digits of one, so many times. -/
def isDots : Nat → List Char → Bool
  | 0, cs => cs.isEmpty
  | n + 1, '.' :: cs => isDots n cs
  | n + 1, '%' :: '2' :: e :: cs => (e == 'e' || e == 'E') && isDots n cs
  | _, _ => false

/-- The segments left when a dot stands for nothing and two dots take back the segment before, given those
kept so far in reverse. Dots at the end leave an empty segment. -/
def resolveDots (kept : List (List Char)) : List (List Char) → List (List Char)
  | [] => kept.reverse
  | s :: rest =>
    if isDots 1 s ∨ isDots 2 s then
      let kept := if isDots 2 s then kept.drop 1 else kept
      resolveDots (if rest.isEmpty then [] :: kept else kept) rest
    else resolveDots (s :: kept) rest

/-- The segments of a path, of which the first may do without its slash. -/
def segmentsOf (kind : SchemeKind) (cs : List Char) : List (List Char) :=
  match cs.map fun c => if isSlash kind c then '/' else c with
  | [] => []
  | '/' :: rest => resolveDots [] (Text.splitChars '/' rest)
  | rest => resolveDots [] (Text.splitChars '/' rest)

/-! ## Whole addresses -/

/-- The path and the query of a text, up to a number sign. -/
def splitQuery (cs : List Char) : List Char × Option (List Char) :=
  let cs := cs.takeWhile (· != '#')
  match Text.splitOnce '?' cs with
  | some (path, query) => (path, some query)
  | none => (cs, none)

def assemble (scheme : String) (kind : SchemeKind) (authority : Authority) (tail : List Char) : Url :=
  let (path, query) := splitQuery tail
  { scheme, authority, path := .segments (segmentsOf kind path), query }

/-- The address that a text without blanks around it is, behind its scheme. -/
def parseBehind (scheme : String) (cs : List Char) : Except Error Url :=
  let kind := SchemeKind.ofName scheme
  let within (read : Except Error (Authority × List Char)) : Except Error Url := do
    let (authority, tail) ← read
    return assemble scheme kind authority tail
  match kind, cs with
  | .known, cs => within (takeAuthority .known (cs.dropWhile (isSlash .known)))
  | .file, a :: b :: rest =>
    if isSlash .file a && isSlash .file b then within (takeFileHost rest)
    else .ok (assemble scheme kind {} cs)
  | .file, cs => .ok (assemble scheme kind {} cs)
  | .other, '/' :: '/' :: rest => within (takeAuthority .other rest)
  | .other, '/' :: _ => .ok (assemble scheme kind {} cs)
  | .other, cs =>
    let (text, query) := splitQuery cs
    .ok { scheme, path := .text text, query }

/-- The address that a text is. -/
def parse (text : String) : Except Error Url :=
  match scheme? (cleaned text.toList) with
  | none => .error .relative
  | some (scheme, rest) => parseBehind scheme rest

end Url
end BrokerClient
