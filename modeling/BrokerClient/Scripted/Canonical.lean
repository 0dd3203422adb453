import BrokerClient.Text.Hex

/-!
# Canonical texts

What is shown of a run depends neither on chance nor on the layout of an input: random identifiers of
version 4 are numbered in the order in which they first appear, and the positions of errors in JSON texts
are left out.
-/

namespace BrokerClient.Scripted.Canonical

/-- Puts something in the place of each match, from left to right. `find?` says how many characters a match
at the start of a text takes, what comes in its place, and what is remembered. What is done is kept last
first. -/
def replace {σ : Type} (find? : σ → List Char → Option (Nat × List Char × σ)) :
    Nat → σ → List Char → List Char → List Char × σ
  | _, s, done, [] => (done.reverse, s)
  | skipped + 1, s, done, _ :: rest => replace find? skipped s done rest
  | 0, s, done, c :: rest => match find? s (c :: rest) with
    | some (length, shown, s) => replace find? (length - 1) s (shown.reverse ++ done) rest
    | none => replace find? 0 s (c :: done) rest

/-! ## Identifiers -/

/-- Whether a character may stand at a place of an identifier. -/
def fits (c : Char) (place : Nat) : Bool :=
  if [8, 13, 18, 23].contains place then c == '-'
  else if place = 14 then c == '4'
  else if place = 19 then "89ab".toList.contains c
  else Text.Hex.isDigit c

/-- The identifier at the start of a text. -/
def identifier? (cs : List Char) : Option (List Char) :=
  let id := cs.take 36
  if id.length = 36 && id.zipIdx.all fun (c, place) => fits c place then some id else none

/-- A number in the place of an identifier: that of its first appearance. -/
def number? (known : List (List Char)) (cs : List Char) : Option (Nat × List Char × List (List Char)) := do
  let id ← identifier? cs
  let known := if known.contains id then known else known ++ [id]
  return (36, ("<uuid-" ++ toString (known.idxOf id + 1) ++ ">").toList, known)

/-! ## Positions -/

/-- A text behind the digits it starts with, if it does. -/
def afterNumber? (cs : List Char) : Option (List Char) :=
  match cs.span Char.isDigit with
  | ([], _) => none
  | (_, rest) => some rest

/-- Nothing in the place of a position. -/
def position? (cs : List Char) : Option (Nat × List Char × Unit) := do
  let rest ← afterNumber? (← " at line ".toList.isPrefixOf? cs)
  let rest ← afterNumber? (← " column ".toList.isPrefixOf? rest)
  return (cs.length - rest.length, [], ())

/-! ## Texts -/

/-- A text without positions and with numbers for identifiers, given those that are known already. -/
def text (known : List (List Char)) (s : String) : String × List (List Char) :=
  let plain := (replace (fun _ => position?) 0 () [] s.toList).1
  let (out, known) := replace number? 0 known [] plain
  (String.ofList out, known)

end BrokerClient.Scripted.Canonical
