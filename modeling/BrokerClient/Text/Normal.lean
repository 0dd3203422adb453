import BrokerClient.Text.Combining
import BrokerClient.Text.Composition

/-!
# Normal form

Texts that mean the same may differ in how letters and their marks are written. In the normal form,
which Unicode calls C, every character is taken apart, marks are put in the order of their places, and
then whatever can be written as one character is.
-/

namespace BrokerClient.Text

open Text.Composition (compose? decompose?)

/-- A character taken apart, `depth` times over. -/
def takenApart : Nat → Char → List Char
  | 0, c => [c]
  | depth + 1, c => match decompose? c with
    | some (a, b) => takenApart depth a ++ takenApart depth b
    | none => [c]

/-- No character is made of parts that are made of parts more often. -/
def maxDepth : Nat := 4

/-- Puts a character behind others, which are given in reverse, but before marks of higher places. -/
def putMark (c : Char) : List Char → List Char
  | [] => [c]
  | d :: before =>
    if 0 < combiningClass c ∧ combiningClass c < combiningClass d then d :: putMark c before
    else c :: d :: before

/-- Marks in the order of their places. -/
def sortedMarks (cs : List Char) : List Char := (cs.foldl (fun before c => putMark c before) []).reverse

/-- Characters put together so far: those that are done, in reverse, the one that may still grow, and the
marks behind it, in reverse. -/
structure Assembly where
  done : List Char := []
  base : Option Char := none
  marks : List Char := []

namespace Assembly

/-- All characters, in reverse. -/
def flushed (a : Assembly) : List Char := a.marks ++ a.base.toList ++ a.done

/-- Whether a mark reaches the character that may grow: none of its place or a higher one comes between. -/
def reaches (a : Assembly) (c : Char) : Bool :=
  match a.marks with
  | [] => true
  | m :: _ => combiningClass m < combiningClass c

def add (a : Assembly) (c : Char) : Assembly :=
  match if a.reaches c then a.base.bind (compose? · c) else none with
  | some whole => { a with base := some whole }
  | none =>
    if combiningClass c = 0 then { done := a.flushed, base := some c }
    else { a with marks := c :: a.marks }

end Assembly

/-- The normal form of a text. -/
def normalForm (cs : List Char) : List Char :=
  ((sortedMarks (cs.flatMap (takenApart maxDepth))).foldl Assembly.add {}).flushed.reverse

end BrokerClient.Text
