import BrokerClient.Text.Ascii
import BrokerClient.Text.Letter

/-!
# Lower case

The lower-case form of a text in any script. Each capital becomes its small letter; two depend on more
than one character: a dotted capital I becomes an i with a dot above it, and a capital sigma becomes a
final sigma where it ends a word, that is where a cased letter stands before it and none after it,
passing over characters that do not count. Small letters and ASCII agree with `Ascii.lower`.
-/

namespace BrokerClient.Text

/-- The small letter of a character that has just one. -/
def lowerLetter (c : Char) : Char :=
  if c.toNat < 0x80 then Ascii.lowerChar c
  else match Letter.capitals.find? (·.covers c.toNat) with
    | some run => Char.ofNat (c.toNat + run.offset).toNat
    | none => c

/-- Whether the first character that counts is a cased letter. -/
def meetsCased (cs : List Char) : Bool :=
  match cs.dropWhile Letter.isIgnorable with
  | [] => false
  | c :: _ => Letter.isCased c

/-- The lower-case form of the characters after `before`, which is given in reverse. -/
def lowercaseFrom (before : List Char) : List Char → List Char
  | [] => []
  | c :: rest =>
    let small :=
      if c = '\u0130' then ['i', '\u0307']
      else if c = '\u03A3' then
        if meetsCased before && !meetsCased rest then ['\u03C2'] else ['\u03C3']
      else [lowerLetter c]
    small ++ lowercaseFrom (c :: before) rest

def lowercase (s : String) : String := String.ofList (lowercaseFrom [] s.toList)

end BrokerClient.Text
