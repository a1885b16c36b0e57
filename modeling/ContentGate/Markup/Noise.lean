/-
  ContentGate.Markup.Noise — empty markup around the branches of a tag.

  Editors surround what authors write with blanks, `&nbsp;`, line breaks
  and halves of paragraphs.  These noise tokens are dropped at both ends
  of a branch.  Letters count in any case; the long s is a case of s.
-/
import ContentGate.Text.Blank
import ContentGate.Text.Search

namespace ContentGate.Markup

open ContentGate.Text

/-- Is `c` the small letter `a` in any case? -/
def isLetter (a c : Char) : Bool := c.toLower == a || (a == 's' && c == '\u017f')

/-- What follows a word of small letters and signs, in any case. -/
def dropAnyCase? : (word : List Char) → List Char → Option (List Char)
  | [], cs => some cs
  | _ :: _, [] => none
  | a :: w, c :: cs => if isLetter a c then dropAnyCase? w cs else none

/-- What follows a line break whose `<br` has been read. -/
def endOfBreak? (cs : List Char) : Option (List Char) :=
  match trimStart cs with
  | '/' :: '>' :: rest => some rest
  | '>' :: rest => some rest
  | _ => none

/-- What follows a noise token at the head of a text. -/
def dropNoise? : List Char → Option (List Char)
  | [] => none
  | c :: cs =>
    if isBlank c then some cs
    else if c = '&' then dropAnyCase? "nbsp;".toList cs
    else if c = '<' then
      match dropAnyCase? ['b', 'r'] cs with
      | some rest => endOfBreak? rest
      | none => (dropAnyCase? ['p', '>'] cs).or (dropAnyCase? ['/', 'p', '>'] cs)
    else none

/-- The text without its leading noise, at most `fuel` tokens of it. -/
def dropLeading : (fuel : Nat) → List Char → List Char
  | 0, cs => cs
  | fuel + 1, cs =>
    match dropNoise? cs with
    | some rest => dropLeading fuel rest
    | none => cs

/-- Is the whole text noise, of at most `fuel` tokens? -/
def isNoise (fuel : Nat) (cs : List Char) : Bool := (dropLeading fuel cs).isEmpty

/-- The text before the longest end that is noise, of at most `fuel` tokens. -/
def dropTrailing (fuel : Nat) : List Char → List Char
  | [] => []
  | c :: cs => if isNoise fuel (c :: cs) then [] else c :: dropTrailing fuel cs

/-- The text without noise at its two ends.  No text has more tokens than
characters, so its length is fuel enough. -/
def trimNoise (cs : List Char) : List Char :=
  dropTrailing cs.length (dropLeading cs.length cs)

/-- `trimNoise` on strings. -/
def trim (s : String) : String := String.ofList (trimNoise s.toList)

end ContentGate.Markup
