/-
  ContentGate.Notation.Token — the tokens of attribute formulas.

  A formula such as `edit_posts AND !(manage, "other cap")` consists of
  parentheses, commas, `!`, the connectives `&&`, `||`, `and`, `or`
  (any ASCII case), and items.  An item is a bare word, a maximal run of
  alphanumerics and `_ - . : @ / +`, or a text between two quotes of
  the same kind, without escapes.

  `tokens` is one pass over the characters: a character either starts a
  token, or is a blank, or belongs to the token that was started last
  (`taken` counts those that do).
-/
import ContentGate.Notation.ParseError
import ContentGate.Text.Blank
import ContentGate.Text.Letters
import ContentGate.Text.Search

namespace ContentGate.Notation

open ContentGate.Text

/-- What a token is. -/
inductive TokenKind where
  | openParen
  | closeParen
  | not
  | and
  | or
  | comma
  | item (s : String)
  deriving Repr, DecidableEq

/-- A token and the byte offset at which it starts. -/
structure Token where
  kind : TokenKind
  position : Nat
  deriving Repr, DecidableEq

/-- A token in messages. -/
def TokenKind.description : TokenKind → String
  | .openParen => "'('"
  | .closeParen => "')'"
  | .not => "'!'"
  | .and => "AND"
  | .or => "OR"
  | .comma => "','"
  | .item s => "token '" ++ s ++ "'"

/-- The refusal of a token in its place. -/
def Token.unexpected (t : Token) : ParseError := .unexpectedToken t.kind.description t.position

/-- The characters of bare words. -/
def isBareChar (c : Char) : Bool :=
  isAlphanumeric c || ['_', '-', '.', ':', '@', '/', '+'].contains c

/-- A bare word is a connective or an item. -/
def TokenKind.ofWord (word : List Char) : TokenKind :=
  if isWordAnyCase ['a', 'n', 'd'] word then .and
  else if isWordAnyCase ['o', 'r'] word then .or
  else .item (String.ofList word)

/-- The token that starts with `c`, and how many of the characters
behind `c` belong to it. -/
def startToken (whole : List Char) (position : Nat) (c : Char) (behind : List Char) :
    Except ParseError (TokenKind × Nat) :=
  if c = '(' then .ok (.openParen, 0)
  else if c = ')' then .ok (.closeParen, 0)
  else if c = ',' then .ok (.comma, 0)
  else if c = '!' then .ok (.not, 0)
  else if c = '&' ∨ c = '|' then
    if behind.head? = some c then .ok (if c = '&' then .and else .or, 1)
    else .error (.invalidCharacter c position)
  else if c = '"' ∨ c = '\'' then
    if behind.contains c then
      let body := behind.takeWhile (· != c)
      .ok (.item (String.ofList body), body.length + 1)
    else .error (.unbalancedQuotes (String.ofList whole))
  else if isBareChar c then
    let more := behind.takeWhile isBareChar
    .ok (.ofWord (c :: more), more.length)
  else .error (.invalidCharacter c position)

/-- The tokens of the rest of a text, of which the first `taken`
characters belong to a token already found. -/
def tokensFrom (whole : List Char) :
    (position taken : Nat) → List Char → Except ParseError (List Token)
  | _, _, [] => .ok []
  | position, taken + 1, c :: cs => tokensFrom whole (position + c.utf8Size) taken cs
  | position, 0, c :: cs =>
    if isBlank c then tokensFrom whole (position + c.utf8Size) 0 cs
    else do
      let (kind, taken) ← startToken whole position c cs
      let rest ← tokensFrom whole (position + c.utf8Size) taken cs
      .ok (⟨kind, position⟩ :: rest)

/-- The tokens of a text. -/
def tokens (cs : List Char) : Except ParseError (List Token) := tokensFrom cs 0 0 cs

/-- Do the parentheses pair up, when `depth` of them are open? -/
def parensBalance : (depth : Nat) → List Token → Bool
  | depth, [] => depth == 0
  | depth, ⟨.openParen, _⟩ :: ts => parensBalance (depth + 1) ts
  | 0, ⟨.closeParen, _⟩ :: _ => false
  | depth + 1, ⟨.closeParen, _⟩ :: ts => parensBalance depth ts
  | depth, _ :: ts => parensBalance depth ts

end ContentGate.Notation
