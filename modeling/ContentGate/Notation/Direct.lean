/-
  ContentGate.Notation.Direct — conditions written out.

  The direct notation writes a condition with literals, calls,
  comparisons, connectives, `!`, `-` and parentheses:

      current_user_can('edit_posts') && get_user_option("level") >= 3

  A text is split at its loosest operator, and among several of the same
  level at the last one, so that chains join to the left.  The levels,
  from loose to tight: `||`, the word `or`, `&&`, the word `and`, the
  comparisons.  A symbol counts where no character of another operator
  touches it, a word where blanks or the ends of the text touch it.

  Quoting and parentheses are checked once for the whole text, and so is
  the small set of characters that have no place outside strings.
-/
import ContentGate.Condition.Expression
import ContentGate.Notation.ParseError
import ContentGate.Notation.Quoting
import ContentGate.Text.Blank
import ContentGate.Text.Search

namespace ContentGate.Direct

open ContentGate.Text
open ContentGate.Notation

/-! ## Operators in a text -/

/-- The operators of one level: how they are spelled, and which
neighbours leave a spelling an operator (`none` is the end of the text). -/
structure Level where
  spellings : List (List Char × Operator)
  apart : Option Char → Bool

/-- The characters of symbolic operators. -/
def isOperatorChar (c : Char) : Bool := ['=', '!', '<', '>', '&', '|'].contains c

/-- Neighbours of a symbol. -/
def apartFromSymbols : Option Char → Bool
  | none => true
  | some c => !isOperatorChar c

/-- Neighbours of a word. -/
def apartFromWords : Option Char → Bool
  | none => true
  | some c => isAsciiBlank c

/-- The levels from loose to tight. -/
def levels : List Level :=
  [ ⟨[("||".toList, .or)], apartFromSymbols⟩,
    ⟨[("or".toList, .or)], apartFromWords⟩,
    ⟨[("&&".toList, .and)], apartFromSymbols⟩,
    ⟨[("and".toList, .and)], apartFromWords⟩,
    ⟨[("===".toList, .eq), ("!==".toList, .ne), ("==".toList, .eq), ("!=".toList, .ne),
      ("<=".toList, .le), (">=".toList, .ge), ("<".toList, .lt), (">".toList, .gt)],
      apartFromSymbols⟩ ]

/-- What follows a spelling at the head of a text; ASCII case does not matter. -/
def dropSpelling? : List Char → List Marked → Option (List Marked)
  | [], ms => some ms
  | _ :: _, [] => none
  | a :: w, (c, _) :: ms => if a = c.toLower then dropSpelling? w ms else none

/-- The operator of a level at the head of a text, and what follows it. -/
def operatorAt? (level : Level) (before : Option Char) (ms : List Marked) :
    Option (Operator × List Marked) :=
  level.spellings.findSome? fun (spelling, op) => do
    let rest ← dropSpelling? spelling ms
    if level.apart before && level.apart (rest.head?.map (·.1)) then some (op, rest) else none

/-- A text around an operator. -/
structure Split where
  left : List Char
  op : Operator
  right : List Char

/-- The split of a text at its last operator of a level outside strings
and parentheses; and how many parentheses the text closes. -/
def splitLast (level : Level) : (before : Option Char) → List Marked → Int × Option Split
  | _, [] => (0, none)
  | before, m :: ms =>
    match splitLast level (some m.1) ms with
    | (depth, some s) => (depth, some { s with left := m.1 :: s.left })
    | (depth, none) =>
      let depth := depth - parenStep m
      if m.2 || depth != 0 then (depth, none)
      else
        (depth, (operatorAt? level before (m :: ms)).map fun (op, rest) =>
          ⟨[], op, unmarked rest⟩)

/-- The split of a text at its loosest operator. -/
def split? (cs : List Char) : Option Split := do
  let ms ← marked? cs
  levels.findSome? fun level => (splitLast level none ms).2

/-! ## Operands -/

/-- The content of a string whose opening quote has been read, if its
closing quote ends the text.  A backslash stands for itself before
anything but the quote and another backslash. -/
def stringBody? (quote : Char) : List Char → Option (List Char)
  | [] => none
  | '\\' :: [] => none
  | '\\' :: c :: cs =>
    (stringBody? quote cs).map fun body =>
      if c = quote ∨ c = '\\' then c :: body else '\\' :: c :: body
  | c :: cs =>
    if c = quote then (if cs.isEmpty then some [] else none)
    else (stringBody? quote cs).map (c :: ·)

/-- A string literal. -/
def string? : List Char → Option String
  | [] => none
  | c :: cs => if c = '"' ∨ c = '\'' then (stringBody? c cs).map String.ofList else none

/-- A word that is a literal. -/
def keyword? (cs : List Char) : Option Value :=
  if isWordAnyCase "true".toList cs then some (.bool true)
  else if isWordAnyCase "false".toList cs then some (.bool false)
  else if isWordAnyCase "null".toList cs then some .null
  else none

/-- A number literal starts with a digit, a minus or a point. -/
def number? : List Char → Option Float
  | [] => none
  | c :: cs => if c.isDigit ∨ c = '-' ∨ c = '.' then Decimal.float? (c :: cs) else none

/-- A literal of any kind. -/
def literal? (cs : List Char) : Option Value :=
  match string? cs with
  | some s => some (.string s)
  | none =>
    match keyword? cs with
    | some v => some v
    | none => (number? cs).map .number

/-- Names of functions: ASCII letters, digits and underscores, no digit first. -/
def isIdentifier : List Char → Bool
  | [] => false
  | c :: cs => (c.isAlpha || c == '_') && cs.all fun c => c.isAlphanum || c == '_'

/-- What stands between a parenthesis that opens at the head of a text
and its partner, if the partner is the last character. -/
def enclosed? (cs : List Char) : Option (List Char) := do
  match ← marked? cs with
  | ('(', false) :: ms =>
    match ← closing? 0 ms with
    | (inner, []) => some (unmarked inner)
    | _ => none
  | _ => none

/-- The name and the written arguments of a call. -/
def call? (cs : List Char) : Option (List Char × List Char) := do
  let before := cs.takeWhile (· != '(')
  let name := trim before
  if isIdentifier name then
    let inner ← enclosed? (cs.drop before.length)
    some (name, inner)
  else none

/-- The written arguments of a call, one by one. -/
def arguments (inner : List Char) : Except ParseError (List (List Char)) :=
  if blank inner then .ok []
  else
    match marked? inner with
    | none => .error (.unbalancedQuotes (String.ofList inner))
    | some ms => .ok (pieces 0 ms)

/-- The text behind a minus that negates: no number follows it. -/
def negated? : List Char → Option (List Char)
  | '-' :: cs =>
    match trimStart cs with
    | c :: _ => if c.isDigit then none else some cs
    | [] => some cs
  | _ => none

/-! ## Conditions -/

mutual

/-- The condition of a text, with `levels` levels allowed. -/
def expression : (levels : Nat) → List Char → Except ParseError Expression
  | 0, _ => .error (.nestingTooDeep maxNesting)
  | levels + 1, cs =>
    let cs := trim cs
    if cs.isEmpty then .error .unexpectedEnd
    else
      match split? cs with
      | some s => do
        let left ← expression levels (trim s.left)
        let right ← expression levels (trim s.right)
        .ok (.binary left s.op right)
      | none => operand levels cs

/-- The condition of a text without operators of any level. -/
def operand : (levels : Nat) → List Char → Except ParseError Expression
  | 0, _ => .error (.nestingTooDeep maxNesting)
  | levels + 1, cs =>
    let cs := trim cs
    match dropWord? ['!'] cs with
    | some rest => do
      let e ← operand levels rest
      .ok (.unary .not e)
    | none =>
      match negated? cs with
      | some rest => do
        let e ← operand levels rest
        .ok (.unary .negate e)
      | none =>
        match enclosed? cs with
        | some inner => expression levels inner
        | none =>
          match literal? cs with
          | some v => .ok (.literal v)
          | none =>
            match call? cs with
            | some (name, inner) => do
              let args ← arguments inner
              let args ← args.mapM (expression levels)
              .ok (.call (String.ofList name) args)
            | none => .error (.invalidExpression ("Cannot parse: " ++ String.ofList cs))

end

/-! ## Whole texts -/

/-- Characters that have no place outside strings. -/
def isForbidden (c : Char) : Bool := [';', '$', '\x60', '\x7b', '\x7d', '[', ']'].contains c

/-- The first forbidden character outside strings, and its offset. -/
def forbidden? : (position : Nat) → List Marked → Option (Char × Nat)
  | _, [] => none
  | position, (c, quoted) :: ms =>
    if !quoted && isForbidden c then some (c, position)
    else forbidden? (position + c.utf8Size) ms

/-- Refuses open strings, unpaired parentheses and forbidden characters. -/
def check (cs : List Char) : Except ParseError Unit :=
  match marked? cs with
  | none => .error (.unbalancedQuotes (String.ofList cs))
  | some ms =>
    if !marksBalance 0 ms then .error (.unbalancedParentheses (String.ofList cs))
    else
      match forbidden? 0 ms with
      | some (c, position) => .error (.invalidCharacter c position)
      | none => .ok ()

/-- The condition of a direct text. -/
def parse (raw : String) : Except ParseError Expression := do
  let cs := trim raw.toList
  if cs.isEmpty then .error .emptyExpression
  check cs
  expression maxNesting cs

end ContentGate.Direct
