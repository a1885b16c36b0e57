/-
  ContentGate.Notation.Quoting — which characters of a text are quoted.

  In direct conditions a string stands between two single or two double
  quotes; a backslash takes the meaning of the character behind it.
  `marked?` tells for every character whether it belongs to a string,
  its quotes included.  Operators, commas and parentheses count only
  outside strings.
-/

namespace ContentGate.Notation

/-- A character, and whether it belongs to a quoted string. -/
abbrev Marked := Char × Bool

/-- Where a reader of strings stands. -/
inductive QuoteState where
  | outside
  | inside (quote : Char)
  /-- Behind a backslash. -/
  | escaped (quote : Char)
  deriving Repr, DecidableEq

namespace QuoteState

/-- The state behind a character. -/
def next : QuoteState → Char → QuoteState
  | .outside, c => if c = '"' ∨ c = '\'' then .inside c else .outside
  | .inside q, c => if c = '\\' then .escaped q else if c = q then .outside else .inside q
  | .escaped q, _ => .inside q

/-- Does a character met in this state belong to a string? -/
def quotes : QuoteState → Char → Bool
  | .outside, c => c == '"' || c == '\''
  | _, _ => true

end QuoteState

/-- The marks of the rest of a text; `none` when a string is left open. -/
def markFrom : QuoteState → List Char → Option (List Marked)
  | .outside, [] => some []
  | _, [] => none
  | q, c :: cs => (markFrom (q.next c) cs).map ((c, q.quotes c) :: ·)

/-- The marks of a text; `none` when a string is left open. -/
def marked? (cs : List Char) : Option (List Marked) := markFrom .outside cs

/-- The characters without their marks. -/
def unmarked (ms : List Marked) : List Char := ms.map (·.1)

/-- Marking only adds marks. -/
theorem unmarked_of_markFrom {q : QuoteState} {cs : List Char} {ms : List Marked}
    (h : markFrom q cs = some ms) : unmarked ms = cs := by
  induction cs generalizing q ms with
  | nil =>
    cases q <;> simp [markFrom] at h
    subst h
    rfl
  | cons c cs ih =>
    simp only [markFrom, Option.map_eq_some_iff] at h
    obtain ⟨rest, hr, rfl⟩ := h
    simp [unmarked, ← ih hr]

/-! ## Parentheses outside strings -/

/-- What a character adds to the number of open parentheses. -/
def parenStep : Marked → Int
  | ('(', false) => 1
  | (')', false) => -1
  | _ => 0

/-- Do the parentheses outside strings pair up, when `depth` are open? -/
def marksBalance : (depth : Nat) → List Marked → Bool
  | depth, [] => depth == 0
  | depth, ('(', false) :: ms => marksBalance (depth + 1) ms
  | 0, (')', false) :: _ => false
  | depth + 1, (')', false) :: ms => marksBalance depth ms
  | depth, _ :: ms => marksBalance depth ms

/-- What stands before and behind the parenthesis that closes the one
before this text, when `depth` more are open. -/
def closing? : (depth : Nat) → List Marked → Option (List Marked × List Marked)
  | _, [] => none
  | depth, m :: ms =>
    let go (depth : Nat) := (closing? depth ms).map fun (before, behind) => (m :: before, behind)
    match depth, m with
    | depth, ('(', false) => go (depth + 1)
    | 0, (')', false) => some ([], ms)
    | depth + 1, (')', false) => go depth
    | depth, _ => go depth

/-- The pieces between the commas outside strings and parentheses, when
`depth` parentheses are open. -/
def pieces : (depth : Int) → List Marked → List (List Char)
  | _, [] => [[]]
  | depth, m :: ms =>
    if m = (',', false) ∧ depth = 0 then [] :: pieces depth ms
    else
      match pieces (depth + parenStep m) ms with
      | [] => [[m.1]]
      | piece :: more => (m.1 :: piece) :: more

end ContentGate.Notation
