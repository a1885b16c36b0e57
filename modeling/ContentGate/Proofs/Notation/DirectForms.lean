/-
  ContentGate.Proofs.Notation.DirectForms — the forms of operands.

  The reader of direct texts tries the forms of an operand one after the
  other: a sign, parentheses, a literal, a call.  Which of them it settles
  on depends on the text alone, not on the levels that are left.  So a text
  has ONE form, and reading it is a matter of the texts that the form hands
  on.  What is proved about the reader below goes through this.

  Main statements:
    * `operand_succ` — an operand is read by its form;
    * `operandForm_group`, `operandForm_literal` — the forms of some texts;
    * `eq_of_form_not`, `eq_of_form_minus`, `enclosed?_of_form_group`,
      `call?_of_form_call` — the texts of some forms;
    * `parse_of_empty`, `parse_of_refused`, `parse_eq_expression` — whole texts.
-/
import ContentGate.Proofs.Notation.DirectEnds

namespace ContentGate.Direct

open Text Notation

/-! ## §1. Forms -/

/-- What the reader takes a trimmed text without operators for. -/
inductive OperandForm where
  | not (rest : List Char)
  | minus (rest : List Char)
  | group (inner : List Char)
  | literal (v : Value)
  | call (name inner : List Char)
  /-- No form of an operand. -/
  | unknown

/-- The form of a trimmed text. -/
def operandForm (cs : List Char) : OperandForm :=
  match dropWord? ['!'] cs, negated? cs, enclosed? cs, literal? cs, call? cs with
  | some rest, _, _, _, _ => .not rest
  | none, some rest, _, _, _ => .minus rest
  | none, none, some inner, _, _ => .group inner
  | none, none, none, some v, _ => .literal v
  | none, none, none, none, some (name, inner) => .call name inner
  | none, none, none, none, none => .unknown

/-- The written arguments of a call, read one by one. -/
def readArguments (levels : Nat) (inner : List Char) : Except ParseError (List Expression) :=
  arguments inner >>= fun args => args.mapM (expression levels)

/-- The reading of a text `cs` of a form. -/
def OperandForm.read (levels : Nat) (cs : List Char) : OperandForm → Except ParseError Expression
  | .not rest => operand levels rest >>= fun e => .ok (.unary .not e)
  | .minus rest => operand levels rest >>= fun e => .ok (.unary .negate e)
  | .group inner => expression levels inner
  | .literal v => .ok (.literal v)
  | .call name inner => readArguments levels inner >>= fun args =>
      .ok (.call (String.ofList name) args)
  | .unknown => .error (.invalidExpression ("Cannot parse: " ++ String.ofList cs))

section
variable {levels : Nat} {cs rest inner name : List Char} {v : Value}

/-- **An operand is read by its form.** -/
theorem operand_succ (levels : Nat) (cs : List Char) :
    operand (levels + 1) cs = (operandForm (trim cs)).read levels (trim cs) := by
  rw [operand]
  unfold operandForm
  cases dropWord? ['!'] (trim cs) with
  | some rest => rfl
  | none =>
    cases negated? (trim cs) with
    | some rest => rfl
    | none =>
      cases enclosed? (trim cs) with
      | some inner => rfl
      | none =>
        cases literal? (trim cs) with
        | some v => rfl
        | none =>
          cases call? (trim cs) with
          | none => rfl
          | some found =>
            obtain ⟨name, inner⟩ := found
            simp only [OperandForm.read, readArguments, bind_assoc]

/-! ## §2. The texts of a form -/

theorem dropWord?_of_form_not (h : operandForm cs = .not rest) :
    dropWord? ['!'] cs = some rest := by
  unfold operandForm at h
  split at h <;> cases h
  assumption

theorem negated?_of_form_minus (h : operandForm cs = .minus rest) : negated? cs = some rest := by
  unfold operandForm at h
  split at h <;> cases h
  assumption

theorem enclosed?_of_form_group (h : operandForm cs = .group inner) :
    enclosed? cs = some inner := by
  unfold operandForm at h
  split at h <;> cases h
  assumption

theorem call?_of_form_call (h : operandForm cs = .call name inner) :
    call? cs = some (name, inner) := by
  unfold operandForm at h
  split at h <;> cases h
  assumption

theorem eq_of_form_not (h : operandForm cs = .not rest) : cs = '!' :: rest :=
  eq_of_dropWord?_bang (dropWord?_of_form_not h)

theorem eq_of_form_minus (h : operandForm cs = .minus rest) : cs = '-' :: rest :=
  eq_of_negated? (negated?_of_form_minus h)

/-! ## §3. The forms of a text -/

/-- **A text between parentheses.** -/
theorem operandForm_group {ms : List Marked} (hmarks : Marks cs ms)
    (hbalance : marksBalance 0 ms = true) : operandForm ('(' :: (cs ++ [')'])) = .group cs := by
  have hdrop : dropWord? ['!'] ('(' :: (cs ++ [')'])) = none := rfl
  have hnegated : negated? ('(' :: (cs ++ [')'])) = none := rfl
  unfold operandForm
  rw [hdrop, hnegated, enclosed?_of_balanced hmarks hbalance]

/-- **A literal.** -/
theorem operandForm_literal {c : Char} (hc : startsPlain c = true)
    (h : literal? (c :: cs) = some v) : operandForm (c :: cs) = .literal v := by
  unfold operandForm
  rw [dropWord?_of_startsPlain hc, negated?_of_startsPlain hc, enclosed?_of_startsPlain hc, h]

end

/-! ## §4. Whole texts -/

section
variable {raw : String} {cause : ParseError}

/-- An empty text is refused first of all, -/
theorem parse_of_empty (h : trim raw.toList = []) : parse raw = .error .emptyExpression := by
  unfold parse
  simp only [h]
  rfl

/-- another one that does not pass the check is refused by it, -/
theorem parse_of_refused (hne : trim raw.toList ≠ [])
    (hcheck : check (trim raw.toList) = .error cause) : parse raw = .error cause := by
  unfold parse
  simp only [List.isEmpty_eq_false_iff.2 hne, hcheck]
  rfl

/-- and one that does is read as a condition. -/
theorem parse_eq_expression (hne : trim raw.toList ≠ [])
    (hcheck : check (trim raw.toList) = .ok ()) :
    parse raw = expression maxNesting (trim raw.toList) := by
  unfold parse
  simp only [List.isEmpty_eq_false_iff.2 hne, hcheck]
  rfl

end

end ContentGate.Direct
