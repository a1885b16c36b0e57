/-
  ContentGate.Proofs.Condition.Nodes — the nodes of a condition.

  What a site allows is a question about single nodes, and about the
  calls in whose arguments they stand.  `nodes` lists every node of a
  condition with the names of those calls, innermost first.

  Main statements:
    * `forall_nodesIn_joined` — the comma shorthand adds one group at most,
      and one to the height (`depth_joined_le`);
    * `Formula.Derivation.forall_nodesIn_value` — a formula adds only the
      nodes of `!` and of the connectives to what its operands mean.
-/
import ContentGate.Proofs.Notation.Grammar

namespace ContentGate

namespace Expression

/-! ## §1. Nodes -/

mutual

/-- The nodes of a condition that stands in the arguments of `calls`. -/
def nodesIn (calls : List String) : Expression → List (List String × Expression)
  | .literal v => [(calls, .literal v)]
  | .predicate p => [(calls, .predicate p)]
  | .call name args => (calls, .call name args) :: nodesInAll (name :: calls) args
  | .binary left op right =>
    (calls, .binary left op right) :: (nodesIn calls left ++ nodesIn calls right)
  | .unary op operand => (calls, .unary op operand) :: nodesIn calls operand
  | .group op members => (calls, .group op members) :: nodesInAll calls members

/-- The nodes of several conditions. -/
def nodesInAll (calls : List String) : List Expression → List (List String × Expression)
  | [] => []
  | e :: es => nodesIn calls e ++ nodesInAll calls es

end

/-- The nodes of a condition, each with the calls in whose arguments it stands. -/
def nodes (e : Expression) : List (List String × Expression) := nodesIn [] e

section
variable {P : List String × Expression → Prop} {calls : List String}

theorem forall_nodesInAll {es : List Expression} :
    (∀ x ∈ nodesInAll calls es, P x) ↔ ∀ e ∈ es, ∀ x ∈ nodesIn calls e, P x := by
  induction es with
  | nil => simp [nodesInAll]
  | cons e es ih => rw [nodesInAll, List.forall_mem_append, ih, List.forall_mem_cons]

theorem forall_nodesIn_literal {v : Value} :
    (∀ x ∈ nodesIn calls (.literal v), P x) ↔ P (calls, .literal v) := by
  show (∀ x ∈ [(calls, literal v)], P x) ↔ _
  rw [List.forall_mem_singleton]

theorem forall_nodesIn_predicate {p : Predicate} :
    (∀ x ∈ nodesIn calls (.predicate p), P x) ↔ P (calls, .predicate p) := by
  show (∀ x ∈ [(calls, predicate p)], P x) ↔ _
  rw [List.forall_mem_singleton]

theorem forall_nodesIn_call {name : String} {args : List Expression} :
    (∀ x ∈ nodesIn calls (.call name args), P x) ↔
      P (calls, .call name args) ∧ ∀ e ∈ args, ∀ x ∈ nodesIn (name :: calls) e, P x := by
  show (∀ x ∈ (calls, call name args) :: nodesInAll (name :: calls) args, P x) ↔ _
  rw [List.forall_mem_cons, forall_nodesInAll]

theorem forall_nodesIn_binary {left right : Expression} {op : Operator} :
    (∀ x ∈ nodesIn calls (.binary left op right), P x) ↔
      P (calls, .binary left op right) ∧ (∀ x ∈ nodesIn calls left, P x)
        ∧ ∀ x ∈ nodesIn calls right, P x := by
  show (∀ x ∈ (calls, binary left op right) :: (nodesIn calls left ++ nodesIn calls right),
    P x) ↔ _
  rw [List.forall_mem_cons, List.forall_mem_append]

theorem forall_nodesIn_unary {op : UnaryOp} {operand : Expression} :
    (∀ x ∈ nodesIn calls (.unary op operand), P x) ↔
      P (calls, .unary op operand) ∧ ∀ x ∈ nodesIn calls operand, P x := by
  show (∀ x ∈ (calls, unary op operand) :: nodesIn calls operand, P x) ↔ _
  rw [List.forall_mem_cons]

theorem forall_nodesIn_group {op : GroupOp} {members : List Expression} :
    (∀ x ∈ nodesIn calls (.group op members), P x) ↔
      P (calls, .group op members) ∧ ∀ e ∈ members, ∀ x ∈ nodesIn calls e, P x := by
  show (∀ x ∈ (calls, group op members) :: nodesInAll calls members, P x) ↔ _
  rw [List.forall_mem_cons, forall_nodesInAll]

/-- Joining conditions adds one group at most. -/
theorem forall_nodesIn_joined {op : GroupOp} {es : List Expression}
    (hgroup : P (calls, .group op es)) (h : ∀ e ∈ es, ∀ x ∈ nodesIn calls e, P x) :
    ∀ x ∈ nodesIn calls (joined op es), P x := by
  unfold joined
  split
  · exact h _ (List.mem_singleton.2 rfl)
  · exact forall_nodesIn_group.2 ⟨hgroup, h⟩

end

/-! ## §2. Heights -/

section
variable {n : Nat} {e left right : Expression} {es : List Expression}

theorem depthList_le_iff : depthList es ≤ n ↔ ∀ e ∈ es, e.depth ≤ n := by
  induction es with
  | nil => simp [depthList]
  | cons e es ih => rw [depthList, Nat.max_le, ih, List.forall_mem_cons]

theorem depth_call_le {name : String} (h : ∀ e ∈ es, e.depth ≤ n) :
    (call name es).depth ≤ n + 1 := by
  show 1 + depthList es ≤ n + 1
  rw [Nat.add_comm]
  exact Nat.succ_le_succ (depthList_le_iff.2 h)

theorem depth_binary_le {op : Operator} (hleft : left.depth ≤ n) (hright : right.depth ≤ n) :
    (binary left op right).depth ≤ n + 1 := by
  show 1 + max left.depth right.depth ≤ n + 1
  rw [Nat.add_comm]
  exact Nat.succ_le_succ (Nat.max_le.2 ⟨hleft, hright⟩)

theorem depth_unary_le {op : UnaryOp} (h : e.depth ≤ n) : (unary op e).depth ≤ n + 1 := by
  show 1 + e.depth ≤ n + 1
  rw [Nat.add_comm]
  exact Nat.succ_le_succ h

/-- Joining conditions adds one to the height at most. -/
theorem depth_joined_le {op : GroupOp} (h : ∀ e ∈ es, e.depth ≤ n) :
    (joined op es).depth ≤ n + 1 := by
  unfold joined
  split
  · exact Nat.le_succ_of_le (h _ (List.mem_singleton.2 rfl))
  · show 1 + depthList es ≤ n + 1
    rw [Nat.add_comm]
    exact Nat.succ_le_succ (depthList_le_iff.2 h)

end

end Expression

/-! ## §3. Nodes of formulas -/

/-- The comma shorthand over items that all have a meaning. -/
theorem Operand.expand_ok (op : GroupOp) (g : String → Expression) (items : Operand) :
    expand op (fun item => .ok (g item)) items = .ok (Expression.joined op (items.map g)) := by
  have hitems : items.mapM (fun item => (pure (g item) : Except ParseError Expression))
      = pure (items.map g) := List.mapM_pure
  show Except.map _ (items.mapM fun item => (pure (g item) : Except ParseError Expression)) = _
  rw [hitems]
  rfl

open Expression in
/-- What holds of the nodes of all operands, of negations and of the
connectives, holds of the nodes of a formula. -/
theorem Formula.Derivation.forall_nodesIn_value {f : Operand → Expression}
    {P : List String × Expression → Prop} {calls : List String} {c : Category}
    (d : Derivation c) (hnot : ∀ e, P (calls, .unary .not e))
    (hbinary : ∀ left op right, P (calls, .binary left op right))
    (h : ∀ o ∈ d.operands, ∀ x ∈ nodesIn calls (f o), P x) :
    ∀ x ∈ nodesIn calls (d.value f), P x := by
  induction d with
  | operand first more => exact h _ (List.mem_singleton.2 rfl)
  | not inner ih => exact forall_nodesIn_unary.2 ⟨hnot _, ih h⟩
  | group inner ih => exact ih h
  | single first ih => exact ih h
  | link left right ihl ihr =>
    obtain ⟨hl, hr⟩ := List.forall_mem_append.1 h
    exact forall_nodesIn_binary.2 ⟨hbinary _ _ _, ihl hl, ihr hr⟩

/-- A formula within the limits is no higher than the limit or than what its operands mean. -/
theorem Formula.Derivation.depth_value_le {f : Operand → Expression} {n : Nat} {c : Category}
    (d : Derivation c) (hheights : d.HeightsBounded f) (h : ∀ o ∈ d.operands, (f o).depth ≤ n) :
    (d.value f).depth ≤ max maxNesting n := by
  induction d with
  | operand first more =>
    exact Nat.le_trans (h _ (List.mem_singleton.2 rfl)) (Nat.le_max_right _ _)
  | not inner _ => exact Nat.le_trans hheights.2 (Nat.le_max_left _ _)
  | group inner ih => exact ih hheights h
  | single first ih => exact ih hheights h
  | link left right _ _ => exact Nat.le_trans hheights.2.2 (Nat.le_max_left _ _)

end ContentGate
