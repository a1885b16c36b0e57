/-
  ContentGate.Proofs.Evaluation.Logical — how logical conditions are evaluated.

  Evaluating a logical condition does nothing but ask its predicates, some
  of them, and put the answers together.  No step of its own can fail.  So
  what holds of every answer, and is kept when evaluations follow each
  other, holds of the evaluation of the condition (`Logical.holds_of_answers`);
  and two hosts whose answers compare in some way evaluate it to what
  compares in this way (`Logical.holds_related`).  In contrast to the
  conditions of Closed, nothing has to be known of errors that the
  evaluator itself finds, for it finds none here.

  Main statements:
    * `Logical.holds_related`, `Logical.holds_of_answers` — what evaluations
      have from their answers;
    * `Logical.holds_eq_pure` — where the answers are settled, so is the
      evaluation, and its outcome is the truth of the condition.
-/
import ContentGate.Proofs.Condition.Logical
import ContentGate.Proofs.Evaluation.InTurn

namespace ContentGate.Expression

variable {m : Type → Type} [Monad m] [LawfulMonad m] {host : Host m}

/-! ## §1. One step -/

theorem holds_predicate (p : Predicate) : holds host (.predicate p) = host.predicate p := by
  rw [holds, value, bind_assoc]
  refine (bind_congr fun b => ?_).trans (bind_pure _)
  rw [pure_bind]
  rfl

theorem holds_not (e : Expression) :
    holds host e.not = holds host e >>= fun b => pure !b := by
  rw [holds, holds, Expression.not, value, bind_assoc, bind_assoc]
  refine bind_congr fun v => ?_
  rw [pure_bind, pure_bind]
  rfl

/-- A connective asks its left side, and the right one unless it is decided. -/
theorem holds_binary (left right : Expression) (op : GroupOp) :
    holds host (.binary left op.operator right)
      = holds host left >>= fun b =>
          if b = op.decisive then pure b else holds host right := by
  cases op with
  | all =>
    show (value host (.binary left .and right) >>= fun v => pure v.truthy) = _
    rw [value, holds, bind_assoc, bind_assoc]
    refine bind_congr fun v => ?_
    rw [pure_bind]
    cases v.truthy with
    | true => simp [holds, GroupOp.decisive, Value.truthy]
    | false => simp [GroupOp.decisive, Value.truthy]
  | any =>
    show (value host (.binary left .or right) >>= fun v => pure v.truthy) = _
    rw [value, holds, bind_assoc, bind_assoc]
    refine bind_congr fun v => ?_
    rw [pure_bind]
    cases v.truthy with
    | true => simp [GroupOp.decisive, Value.truthy]
    | false => simp [holds, GroupOp.decisive, Value.truthy]

/-- A group that has members asks them in turn. -/
theorem holds_group (op : GroupOp) (e : Expression) (es : List Expression) :
    holds host (.group op (e :: es)) = groupHolds host op (e :: es) := by
  rw [holds, value, bind_assoc]
  refine (bind_congr fun b => ?_).trans (bind_pure _)
  rw [pure_bind]
  rfl

theorem holds_group_nil (op : GroupOp) : holds host (.group op []) = pure false := by
  rw [holds, value, pure_bind]
  rfl

/-! ## §2. What is kept when evaluations follow each other -/

variable {N : Prop} {K : Predicate → Prop} {e : Expression}

section
variable {m' : Type → Type} [Monad m'] [LawfulMonad m'] {host' : Host m'}
  {C : ExceptT EvalError m Bool → ExceptT EvalError m' Bool → Prop}
  (hpure : ∀ b, C (pure b) (pure b))
  (hbind : ∀ {x y f g}, C x y → (∀ b, C (f b) (g b)) → C (x >>= f) (y >>= g))
include hpure hbind

theorem groupHolds_related (op : GroupOp) {es : List Expression}
    (h : ∀ e ∈ es, C (holds host e) (holds host' e)) :
    C (groupHolds host op es) (groupHolds host' op es) := by
  induction es with
  | nil =>
    rw [groupHolds, groupHolds]
    exact hpure _
  | cons e es ih =>
    obtain ⟨he, hes⟩ := List.forall_mem_cons.1 h
    rw [groupHolds_cons, groupHolds_cons]
    refine hbind he fun b => ?_
    split
    · exact hpure b
    · exact ih hes

/-- **How two evaluations compare** whose answers compare so. -/
theorem Logical.holds_related (hask : ∀ p, K p → C (host.predicate p) (host'.predicate p))
    (h : Logical N K e) : C (holds host e) (holds host' e) := by
  induction h with
  | predicate hp =>
    rw [holds_predicate, holds_predicate]
    exact hask _ hp
  | not _ _ ih =>
    rw [holds_not, holds_not]
    exact hbind ih fun b => hpure _
  | binary op _ _ ihl ihr =>
    rw [holds_binary, holds_binary]
    refine hbind ihl fun b => ?_
    split
    · exact hpure b
    · exact ihr
  | @group members op _ ih =>
    cases members with
    | nil =>
      rw [holds_group_nil, holds_group_nil]
      exact hpure _
    | cons e es =>
      rw [holds_group, holds_group]
      exact groupHolds_related hpure hbind op ih

end

/-- **What an evaluation has from its answers.** -/
theorem Logical.holds_of_answers {C : ExceptT EvalError m Bool → Prop}
    (hpure : ∀ b, C (pure b)) (hbind : ∀ {x f}, C x → (∀ b, C (f b)) → C (x >>= f))
    (hask : ∀ p, K p → C (host.predicate p)) (h : Logical N K e) : C (holds host e) := by
  -- The evaluation is compared with itself.
  let D (x _ : ExceptT EvalError m Bool) : Prop := C x
  have hrelated : D (holds host e) (holds host e) := h.holds_related hpure hbind hask
  exact hrelated

/-! ## §3. Settled answers -/

section
variable {ask : Predicate → Bool}

theorem groupHolds_eq_pure (op : GroupOp) {es : List Expression}
    (h : ∀ e ∈ es, holds host e = pure (e.truth ask)) :
    groupHolds host op es = pure (truthOfMembers ask op es) := by
  induction es with
  | nil =>
    rw [groupHolds]
    rfl
  | cons e es ih =>
    obtain ⟨he, hes⟩ := List.forall_mem_cons.1 h
    rw [groupHolds_cons, he, pure_bind, ih hes]
    cases op with
    | all =>
      show _ = pure (e.truth ask && truthOfMembers ask .all es)
      cases e.truth ask <;> rfl
    | any =>
      show _ = pure (e.truth ask || truthOfMembers ask .any es)
      cases e.truth ask <;> rfl

/-- **Where the answers are settled**, the evaluation has no effect, and its
outcome is the truth of the condition. -/
theorem Logical.holds_eq_pure (hask : ∀ p, K p → host.predicate p = pure (ask p))
    (h : Logical N K e) : holds host e = pure (e.truth ask) := by
  induction h with
  | @predicate p hp =>
    rw [holds_predicate, hask p hp]
    rfl
  | @not e _ _ ih =>
    rw [holds_not, ih, pure_bind]
    rfl
  | @binary left right op _ _ ihl ihr =>
    rw [holds_binary, ihl, ihr, pure_bind]
    cases op with
    | all =>
      show _ = pure (left.truth ask && right.truth ask)
      cases left.truth ask <;> rfl
    | any =>
      show _ = pure (left.truth ask || right.truth ask)
      cases left.truth ask <;> rfl
  | @group members op _ ih =>
    cases members with
    | nil =>
      rw [holds_group_nil]
      rfl
    | cons e es =>
      rw [holds_group, groupHolds_eq_pure op ih]
      rfl

end

end ContentGate.Expression
