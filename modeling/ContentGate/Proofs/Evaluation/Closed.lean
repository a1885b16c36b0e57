/-
  ContentGate.Proofs.Evaluation.Closed — what the evaluator preserves.

  A condition is evaluated by asking its predicates, calling its
  functions, and putting the answers together.  So a property of
  evaluations that is kept when they are put together (a CLOSED one) holds
  of the evaluation of a condition as soon as it holds of the answers to
  the condition's own predicates, and of all calls (`value_closed`).
-/
import ContentGate.Evaluation.Evaluator
import ContentGate.Proofs.Condition.Nodes

namespace ContentGate

section
variable {m : Type → Type} [Monad m]

/-- A property of evaluations that is kept when they are put together. -/
structure Closed (C : (α : Type) → ExceptT EvalError m α → Prop) : Prop where
  pure : ∀ {α : Type} (a : α), C α (pure a)
  ofExcept : ∀ {α : Type} (r : Except EvalError α), C α (liftM r)
  bind : ∀ {α β : Type} {x : ExceptT EvalError m α} {f : α → ExceptT EvalError m β},
    C α x → (∀ a, C β (f a)) → C β (x >>= f)

end

namespace Expression

/-- Every predicate among some nodes is one of `K`. -/
def AskOnly (K : Predicate → Prop) (nodes : List (List String × Expression)) : Prop :=
  ∀ x ∈ nodes, ∀ p, x.2 = .predicate p → K p

variable {m : Type → Type} [Monad m] {host : Host m}
  {C : (α : Type) → ExceptT EvalError m α → Prop}

mutual

/-- **What holds of the answers to its predicates, and of calls, holds of
the value of a condition.** -/
theorem value_closed (hC : Closed C) (hcall : ∀ name args, C Value (host.call name args))
    {calls : List String} (e : Expression)
    (h : AskOnly (fun p => C Bool (host.predicate p)) (nodesIn calls e)) :
    C Value (value host e) := by
  cases e with
  | literal v =>
    rw [value]
    exact hC.pure v
  | predicate p =>
    rw [value]
    exact hC.bind (forall_nodesIn_predicate.1 h p rfl) fun b => hC.pure _
  | call name args =>
    rw [value]
    exact hC.bind (values_closed hC hcall args (forall_nodesIn_call.1 h).2)
      fun vs => hcall name vs
  | binary left op right =>
    obtain ⟨-, hleft, hright⟩ := forall_nodesIn_binary.1 h
    have hl := value_closed hC hcall left hleft
    have hr := value_closed hC hcall right hright
    have hlast : C Value (value host right >>= fun r => Pure.pure (Value.bool r.truthy)) :=
      hC.bind hr fun r => hC.pure _
    cases op with
    | and =>
      rw [value]
      refine hC.bind hl fun l => ?_
      split
      · exact hlast
      · exact hC.pure _
    | or =>
      rw [value]
      refine hC.bind hl fun l => ?_
      split
      · exact hC.pure _
      · exact hlast
    | eq | ne | gt | ge | lt | le =>
      simp only [value]
      exact hC.bind hl fun l => hC.bind hr fun r => hC.bind (hC.ofExcept _) fun b => hC.pure _
  | unary op operand =>
    have ho := value_closed hC hcall operand (forall_nodesIn_unary.1 h).2
    cases op with
    | not =>
      rw [value]
      exact hC.bind ho fun v => hC.pure _
    | negate =>
      rw [value]
      exact hC.bind ho fun v => hC.ofExcept _
  | group op members =>
    have hmembers := (forall_nodesIn_group.1 h).2
    cases members with
    | nil =>
      rw [value]
      exact hC.pure _
    | cons e es =>
      rw [value]
      exact hC.bind (groupHolds_closed hC hcall op (e :: es) hmembers) fun b => hC.pure _

theorem values_closed (hC : Closed C) (hcall : ∀ name args, C Value (host.call name args))
    {calls : List String} (es : List Expression)
    (h : ∀ e ∈ es, AskOnly (fun p => C Bool (host.predicate p)) (nodesIn calls e)) :
    C (List Value) (values host es) := by
  cases es with
  | nil =>
    rw [values]
    exact hC.pure _
  | cons e es =>
    obtain ⟨he, hes⟩ := List.forall_mem_cons.1 h
    rw [values]
    exact hC.bind (value_closed hC hcall e he) fun v =>
      hC.bind (values_closed hC hcall es hes) fun vs => hC.pure _

theorem groupHolds_closed (hC : Closed C) (hcall : ∀ name args, C Value (host.call name args))
    {calls : List String} (op : GroupOp) (es : List Expression)
    (h : ∀ e ∈ es, AskOnly (fun p => C Bool (host.predicate p)) (nodesIn calls e)) :
    C Bool (groupHolds host op es) := by
  cases es with
  | nil =>
    rw [groupHolds]
    exact hC.pure _
  | cons e es =>
    obtain ⟨he, hes⟩ := List.forall_mem_cons.1 h
    rw [groupHolds]
    refine hC.bind (value_closed hC hcall e he) fun v => ?_
    split
    · exact hC.pure _
    · exact hC.pure _
    · exact groupHolds_closed hC hcall _ es hes

end

/-- The same of whether a condition holds. -/
theorem holds_closed (hC : Closed C) (hcall : ∀ name args, C Value (host.call name args))
    {e : Expression} (h : AskOnly (fun p => C Bool (host.predicate p)) e.nodes) :
    C Bool (holds host e) := by
  unfold holds
  exact hC.bind (value_closed hC hcall e h) fun v => hC.pure _

end Expression

end ContentGate
