/-
  ContentGate.Proofs.Evaluation.InTurn — conditions evaluated one after another.

  The conditions of a tag are joined, and the joined condition stops at
  the first one that decides it or fails.  To say what it answers, we
  evaluate the conditions IN TURN: all of them, each in the session that
  the one before it has left (`outcomes`).  The answer of the joined
  condition can then be read off the list of outcomes: the first one
  that decides or fails counts, and behind it nothing does.

  Main statements:
    * `verdict_eq_iff_isFirst`, `verdict_eq_neutral_iff` — what a list of
      outcomes says together;
    * `Expression.holds_joined` — joined conditions are evaluated as a
      group, however many there are;
    * `run_holds_joined` — the answer of joined conditions is the verdict
      of their outcomes.
-/
import ContentGate.Evaluation.Context
import ContentGate.Proofs.Evaluation.Running

namespace ContentGate

/-! ## §1. Outcomes and what they say together -/

namespace GroupOp

/-- The answer that decides a group as soon as a member gives it. -/
def decisive : GroupOp → Bool
  | .any => true
  | .all => false

/-- The outcome of a member that neither decides the group nor fails. -/
def neutral (op : GroupOp) : Except EvalError Bool := .ok (!op.decisive)

/-- What outcomes say together. -/
def verdict (op : GroupOp) : List (Except EvalError Bool) → Except EvalError Bool
  | [] => op.neutral
  | .error cause :: _ => .error cause
  | .ok b :: rs => if b = op.decisive then .ok b else verdict op rs

/-- The first outcome that decides or fails is `r`. -/
def IsFirst (op : GroupOp) (r : Except EvalError Bool) (rs : List (Except EvalError Bool)) :
    Prop :=
  r ≠ op.neutral ∧ ∃ before after, rs = before ++ r :: after ∧ ∀ x ∈ before, x = op.neutral

variable {op : GroupOp} {r x : Except EvalError Bool} {rs : List (Except EvalError Bool)}

theorem neutral_of_ne_decisive {b : Bool} (h : b ≠ op.decisive) :
    (.ok b : Except EvalError Bool) = op.neutral := by
  unfold neutral
  rw [Bool.eq_not.2 h]

theorem decisive_ne_neutral : (.ok op.decisive : Except EvalError Bool) ≠ op.neutral := by
  intro h
  exact (Bool.not_eq_self op.decisive).1 (Except.ok.inj h).symm

theorem verdict_neutral_cons : op.verdict (op.neutral :: rs) = op.verdict rs := by
  show (if (!op.decisive) = op.decisive then _ else _) = _
  rw [if_neg (Bool.not_eq_self op.decisive).1]

/-- An outcome that decides or fails settles the verdict, whatever follows. -/
theorem verdict_cons_of_ne (h : r ≠ op.neutral) : op.verdict (r :: rs) = r := by
  cases r with
  | error cause => rfl
  | ok b =>
    have hb : b = op.decisive := Decidable.byContradiction fun hb => h (neutral_of_ne_decisive hb)
    show (if b = op.decisive then _ else _) = _
    rw [if_pos hb]

theorem isFirst_nil : ¬ op.IsFirst r [] := by
  rintro ⟨-, before, after, h, -⟩
  exact List.cons_ne_nil _ _ (List.append_eq_nil_iff.1 h.symm).2

theorem isFirst_neutral_cons : op.IsFirst r (op.neutral :: rs) ↔ op.IsFirst r rs := by
  constructor
  · rintro ⟨hr, before, after, h, hbefore⟩
    cases before with
    | nil =>
      -- Then `r` itself is the neutral outcome at the head.
      exact absurd (List.cons.inj h).1.symm hr
    | cons x before =>
      exact ⟨hr, before, after, (List.cons.inj h).2,
        fun y hy => hbefore y (List.mem_cons_of_mem _ hy)⟩
  · rintro ⟨hr, before, after, rfl, hbefore⟩
    exact ⟨hr, op.neutral :: before, after, rfl, List.forall_mem_cons.2 ⟨rfl, hbefore⟩⟩

theorem isFirst_cons_of_ne (h : x ≠ op.neutral) : op.IsFirst r (x :: rs) ↔ x = r := by
  constructor
  · rintro ⟨-, before, after, heq, hbefore⟩
    cases before with
    | nil => exact (List.cons.inj heq).1
    | cons y before =>
      have hy : y = op.neutral := hbefore y List.mem_cons_self
      exact absurd ((List.cons.inj heq).1.trans hy) h
  · rintro rfl
    exact ⟨h, [], rs, rfl, fun _ hy => absurd hy List.not_mem_nil⟩

/-- **The verdict decides or fails exactly as the first outcome that does so.** -/
theorem verdict_eq_iff_isFirst (h : r ≠ op.neutral) : op.verdict rs = r ↔ op.IsFirst r rs := by
  induction rs with
  | nil =>
    rw [iff_false_right isFirst_nil]
    exact fun hr => h hr.symm
  | cons x rs ih =>
    by_cases hx : x = op.neutral
    · rw [hx, verdict_neutral_cons, isFirst_neutral_cons]
      exact ih
    · rw [verdict_cons_of_ne hx, isFirst_cons_of_ne hx]

/-- **The verdict is neutral when all outcomes are.** -/
theorem verdict_eq_neutral_iff : op.verdict rs = op.neutral ↔ ∀ x ∈ rs, x = op.neutral := by
  induction rs with
  | nil => exact iff_of_true rfl fun _ hx => absurd hx List.not_mem_nil
  | cons x rs ih =>
    rw [List.forall_mem_cons]
    by_cases hx : x = op.neutral
    · rw [hx, verdict_neutral_cons, ih, and_iff_right rfl]
    · rw [verdict_cons_of_ne hx, iff_false_intro hx, false_and]

end GroupOp

/-! ## §2. Joined conditions are groups -/

namespace Expression

variable {m : Type → Type} [Monad m] [LawfulMonad m] (host : Host m)

/-- A group asks its first member, and the others unless it is decided. -/
theorem groupHolds_cons (op : GroupOp) (e : Expression) (es : List Expression) :
    groupHolds host op (e :: es)
      = holds host e >>= fun b =>
          if b = op.decisive then pure b else groupHolds host op es := by
  rw [groupHolds, holds, bind_assoc]
  refine bind_congr fun v => ?_
  rw [pure_bind]
  cases op <;> cases v.truthy <;> rfl

/-- **Joined conditions are evaluated as a group**, also if there is only one. -/
theorem holds_joined (op : GroupOp) {es : List Expression} (h : es ≠ []) :
    holds host (joined op es) = groupHolds host op es := by
  match es, h with
  | [e], _ =>
    rw [groupHolds_cons]
    refine Eq.trans (bind_pure _).symm (bind_congr fun b => ?_)
    rw [groupHolds]
    cases op <;> cases b <;> rfl
  | e :: f :: es, _ =>
    show holds host (.group op (e :: f :: es)) = _
    rw [holds, value, bind_assoc]
    refine Eq.trans (bind_congr fun b => ?_) (bind_pure _)
    rw [pure_bind]
    rfl

end Expression

/-! ## §3. Outcomes in a context -/

namespace Context

variable {κ : Type}

/-- The outcomes of conditions that are evaluated in turn, the first in the session `σ`. -/
def outcomes (c : Context κ) : List Expression → Session κ → List (Except EvalError Bool)
  | [], _ => []
  | e :: es, σ =>
    let (r, τ) := (c.holds e).run.run σ
    r :: outcomes c es τ

/-- The first condition has its outcome, and the others follow in the session that it leaves. -/
theorem outcomes_cons {c : Context κ} {e : Expression} {es : List Expression} {σ τ : Session κ}
    {r : Except EvalError Bool} (h : (c.holds e).run.run σ = (r, τ)) :
    c.outcomes (e :: es) σ = r :: c.outcomes es τ := by
  rw [outcomes, h]

theorem run_groupHolds (c : Context κ) (op : GroupOp) (es : List Expression) (σ : Session κ) :
    ((Expression.groupHolds c.host op es).run.run σ).1 = op.verdict (c.outcomes es σ) := by
  induction es generalizing σ with
  | nil => cases op <;> rfl
  | cons e es ih =>
    have hholds : Expression.holds c.host e = c.holds e := rfl
    rw [Expression.groupHolds_cons, hholds]
    obtain ⟨⟨r, τ⟩, hrun⟩ : ∃ p, (c.holds e).run.run σ = p := ⟨_, rfl⟩
    rw [outcomes_cons hrun]
    cases r with
    | error cause =>
      rw [run_bind_of_error hrun]
      rfl
    | ok b =>
      rw [run_bind_of_ok hrun]
      by_cases hb : b = op.decisive
      · rw [if_pos hb, hb, GroupOp.verdict_cons_of_ne GroupOp.decisive_ne_neutral]
        rfl
      · rw [if_neg hb, GroupOp.neutral_of_ne_decisive hb, GroupOp.verdict_neutral_cons]
        exact ih τ

/-- **The answer of joined conditions is the verdict of their outcomes.** -/
theorem run_holds_joined (c : Context κ) (op : GroupOp) {es : List Expression} (h : es ≠ [])
    (σ : Session κ) :
    ((c.holds (Expression.joined op es)).run.run σ).1 = op.verdict (c.outcomes es σ) := by
  unfold holds
  rw [Expression.holds_joined c.host op h, run_groupHolds]

end Context

end ContentGate
