/-
  ContentGate.Proofs.Page.FailClosed — a tag holds only if everything is in order.

  A tag that protects a part of a page must not show it by accident.  It
  holds when compiling it gave no error, it asks something, and the
  outcomes of its conditions, evaluated in turn, satisfy its mode.  In
  every other case it does not hold; a condition that fails before the
  tag is decided adds one error.  A tag with errors shows neither of its
  branches.

  Main statements:
    * `decide_holds_iff`, `decide_of_failure`, `decide_of_no_failure` — the
      decision of an invocation;
    * `run_replyTo_of_errors` — what a tag with errors shows and logs;
    * `invoke_fails_closed` — the whole of it, for a tag of a page.
-/
import ContentGate.Proofs.Evaluation.InTurn
import ContentGate.Site

namespace ContentGate

/-! ## §1. Modes and outcomes -/

namespace SatisfyMode

/-- The outcomes of conditions satisfy a mode: all of them hold, or one
holds and those before it do not, without a failure. -/
def Satisfied : SatisfyMode → List (Except EvalError Bool) → Prop
  | .all, rs => ∀ x ∈ rs, x = .ok true
  | .any, rs => ∃ before after, rs = before ++ .ok true :: after ∧ ∀ x ∈ before, x = .ok false

/-- **The verdict of a mode is true when the outcomes satisfy it.** -/
theorem verdict_eq_true_iff {mode : SatisfyMode} {rs : List (Except EvalError Bool)} :
    mode.groupOp.verdict rs = .ok true ↔ mode.Satisfied rs := by
  cases mode with
  | all => exact GroupOp.verdict_eq_neutral_iff
  | any =>
    have hne : .ok GroupOp.any.decisive ≠ GroupOp.any.neutral := GroupOp.decisive_ne_neutral
    exact (GroupOp.verdict_eq_iff_isFirst hne).trans (and_iff_right hne)

end SatisfyMode

/-! ## §2. The decision -/

namespace Invocation

/-- An invocation can be evaluated: it has no errors, and it asks something. -/
def Ready (i : Invocation) : Prop := i.errors = [] ∧ i.conditions ≠ []

/-- A compiled invocation whose condition has been evaluated: a failure is an error. -/
def decided (i : Invocation) : Except EvalError Bool → Invocation × Bool
  | .ok b => (i, b)
  | .error cause => (i.addError (.evaluationFailure cause.message), false)

theorem decided_holds_iff {i : Invocation} {r : Except EvalError Bool} :
    (i.decided r).2 = true ↔ r = .ok true := by
  cases r with
  | ok b =>
    show b = true ↔ _
    rw [Except.ok.injEq]
  | error cause =>
    refine iff_of_false (fun h => ?_) (fun h => ?_)
    · exact Bool.false_ne_true h
    · cases h

theorem hasErrors_iff {i : Invocation} : i.hasErrors = true ↔ i.errors ≠ [] := by
  unfold hasErrors
  rw [Bool.not_eq_true', List.isEmpty_eq_false_iff]

theorem hasErrors_eq_false_iff {i : Invocation} : i.hasErrors = false ↔ i.errors = [] := by
  unfold hasErrors
  rw [Bool.not_eq_false', List.isEmpty_iff]

end Invocation

namespace Site

variable {κ : Type} {s : Site κ} {v : Visitor} {i : Invocation}

/-- What asks nothing is not evaluated, -/
theorem decide_of_none (h : i.condition? = none) : s.decide v i = pure (i, false) := by
  unfold decide
  rw [h]

/-- and neither is anything else that is not ready. -/
theorem decide_of_not_ready (h : ¬ i.Ready) : s.decide v i = pure (i, false) := by
  by_cases herrors : i.errors = []
  · have hconditions : i.conditions = [] := Decidable.byContradiction fun hc => h ⟨herrors, hc⟩
    have hnone : i.condition? = none := by
      unfold Invocation.condition?
      rw [hconditions]
      rfl
    exact decide_of_none hnone
  · unfold decide
    rw [Invocation.hasErrors_iff.2 herrors]
    cases i.condition? <;> rfl

/-- Without errors, what asks something is decided by its condition. -/
theorem run_decide_of_some (herrors : i.errors = []) {e : Expression} (h : i.condition? = some e)
    (σ : Session κ) :
    (s.decide v i).run σ = (i.decided (((s.context v).holds e).run.run σ).1,
      (((s.context v).holds e).run.run σ).2) := by
  unfold decide
  rw [h, Invocation.hasErrors_eq_false_iff.2 herrors]
  simp only
  rw [StateT.run_bind]
  obtain ⟨r, τ⟩ := ((s.context v).holds e).run.run σ
  cases r with
  | ok b => rfl
  | error cause => rfl

/-- **The decision of an invocation that is ready** is the verdict of its
conditions, evaluated in turn. -/
theorem decide_of_ready (h : i.Ready) (σ : Session κ) :
    ((s.decide v i).run σ).1
      = i.decided (i.satisfy.groupOp.verdict ((s.context v).outcomes i.conditions σ)) := by
  obtain ⟨herrors, hconditions⟩ := h
  have hcondition : i.condition?
      = some (Expression.joined i.satisfy.groupOp i.conditions) := by
    unfold Invocation.condition?
    rw [List.isEmpty_eq_false_iff.2 hconditions]
    rfl
  rw [run_decide_of_some herrors hcondition,
    (s.context v).run_holds_joined i.satisfy.groupOp hconditions σ]

theorem decide_holds_iff (σ : Session κ) :
    ((s.decide v i).run σ).1.2 = true ↔
      i.Ready ∧ i.satisfy.Satisfied ((s.context v).outcomes i.conditions σ) := by
  by_cases h : i.Ready
  · rw [decide_of_ready h, Invocation.decided_holds_iff, SatisfyMode.verdict_eq_true_iff,
      and_iff_right h]
  · rw [decide_of_not_ready h]
    exact iff_of_false Bool.false_ne_true fun hready => h hready.1

/-- A condition that fails before the invocation is decided adds one error. -/
theorem decide_of_failure (herrors : i.errors = []) {σ : Session κ} {cause : EvalError}
    (h : i.satisfy.groupOp.IsFirst (.error cause) ((s.context v).outcomes i.conditions σ)) :
    ((s.decide v i).run σ).1.1 = i.addError (.evaluationFailure cause.message) := by
  have hready : i.Ready := by
    refine ⟨herrors, fun hc => ?_⟩
    rw [hc] at h
    exact GroupOp.isFirst_nil h
  rw [decide_of_ready hready, (GroupOp.verdict_eq_iff_isFirst h.1).2 h]
  rfl

/-- Nothing else adds an error. -/
theorem decide_of_no_failure {σ : Session κ}
    (h : i.errors ≠ [] ∨ ∀ cause,
      ¬ i.satisfy.groupOp.IsFirst (.error cause) ((s.context v).outcomes i.conditions σ)) :
    ((s.decide v i).run σ).1.1 = i := by
  by_cases hready : i.Ready
  · have hnone := h.resolve_left (not_not_intro hready.1)
    rw [decide_of_ready hready]
    cases hverdict : i.satisfy.groupOp.verdict ((s.context v).outcomes i.conditions σ) with
    | ok b => rfl
    | error cause =>
      -- A failed verdict is the first outcome that decides or fails.
      have hne : (.error cause : Except EvalError Bool) ≠ i.satisfy.groupOp.neutral := by
        intro hc
        cases hc
      exact absurd ((GroupOp.verdict_eq_iff_isFirst hne).1 hverdict) (hnone cause)
  · rw [decide_of_not_ready hready]
    rfl

/-! ## §3. What a tag with errors shows -/

/-- What a tag with errors shows where errors are shown on the page. -/
def errorReport (s : Site κ) (i : Invocation) : String :=
  (if i.debug = .verbose then i.verboseBlock s.options.options.name else "")
    ++ i.errorBlock s.options.options.name

/-- Messages are added to the log in order, each of them once. -/
theorem run_warn_each (errors : List TagError) (σ : Session κ) :
    (errors.forM fun e => (modify (·.warn e.message) : StateM (Session κ) Unit)).run σ
      = ((), { σ with warnings := σ.warnings ++ errors.map TagError.message }) := by
  induction errors generalizing σ with
  | nil =>
    rw [List.map_nil, List.append_nil]
    rfl
  | cons e es ih =>
    -- The first message is logged, and the others behind it.
    refine (ih (σ.warn e.message)).trans ?_
    rw [List.map_cons, Session.warn, List.append_assoc]
    rfl

/-- **A tag with errors shows no branch.**  Its errors are on the page,
if its debug mode is on, or else in the log. -/
theorem run_replyTo_of_errors (h : i.errors ≠ []) (holds : Bool) (σ : Session κ) :
    (s.replyTo i holds).run σ =
      if i.debug.isEnabled then (⟨s.errorReport i, none⟩, σ)
      else (⟨"", none⟩, { σ with warnings := σ.warnings ++ i.errors.map TagError.message }) := by
  unfold replyTo
  simp only [Invocation.hasErrors_iff.2 h, if_true]
  cases i.debug.isEnabled with
  | true => rfl
  | false =>
    show ((i.errors.forM _ >>= fun _ => pure ⟨"", none⟩ : StateM (Session κ) Reply)).run σ = _
    rw [StateT.run_bind, run_warn_each]
    rfl

theorem run_showTag_of_errors {t : Tag} {holds : Bool} {σ τ : Session κ}
    (hinvoke : (s.invoke v t).run σ = ((i, holds), τ)) (h : i.errors ≠ [])
    (nested : String → StateM (Session κ) String) :
    (s.showTag v t nested).run σ =
      if i.debug.isEnabled then (s.errorReport i, τ)
      else ("", { τ with warnings := τ.warnings ++ i.errors.map TagError.message }) := by
  unfold showTag reply
  rw [bind_assoc, StateT.run_bind, hinvoke]
  show ((s.replyTo i holds >>= _ : StateM (Session κ) String)).run τ = _
  rw [StateT.run_bind, run_replyTo_of_errors h]
  cases i.debug.isEnabled <;> rfl

/-! ## §4. A tag of a page -/

/-- **A tag holds exactly when everything is in order.** -/
theorem invoke_fails_closed (s : Site κ) (v : Visitor) (t : Tag) (σ : Session κ) :
    let i := s.compile v t
    let rs := (s.context v).outcomes i.conditions σ
    let done := (s.invoke v t).run σ
    let j := done.1.1
    (done.1.2 = true ↔ i.errors = [] ∧ i.conditions ≠ [] ∧ i.satisfy.Satisfied rs)
      ∧ (i.errors = [] → ∀ cause, i.satisfy.groupOp.IsFirst (.error cause) rs →
          j = i.addError (.evaluationFailure cause.message))
      ∧ ((i.errors ≠ [] ∨ ∀ cause, ¬ i.satisfy.groupOp.IsFirst (.error cause) rs) → j = i)
      ∧ (j.errors ≠ [] → ∀ nested, (s.showTag v t nested).run σ =
          if j.debug.isEnabled then (s.errorReport j, done.2)
          else ("", { done.2 with
            warnings := done.2.warnings ++ j.errors.map TagError.message })) := by
  intro i rs done j
  have hholds : done.1.2 = true ↔ i.Ready ∧ i.satisfy.Satisfied rs := decide_holds_iff σ
  refine ⟨hholds.trans and_assoc, ?_, decide_of_no_failure, ?_⟩
  · intro herrors cause hfirst
    exact decide_of_failure herrors hfirst
  · intro herrors nested
    exact run_showTag_of_errors rfl herrors nested

end Site

end ContentGate
