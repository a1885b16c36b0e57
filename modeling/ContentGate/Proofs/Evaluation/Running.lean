/-
  ContentGate.Proofs.Evaluation.Running — how evaluations run.

  An evaluation takes a session to an outcome and a session.  Two lemmas
  say how a sequence of evaluations runs (`run_bind_of_ok`,
  `run_bind_of_error`).

  Often neither the state nor what a computation does to it matters, as
  long as the state is of a certain kind: in every such state the result
  is the same, and the state stays of that kind (`ReturnsIn`, and
  `Answers` for evaluations).  Sequences of such computations are such
  computations again.  Where it does not even matter which result it is,
  the computation is STEADY.
-/
import ContentGate.Commerce.Lookup
import ContentGate.Proofs.Evaluation.Closed

namespace ContentGate

variable {κ α β : Type}

/-! ## §1. Sequences -/

section
variable {x : Evaluation κ α} {f : α → Evaluation κ β} {σ τ : Session κ}

theorem run_bind_of_ok {a : α} (h : x.run.run σ = (.ok a, τ)) :
    (x >>= f).run.run σ = (f a).run.run τ := by
  rw [ExceptT.run_bind, StateT.run_bind, h]
  rfl

theorem run_bind_of_error {cause : EvalError} (h : x.run.run σ = (.error cause, τ)) :
    (x >>= f).run.run σ = (.error cause, τ) := by
  rw [ExceptT.run_bind, StateT.run_bind, h]
  rfl

theorem run_get_bind (f : Session κ → Evaluation κ β) (σ : Session κ) :
    (get >>= f).run.run σ = (f σ).run.run σ := rfl

end

/-! ## §2. Outcomes that do not depend on the state -/

/-- In every state of a kind the result is `r`, and the state stays of that kind. -/
def ReturnsIn {S α : Type} (P : S → Prop) (x : StateM S α) (r : α) : Prop :=
  ∀ s, P s → ∃ t, P t ∧ x.run s = (r, t)

namespace ReturnsIn

variable {S α β : Type} {P : S → Prop} {x : StateM S α} {f : α → StateM S β} {a : α} {b : β}

theorem pure (a : α) : ReturnsIn P (Pure.pure a) a := fun s hs => ⟨s, hs, rfl⟩

theorem bind (hx : ReturnsIn P x a) (hf : ReturnsIn P (f a) b) : ReturnsIn P (x >>= f) b := by
  intro s hs
  obtain ⟨t, ht, hrun⟩ := hx s hs
  rw [StateT.run_bind, hrun]
  exact hf t ht

/-- The result of a run, and the kind of state that it leaves. -/
theorem result (hx : ReturnsIn P x a) {s : S} (hs : P s) : (x.run s).1 = a ∧ P (x.run s).2 := by
  obtain ⟨t, ht, hrun⟩ := hx s hs
  rw [hrun]
  exact ⟨rfl, ht⟩

/-- A change that keeps the kind of the state. -/
theorem modify {change : S → S} (h : ∀ s, P s → P (change s)) :
    ReturnsIn P (modify change : StateM S Unit) () := fun s hs => ⟨change s, h s hs, rfl⟩

end ReturnsIn

/-- The same of an evaluation: in every session of a kind it has the
outcome `r`, and the session stays of that kind. -/
def Answers (P : Session κ → Prop) (x : Evaluation κ α) (r : Except EvalError α) : Prop :=
  ReturnsIn P x.run r

namespace Answers

variable {P : Session κ → Prop} {x : Evaluation κ α} {f : α → Evaluation κ β}

theorem ofExcept (r : Except EvalError α) : Answers P (liftM r : Evaluation κ α) r := by
  cases r with
  | ok a => exact ReturnsIn.pure _
  | error cause => exact ReturnsIn.pure _

theorem pure (a : α) : Answers P (Pure.pure a : Evaluation κ α) (.ok a) := ReturnsIn.pure _

theorem bind {a : α} {r : Except EvalError β} (hx : Answers P x (.ok a))
    (hf : Answers P (f a) r) : Answers P (x >>= f) r := by
  intro σ hσ
  obtain ⟨τ, hτ, hrun⟩ := hx σ hσ
  rw [run_bind_of_ok hrun]
  exact hf τ hτ

theorem bind_error {cause : EvalError} (hx : Answers P x (.error cause)) :
    Answers P (x >>= f) (.error cause) := by
  intro σ hσ
  obtain ⟨τ, hτ, hrun⟩ := hx σ hσ
  exact ⟨τ, hτ, run_bind_of_error hrun⟩

end Answers

/-! ## §3. Steady computations -/

/-- In all states of a kind the result is the same, whatever it is, and
the state stays of that kind. -/
def Steady {S α : Type} (P : S → Prop) (x : StateM S α) : Prop := ∃ r, ReturnsIn P x r

namespace Steady

variable {S α β : Type} {P : S → Prop}

theorem pure (a : α) : Steady P (Pure.pure a : StateM S α) := ⟨a, ReturnsIn.pure a⟩

theorem bind {x : StateM S α} {f : α → StateM S β} (hx : Steady P x) (hf : ∀ a, Steady P (f a)) :
    Steady P (x >>= f) := by
  obtain ⟨a, ha⟩ := hx
  obtain ⟨b, hb⟩ := hf a
  exact ⟨b, ha.bind hb⟩

/-- Steady computations that may fail, one after the other. -/
theorem bind_option {x : OptionT (StateM S) α} {f : α → OptionT (StateM S) β}
    (hx : Steady P x.run) (hf : ∀ a, Steady P (f a).run) : Steady P (x >>= f).run := by
  rw [OptionT.run_bind]
  refine bind hx fun a? => ?_
  cases a? with
  | none => exact pure none
  | some a => exact hf a

theorem mapM_option {f : α → OptionT (StateM S) β} (hf : ∀ a, Steady P (f a).run)
    (as : List α) : Steady P (as.mapM f).run := by
  induction as with
  | nil => exact pure _
  | cons a as ih =>
    rw [List.mapM_cons]
    exact bind_option (hf a) fun b => bind_option ih fun bs => pure _

/-- In two states of the kind, the results are the same. -/
theorem result_eq {x : StateM S α} (hx : Steady P x) {s t : S} (hs : P s) (ht : P t) :
    (x.run s).1 = (x.run t).1 := by
  obtain ⟨r, hr⟩ := hx
  rw [(hr.result hs).1, (hr.result ht).1]

end Steady

/-- **Steady evaluations put together are steady.** -/
theorem steady_closed (P : Session κ → Prop) :
    Closed fun _ (x : Evaluation κ _) => Steady P x.run where
  pure a := Steady.pure _
  ofExcept r := ⟨r, Answers.ofExcept r⟩
  bind hx hf := by
    rw [ExceptT.run_bind]
    refine hx.bind fun r => ?_
    cases r with
    | ok a => exact hf a
    | error cause => exact Steady.pure _

end ContentGate
