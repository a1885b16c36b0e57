/-
  ContentGate.Proofs.Evaluation.Effects — what functions make of the session.

  A function may read and change the session, so what a condition answers
  depends, in general, on all that was evaluated before.  We say how far
  a site's functions can be trusted not to:

    * they have NO SIDE EFFECTS if a call leaves the session as it is (and
      does not read the log, which nobody can);
    * they are PURE if, besides, a call answers the same in every session.

  What the proofs need is weaker than both.  Functions are STEADY in a
  kind of sessions if in all of them a call has the same outcome and the
  session stays of the kind.  Pure functions are steady in every kind, and
  functions without side effects in the sessions that differ from one in
  the log only.  A condition has the same outcome in all sessions of a kind
  if its questions and the functions do (`Context.steady_holds`).

  Main statements:
    * `isPure_of_functions`, `isPure_builtins` — registries of pure functions;
    * `IsPure.isSteady`, `NoSideEffects.isSteady` — in which sessions they are steady;
    * `Context.steady_holds` — conditions.
-/
import ContentGate.Evaluation.Context
import ContentGate.Proofs.Evaluation.Running

namespace ContentGate

variable {κ : Type}

/-! ## §1. Functions without effects -/

/-- Whatever the session, the outcome is the same, and the session is left as it is. -/
def Function.IsPure (f : Function κ) : Prop :=
  ∀ (caller : Caller κ) (args : List Value), ∃ outcome, (f caller args).run = pure outcome

theorem Function.isPure_computing (answer : Surroundings κ → List Value → Except EvalError Value) :
    IsPure (computing answer) := by
  intro caller args
  refine ⟨answer caller.toSurroundings args, ?_⟩
  show (liftM (answer caller.toSurroundings args) : Evaluation κ Value).run = _
  cases answer caller.toSurroundings args <;> rfl

/-- The same session, with other messages in its log. -/
def Session.SameButLog (σ τ : Session κ) : Prop := ∃ log, τ = { σ with warnings := log }

theorem Session.sameButLog_self (σ : Session κ) : σ.SameButLog σ := ⟨σ.warnings, rfl⟩

/-- Messages do not take a session out of the kind. -/
def IgnoresLog (P : Session κ → Prop) : Prop := ∀ σ message, P σ → P (σ.warn message)

theorem ignoresLog_sameButLog (σ : Session κ) : IgnoresLog σ.SameButLog := by
  rintro _ message ⟨log, rfl⟩
  exact ⟨log ++ [message], rfl⟩

namespace LinkedRegistry

variable {r : LinkedRegistry κ}

/-- Calls of the functions are pure. -/
def IsPure (r : LinkedRegistry κ) : Prop :=
  ∀ here name args, ∃ outcome, (r.call here name args).run = pure outcome

/-- A call leaves the session as it is, and what comes of it does not depend on the log. -/
def NoSideEffects (r : LinkedRegistry κ) : Prop :=
  ∀ here name args (σ : Session κ) log, (r.call here name args).run.run { σ with warnings := log }
    = (((r.call here name args).run.run σ).1, { σ with warnings := log })

/-- In all sessions of a kind a call has the same outcome, and the session stays of the kind. -/
def IsSteady (r : LinkedRegistry κ) (P : Session κ → Prop) : Prop :=
  ∀ here name args, Steady P (r.call here name args).run

/-- **A registry of pure functions is pure.** -/
theorem isPure_of_functions (h : ∀ entry ∈ r.functions, Function.IsPure entry.2) : r.IsPure := by
  intro here name args
  rw [r.call_eq]
  unfold Registry.callBy
  cases hfind : r.find? name with
  | none => exact ⟨.error (.undefinedFunction name), rfl⟩
  | some f =>
    obtain ⟨entry, hentry, rfl⟩ := Option.map_eq_some_iff.1 hfind
    exact h entry (List.mem_of_find?_eq_some hentry) _ args

theorem isPure_builtins : (builtins : LinkedRegistry κ).IsPure := by
  refine isPure_of_functions fun entry hentry => ?_
  obtain ⟨answer, hanswer⟩ := Function.exists_computing_of_builtins entry hentry
  rw [hanswer]
  exact Function.isPure_computing answer

/-- **Pure functions are steady**, in sessions of any kind. -/
theorem IsPure.isSteady (h : r.IsPure) (P : Session κ → Prop) : r.IsSteady P := by
  intro here name args
  obtain ⟨outcome, houtcome⟩ := h here name args
  rw [houtcome]
  exact Steady.pure outcome

theorem IsPure.noSideEffects (h : r.IsPure) : r.NoSideEffects := by
  intro here name args σ log
  obtain ⟨outcome, houtcome⟩ := h here name args
  rw [houtcome]
  rfl

/-- **Functions without side effects are steady** where only the log changes. -/
theorem NoSideEffects.isSteady (h : r.NoSideEffects) (σ : Session κ) :
    r.IsSteady σ.SameButLog := by
  intro here name args
  refine ⟨((r.call here name args).run.run σ).1, ?_⟩
  rintro _ ⟨log, rfl⟩
  exact ⟨{ σ with warnings := log }, ⟨log, rfl⟩, h here name args σ log⟩

end LinkedRegistry

/-! ## §2. Conditions -/

namespace Context

variable {c : Context κ} {P : Session κ → Prop}

/-- **A condition has the same outcome** in all sessions of a kind, if its questions do and calls
of functions do. -/
theorem steady_holds (hcalls : c.functions.IsSteady P) {e : Expression}
    (he : Expression.AskOnly (fun p => Steady P (c.answer p).run) e.nodes) :
    Steady P (c.holds e).run :=
  Expression.holds_closed (steady_closed P) (fun name args => hcalls c.toSurroundings name args) he

/-- Without a shop a predicate asks the visitor only. -/
theorem steady_answer_of_no_shop (h : c.commerce? = none) (p : Predicate) :
    Steady P (c.answer p).run := by
  cases p with
  | boughtProduct user product =>
    unfold answer
    rw [h]
    exact Steady.pure _
  | _ => exact Steady.pure _

end Context

end ContentGate
