/-
  ContentGate.Proofs.Page.Verdict — how a tag is decided in sessions of a kind.

  What a tag encloses plays no part in its decision (`decide_map`): the
  body gives the branches and nothing else.  Where all sessions of a kind
  give the conditions the same outcome, the errors of a tag and whether it
  holds are the same in all of them, whatever the tag encloses
  (`invoke_fixed`).  A tag whose debug mode is off then shows nothing of
  its own, and no branch if there are errors (`replyTo_returns`).
-/
import ContentGate.Proofs.Evaluation.Effects
import ContentGate.Site

namespace ContentGate

/-! ## §1. The decision -/

namespace Invocation

/-- The invocation with other branches. -/
def withBranches (i : Invocation) (b : Branches) : Invocation := { i with branches := b }

/-- The branches of an invocation are of no consequence for its errors. -/
theorem hasErrors_withBranches (i : Invocation) (b : Branches) :
    (i.withBranches b).hasErrors = i.hasErrors := rfl

/-- Nor for what it asks. -/
theorem condition?_withBranches (i : Invocation) (b : Branches) :
    (i.withBranches b).condition? = i.condition? := rfl

/-- The body of a tag gives the branches of an invocation and nothing else. -/
theorem ofTag_body (t : Tag) (body? : Option String) (r : Resolved) (user : UserId) :
    ofTag { t with body? } r user
      = { ofTag t r user with
          branches := Branches.split (body?.getD "") r.options.elseName
            (TagName.depth t.name) } := rfl

/-- Compiling does not look at the branches. -/
theorem compile_branches (i : Invocation) (b : Branches) (r : Resolved) (multisite : Bool) :
    ({ i with branches := b } : Invocation).compile r multisite
      = { i.compile r multisite with branches := b } := rfl

end Invocation

namespace Site

variable {κ : Type} {s : Site κ} {v : Visitor}

theorem compile_body (s : Site κ) (v : Visitor) (t : Tag) (body? : Option String) :
    s.compile v { t with body? }
      = { s.compile v t with
          branches := Branches.split (body?.getD "") s.options.options.elseName
            (TagName.depth t.name) } := by
  unfold compile
  rw [Invocation.ofTag_body, Invocation.compile_branches]

/-- **Deciding looks at the condition and at whether there are errors**: what changes
neither, and no error that is added, may be done before the decision or behind it. -/
theorem decide_map (f : Invocation → Invocation) (v : Visitor) (i : Invocation)
    (hcond : (f i).condition? = i.condition?) (herr : (f i).hasErrors = i.hasErrors)
    (hadd : ∀ e, f (i.addError e) = (f i).addError e) (σ : Session κ) :
    (s.decide v (f i)).run σ
      = (((s.decide v i).run σ).1.map f id, ((s.decide v i).run σ).2) := by
  unfold decide
  rw [hcond, herr]
  cases i.condition? with
  | none => rfl
  | some e =>
    cases i.hasErrors with
    | true => rfl
    | false =>
      simp only
      rw [StateT.run_bind, StateT.run_bind]
      obtain ⟨r, τ⟩ := ((s.context v).holds e).run.run σ
      cases r with
      | ok holds => rfl
      | error cause =>
        show (((f i).addError _, false), τ) = ((f (i.addError _), false), τ)
        rw [hadd]

/-- **Deciding an invocation does not look at its branches**, and leaves them alone. -/
theorem decide_withBranches (i : Invocation) (b : Branches) (σ : Session κ) :
    (s.decide v (i.withBranches b)).run σ
      = (((s.decide v i).run σ).1.map (·.withBranches b) id, ((s.decide v i).run σ).2) :=
  decide_map (·.withBranches b) v i (Invocation.condition?_withBranches i b)
    (Invocation.hasErrors_withBranches i b) (fun _ => rfl) σ

/-- The branches of a tag, whatever its decision. -/
def branchesOf (s : Site κ) (t : Tag) : Branches :=
  Branches.split t.body s.options.options.elseName (TagName.depth t.name)

theorem branches_invoke (t : Tag) (σ : Session κ) :
    ((s.invoke v t).run σ).1.1.branches = s.branchesOf t := by
  have hdecide := decide_withBranches (s := s) (v := v) (s.compile v t) (s.branchesOf t) σ
  exact congrArg (·.1.1.branches) hdecide

/-- **The body of a tag gives its branches and nothing else**: with another
body it is decided alike, and the session behind it is the same. -/
theorem invoke_body (t : Tag) (body? : Option String) (σ : Session κ) :
    (s.invoke v { t with body? }).run σ
      = (((s.invoke v t).run σ).1.map (·.withBranches (s.branchesOf { t with body? })) id,
          ((s.invoke v t).run σ).2) := by
  unfold invoke
  rw [compile_body]
  exact decide_withBranches _ _ σ

/-- Deciding leaves the debug mode alone. -/
theorem debug_decide (i : Invocation) (σ : Session κ) :
    ((s.decide v i).run σ).1.1.debug = i.debug := by
  unfold decide
  cases i.condition? with
  | none => rfl
  | some e =>
    cases i.hasErrors with
    | true => rfl
    | false =>
      simp only
      rw [StateT.run_bind]
      obtain ⟨r, τ⟩ := ((s.context v).holds e).run.run σ
      cases r <;> rfl

/-! ## §2. Sessions of a kind -/

section
variable {P : Session κ → Prop}

/-- **A tag is decided alike** in all sessions in which its condition has the same outcome. -/
theorem steady_decide {i : Invocation}
    (h : ∀ e, i.condition? = some e → Steady P ((s.context v).holds e).run) :
    Steady P (s.decide v i) := by
  unfold decide
  cases hcondition : i.condition? with
  | none => exact Steady.pure _
  | some e =>
    cases i.hasErrors with
    | true => exact Steady.pure _
    | false =>
      refine (h e hcondition).bind fun r => ?_
      cases r with
      | ok b => exact Steady.pure _
      | error cause => exact Steady.pure _

/-- **Neither the body of a tag nor the session plays a part in its decision**, on a site without
a shop and in sessions in which its functions are steady; the body only gives the branches. -/
theorem invoke_fixed (hshop : s.commerce? = none) (hcalls : s.functions.IsSteady P) (t : Tag)
    {σ : Session κ} (hσ : P σ) (body? : Option String) :
    ReturnsIn P (s.invoke v { t with body? })
      (((s.invoke v t).run σ).1.map (·.withBranches (s.branchesOf { t with body? })) id) := by
  have hsteady : Steady P (s.invoke v t) :=
    steady_decide fun e _ => Context.steady_holds hcalls
      fun _ _ p _ => Context.steady_answer_of_no_shop hshop p
  obtain ⟨done, hdone⟩ := hsteady
  intro τ hτ
  obtain ⟨ρ, hρ, hrun⟩ := hdone τ hτ
  refine ⟨ρ, hρ, ?_⟩
  rw [invoke_body, hrun, (hdone.result hσ).1]

/-! ## §3. The reply -/

/-- Messages are logged, and the session stays of its kind. -/
theorem returnsIn_warn_each (hlog : IgnoresLog P) (errors : List TagError) :
    ReturnsIn P (errors.forM fun e => (modify (·.warn e.message) : StateM (Session κ) Unit)) () := by
  induction errors with
  | nil => exact ReturnsIn.pure _
  | cons e es ih => exact (ReturnsIn.modify fun σ hσ => hlog σ e.message hσ).bind ih

/-- **What a decided tag shows** is the same in all sessions of a kind. -/
theorem steady_replyTo (hlog : IgnoresLog P) (i : Invocation) (holds : Bool) :
    Steady P (s.replyTo i holds) := by
  unfold replyTo
  simp only
  split
  · split
    · exact Steady.pure _
    · exact ⟨_, (returnsIn_warn_each hlog i.errors).bind (ReturnsIn.pure _)⟩
  · exact Steady.pure _

/-- With the debug mode off a tag shows its branch, or nothing if there are errors. -/
theorem replyTo_returns (hlog : IgnoresLog P) {i : Invocation} (hd : i.debug = .off)
    (holds : Bool) :
    ReturnsIn P (s.replyTo i holds)
      ⟨"", if i.hasErrors then none else some (i.branches.choose holds)⟩ := by
  have hv : ¬ i.debug = .verbose := by rw [hd]; decide
  have hon : i.debug.isEnabled = false := by rw [hd]; rfl
  unfold replyTo
  simp only [if_neg hv, hon]
  cases i.hasErrors with
  | true => exact (returnsIn_warn_each hlog i.errors).bind (ReturnsIn.pure _)
  | false => exact ReturnsIn.pure _

end

end Site

end ContentGate
