/-
  ContentGate.Proofs.Page.Withheld — what a tag withholds is not read.

  A tag protects the branch that it does not show.  Two tags with the same
  name and the same attributes that enclose different things are compiled
  and decided alike: the body only gives the branches, and nothing looks at
  these before one of them is rendered.  So a visitor learns nothing of a
  branch that is not shown, neither from the page, nor from the reports on
  it, nor from what the shop has been asked.

  Main statements:
    * `errorReport_withBranches` — what a tag with errors shows does not
      depend on the branches;
    * `run_showTag_of_no_errors` — otherwise one branch is rendered;
    * `withheld_unread` — the whole of it, for two tags.
-/
import ContentGate.Proofs.Page.FailClosed
import ContentGate.Proofs.Page.Verdict

namespace ContentGate

namespace Site

variable {κ : Type} {s : Site κ} {v : Visitor} {i : Invocation} {t : Tag}

/-! ## §1. What is shown -/

/-- What a tag with errors shows does not depend on its branches. -/
theorem errorReport_withBranches (i : Invocation) (b : Branches) :
    s.errorReport (i.withBranches b) = s.errorReport i := rfl

/-- What a tag shows in front of its branch. -/
def leadOf (s : Site κ) (i : Invocation) : String :=
  if i.debug = .verbose then i.verboseBlock s.options.options.name else ""

section
variable {holds : Bool} {σ τ : Session κ}

theorem run_reply_of_no_errors (hinvoke : (s.invoke v t).run σ = ((i, holds), τ))
    (h : i.errors = []) :
    (s.reply v t).run σ = (⟨s.leadOf i, some (i.branches.choose holds)⟩, τ) := by
  unfold reply
  rw [StateT.run_bind, hinvoke]
  show (s.replyTo i holds).run τ = _
  unfold replyTo
  rw [Invocation.hasErrors_eq_false_iff.2 h]
  rfl

/-- **A tag without errors** shows the branch that is chosen, rendered, and
looks at no other. -/
theorem run_showTag_of_no_errors (hinvoke : (s.invoke v t).run σ = ((i, holds), τ))
    (h : i.errors = []) (nested : String → StateM (Session κ) String) :
    (s.showTag v t nested).run σ
      = ((nested (i.branches.choose holds)).run τ).map (s.leadOf i ++ ·) id := by
  unfold showTag
  rw [StateT.run_bind, run_reply_of_no_errors hinvoke h]
  rfl

end

/-! ## §2. Two tags -/

/-- **What is withheld is not read.**  Two tags have the same name and the same
attributes, and any bodies.  They are decided alike: all but their branches is the same,
their attributes in normal form, conditions and errors among it, and so is the session
afterwards, that is, what is remembered, kept and asked.  With errors both show the same,
whatever would render their branches.  Without errors both show the same if their bodies
have the branch in common that is chosen. -/
theorem withheld_unread (s : Site κ) (v : Visitor) (name : String) (attributes : Attributes)
    (body₁ body₂ : Option String) (σ : Session κ) :
    let t₁ : Tag := ⟨name, attributes, body₁⟩
    let t₂ : Tag := ⟨name, attributes, body₂⟩
    let done₁ := (s.invoke v t₁).run σ
    let done₂ := (s.invoke v t₂).run σ
    let i₁ := done₁.1.1
    let i₂ := done₂.1.1
    i₂ = { i₁ with branches := i₂.branches }
      ∧ done₂.1.2 = done₁.1.2
      ∧ done₂.2 = done₁.2
      ∧ (i₁.errors ≠ [] → ∀ nested₁ nested₂,
          (s.showTag v t₂ nested₂).run σ = (s.showTag v t₁ nested₁).run σ)
      ∧ (i₁.errors = [] →
          (Branches.split t₂.body s.options.options.elseName (TagName.depth name)).choose done₁.1.2
            = (Branches.split t₁.body s.options.options.elseName
                (TagName.depth name)).choose done₁.1.2 →
          ∀ nested, (s.showTag v t₂ nested).run σ = (s.showTag v t₁ nested).run σ) := by
  intro t₁ t₂ done₁ done₂ i₁ i₂
  have hdone : done₂ = (done₁.1.map (·.withBranches (s.branchesOf t₂)) id, done₁.2) :=
    invoke_body t₁ body₂ σ
  have hinvoke₁ : (s.invoke v t₁).run σ = ((i₁, done₁.1.2), done₁.2) := rfl
  have hinvoke₂ : (s.invoke v t₂).run σ
      = ((i₁.withBranches (s.branchesOf t₂), done₁.1.2), done₁.2) := hdone
  have hi₂ : i₂ = i₁.withBranches (s.branchesOf t₂) := congrArg (·.1.1) hdone
  refine ⟨?_, congrArg (·.1.2) hdone, congrArg (·.2) hdone, ?_, ?_⟩
  · rw [hi₂]
    rfl
  · intro herrors nested₁ nested₂
    rw [run_showTag_of_errors hinvoke₁ herrors, run_showTag_of_errors hinvoke₂ herrors,
      errorReport_withBranches]
    rfl
  · intro herrors hchosen nested
    have hbranches : i₁.branches = s.branchesOf t₁ := branches_invoke t₁ σ
    rw [run_showTag_of_no_errors hinvoke₁ herrors, run_showTag_of_no_errors hinvoke₂ herrors,
      hbranches]
    have hside : (s.branchesOf t₂).choose done₁.1.2 = (s.branchesOf t₁).choose done₁.1.2 := hchosen
    exact congrArg (fun branch => ((nested branch).run done₁.2).map (s.leadOf i₁ ++ ·) id) hside

end Site

end ContentGate
