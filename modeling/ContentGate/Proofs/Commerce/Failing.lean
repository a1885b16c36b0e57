/-
  ContentGate.Proofs.Commerce.Failing — a failed lookup never becomes an answer.

  A question about a purchase may fail at several places: while the SKU
  map is read or made, while a single SKU is looked up, and when the
  catalog is asked at last.  By then an earlier part of the lookup may
  have changed the session.  Here the catalog is any catalog, and each of
  its answers may fail, so nothing is known but the program's own order of
  steps.  From it we get:

    * a failed question leaves the memo as it was;
    * a failed lookup of a product, or of the map, keeps no text;
    * the memo answers a question exactly as it was answered when it was
      last asked with success, since the memo was forgotten.

  Main statements:
    * `Leaves.bind`, `leaves_memo_freshAnswer` — only remembering changes
      the memo;
    * `skuMap?_cases`, `transients_productId` — a text is kept only where
      there is a map;
    * `answer_cases` — what a question does;
    * `LookupStep.get?_run`, `LookupStep.get?_runAll` — what the memo
      answers after one step, and after many;
    * `Commerce.failures_leave_no_answer` — the whole of it.
-/
import ContentGate.Proofs.Commerce.Saving

namespace ContentGate

variable {κ α β γ : Type}

/-! ## §1. Evaluations that leave a part of the session alone -/

/-- Whatever becomes of the evaluation, this part of the session is as it was. -/
def Leaves (part : Session κ → γ) (x : Evaluation κ α) : Prop :=
  ∀ σ, part (x.run.run σ).2 = part σ

namespace Leaves

variable {part : Session κ → γ}

theorem pure (a : α) : Leaves part (Pure.pure a : Evaluation κ α) := fun _ => rfl

/-- One after the other leaves alone what both leave alone. -/
theorem bind {x : Evaluation κ α} {f : α → Evaluation κ β} (hx : Leaves part x)
    (hf : ∀ a, Leaves part (f a)) : Leaves part (x >>= f) := by
  intro σ
  have hpart := hx σ
  rcases hrun : x.run.run σ with ⟨r, τ⟩
  rw [hrun] at hpart
  cases r with
  | ok a =>
    rw [run_bind_of_ok hrun, hf a τ]
    exact hpart
  | error cause =>
    rw [run_bind_of_error hrun]
    exact hpart

end Leaves

namespace Commerce

variable {c : Commerce κ} {part : Session κ → γ} {σ : Session κ}

/-- A question to the catalog changes nothing but the catalog, -/
theorem leaves_ask (hpart : ∀ σ catalog, part { σ with catalog } = part σ)
    (question : ExceptT EvalError (StateM κ) α) : Leaves part (ask question) := by
  intro σ
  unfold ask
  rw [run_get_bind]
  rcases question.run σ.catalog with ⟨r, catalog⟩
  cases r with
  | ok a => exact hpart σ catalog
  | error cause => exact hpart σ catalog

/-- and reading the kept map nothing but the log. -/
theorem leaves_keptMap? (c : Commerce κ)
    (hpart : ∀ (σ : Session κ) message, part (σ.warn message) = part σ) :
    Leaves part c.keptMap? := by
  intro σ
  unfold keptMap?
  rw [run_get_bind]
  cases σ.transients.get? skuKey with
  | none => rfl
  | some text =>
    cases hread : SkuMap.ofStored? text with
    | none =>
      simp only [hread]
      exact hpart σ _
    | some m =>
      simp only [hread]
      rfl

/-! ## §2. Lookups of products -/

/-- Reading the kept map never fails. -/
theorem keptMap?_ok (c : Commerce κ) (σ : Session κ) :
    ∃ m? τ, τ.memo = σ.memo ∧ τ.transients = σ.transients
      ∧ c.keptMap?.run.run σ = (.ok m?, τ) := by
  have hmemo : Leaves Session.memo c.keptMap? := leaves_keptMap? c fun _ _ => rfl
  have htransients : Leaves Session.transients c.keptMap? := leaves_keptMap? c fun _ _ => rfl
  have hok : ∃ m?, (c.keptMap?.run.run σ).1 = .ok m? := by
    unfold keptMap?
    rw [run_get_bind]
    cases σ.transients.get? skuKey with
    | none => exact ⟨none, rfl⟩
    | some text =>
      cases hread : SkuMap.ofStored? text with
      | none =>
        simp only [hread]
        exact ⟨none, rfl⟩
      | some m =>
        simp only [hread]
        exact ⟨some m, rfl⟩
  obtain ⟨m?, hm⟩ := hok
  exact ⟨m?, _, hmemo σ, htransients σ, Prod.ext hm rfl⟩

/-- **A text is kept only where there is a map.**  In the other two cases,
too many SKUs and a failure, the kept texts are as they were. -/
theorem skuMap?_cases (c : Commerce κ) (σ : Session κ) :
    ∃ τ, τ.memo = σ.memo ∧
      ((∃ m, c.skuMap?.run.run σ = (.ok (some m), τ))
        ∨ (c.skuMap?.run.run σ = (.ok none, τ) ∧ τ.transients = σ.transients)
        ∨ ∃ cause, c.skuMap?.run.run σ = (.error cause, τ) ∧ τ.transients = σ.transients) := by
  obtain ⟨m?, τ, hmemo, htransients, hkept⟩ := c.keptMap?_ok σ
  unfold skuMap?
  cases m? with
  | some m =>
    rw [run_bind_of_ok hkept]
    exact ⟨τ, hmemo, .inl ⟨m, rfl⟩⟩
  | none =>
    rw [run_bind_of_ok hkept]
    have hleaves : Leaves Session.memo (ask (c.catalog.skuRows c.skuLimit)) :=
      leaves_ask (fun _ _ => rfl) _
    have hleaves' : Leaves Session.transients (ask (c.catalog.skuRows c.skuLimit)) :=
      leaves_ask (fun _ _ => rfl) _
    have hmemo' := hleaves τ
    have htransients' := hleaves' τ
    rcases hask : (ask (c.catalog.skuRows c.skuLimit)).run.run τ with ⟨r, ρ⟩
    rw [hask] at hmemo' htransients'
    cases r with
    | error cause =>
      rw [run_bind_of_error hask]
      exact ⟨ρ, hmemo'.trans hmemo, .inr (.inr ⟨cause, rfl, htransients'.trans htransients⟩)⟩
    | ok rows =>
      rw [run_bind_of_ok hask]
      by_cases hfound : c.skuLimit < rows.found
      · rw [if_pos hfound]
        exact ⟨ρ, hmemo'.trans hmemo, .inr (.inl ⟨rfl, htransients'.trans htransients⟩)⟩
      · rw [if_neg hfound]
        let kept := (SkuMap.ofRows rows.rows).stored
        exact ⟨{ ρ with transients := ρ.transients.set skuKey kept skuSeconds },
          hmemo'.trans hmemo, .inl ⟨SkuMap.ofRows rows.rows, rfl⟩⟩

/-- Looking up the map leaves the memo alone, -/
theorem leaves_memo_skuMap? (c : Commerce κ) : Leaves Session.memo c.skuMap? := by
  intro σ
  obtain ⟨τ, hmemo, ⟨m, hrun⟩ | ⟨hrun, -⟩ | ⟨cause, hrun, -⟩⟩ := c.skuMap?_cases σ
  · rw [hrun]
    exact hmemo
  · rw [hrun]
    exact hmemo
  · rw [hrun]
    exact hmemo

/-- and if it fails, the kept texts too. -/
theorem transients_skuMap? {cause : EvalError} (h : (c.skuMap?.run.run σ).1 = .error cause) :
    (c.skuMap?.run.run σ).2.transients = σ.transients := by
  obtain ⟨τ, -, ⟨m, hrun⟩ | ⟨hrun, -⟩ | ⟨cause, hrun, htransients⟩⟩ := c.skuMap?_cases σ
  · rw [hrun] at h
    cases h
  · rw [hrun] at h
    cases h
  · rw [hrun]
    exact htransients

/-- The same of the product that a text names. -/
theorem leaves_memo_productId (c : Commerce κ) (text : String) :
    Leaves Session.memo (c.productId text) := by
  unfold productId
  cases canonicalId? text with
  | some id => exact Leaves.pure id
  | none =>
    refine (leaves_memo_skuMap? c).bind ?_
    intro m?
    cases m? with
    | some m => exact Leaves.pure _
    | none => exact leaves_ask (fun _ _ => rfl) _

theorem transients_productId {text : String} {cause : EvalError}
    (h : ((c.productId text).run.run σ).1 = .error cause) :
    ((c.productId text).run.run σ).2.transients = σ.transients := by
  unfold productId at h ⊢
  cases hid : canonicalId? text with
  | some id =>
    rw [hid] at h
    cases h
  | none =>
    simp only [hid] at h ⊢
    obtain ⟨τ, -, ⟨m, hrun⟩ | ⟨hrun, htransients⟩ | ⟨cause', hrun, htransients⟩⟩ :=
      c.skuMap?_cases σ
    · -- With a map there is an answer.
      rw [run_bind_of_ok hrun] at h
      cases h
    · rw [run_bind_of_ok hrun]
      have hleaves : Leaves Session.transients (ask (c.catalog.productIdBySku text)) :=
        leaves_ask (fun _ _ => rfl) _
      exact (hleaves τ).trans htransients
    · rw [run_bind_of_error hrun]
      exact htransients

/-! ## §3. Questions -/

/-- **Answering anew leaves the memo alone**, and so does failing to. -/
theorem leaves_memo_freshAnswer (c : Commerce κ) (q : Question) :
    Leaves Session.memo (c.freshAnswer q) := by
  unfold freshAnswer
  split
  · exact Leaves.pure false
  · refine (leaves_memo_productId c q.product).bind ?_
    intro id
    split
    · exact Leaves.pure false
    · exact leaves_ask (fun _ _ => rfl) _

/-- **What a question does**: it is answered from the memo and nothing
changes; or it is answered anew and remembered; or it fails, and the memo
is as it was. -/
theorem answer_cases (c : Commerce κ) (q : Question) (σ : Session κ) :
    (∃ b, σ.memo.get? q = some b ∧ (c.answer q).run.run σ = (.ok b, σ))
      ∨ (∃ b τ, σ.memo.get? q = none ∧ (c.answer q).run.run σ = (.ok b, τ)
          ∧ τ.memo = σ.memo.insert q b)
      ∨ (∃ cause τ, σ.memo.get? q = none ∧ (c.answer q).run.run σ = (.error cause, τ)
          ∧ τ.memo = σ.memo) := by
  cases hget : σ.memo.get? q with
  | some b => exact .inl ⟨b, rfl, run_answer_of_remembered hget⟩
  | none =>
    have hmemo := leaves_memo_freshAnswer c q σ
    rcases hfresh : (c.freshAnswer q).run.run σ with ⟨r, τ⟩
    rw [hfresh] at hmemo
    have hnew : (c.answer q).run.run σ = (c.freshAnswer q >>= fun b => do
        modify fun s => { s with memo := s.memo.insert q b }
        pure b : Evaluation κ Bool).run.run σ := by
      unfold answer
      rw [run_get_bind, hget]
    rw [hnew]
    right
    cases r with
    | ok b =>
      rw [run_bind_of_ok hfresh]
      refine .inl ⟨b, { τ with memo := τ.memo.insert q b }, rfl, rfl, ?_⟩
      rw [← hmemo]
    | error cause =>
      rw [run_bind_of_error hfresh]
      exact .inr ⟨cause, τ, rfl, rfl, hmemo⟩

end Commerce

/-! ## §4. Steps -/

/-- What may happen to a shop, whatever its catalog. -/
inductive LookupStep (κ : Type) where
  /-- Looks up a product. -/
  | productId (text : String)
  /-- Looks up the SKU map. -/
  | skuMap
  /-- Asks about a purchase or a download. -/
  | ask (q : Question)
  /-- Forgets the remembered answers. -/
  | forget
  /-- Something is saved. -/
  | saved (hook : SaveHook)
  /-- In the meantime the catalog changes, time passes, and others write texts. -/
  | meanwhile (catalog : κ) (transients : Transients)

namespace LookupStep

/-- What a step does. -/
def run (c : Commerce κ) : LookupStep κ → Session κ → Session κ
  | .productId text, σ => ((c.productId text).run.run σ).2
  | .skuMap, σ => (c.skuMap?.run.run σ).2
  | .ask q, σ => ((c.answer q).run.run σ).2
  | .forget, σ => { σ with memo := {} }
  | .saved hook, σ => hook.run σ
  | .meanwhile catalog transients, σ => { σ with catalog, transients }

/-- What steps do, one after the other. -/
def runAll (c : Commerce κ) (steps : List (LookupStep κ)) (σ : Session κ) : Session κ :=
  steps.foldl (fun σ step => step.run c σ) σ

variable {c : Commerce κ} {q : Question} {b : Bool}

/-- **What the memo answers after one step**: what it answered before,
unless it is forgotten, and the answer that was just given. -/
theorem get?_run (step : LookupStep κ) (σ : Session κ) :
    (step.run c σ).memo.get? q = some b ↔
      (step ≠ .forget ∧ σ.memo.get? q = some b)
        ∨ (step = .ask q ∧ ((c.answer q).run.run σ).1 = .ok b) := by
  -- Most steps leave the memo alone.
  have hkeeps : ∀ τ : Session κ, τ.memo = σ.memo → step ≠ .forget → step ≠ .ask q →
      (τ.memo.get? q = some b ↔ (step ≠ .forget ∧ σ.memo.get? q = some b)
        ∨ (step = .ask q ∧ ((c.answer q).run.run σ).1 = .ok b)) := by
    intro τ hmemo hforget hask
    rw [hmemo]
    simp [hforget, hask]
  cases step with
  | productId text => exact hkeeps _ (c.leaves_memo_productId text σ) nofun nofun
  | skuMap => exact hkeeps _ (c.leaves_memo_skuMap? σ) nofun nofun
  | saved hook =>
    refine hkeeps _ ?_ nofun nofun
    cases hook with
    | product => rfl
    | variation => rfl
  | meanwhile catalog transients => exact hkeeps _ rfl nofun nofun
  | forget =>
    show (none = some b) ↔ _
    simp
  | ask q' =>
    by_cases hq : q' = q
    · subst hq
      show (((c.answer q').run.run σ).2).memo.get? q' = some b ↔ _
      obtain ⟨b', hget, hrun⟩ | ⟨b', τ, hget, hrun, hmemo⟩ | ⟨cause, τ, hget, hrun, hmemo⟩ :=
        c.answer_cases q' σ
      · rw [hrun, hget]
        simp
      · rw [hrun, hmemo, hget, Memo.get?_insert_self]
        simp
      · rw [hrun, hmemo, hget]
        simp
    · show (((c.answer q').run.run σ).2).memo.get? q = some b ↔ _
      have hother : (((c.answer q').run.run σ).2).memo.get? q = σ.memo.get? q := by
        obtain ⟨b', -, hrun⟩ | ⟨b', τ, -, hrun, hmemo⟩ | ⟨cause, τ, -, hrun, hmemo⟩ :=
          c.answer_cases q' σ
        · rw [hrun]
        · rw [hrun, hmemo, Memo.get?_insert_of_ne _ _ (fun h => hq h.symm)]
        · rw [hrun, hmemo]
      rw [hother]
      simp [hq]

/-- The question `q` was answered `b` at some step, and nothing was forgotten since. -/
def AnsweredSince (c : Commerce κ) (start : Session κ) (steps : List (LookupStep κ))
    (q : Question) (b : Bool) : Prop :=
  ∃ earlier later, steps = earlier ++ .ask q :: later ∧ .forget ∉ later
    ∧ ((c.answer q).run.run (runAll c earlier start)).1 = .ok b

/-- At the first step, or at a later one. -/
theorem answeredSince_cons {σ : Session κ} {step : LookupStep κ} {steps : List (LookupStep κ)} :
    AnsweredSince c σ (step :: steps) q b ↔
      (.forget ∉ steps ∧ step = .ask q ∧ ((c.answer q).run.run σ).1 = .ok b)
        ∨ AnsweredSince c (step.run c σ) steps q b := by
  constructor
  · rintro ⟨earlier, later, hsteps, hforget, hanswer⟩
    cases earlier with
    | nil =>
      cases hsteps
      exact .inl ⟨hforget, rfl, hanswer⟩
    | cons first earlier =>
      cases hsteps
      exact .inr ⟨earlier, later, rfl, hforget, hanswer⟩
  · rintro (⟨hforget, rfl, hanswer⟩ | ⟨earlier, later, rfl, hforget, hanswer⟩)
    · exact ⟨[], steps, rfl, hforget, hanswer⟩
    · exact ⟨step :: earlier, later, rfl, hforget, hanswer⟩

/-- **What the memo answers after any steps.** -/
theorem get?_runAll (steps : List (LookupStep κ)) (σ : Session κ) :
    (runAll c steps σ).memo.get? q = some b ↔
      (.forget ∉ steps ∧ σ.memo.get? q = some b) ∨ AnsweredSince c σ steps q b := by
  induction steps generalizing σ with
  | nil =>
    show σ.memo.get? q = some b ↔ _
    simp [AnsweredSince]
  | cons step steps ih =>
    show (runAll c steps (step.run c σ)).memo.get? q = some b ↔ _
    rw [ih, get?_run, answeredSince_cons, List.mem_cons, not_or, eq_comm (a := LookupStep.forget)]
    tauto

end LookupStep

/-- **A failed lookup never becomes an answer.**  Whatever the catalog, which of its
answers fail, and whatever happened since the shop opened with an empty memo: a question
that fails leaves the memo as it was; the map and a product that cannot be looked up leave
the kept texts as they were; the memo answers a question if and only if it was answered so
since the memo was forgotten; and until it is forgotten again, that is the answer to the
question, without any change. -/
theorem Commerce.failures_leave_no_answer (c : Commerce κ) (catalog : κ) (kept : Transients)
    (log : List String) (steps : List (LookupStep κ)) :
    let start : Session κ := ⟨catalog, {}, kept, log⟩
    let σ := LookupStep.runAll c steps start
    (∀ q cause, ((c.answer q).run.run σ).1 = .error cause →
        ((c.answer q).run.run σ).2.memo = σ.memo)
      ∧ (∀ cause, (c.skuMap?.run.run σ).1 = .error cause →
          (c.skuMap?.run.run σ).2.transients = σ.transients)
      ∧ (∀ text cause, ((c.productId text).run.run σ).1 = .error cause →
          ((c.productId text).run.run σ).2.transients = σ.transients)
      ∧ (∀ q b, σ.memo.get? q = some b ↔ ∃ earlier later,
          steps = earlier ++ .ask q :: later ∧ .forget ∉ later
            ∧ ((c.answer q).run.run (LookupStep.runAll c earlier start)).1 = .ok b)
      ∧ ∀ q b, σ.memo.get? q = some b → ∀ more, .forget ∉ more →
          (c.answer q).run.run (LookupStep.runAll c more σ)
            = (.ok b, LookupStep.runAll c more σ) := by
  intro start σ
  refine ⟨?_, ?_, ?_, ?_, ?_⟩
  · intro q cause h
    obtain ⟨b, -, hrun⟩ | ⟨b, τ, -, hrun, -⟩ | ⟨cause', τ, -, hrun, hmemo⟩ := c.answer_cases q σ
    · rw [hrun] at h
      cases h
    · rw [hrun] at h
      cases h
    · rw [hrun]
      exact hmemo
  · intro cause h
    exact transients_skuMap? h
  · intro text cause h
    exact transients_productId h
  · intro q b
    have hstart : start.memo.get? q ≠ some b := by
      intro h
      cases h
    rw [LookupStep.get?_runAll, or_iff_right (fun h => hstart h.2)]
    exact Iff.rfl
  · intro q b hget more hmore
    exact run_answer_of_remembered (LookupStep.get?_runAll more σ |>.2 (.inl ⟨hmore, hget⟩))

end ContentGate
