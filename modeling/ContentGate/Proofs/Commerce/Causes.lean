/-
  ContentGate.Proofs.Commerce.Causes — why a lookup of a purchase fails.

  The program throws no error of its own while it looks up a purchase: an
  unreadable map is discarded, an unknown product is not bought.  So an
  error is that of a question that the catalog did not answer, and the
  lookup ends there, in the state that this question has left.  There are
  three such questions: for the SKU rows, for a single SKU, and for the
  purchase itself.

  The program does not look at the error.  Which errors a catalog has is
  its own affair; `Catalog.FailsOnly` says of a catalog that they are all
  of one kind, and then so are those of the lookups.

  Main statements:
    * `FailsAs.bind` — an error of a sequence is an error of a part of it;
    * `failsAs_bought` — why a lookup of a purchase fails;
    * `LookupFails.of_failsOnly` — a lookup fails only as its catalog does.
-/
import ContentGate.Proofs.Commerce.Failing

namespace ContentGate

variable {κ α β : Type}

/-! ## §1. Causes of errors -/

/-- Whenever the evaluation fails, its cause and the session that it leaves are of this kind. -/
def FailsAs (K : EvalError → Session κ → Prop) (x : Evaluation κ α) : Prop :=
  ∀ σ cause τ, x.run.run σ = (.error cause, τ) → K cause τ

namespace FailsAs

variable {K L : EvalError → Session κ → Prop}

/-- What always has an outcome does not fail. -/
theorem of_ok {x : Evaluation κ α} (h : ∀ σ, ∃ a τ, x.run.run σ = (.ok a, τ)) : FailsAs K x := by
  intro σ cause τ hrun
  obtain ⟨a, ρ, hok⟩ := h σ
  rw [hok] at hrun
  cases hrun

theorem pure (a : α) : FailsAs K (Pure.pure a : Evaluation κ α) := of_ok fun σ => ⟨a, σ, rfl⟩

theorem mono {x : Evaluation κ α} (hx : FailsAs K x) (hK : ∀ cause τ, K cause τ → L cause τ) :
    FailsAs L x := fun σ cause τ hrun => hK cause τ (hx σ cause τ hrun)

/-- **An error of a sequence is an error of a part of it.** -/
theorem bind {x : Evaluation κ α} {f : α → Evaluation κ β} (hx : FailsAs K x)
    (hf : ∀ a, FailsAs K (f a)) : FailsAs K (x >>= f) := by
  intro σ cause τ hrun
  rcases hfirst : x.run.run σ with ⟨r, ρ⟩
  cases r with
  | ok a =>
    rw [run_bind_of_ok hfirst] at hrun
    exact hf a ρ cause τ hrun
  | error cause' =>
    rw [run_bind_of_error hfirst] at hrun
    cases hrun
    exact hx σ _ _ hfirst

end FailsAs

/-! ## §2. Questions that the catalog does not answer -/

namespace Catalog

variable {c : Catalog κ} {K L : EvalError → Prop}

/-- In some state the question fails with this error, and it leaves the state `k`. -/
def Fails (question : ExceptT EvalError (StateM κ) α) (cause : EvalError) (k : κ) : Prop :=
  ∃ k₀, question.run.run k₀ = (.error cause, k)

/-- Every error of the catalog is of this kind. -/
structure FailsOnly (c : Catalog κ) (K : EvalError → Prop) : Prop where
  skuRows : ∀ limit cause k, Fails (c.skuRows limit) cause k → K cause
  productIdBySku : ∀ sku cause k, Fails (c.productIdBySku sku) cause k → K cause
  bought : ∀ user product cause k, Fails (c.bought user product) cause k → K cause
  canDownload : ∀ user product cause k, Fails (c.canDownload user product) cause k → K cause

/-- No question ever fails. -/
def NeverFails (c : Catalog κ) : Prop := c.FailsOnly fun _ => False

/-- Every error of the catalog is a failed lookup, the error by which a catalog says that it
could not answer. -/
def FailsByLookup (c : Catalog κ) : Prop :=
  c.FailsOnly fun cause => ∃ detail, cause = .lookupFailed detail

theorem FailsOnly.mono (h : c.FailsOnly K) (hK : ∀ cause, K cause → L cause) : c.FailsOnly L where
  skuRows limit cause k hfails := hK cause (h.skuRows limit cause k hfails)
  productIdBySku sku cause k hfails := hK cause (h.productIdBySku sku cause k hfails)
  bought user product cause k hfails := hK cause (h.bought user product cause k hfails)
  canDownload user product cause k hfails := hK cause (h.canDownload user product cause k hfails)

theorem NeverFails.failsByLookup (h : c.NeverFails) : c.FailsByLookup :=
  FailsOnly.mono h fun _ => False.elim

/-- A question that fails during an outage, and is asked otherwise. -/
theorem Fails.of_unless {x : ExceptT EvalError (StateM κ) α} {fails : Bool} {error cause : EvalError}
    {k : κ} (h : Fails (if fails then throw error else x : ExceptT EvalError (StateM κ) α) cause k) :
    cause = error ∨ Fails x cause k := by
  cases fails with
  | true =>
    obtain ⟨k₀, hrun⟩ := h
    cases hrun
    exact .inl rfl
  | false => exact .inr h

/-- **During an outage a catalog fails by lookups** if it does so otherwise. -/
theorem FailsByLookup.during (h : c.FailsByLookup) (o : Outage) : (c.during o).FailsByLookup where
  skuRows limit cause k hfails :=
    hfails.of_unless.elim (fun hout => ⟨_, hout⟩) (h.skuRows limit cause k)
  productIdBySku sku cause k hfails :=
    hfails.of_unless.elim (fun hout => ⟨_, hout⟩) (h.productIdBySku sku cause k)
  bought user product cause k hfails :=
    hfails.of_unless.elim (fun hout => ⟨_, hout⟩) (h.bought user product cause k)
  canDownload user product cause k hfails :=
    hfails.of_unless.elim (fun hout => ⟨_, hout⟩) (h.canDownload user product cause k)

end Catalog

/-- The catalog in memory answers everything. -/
theorem Inventory.catalog_neverFails : catalog.NeverFails where
  skuRows := by
    rintro limit cause k ⟨k₀, h⟩
    cases h
  productIdBySku := by
    rintro sku cause k ⟨k₀, h⟩
    cases h
  bought := by
    rintro user product cause k ⟨k₀, h⟩
    cases h
  canDownload := by
    rintro user product cause k ⟨k₀, h⟩
    cases h

/-! ## §3. Lookups of purchases -/

namespace Commerce

open Catalog

/-- A lookup of a purchase fails with an error and leaves the catalog in the
state `k`, because one of the questions that it may take fails so.  The
SKUs are asked for only where the product is not given by its number. -/
inductive LookupFails (c : Commerce κ) (user : UserId) (product : String) (cause : EvalError)
    (k : κ) : Prop where
  | skuRows (hsku : canonicalId? product = none)
      (h : Fails (c.catalog.skuRows c.skuLimit) cause k)
  | productIdBySku (hsku : canonicalId? product = none)
      (h : Fails (c.catalog.productIdBySku product) cause k)
  | bought {id : ProductId} (hid : id ≠ 0) (h : Fails (c.catalog.bought user id) cause k)

section
variable {c : Commerce κ} {user : UserId} {product : String} {cause : EvalError} {k : κ}

/-- **A lookup fails only as its catalog does**, and so never if the catalog never does. -/
theorem LookupFails.of_failsOnly {K : EvalError → Prop} (hc : c.catalog.FailsOnly K)
    (hfails : c.LookupFails user product cause k) : K cause := by
  cases hfails with
  | skuRows _ h => exact hc.skuRows _ _ _ h
  | productIdBySku _ h => exact hc.productIdBySku _ _ _ h
  | bought _ h => exact hc.bought _ _ _ _ h

end

/-- A question to the catalog fails where the catalog does, and with its error. -/
theorem failsAs_ask (question : ExceptT EvalError (StateM κ) α) :
    FailsAs (fun cause τ => Fails question cause τ.catalog) (ask question) := by
  intro σ cause τ hrun
  unfold ask at hrun
  rw [run_get_bind] at hrun
  rcases hquestion : question.run.run σ.catalog with ⟨r, k⟩
  have hask : question.run σ.catalog = (r, k) := hquestion
  rw [hask] at hrun
  cases r with
  | ok a => cases hrun
  | error cause' =>
    cases hrun
    exact ⟨σ.catalog, hquestion⟩

variable (c : Commerce κ) (user : UserId) (product : String)

/-- The cause of an error while a purchase is looked up. -/
def LookupFailsAs (cause : EvalError) (τ : Session κ) : Prop :=
  c.LookupFails user product cause τ.catalog

theorem failsAs_skuMap? (hsku : canonicalId? product = none) :
    FailsAs (c.LookupFailsAs user product) c.skuMap? := by
  have hkept : ∀ σ : Session κ, ∃ m? τ, c.keptMap?.run.run σ = (.ok m?, τ) := by
    intro σ
    obtain ⟨m?, τ, -, -, hrun⟩ := c.keptMap?_ok σ
    exact ⟨m?, τ, hrun⟩
  unfold skuMap?
  refine (FailsAs.of_ok hkept).bind fun m? => ?_
  cases m? with
  | some m => exact FailsAs.pure _
  | none =>
    have hask : FailsAs (c.LookupFailsAs user product) (ask (c.catalog.skuRows c.skuLimit)) :=
      (failsAs_ask _).mono fun _ _ hfails => .skuRows hsku hfails
    refine hask.bind fun answer => ?_
    split
    · exact FailsAs.pure _
    · -- Keeping the map does not fail.
      exact FailsAs.of_ok fun σ => ⟨_, _, rfl⟩

theorem failsAs_productId : FailsAs (c.LookupFailsAs user product) (c.productId product) := by
  unfold productId
  cases hsku : canonicalId? product with
  | some id => exact FailsAs.pure id
  | none =>
    refine (c.failsAs_skuMap? user product hsku).bind fun m? => ?_
    cases m? with
    | some m => exact FailsAs.pure _
    | none => exact (failsAs_ask _).mono fun _ _ hfails => .productIdBySku hsku hfails

/-- **Why a lookup of a purchase fails**: the user is not the anonymous one,
and the catalog does not answer. -/
theorem failsAs_bought :
    FailsAs (fun cause τ => user ≠ 0 ∧ c.LookupFailsAs user product cause τ)
      (c.bought user product) := by
  have hfresh : FailsAs (fun cause τ => user ≠ 0 ∧ c.LookupFailsAs user product cause τ)
      (c.freshAnswer ⟨.bought, user, product⟩) := by
    unfold freshAnswer
    by_cases huser : user = 0
    · rw [if_pos huser]
      exact FailsAs.pure false
    · rw [if_neg huser]
      refine FailsAs.mono ?_ fun cause τ h => ⟨huser, h⟩
      refine (c.failsAs_productId user product).bind fun id => ?_
      by_cases hid : id = 0
      · rw [if_pos hid]
        exact FailsAs.pure false
      · rw [if_neg hid]
        exact (failsAs_ask _).mono fun _ _ hfails => .bought hid hfails
  unfold bought answer
  refine (FailsAs.of_ok fun σ => ⟨σ, σ, rfl⟩).bind fun σ => ?_
  split
  · exact FailsAs.pure _
  · -- Remembering the answer does not fail.
    exact hfresh.bind fun b => FailsAs.of_ok fun τ => ⟨b, _, rfl⟩

end Commerce

end ContentGate
