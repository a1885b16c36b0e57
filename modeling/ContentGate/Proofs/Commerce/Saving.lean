/-
  ContentGate.Proofs.Commerce.Saving — the SKU map is never out of date where products are saved.

  A shop over an inventory is used for a while: products and maps are
  looked up, purchases are asked about, the memo is forgotten, time
  passes, and the inventory changes, each change followed by one of the
  two save hooks.  What holds after any number of such steps (`UpToDate`):

    * the catalog is the inventory of the last change;
    * the SKU map that is kept, if any, is the complete map of that
      inventory, which has no more SKUs than the limit;
    * the memo answers no question but those asked since it was forgotten.

  So every lookup answers from the inventory as it is now, and so does a
  question that was not asked since.

  Main statements:
    * `Inventory.catalog_follows`, `Inventory.answer_answers` — an inventory
      as a catalog without a state, and what it answers;
    * `ShopStep.upToDate_run` — what one step preserves;
    * `Inventory.lookups_up_to_date` — lookups after any steps.
-/
import ContentGate.Proofs.Commerce.Lookups

namespace ContentGate

/-! ## §1. An inventory as fixed answers -/

namespace Inventory

/-- The answers of an inventory. -/
def answers (s : Inventory) : CatalogAnswers where
  skuRows limit := .ok (s.rows limit)
  productIdBySku sku := .ok (s.firstWithSku sku)
  bought user product := .ok (s.hasLine s.purchases user product)
  canDownload user product := .ok (s.hasLine s.downloads user product)

/-- The same inventory, after any number of queries. -/
def Queried (s t : Inventory) : Prop := ∃ n, t = { s with skuQueries := n }

theorem queried_self (s : Inventory) : s.Queried s := ⟨s.skuQueries, rfl⟩

/-- **However often it was queried, an inventory gives the same answers.** -/
theorem catalog_follows (s : Inventory) : catalog.Follows s.Queried s.answers where
  skuRows limit := by
    rintro _ ⟨n, rfl⟩
    exact ⟨_, ⟨n + 1, rfl⟩, rfl⟩
  productIdBySku sku := by
    rintro _ ⟨n, rfl⟩
    exact ⟨_, ⟨n, rfl⟩, rfl⟩
  bought user product := by
    rintro _ ⟨n, rfl⟩
    exact ⟨_, ⟨n, rfl⟩, rfl⟩
  canDownload user product := by
    rintro _ ⟨n, rfl⟩
    exact ⟨_, ⟨n, rfl⟩, rfl⟩

/-- The last product with a SKU, `0` when there is none. -/
def lastWithSku (s : Inventory) (sku : String) : ProductId :=
  (((s.withSku.filter (·.sku == sku)).getLast?).map (·.id)).getD 0

/-- The product that a SKU ought to name. -/
def ofSku (s : Inventory) (limit : Nat) (sku : String) : ProductId :=
  if s.withSku.length ≤ limit then s.lastWithSku sku else s.firstWithSku sku

/-- The product that a number or SKU ought to name. -/
def productNamed (s : Inventory) (limit : Nat) (text : String) : ProductId :=
  (Commerce.canonicalId? text).getD (s.ofSku limit text)

/-- The lines that a question of a kind looks at. -/
def lines (s : Inventory) : LookupKind → List (UserId × ProductId)
  | .bought => s.purchases
  | .canDownload => s.downloads

/-- What a question ought to be answered. -/
def owns (s : Inventory) (limit : Nat) (q : Question) : Bool :=
  q.user != 0 && s.productNamed limit q.product != 0
    && s.hasLine (s.lines q.kind) q.user (s.productNamed limit q.product)

section
variable (s : Inventory) (limit : Nat)

theorem skuMap?_answers :
    s.answers.skuMap? limit = .ok (if limit < s.withSku.length then none
      else some (SkuMap.ofRows (s.rows limit).rows)) := rfl

/-- **The map of an inventory within the limit** answers with the last product of a SKU. -/
theorem get?_ofRows_rows (h : s.withSku.length ≤ limit) (sku : String) :
    (SkuMap.ofRows (s.rows limit).rows).get? sku
      = ((s.withSku.filter (·.sku == sku)).getLast?).map (·.id) := by
  have hrows : (s.rows limit).rows = s.withSku.map fun p => (p.id, p.sku) := by
    unfold rows
    rw [List.take_of_length_le h]
  rw [SkuMap.get?_ofRows, hrows, List.filter_map, List.getLast?_map, Option.map_map]
  rfl

theorem productId_answers (text : String) :
    s.answers.productId limit text = .ok (s.productNamed limit text) := by
  unfold CatalogAnswers.productId productNamed
  cases Commerce.canonicalId? text with
  | some id => rfl
  | none =>
    unfold CatalogAnswers.productOfSku ofSku
    rw [skuMap?_answers]
    by_cases h : s.withSku.length ≤ limit
    · rw [if_neg (Nat.not_lt.2 h), if_pos h]
      simp only
      rw [get?_ofRows_rows s limit h]
      rfl
    · rw [if_pos (Nat.not_le.1 h), if_neg h]
      rfl

theorem answer_answers (q : Question) : s.answers.answer limit q = .ok (s.owns limit q) := by
  unfold CatalogAnswers.answer owns
  rw [productId_answers]
  by_cases huser : q.user = 0
  · simp [huser]
  · by_cases hid : s.productNamed limit q.product = 0
    · simp [huser, hid, CatalogAnswers.answerFor]
    · have hquestion : s.answers.question q.kind q.user (s.productNamed limit q.product)
          = .ok (s.hasLine (s.lines q.kind) q.user (s.productNamed limit q.product)) := by
        cases q.kind <;> rfl
      simp [huser, hid, CatalogAnswers.answerFor, hquestion]

end

end Inventory

/-! ## §2. Steps -/

/-- A hook that is called when something is saved. -/
inductive SaveHook where
  | product
  | variation

/-- What a hook does. -/
def SaveHook.run {κ : Type} : SaveHook → Session κ → Session κ
  | .product => Commerce.productSaved
  | .variation => Commerce.variationSaved

/-- What may be done with a shop over an inventory. -/
inductive ShopStep where
  /-- Looks up a product. -/
  | productId (text : String)
  /-- Looks up the SKU map. -/
  | skuMap
  /-- Asks about a purchase or a download. -/
  | ask (q : Question)
  /-- Forgets the remembered answers. -/
  | forget
  /-- Something is saved, without a change. -/
  | saved (hook : SaveHook)
  /-- The inventory changes and is saved. -/
  | change (inventory : Inventory) (hook : SaveHook)
  /-- Time passes. -/
  | wait (seconds : Nat)

namespace ShopStep

/-- What a step does. -/
def run (c : Commerce Inventory) : ShopStep → Session Inventory → Session Inventory
  | .productId text, σ => ((c.productId text).run.run σ).2
  | .skuMap, σ => (c.skuMap?.run.run σ).2
  | .ask q, σ => ((c.answer q).run.run σ).2
  | .forget, σ => { σ with memo := {} }
  | .saved hook, σ => hook.run σ
  | .change inventory hook, σ => hook.run { σ with catalog := inventory }
  | .wait seconds, σ =>
    { σ with transients := { σ.transients with now := σ.transients.now + seconds } }

/-- The inventory after a step. -/
def inventory (s : Inventory) : ShopStep → Inventory
  | .change t _ => t
  | _ => s

/-- The questions asked since the memo was forgotten, after a step. -/
def asked (qs : List Question) : ShopStep → List Question
  | .ask q => q :: qs
  | .forget => []
  | _ => qs

end ShopStep

/-- The memo answers none but these questions. -/
def Memo.Within (qs : List Question) (memo : Memo) : Prop := ∀ q, memo.get? q ≠ none → q ∈ qs

theorem Memo.within_insert {qs : List Question} {memo : Memo} (h : memo.Within qs) (q : Question)
    (b : Bool) : (memo.insert q b).Within (q :: qs) := by
  intro r hr
  by_cases hq : r = q
  · rw [hq]
    exact List.mem_cons_self
  · rw [Memo.get?_insert_of_ne memo b hq] at hr
    exact List.mem_cons_of_mem _ (h r hr)

/-- A session that is up to date with an inventory, where `qs` have been
asked since the memo was forgotten. -/
def UpToDate (limit : Nat) (s : Inventory) (qs : List Question) (σ : Session Inventory) : Prop :=
  Commerce.Consistent limit s.Queried s.answers (Memo.Within qs) σ

/-- After a save hook no map is kept, so none is out of date. -/
theorem SaveHook.upToDate_run {limit : Nat} {s : Inventory} {qs : List Question}
    {σ : Session Inventory} (hook : SaveHook) (hcatalog : s.Queried σ.catalog)
    (hmemo : σ.memo.Within qs) : UpToDate limit s qs (hook.run σ) := by
  have hdeleted : UpToDate limit s qs
      { σ with transients := σ.transients.delete Commerce.skuKey } := by
    refine ⟨hcatalog, fun entry hentry hkey => ?_, hmemo⟩
    have hne := (List.mem_filter.1 hentry).2
    rw [hkey] at hne
    exact absurd hne (by simp)
  cases hook with
  | product => exact hdeleted
  | variation => exact hdeleted

/-- **Every step leaves the session up to date.** -/
theorem ShopStep.upToDate_run (limit : Nat) {s : Inventory} {qs : List Question}
    {σ : Session Inventory} (h : UpToDate limit s qs σ) (step : ShopStep) :
    UpToDate limit (step.inventory s) (step.asked qs) (step.run (Inventory.shop limit) σ) := by
  let c : Commerce Inventory := Inventory.shop limit
  have hc : c.catalog.Follows s.Queried s.answers := s.catalog_follows
  cases step with
  | productId text => exact ((Commerce.answers_productId hc text).result h).2
  | skuMap => exact ((Commerce.answers_skuMap? hc).result h).2
  | ask q =>
    show UpToDate limit s (q :: qs) ((Commerce.answer _ q).run.run σ).2
    have hmore : ∀ memo : Memo, memo.Within qs → memo.Within (q :: qs) :=
      fun memo hmemo r hr => List.mem_cons_of_mem _ (hmemo r hr)
    cases hget : σ.memo.get? q with
    | some b =>
      rw [Commerce.run_answer_of_remembered hget]
      exact h.mono hmore
    | none =>
      obtain ⟨τ, hτ, hrun⟩ := Commerce.run_answer_of_new hc h hget
        hmore fun memo b hmemo _ => Memo.within_insert hmemo q b
      rw [hrun]
      exact hτ
  | forget => exact h.with_memo fun q hq => absurd rfl hq
  | saved hook => exact hook.upToDate_run h.catalog h.memo
  | change t hook => exact hook.upToDate_run t.queried_self h.memo
  | wait seconds => exact h.with_now _

/-! ## §3. After any steps -/

namespace ShopStep

/-- What steps do, one after the other. -/
def runAll (c : Commerce Inventory) (steps : List ShopStep) (σ : Session Inventory) :
    Session Inventory := steps.foldl (fun σ step => step.run c σ) σ

/-- The inventory after steps. -/
def inventoryAfter (s : Inventory) (steps : List ShopStep) : Inventory :=
  steps.foldl inventory s

/-- The questions asked since the memo was forgotten, after steps. -/
def askedAfter (qs : List Question) (steps : List ShopStep) : List Question :=
  steps.foldl asked qs

theorem upToDate_runAll (limit : Nat) (steps : List ShopStep) {s : Inventory}
    {qs : List Question} {σ : Session Inventory} (h : UpToDate limit s qs σ) :
    UpToDate limit (inventoryAfter s steps) (askedAfter qs steps)
      (runAll (Inventory.shop limit) steps σ) := by
  induction steps generalizing s qs σ with
  | nil => exact h
  | cons step steps ih => exact ih (step.upToDate_run limit h)

end ShopStep

/-- **Lookups answer from the inventory as it is**, after any steps from
a session in which nothing is kept or remembered. -/
theorem Inventory.lookups_up_to_date (start : Inventory) (limit now : Nat)
    (steps : List ShopStep) :
    let c : Commerce Inventory := Inventory.shop limit
    let σ := ShopStep.runAll c steps ⟨start, {}, ⟨[], now⟩, []⟩
    let s := ShopStep.inventoryAfter start steps
    (∀ id : ProductId, ((c.productId (toString id.toNat)).run.run σ).1 = .ok id)
      ∧ (∀ sku, (∀ id : ProductId, sku ≠ toString id.toNat) →
          ((c.productId sku).run.run σ).1
            = .ok (if s.withSku.length ≤ limit then s.lastWithSku sku else s.firstWithSku sku))
      ∧ (∃ map?, (c.skuMap?.run.run σ).1 = .ok map?
          ∧ (map? = none ↔ limit < s.withSku.length)
          ∧ ∀ m, map? = some m → ∀ sku,
              m.get? sku = ((s.withSku.filter (·.sku == sku)).getLast?).map (·.id))
      ∧ ∀ q, q ∉ ShopStep.askedAfter [] steps →
          ((c.answer q).run.run σ).1 = .ok (s.owns limit q) := by
  intro c σ s
  have hstart : UpToDate limit start [] ⟨start, {}, ⟨[], now⟩, []⟩ :=
    .of_nothing_kept start.queried_self rfl fun q hq => absurd rfl hq
  have h : UpToDate limit s (ShopStep.askedAfter [] steps) σ :=
    ShopStep.upToDate_runAll limit steps hstart
  have hc : c.catalog.Follows s.Queried s.answers := s.catalog_follows
  have hproduct : ∀ text, ((c.productId text).run.run σ).1 = .ok (s.productNamed limit text) := by
    intro text
    rw [← s.productId_answers limit text]
    exact ((Commerce.answers_productId hc text).result h).1
  refine ⟨fun id => ?_, fun sku hsku => ?_, ?_, fun q hq => ?_⟩
  · rw [hproduct, productNamed, Commerce.canonicalId?_eq_some_iff.2 rfl]
    rfl
  · have hnone : Commerce.canonicalId? sku = none := by
      rw [Option.eq_none_iff_forall_not_mem]
      exact fun id hid => hsku id (Commerce.canonicalId?_eq_some_iff.1 hid)
    rw [hproduct, productNamed, hnone]
    rfl
  · refine ⟨_, ((Commerce.answers_skuMap? hc).result h).1.trans (s.skuMap?_answers limit), ?_, ?_⟩
    · by_cases hlimit : limit < s.withSku.length
      · simp [hlimit]
      · simp [hlimit]
    · intro m hm sku
      by_cases hlimit : limit < s.withSku.length
      · rw [if_pos hlimit] at hm
        cases hm
      · rw [if_neg hlimit] at hm
        cases hm
        exact s.get?_ofRows_rows limit (Nat.not_lt.1 hlimit) sku
  · have hget : σ.memo.get? q = none := by
      cases hmemo : σ.memo.get? q with
      | none => rfl
      | some b =>
        refine absurd (h.memo q ?_) hq
        rw [hmemo]
        exact Option.some_ne_none b
    obtain ⟨τ, -, hrun⟩ := Commerce.run_answer_of_new (N := fun _ => True) hc h hget
      (fun _ _ => trivial) fun _ _ _ _ => trivial
    rw [hrun]
    exact s.answer_answers limit q

end ContentGate
