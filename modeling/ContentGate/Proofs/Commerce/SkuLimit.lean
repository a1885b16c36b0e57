/-
  ContentGate.Proofs.Commerce.SkuLimit — what the limit on SKUs decides.

  A shop over an inventory answers from the map of all SKUs as long as
  there are no more of them than its limit, and asks the inventory for
  each SKU otherwise.  Which of the two it does should not show.  It does
  not show where a SKU belongs to one product.  Where several products
  have a SKU it may: the map keeps the last of them, and the inventory
  finds the first.

  Main statements:
    * `Inventory.freshLookup_eq` — what a shop that has just opened answers;
    * `Inventory.limits_agree_iff` — when two limits give the same answer;
    * `Inventory.sharedSku_limits_differ` — two products with one SKU.
-/
import ContentGate.Proofs.Commerce.Saving

namespace ContentGate.Inventory

/-! ## §1. Shops that have just opened -/

/-- The answer of a shop that has just opened, with nothing kept or remembered. -/
def freshLookup (s : Inventory) (limit now : Nat) (text : String) : Except EvalError ProductId :=
  (((shop limit).productId text).run.run ⟨s, {}, ⟨[], now⟩, []⟩).1

/-- **A shop that has just opened answers from its inventory**, within the
limit and above it. -/
theorem freshLookup_eq (s : Inventory) (limit now : Nat) (text : String) :
    s.freshLookup limit now text = .ok (s.productNamed limit text) := by
  have hstart : UpToDate limit s [] ⟨s, {}, ⟨[], now⟩, []⟩ := by
    refine .of_nothing_kept s.queried_self rfl ?_
    intro q hq
    exact absurd rfl hq
  have hlookup := Commerce.answers_productId (c := shop limit) (M := Memo.Within [])
    s.catalog_follows text
  rw [← s.productId_answers limit text]
  exact (hlookup.result hstart).1

/-! ## §2. The first and the last product of a SKU -/

/-- The inventory finds the first product among those that the map is made of. -/
theorem firstWithSku_eq (s : Inventory) (sku : String) :
    s.firstWithSku sku = (((s.withSku.filter (·.sku == sku)).head?).map (·.id)).getD 0 := by
  unfold firstWithSku
  rw [List.head?_filter]

/-- Without products there is neither a first nor a last. -/
theorem lastWithSku_eq_firstWithSku_of_nil {s : Inventory} {sku : String}
    (h : s.withSku.filter (·.sku == sku) = []) : s.lastWithSku sku = s.firstWithSku sku := by
  rw [firstWithSku_eq, lastWithSku, h]
  rfl

/-- If no two products share a SKU, the last product of a SKU is the first. -/
theorem lastWithSku_eq_firstWithSku (s : Inventory) (sku : String)
    (h : (s.withSku.map (·.sku)).Nodup) : s.lastWithSku sku = s.firstWithSku sku := by
  have hcount : (s.withSku.filter (·.sku == sku)).length ≤ 1 := by
    have hone : (s.withSku.map (·.sku)).count sku ≤ 1 := List.nodup_iff_count.1 h sku
    rwa [List.count, List.countP_map, List.countP_eq_length_filter] at hone
  cases hfilter : s.withSku.filter (·.sku == sku) with
  | nil => exact lastWithSku_eq_firstWithSku_of_nil hfilter
  | cons p ps =>
    rw [hfilter, List.length_cons] at hcount
    obtain rfl : ps = [] := List.length_eq_zero_iff.1 (by omega)
    rw [firstWithSku_eq, lastWithSku, hfilter]
    rfl

/-! ## §3. Two limits -/

/-- **Two limits give the same answer** to a product number, on the same side
of the number of SKUs, and where the last product of the SKU is its first;
in no other case.  So the limit never shows if no two products share a SKU. -/
theorem limits_agree_iff (s : Inventory) (limit limit' now now' : Nat) (text : String) :
    s.freshLookup limit now text = .ok (s.productNamed limit text)
      ∧ (s.freshLookup limit now text = s.freshLookup limit' now' text ↔
          (∃ id : ProductId, text = toString id.toNat)
            ∨ (s.withSku.length ≤ limit ↔ s.withSku.length ≤ limit')
            ∨ s.lastWithSku text = s.firstWithSku text)
      ∧ ((s.withSku.map (·.sku)).Nodup →
          s.freshLookup limit now text = s.freshLookup limit' now' text) := by
  have hagree : s.freshLookup limit now text = s.freshLookup limit' now' text ↔
      (∃ id : ProductId, text = toString id.toNat)
        ∨ (s.withSku.length ≤ limit ↔ s.withSku.length ≤ limit')
        ∨ s.lastWithSku text = s.firstWithSku text := by
    rw [freshLookup_eq, freshLookup_eq, Except.ok.injEq]
    unfold productNamed
    cases hid : Commerce.canonicalId? text with
    | some id =>
      -- A product number is not looked up.
      have hnumber : ∃ id : ProductId, text = toString id.toNat :=
        ⟨id, Commerce.canonicalId?_eq_some_iff.1 hid⟩
      exact iff_of_true rfl (.inl hnumber)
    | none =>
      have hnumber : ¬ ∃ id : ProductId, text = toString id.toNat := by
        rintro ⟨id, h⟩
        rw [Commerce.canonicalId?_eq_some_iff.2 h] at hid
        cases hid
      rw [or_iff_right hnumber]
      show s.ofSku limit text = s.ofSku limit' text ↔ _
      unfold ofSku
      by_cases h : s.withSku.length ≤ limit <;> by_cases h' : s.withSku.length ≤ limit' <;>
        simp [h, h', eq_comm]
  refine ⟨s.freshLookup_eq limit now text, hagree, ?_⟩
  intro hnodup
  exact hagree.2 (.inr (.inr (s.lastWithSku_eq_firstWithSku text hnodup)))

/-- Two products with one SKU. -/
def sharedSku : Inventory where
  products := [{ id := 1, sku := "A" }, { id := 2, sku := "A" }]

/-- With room for both rows the map names the second product; with room for
one the inventory names the first. -/
theorem sharedSku_limits_differ :
    sharedSku.freshLookup 2 0 "A" = .ok 2 ∧ sharedSku.freshLookup 1 0 "A" = .ok 1
      ∧ ¬ ∀ (s : Inventory) (limit limit' : Nat) (text : String),
          s.freshLookup limit 0 text = s.freshLookup limit' 0 text := by
  have hmap : sharedSku.freshLookup 2 0 "A" = .ok 2 := by
    rw [freshLookup_eq]
    rfl
  have hsingle : sharedSku.freshLookup 1 0 "A" = .ok 1 := by
    rw [freshLookup_eq]
    rfl
  refine ⟨hmap, hsingle, ?_⟩
  intro h
  have hsame := h sharedSku 2 1 "A"
  rw [hmap, hsingle] at hsame
  exact absurd (Except.ok.inj hsame) (by decide)

end ContentGate.Inventory
