/-
  ContentGate.Proofs.Commerce.Queries — the caches save what they promise.

  The map of SKUs and the memo exist to save queries, and a cache that no
  longer saves any still gives the right answers.  So we let the catalog
  note every call that reaches it (`Catalog.noting`), and show that the
  shop never departs from the ledger: after any lookups the session is as
  the ledger says, and each lookup has caused the calls that it says.
  The catalog is any catalog that gives fixed answers and never fails.

  Main statements:
    * `leads_skuMap?`, `leads_productId`, `leads_answer` — lookups cost
      what the ledger says;
    * `Lookup.agrees_run`, `Lookup.agrees_runAll` — one lookup, and many;
    * `Commerce.caches_save_queries` — what is saved.
-/
import Mathlib.Data.List.Dedup
import ContentGate.Proofs.Commerce.Ledger
import ContentGate.Proofs.Commerce.Saving

namespace ContentGate

variable {κ α β : Type}

/-! ## §1. Catalogs that note their calls -/

/-- A question to a catalog that is noted. -/
def noted (call : CatalogCall) (x : ExceptT EvalError (StateM κ) α) :
    ExceptT EvalError (StateM (κ × List CatalogCall)) α :=
  fun s => (((x.run.run s.1).1, ((x.run.run s.1).2, s.2 ++ [call])))

/-- The same catalog, with a note of every call. -/
def Catalog.noting (c : Catalog κ) : Catalog (κ × List CatalogCall) where
  skuRows limit := noted (.skuRows limit) (c.skuRows limit)
  productIdBySku sku := noted (.productIdBySku sku) (c.productIdBySku sku)
  bought user product := noted (.question .bought user product) (c.bought user product)
  canDownload user product :=
    noted (.question .canDownload user product) (c.canDownload user product)

/-- A shop that notes what it asks. -/
def Commerce.noting (c : Commerce κ) : Commerce (κ × List CatalogCall) where
  catalog := c.catalog.noting
  skuLimit := c.skuLimit
  diagnosis := c.diagnosis

namespace Memo

/-- The remembered questions, the last one first. -/
def questions (m : Memo) : List Question := m.entries.map (·.1)

theorem get?_eq_none_iff {m : Memo} {q : Question} : m.get? q = none ↔ q ∉ m.questions := by
  unfold get? questions
  rw [Option.map_eq_none_iff, List.find?_eq_none]
  simp only [List.mem_map, not_exists, not_and, beq_iff_eq]

/-- A question that was not remembered comes first. -/
theorem questions_insert {m : Memo} {q : Question} (h : q ∉ m.questions) (b : Bool) :
    (m.insert q b).questions = q :: m.questions := by
  have hothers : m.entries.filter (·.1 != q) = m.entries := by
    rw [List.filter_eq_self]
    intro e he
    have hne : e.1 ≠ q := fun heq => h (heq ▸ List.mem_map_of_mem he)
    simpa using hne
  unfold questions insert
  rw [hothers, List.map_cons]

end Memo

/-- Fixed answers none of which is a failure. -/
structure CatalogAnswers.NeverFails (a : CatalogAnswers) : Prop where
  skuRows : ∀ limit, ∃ rows, a.skuRows limit = .ok rows
  productIdBySku : ∀ sku, ∃ id, a.productIdBySku sku = .ok id
  question : ∀ kind user product, ∃ b, a.question kind user product = .ok b

/-! ## §2. The shop keeps to the ledger -/

/-- From sessions of one kind the outcome is `r`, and sessions of another kind are left. -/
def Leads (P : Session κ → Prop) (x : Evaluation κ α) (r : Except EvalError α)
    (Q : Session κ → Prop) : Prop :=
  ∀ σ, P σ → ∃ τ, Q τ ∧ x.run.run σ = (r, τ)

namespace Leads

variable {P Q R : Session κ → Prop}

theorem pure (a : α) : Leads P (Pure.pure a : Evaluation κ α) (.ok a) P :=
  fun σ hσ => ⟨σ, hσ, rfl⟩

theorem bind {x : Evaluation κ α} {f : α → Evaluation κ β} {a : α} {r : Except EvalError β}
    (hx : Leads P x (.ok a) Q) (hf : Leads Q (f a) r R) : Leads P (x >>= f) r R := by
  intro σ hσ
  obtain ⟨τ, hτ, hrun⟩ := hx σ hσ
  rw [run_bind_of_ok hrun]
  exact hf τ hτ

/-- A change of the session. -/
theorem modify {change : Session κ → Session κ} (h : ∀ σ, P σ → Q (change σ)) :
    Leads P (modify change : Evaluation κ Unit) (.ok ()) Q :=
  fun σ hσ => ⟨change σ, h σ hσ, rfl⟩

end Leads

/-- The session is as the ledger says.  The map that is kept is that of the fixed answers. -/
structure Ledger.Agrees (limit : Nat) (I : κ → Prop) (a : CatalogAnswers) (L : Ledger)
    (σ : Session (κ × List CatalogCall)) : Prop where
  catalog : I σ.catalog.1
  calls : σ.catalog.2 = L.calls
  asked : σ.memo.questions = L.asked
  kept : if L.kept then
      ∃ rows, a.skuMap? limit = .ok (some (SkuMap.ofRows rows))
        ∧ σ.transients.get? Commerce.skuKey = some (SkuMap.ofRows rows).stored
    else σ.transients.entries = []

namespace Commerce

open Ledger

variable {c : Commerce κ} {I : κ → Prop} {a : CatalogAnswers} {limit : Nat} {L : Ledger}

/-- A question to the catalog is one call. -/
theorem leads_ask (L : Ledger) (limit : Nat) (call : CatalogCall)
    {x : ExceptT EvalError (StateM κ) α} {b : α}
    (h : ReturnsIn I x.run (.ok b)) :
    Leads (L.Agrees limit I a) (ask (noted call x)) (.ok b)
      ((L.paid [call] false).Agrees limit I a) := by
  intro σ hσ
  obtain ⟨k, hk, hrun⟩ := h σ.catalog.1 hσ.catalog
  have hnoted : (noted call x).run σ.catalog = (.ok b, (k, σ.catalog.2 ++ [call])) := by
    show ((x.run.run σ.catalog.1).1, (x.run.run σ.catalog.1).2, σ.catalog.2 ++ [call]) = _
    rw [hrun]
  have hkept := hσ.kept
  rw [← Bool.or_false L.kept] at hkept
  refine ⟨{ σ with catalog := (k, σ.catalog.2 ++ [call]) },
    ⟨hk, congrArg (· ++ [call]) hσ.calls, hσ.asked, hkept⟩, ?_⟩
  unfold ask
  rw [run_get_bind, hnoted]
  rfl

/-- The map of the answers, if it fits. -/
theorem skuMap?_of_rows {rows : SkuRows} (hrows : a.skuRows limit = .ok rows) :
    a.fits limit = decide (rows.found ≤ limit)
      ∧ a.skuMap? limit
        = .ok (if limit < rows.found then none else some (SkuMap.ofRows rows.rows)) := by
  unfold CatalogAnswers.skuMap? CatalogAnswers.fits
  rw [hrows]
  exact ⟨rfl, rfl⟩

/-- A kept map is read. -/
theorem leads_keptMap? (c : Commerce (κ × List CatalogCall)) :
    Leads (L.Agrees limit I a) c.keptMap? (if L.kept then a.skuMap? limit else .ok none)
      (L.Agrees limit I a) := by
  intro σ hσ
  refine ⟨σ, hσ, ?_⟩
  have hkept := hσ.kept
  unfold keptMap?
  rw [run_get_bind]
  cases hL : L.kept with
  | true =>
    rw [if_pos hL] at hkept
    obtain ⟨rows, hmap, hget⟩ := hkept
    have hread := SkuMap.ofStored?_stored (SkuMap.nodup_skus_ofRows rows)
    simp only [hget, hread, if_true, hmap]
    rfl
  | false =>
    rw [hL, if_neg Bool.false_ne_true] at hkept
    have hget : σ.transients.get? skuKey = none := by simp [Transients.get?, hkept]
    simp only [hget, Bool.false_eq_true, if_false]
    rfl

/-- **The map costs a query unless it is kept**, and then it is kept if it fits. -/
theorem leads_skuMap? (hc : c.catalog.Follows I a) (ha : a.NeverFails) :
    Leads (L.Agrees c.skuLimit I a) c.noting.skuMap? (a.skuMap? c.skuLimit)
      ((L.paid (L.mapCost c.skuLimit) (a.fits c.skuLimit)).Agrees c.skuLimit I a) := by
  have hread : Leads (L.Agrees c.skuLimit I a) c.noting.keptMap?
      (if L.kept then a.skuMap? c.skuLimit else .ok none) (L.Agrees c.skuLimit I a) :=
    leads_keptMap? c.noting
  unfold skuMap?
  cases hL : L.kept with
  | true =>
    intro σ hσ
    obtain ⟨rows, hmap, -⟩ : ∃ rows, a.skuMap? c.skuLimit = .ok (some (SkuMap.ofRows rows)) ∧ _ := by
      simpa [hL] using hσ.kept
    rw [hL, if_pos rfl, hmap] at hread
    have hsame : L.paid (L.mapCost c.skuLimit) (a.fits c.skuLimit) = L := by
      rw [mapCost, if_pos hL, paid_of_kept hL]
    rw [hsame, hmap]
    refine Leads.bind hread ?_ σ hσ
    exact Leads.pure _
  | false =>
    rw [hL, if_neg Bool.false_ne_true] at hread
    obtain ⟨rows, hrows⟩ := ha.skuRows c.skuLimit
    obtain ⟨hfits, hmap⟩ := skuMap?_of_rows hrows
    have hask := leads_ask L c.skuLimit (a := a) (.skuRows c.skuLimit)
      (hrows ▸ hc.skuRows c.skuLimit)
    have hcost : L.mapCost c.skuLimit = [.skuRows c.skuLimit] := by simp [mapCost, hL]
    rw [hmap, hfits, hcost]
    refine hread.bind (hask.bind ?_)
    by_cases hfound : c.skuLimit < rows.found
    · simp only [noting, hfound, if_true, Nat.not_le.2 hfound, decide_false]
      exact Leads.pure none
    · simp only [noting, hfound, if_false, Nat.not_lt.1 hfound, decide_true]
      refine Leads.bind (Leads.modify ?_) (Leads.pure _)
      intro σ hσ
      have hkept : (L.paid [.skuRows c.skuLimit] true).kept = true := by simp [paid]
      refine ⟨hσ.catalog, hσ.calls, hσ.asked, ?_⟩
      rw [if_pos hkept]
      refine ⟨rows.rows, by rw [hmap, if_neg hfound], ?_⟩
      show (σ.transients.set skuKey _ skuSeconds).get? skuKey = _
      rw [Transients.get?_set, if_pos (by decide)]

/-- The same of the product that a text names. -/
theorem leads_productId (hc : c.catalog.Follows I a) (ha : a.NeverFails) (text : String) :
    Leads (L.Agrees c.skuLimit I a) (c.noting.productId text) (a.productId c.skuLimit text)
      ((L.paid (L.productCost a c.skuLimit text)
        (!(canonicalId? text).isSome && a.fits c.skuLimit)).Agrees c.skuLimit I a) := by
  have hmap := leads_skuMap? (L := L) hc ha
  unfold productId CatalogAnswers.productId productCost
  cases canonicalId? text with
  | some id =>
    simp only [Option.isSome_some, if_true, Bool.not_true, Bool.false_and, paid_nothing]
    exact Leads.pure id
  | none =>
    obtain ⟨rows, hrows⟩ := ha.skuRows c.skuLimit
    obtain ⟨hfits, hresult⟩ := skuMap?_of_rows hrows
    unfold CatalogAnswers.productOfSku
    rw [hresult, hfits] at hmap ⊢
    simp only [Option.isSome_none, Bool.false_eq_true, if_false, Bool.not_false, Bool.true_and]
    by_cases hfound : c.skuLimit < rows.found
    · simp only [hfound, if_true, Nat.not_le.2 hfound, decide_false, Bool.false_eq_true,
        if_false] at hmap ⊢
      obtain ⟨id, hid⟩ := ha.productIdBySku text
      have hask := leads_ask (L.paid (L.mapCost c.skuLimit) false) c.skuLimit
        (a := a) (.productIdBySku text) (hid ▸ hc.productIdBySku text)
      rw [paid_paid] at hask
      rw [hid]
      exact Leads.bind hmap hask
    · simp only [hfound, if_false, Nat.not_lt.1 hfound, decide_true, if_true,
        List.append_nil] at hmap ⊢
      refine Leads.bind hmap ?_
      exact Leads.pure _

/-- The product that a text names is always found, if only as `0`. -/
theorem exists_productId (ha : a.NeverFails) (limit : Nat) (text : String) :
    ∃ id, a.productId limit text = .ok id := by
  unfold CatalogAnswers.productId
  cases canonicalId? text with
  | some id => exact ⟨id, rfl⟩
  | none =>
    obtain ⟨rows, hrows⟩ := ha.skuRows limit
    obtain ⟨-, hresult⟩ := skuMap?_of_rows hrows
    unfold CatalogAnswers.productOfSku
    rw [hresult]
    by_cases hfound : limit < rows.found
    · obtain ⟨id, hid⟩ := ha.productIdBySku text
      simp only [hfound, if_true, hid]
      exact ⟨id, rfl⟩
    · simp only [hfound, if_false]
      exact ⟨_, rfl⟩

/-- A purchase or download query is noted with its kind. -/
theorem leads_question (hc : c.catalog.Follows I a) (ha : a.NeverFails) (L : Ledger)
    (limit : Nat) (q : Question) (id : ProductId) :
    ∃ b, a.answerFor q id = .ok b
      ∧ Leads (L.Agrees limit I a)
          (if id = 0 then pure false else ask (c.noting.question q.kind q.user id)) (.ok b)
          ((L.paid (knownCost q id) false).Agrees limit I a) := by
  unfold CatalogAnswers.answerFor knownCost
  by_cases hzero : id = 0
  · simp only [hzero, if_true, paid_nothing]
    exact ⟨false, rfl, Leads.pure false⟩
  · simp only [hzero, if_false]
    obtain ⟨b, hb⟩ := ha.question q.kind q.user id
    have hnoted : c.noting.question q.kind q.user id
        = noted (.question q.kind q.user id) (c.question q.kind q.user id) := by
      cases q.kind <;> rfl
    rw [hnoted, hb]
    exact ⟨b, rfl, leads_ask _ _ _ (hb ▸ answers_question hc q.kind q.user id)⟩

/-- **A question that is not remembered** costs what the ledger says. -/
theorem leads_freshAnswer (hc : c.catalog.Follows I a) (ha : a.NeverFails) (q : Question) :
    ∃ b, a.answer c.skuLimit q = .ok b
      ∧ Leads (L.Agrees c.skuLimit I a) (c.noting.freshAnswer q) (.ok b)
          ((L.paid (L.freshCost a c.skuLimit q)
            (!(q.user == 0 || (canonicalId? q.product).isSome) && a.fits c.skuLimit)).Agrees
              c.skuLimit I a) := by
  unfold freshAnswer CatalogAnswers.answer freshCost answerCost
  by_cases huser : q.user = 0
  · simp only [huser, if_true, beq_self_eq_true, Bool.true_or, Bool.not_true, Bool.false_and,
      paid_nothing]
    exact ⟨false, rfl, Leads.pure false⟩
  · obtain ⟨id, hid⟩ := exists_productId ha c.skuLimit q.product
    have hproduct := leads_productId (L := L) hc ha q.product
    have hnamed : (q.user == 0) = false := beq_eq_false_iff_ne.2 huser
    simp only [huser, if_false, hid, hnamed, Bool.false_or] at hproduct ⊢
    obtain ⟨b, hb, hknown⟩ := leads_question hc ha (L.paid (L.productCost a c.skuLimit q.product)
      (!(canonicalId? q.product).isSome && a.fits c.skuLimit)) c.skuLimit q id
    rw [paid_paid, Bool.or_false] at hknown
    exact ⟨b, hb, Leads.bind hproduct hknown⟩

/-- **A question**: what is remembered costs nothing, and what is not is remembered. -/
theorem leads_answer (hc : c.catalog.Follows I a) (ha : a.NeverFails) (q : Question)
    {σ : Session (κ × List CatalogCall)} (hσ : L.Agrees c.skuLimit I a σ) :
    (L.after a c.skuLimit (.ask q)).Agrees c.skuLimit I a ((c.noting.answer q).run.run σ).2 := by
  by_cases hq : q ∈ L.asked
  · -- It is answered from the memo.
    have hsame : L.after a c.skuLimit (.ask q) = L := by
      have hcost : Lookup.cost L a c.skuLimit (.ask q) = [] := if_pos hq
      have hneeds : Lookup.needsMap L (.ask q) = false := by simp [Lookup.needsMap, hq]
      have hasked : Lookup.askedAfter L.asked (.ask q) = L.asked := if_pos hq
      unfold after
      rw [hcost, hneeds, hasked, Bool.false_and, paid_nothing]
    have hget : σ.memo.get? q ≠ none := by
      rw [Ne, Memo.get?_eq_none_iff, hσ.asked, not_not]
      exact hq
    obtain ⟨b, hb⟩ := Option.ne_none_iff_exists'.1 hget
    rw [hsame, run_answer_of_remembered hb]
    exact hσ
  · have hget : σ.memo.get? q = none := by rwa [Memo.get?_eq_none_iff, hσ.asked]
    obtain ⟨b, -, hfresh⟩ := leads_freshAnswer (L := L) hc ha q
    obtain ⟨τ, hτ, hrun⟩ := hfresh σ hσ
    have hanswer : (c.noting.answer q).run.run σ
        = (.ok b, { τ with memo := τ.memo.insert q b }) := by
      unfold answer
      rw [run_get_bind, hget]
      exact run_bind_of_ok hrun
    have hcost : Lookup.cost L a c.skuLimit (.ask q) = L.freshCost a c.skuLimit q := if_neg hq
    have hneeds : Lookup.needsMap L (.ask q)
        = !(q.user == 0 || (canonicalId? q.product).isSome) := by
      simp [Lookup.needsMap, hq]
    have hasked : Lookup.askedAfter L.asked (.ask q) = q :: L.asked := if_neg hq
    have hnew : q ∉ τ.memo.questions := by rwa [hτ.asked]
    rw [hanswer]
    unfold after
    rw [hcost, hneeds, hasked]
    refine ⟨hτ.catalog, hτ.calls, ?_, hτ.kept⟩
    exact (Memo.questions_insert hnew b).trans (congrArg (q :: ·) hτ.asked)

end Commerce

/-! ## §3. Many lookups -/

namespace Lookup

section
variable (c : Commerce κ)

/-- What a lookup does. -/
def run : Lookup → Session κ → Session κ
  | .productId text, σ => ((c.productId text).run.run σ).2
  | .skuMap, σ => (c.skuMap?.run.run σ).2
  | .ask q, σ => ((c.answer q).run.run σ).2

/-- What lookups do, one after the other. -/
def runAll (lookups : List Lookup) (σ : Session κ) : Session κ :=
  lookups.foldl (fun σ l => l.run c σ) σ

end

/-- The calls that a lookup causes. -/
def calls (c : Commerce (κ × List CatalogCall)) (l : Lookup)
    (σ : Session (κ × List CatalogCall)) : List CatalogCall :=
  (l.run c σ).catalog.2.drop σ.catalog.2.length

/-- Lookups, each with the calls that it causes. -/
def trace (c : Commerce (κ × List CatalogCall)) :
    List Lookup → Session (κ × List CatalogCall) → List (Lookup × List CatalogCall)
  | [], _ => []
  | l :: ls, σ => (l, l.calls c σ) :: trace c ls (l.run c σ)

variable {c : Commerce κ} {I : κ → Prop} {a : CatalogAnswers} {L : Ledger}
  {σ : Session (κ × List CatalogCall)}

/-- **One lookup**: the session is as the ledger says. -/
theorem agrees_run (hc : c.catalog.Follows I a) (ha : a.NeverFails)
    (hσ : L.Agrees c.skuLimit I a σ) (l : Lookup) :
    (L.after a c.skuLimit l).Agrees c.skuLimit I a (l.run c.noting σ) := by
  cases l with
  | productId text =>
    obtain ⟨τ, hτ, hrun⟩ := Commerce.leads_productId hc ha text σ hσ
    show Ledger.Agrees _ _ _ _ ((c.noting.productId text).run.run σ).2
    rw [hrun]
    exact hτ
  | skuMap =>
    obtain ⟨τ, hτ, hrun⟩ := Commerce.leads_skuMap? hc ha σ hσ
    show Ledger.Agrees _ _ _ _ (c.noting.skuMap?.run.run σ).2
    rw [hrun]
    exact hτ
  | ask q => exact Commerce.leads_answer hc ha q hσ

/-- The calls of a lookup are its cost. -/
theorem calls_eq_cost (hc : c.catalog.Follows I a) (ha : a.NeverFails)
    (hσ : L.Agrees c.skuLimit I a σ) (l : Lookup) :
    l.calls c.noting σ = l.cost L a c.skuLimit := by
  have hcalls := (agrees_run hc ha hσ l).calls
  unfold calls
  rw [hcalls, hσ.calls]
  exact List.drop_left

/-- **Many lookups**: the session and the calls are as the ledger says. -/
theorem agrees_runAll (hc : c.catalog.Follows I a) (ha : a.NeverFails) (lookups : List Lookup)
    (hσ : L.Agrees c.skuLimit I a σ) :
    (lookups.foldl (·.after a c.skuLimit) L).Agrees c.skuLimit I a (runAll c.noting lookups σ)
      ∧ trace c.noting lookups σ = ledgerTrace a c.skuLimit lookups L := by
  induction lookups generalizing L σ with
  | nil => exact ⟨hσ, rfl⟩
  | cons l ls ih =>
    obtain ⟨hagrees, htrace⟩ := ih (agrees_run hc ha hσ l)
    refine ⟨hagrees, ?_⟩
    rw [trace, ledgerTrace, calls_eq_cost hc ha hσ l, htrace]

end Lookup

/-- **Caching saves the queries that it promises.**  A shop opens with nothing kept or
remembered over a catalog with fixed answers that never fails.  After any lookups: where the
SKUs fit the limit, their rows were queried at most once, and otherwise no text is kept; a
question causes at most one purchase or download query, of its own kind for its own user, and
none for user `0`; a product number causes no query for the rows; and the memo has one entry
for each question that was asked. -/
theorem Commerce.caches_save_queries (c : Commerce κ) {I : κ → Prop} {a : CatalogAnswers}
    (hc : c.catalog.Follows I a) (ha : a.NeverFails) {catalog : κ} (hcatalog : I catalog)
    {rows : SkuRows} (hrows : a.skuRows c.skuLimit = .ok rows) (now : Nat) (log : List String)
    (lookups : List Lookup) :
    let start : Session (κ × List CatalogCall) := ⟨(catalog, []), {}, ⟨[], now⟩, log⟩
    let σ := Lookup.runAll c.noting lookups start
    let trace := Lookup.trace c.noting lookups start
    σ.catalog.2 = trace.flatMap (·.2)
      ∧ (rows.found ≤ c.skuLimit → σ.catalog.2.countP (·.isSkuRows) ≤ 1)
      ∧ (c.skuLimit < rows.found → σ.transients.entries = [])
      ∧ (∀ q, ((trace.filter (·.1 == .ask q)).flatMap (·.2)).countP (·.isQuestion) ≤ 1)
      ∧ (∀ l calls, (l, calls) ∈ trace → ∀ call ∈ calls, call.isQuestion = true →
          ∃ q id, l = .ask q ∧ call = .question q.kind q.user id)
      ∧ (∀ q calls, (.ask q, calls) ∈ trace → q.user = 0 → calls = [])
      ∧ (∀ l calls, (l, calls) ∈ trace → ∀ id : ProductId, l.text? = some (toString id.toNat) →
          ∀ call ∈ calls, call.isSkuRows = false)
      ∧ σ.memo.size = (lookups.filterMap Lookup.question?).dedup.length := by
  intro start σ trace
  have hstart : ({} : Ledger).Agrees c.skuLimit I a start := ⟨hcatalog, rfl, rfl, rfl⟩
  have hthrifty : ({} : Ledger).Thrifty a c.skuLimit :=
    ⟨List.nodup_nil, fun _ => rfl, fun _ => rfl⟩
  obtain ⟨hagrees, htrace⟩ := Lookup.agrees_runAll hc ha lookups hstart
  have hend := Ledger.thrifty_foldl lookups hthrifty
  have hfits := (Commerce.skuMap?_of_rows hrows).1
  have htrace' : trace = Lookup.ledgerTrace a c.skuLimit lookups {} := htrace
  have hcalls : σ.catalog.2 = trace.flatMap (·.2) := by
    rw [hagrees.calls, Ledger.calls_foldl, htrace', List.nil_append]
  refine ⟨hcalls, ?_, ?_, ?_, ?_, ?_, ?_, ?_⟩
  · intro hfound
    rw [hagrees.calls, hend.rows (hfits.trans (decide_eq_true hfound))]
    exact Bool.toNat_le _
  · intro hfound
    have hkept := hagrees.kept
    rw [hend.kept (hfits.trans (decide_eq_false (Nat.not_le.2 hfound)))] at hkept
    simpa using hkept
  · intro q
    rw [htrace']
    exact Lookup.countP_callsFor q lookups {}
  · intro l calls hl call hcall hquestion
    rw [htrace'] at hl
    obtain ⟨L, rfl⟩ := Lookup.exists_cost_of_mem_trace hl
    have hmem := List.mem_filter.2 ⟨hcall, hquestion⟩
    rcases l.questions_cost L a c.skuLimit with h | ⟨q, id, hq, h⟩
    · simp [h] at hmem
    · rw [h, List.mem_singleton] at hmem
      exact ⟨q, id, hq, hmem⟩
  · intro q calls hl huser
    rw [htrace'] at hl
    obtain ⟨L, rfl⟩ := Lookup.exists_cost_of_mem_trace hl
    exact Lookup.cost_of_anonymous huser
  · intro l calls hl id htext call hcall
    rw [htrace'] at hl
    obtain ⟨L, rfl⟩ := Lookup.exists_cost_of_mem_trace hl
    exact Lookup.not_skuRows_of_number (Commerce.canonicalId?_eq_some_iff.2 rfl) htext hcall
  · -- The memo has the questions that were asked, each of them once.
    have hsame : σ.memo.questions.Perm (lookups.filterMap Lookup.question?).dedup := by
      rw [hagrees.asked, List.perm_ext_iff_of_nodup hend.asked (List.nodup_dedup _)]
      intro q
      rw [Ledger.mem_asked_foldl, List.mem_dedup, List.mem_filterMap]
      constructor
      · rintro (h | h)
        · exact ⟨_, h, rfl⟩
        · cases h
      · rintro ⟨l, hl, hq⟩
        cases l with
        | ask r =>
          obtain rfl := Option.some.inj hq
          exact .inl hl
        | productId text => cases hq
        | skuMap => cases hq
    have hsize : σ.memo.size = σ.memo.questions.length := (List.length_map _).symm
    rw [hsize, hsame.length_eq]

/-- An inventory answers every question. -/
theorem Inventory.answers_neverFail (s : Inventory) : s.answers.NeverFails where
  skuRows limit := ⟨_, rfl⟩
  productIdBySku sku := ⟨_, rfl⟩
  question kind user product := by
    cases kind with
    | bought => exact ⟨_, rfl⟩
    | canDownload => exact ⟨_, rfl⟩

/-- A shop with two products, one of which was bought. -/
def stationery : Inventory where
  products := [{ id := 7, sku := "BOOK" }, { id := 8, sku := "PEN" }]
  purchases := [(1, 7)]

/-- Two lookups of the map and five questions, one of them asked twice, one of a product number
and one for user `0`. -/
def stationeryLookups : List Lookup :=
  [.productId "PEN", .ask ⟨.bought, 1, "BOOK"⟩, .skuMap, .ask ⟨.bought, 1, "BOOK"⟩,
    .ask ⟨.bought, 0, "BOOK"⟩, .ask ⟨.canDownload, 1, "7"⟩, .ask ⟨.bought, 1, "INK"⟩]

/-- The rows are queried once, and four questions are remembered. -/
theorem Commerce.caches_save_queries_stationery :
    let c : Commerce Inventory := Inventory.shop 2
    let σ := Lookup.runAll c.noting stationeryLookups ⟨(stationery, []), {}, ⟨[], 0⟩, []⟩
    (stationery.rows 2).found ≤ 2 ∧ σ.catalog.2.countP (·.isSkuRows) ≤ 1 ∧ σ.memo.size = 4 := by
  have hfound : (stationery.rows 2).found ≤ 2 := by decide
  have hasked : (stationeryLookups.filterMap Lookup.question?).dedup.length = 4 := by decide
  have hanswer : stationery.answers.skuRows 2 = .ok (stationery.rows 2) := rfl
  obtain ⟨-, hrows, -, -, -, -, -, hsize⟩ := Commerce.caches_save_queries
    (Inventory.shop 2) stationery.catalog_follows stationery.answers_neverFail
    stationery.queried_self hanswer 0 [] stationeryLookups
  exact ⟨hfound, hrows hfound, hsize.trans hasked⟩

end ContentGate
