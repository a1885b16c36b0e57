/-
  ContentGate.Proofs.Commerce.Ledger — what lookups ought to cost.

  A shop looks up products, the map of SKUs, and purchases.  The ledger
  says in advance which calls a lookup makes to the catalog
  (`Lookup.cost`), from what was looked up before: is the map kept, and
  which questions are remembered?  It knows the answers of the catalog
  but nothing of a session.

  What is paid is paid once.  Where all SKUs fit, their rows are queried
  for the first lookup that needs the map.  A question is paid for when
  it is asked for the first time.

  Main statements:
    * `Lookup.countP_skuRows_cost`, `Lookup.questions_cost` — the cost of
      one lookup;
    * `Ledger.Thrifty.after`, `Ledger.thrifty_foldl` — the rows, after one
      lookup and after many;
    * `Lookup.countP_callsFor` — a question, after many lookups.
-/
import ContentGate.Proofs.Commerce.Lookups

namespace ContentGate

/-! ## §1. Calls that reach a catalog -/

/-- A call that reaches a catalog. -/
inductive CatalogCall where
  | skuRows (limit : Nat)
  | productIdBySku (sku : String)
  | question (kind : LookupKind) (user : UserId) (product : ProductId)
  deriving DecidableEq

namespace CatalogCall

/-- A query for the SKU rows. -/
def isSkuRows : CatalogCall → Bool
  | .skuRows _ => true
  | _ => false

/-- A purchase or download query. -/
def isQuestion : CatalogCall → Bool
  | .question .. => true
  | _ => false

end CatalogCall

/-! ## §2. The ledger -/

/-- A lookup. -/
inductive Lookup where
  /-- Looks up a product. -/
  | productId (text : String)
  /-- Looks up the SKU map. -/
  | skuMap
  /-- Asks about a purchase or a download. -/
  | ask (q : Question)
  deriving DecidableEq

/-- What was looked up so far. -/
structure Ledger where
  /-- Is the SKU map kept? -/
  kept : Bool := false
  /-- The questions that are remembered, the last one first. -/
  asked : List Question := []
  /-- The calls that reached the catalog, in order. -/
  calls : List CatalogCall := []

/-- Does the catalog have no more SKUs than the limit? -/
def CatalogAnswers.fits (a : CatalogAnswers) (limit : Nat) : Bool :=
  match a.skuRows limit with
  | .ok rows => rows.found ≤ limit
  | .error _ => false

namespace Ledger

/-- The ledger when calls were paid for, and perhaps the map was kept. -/
def paid (L : Ledger) (calls : List CatalogCall) (kept : Bool) : Ledger :=
  { L with kept := L.kept || kept, calls := L.calls ++ calls }

theorem paid_nothing (L : Ledger) : L.paid [] false = L := by simp [paid]

theorem paid_of_kept {L : Ledger} (h : L.kept = true) (kept : Bool) : L.paid [] kept = L := by
  cases L
  simp_all [paid]

theorem paid_paid (L : Ledger) (calls more : List CatalogCall) (kept keep : Bool) :
    (L.paid calls kept).paid more keep = L.paid (calls ++ more) (kept || keep) := by
  simp [paid, Bool.or_assoc]

/-- What the map costs. -/
def mapCost (L : Ledger) (limit : Nat) : List CatalogCall :=
  if L.kept then [] else [.skuRows limit]

/-- What a product costs. -/
def productCost (L : Ledger) (a : CatalogAnswers) (limit : Nat) (text : String) :
    List CatalogCall :=
  if (Commerce.canonicalId? text).isSome then []
  else L.mapCost limit ++ if a.fits limit then [] else [.productIdBySku text]

/-- What a question about a product costs, once the product is known. -/
def knownCost (q : Question) (id : ProductId) : List CatalogCall :=
  if id = 0 then [] else [.question q.kind q.user id]

/-- The same, whichever product it is. -/
def answerCost (a : CatalogAnswers) (limit : Nat) (q : Question) : List CatalogCall :=
  match a.productId limit q.product with
  | .ok id => knownCost q id
  | .error _ => []

/-- What a question costs that is not remembered. -/
def freshCost (L : Ledger) (a : CatalogAnswers) (limit : Nat) (q : Question) : List CatalogCall :=
  if q.user = 0 then [] else L.productCost a limit q.product ++ answerCost a limit q

end Ledger

namespace Lookup

/-- What a lookup costs. -/
def cost (L : Ledger) (a : CatalogAnswers) (limit : Nat) : Lookup → List CatalogCall
  | .productId text => L.productCost a limit text
  | .skuMap => L.mapCost limit
  | .ask q => if q ∈ L.asked then [] else L.freshCost a limit q

/-- Does the lookup look at the map? -/
def needsMap (L : Ledger) : Lookup → Bool
  | .productId text => !(Commerce.canonicalId? text).isSome
  | .skuMap => true
  | .ask q => !(decide (q ∈ L.asked) || q.user == 0 || (Commerce.canonicalId? q.product).isSome)

/-- The remembered questions after a lookup. -/
def askedAfter (asked : List Question) : Lookup → List Question
  | .ask q => if q ∈ asked then asked else q :: asked
  | _ => asked

end Lookup

/-- The ledger after a lookup. -/
def Ledger.after (L : Ledger) (a : CatalogAnswers) (limit : Nat) (l : Lookup) : Ledger :=
  { L.paid (l.cost L a limit) (l.needsMap L && a.fits limit) with
    asked := l.askedAfter L.asked }

/-! ## §3. The cost of one lookup -/

namespace Lookup

variable {a : CatalogAnswers} {limit : Nat} {L : Ledger} {q : Question}

/-- A product costs a query for the rows only if the map is needed and not kept. -/
theorem countP_skuRows_productCost (text : String) :
    (L.productCost a limit text).countP (·.isSkuRows)
      = if !(Commerce.canonicalId? text).isSome && !L.kept then 1 else 0 := by
  unfold Ledger.productCost Ledger.mapCost
  cases (Commerce.canonicalId? text).isSome <;> cases L.kept <;> cases a.fits limit <;> rfl

/-- The answer costs at most one call, a query of the question's kind for its user. -/
theorem answerCost_cases (a : CatalogAnswers) (limit : Nat) (q : Question) :
    Ledger.answerCost a limit q = []
      ∨ ∃ id, Ledger.answerCost a limit q = [.question q.kind q.user id] := by
  unfold Ledger.answerCost Ledger.knownCost
  cases a.productId limit q.product with
  | error cause => exact .inl rfl
  | ok id =>
    by_cases hzero : id = 0
    · exact .inl (if_pos hzero)
    · exact .inr ⟨id, if_neg hzero⟩

/-- **A lookup costs a query for the rows only if the map is needed and not kept.** -/
theorem countP_skuRows_cost (l : Lookup) (L : Ledger) (a : CatalogAnswers) (limit : Nat) :
    (l.cost L a limit).countP (·.isSkuRows) = if l.needsMap L && !L.kept then 1 else 0 := by
  cases l with
  | productId text => exact countP_skuRows_productCost text
  | skuMap =>
    show (L.mapCost limit).countP _ = _
    unfold Ledger.mapCost needsMap
    cases L.kept <;> rfl
  | ask q =>
    by_cases hq : q ∈ L.asked
    · simp [cost, needsMap, hq]
    · have hcost : cost L a limit (.ask q) = L.freshCost a limit q := if_neg hq
      have hanswer : (Ledger.answerCost a limit q).countP (·.isSkuRows) = 0 := by
        rcases answerCost_cases a limit q with h | ⟨id, h⟩ <;> rw [h] <;> rfl
      rw [hcost, Ledger.freshCost]
      by_cases huser : q.user = 0
      · simp [needsMap, huser]
      · rw [if_neg huser, List.countP_append, countP_skuRows_productCost, hanswer]
        simp [needsMap, hq, huser]

/-- What a product costs is no purchase or download query. -/
theorem not_question_of_mem_productCost {text : String} {call : CatalogCall}
    (h : call ∈ L.productCost a limit text) : call.isQuestion = false := by
  unfold Ledger.productCost Ledger.mapCost at h
  cases hid : (Commerce.canonicalId? text).isSome <;> cases hkept : L.kept <;>
    cases hfits : a.fits limit <;> simp [hid, hkept, hfits] at h
  · rcases h with rfl | rfl <;> rfl
  · rw [h]; rfl
  · rw [h]; rfl

/-- **Only a question costs a purchase or download query**, one of its kind for its user. -/
theorem questions_cost (l : Lookup) (L : Ledger) (a : CatalogAnswers) (limit : Nat) :
    (l.cost L a limit).filter (·.isQuestion) = []
      ∨ ∃ q id, l = .ask q
          ∧ (l.cost L a limit).filter (·.isQuestion) = [.question q.kind q.user id] := by
  have hproduct : ∀ text, (L.productCost a limit text).filter (·.isQuestion) = [] := by
    intro text
    rw [List.filter_eq_nil_iff]
    intro call hcall
    rw [not_question_of_mem_productCost hcall]
    exact Bool.false_ne_true
  cases l with
  | productId text => exact .inl (hproduct text)
  | skuMap =>
    left
    show (L.mapCost limit).filter _ = []
    unfold Ledger.mapCost
    cases L.kept <;> rfl
  | ask q =>
    by_cases hq : q ∈ L.asked
    · simp [cost, hq]
    · by_cases huser : q.user = 0
      · simp [cost, hq, Ledger.freshCost, huser]
      · rw [cost, if_neg hq, Ledger.freshCost, if_neg huser, List.filter_append, hproduct,
          List.nil_append]
        rcases answerCost_cases a limit q with hnone | ⟨id, hone⟩
        · rw [hnone]
          exact .inl rfl
        · rw [hone]
          exact .inr ⟨q, id, rfl, rfl⟩

theorem countP_question_cost (l : Lookup) : (l.cost L a limit).countP (·.isQuestion) ≤ 1 := by
  rw [List.countP_eq_length_filter]
  rcases l.questions_cost L a limit with h | ⟨q, id, -, h⟩
  · rw [h]
    exact Nat.zero_le 1
  · rw [h]
    exact Nat.le_refl 1

/-! ## §4. The cost of many -/

/-- What is remembered after a lookup. -/
theorem mem_askedAfter {asked : List Question} {l : Lookup} :
    q ∈ askedAfter asked l ↔ l = .ask q ∨ q ∈ asked := by
  cases l with
  | productId text => simp [askedAfter]
  | skuMap => simp [askedAfter]
  | ask r =>
    unfold askedAfter
    by_cases hr : r ∈ asked
    · simp only [hr, if_true, Lookup.ask.injEq]
      constructor
      · exact .inr
      · rintro (rfl | h)
        · exact hr
        · exact h
    · simp [hr, eq_comm]

/-- Lookups, each with its cost. -/
def ledgerTrace (a : CatalogAnswers) (limit : Nat) :
    List Lookup → Ledger → List (Lookup × List CatalogCall)
  | [], _ => []
  | l :: ls, L => (l, l.cost L a limit) :: ledgerTrace a limit ls (L.after a limit l)

/-- The calls that are caused by asking a question. -/
def callsFor (q : Question) (trace : List (Lookup × List CatalogCall)) : List CatalogCall :=
  (trace.filter (·.1 == .ask q)).flatMap (·.2)

/-- What is remembered costs nothing any more, -/
theorem callsFor_of_asked (lookups : List Lookup) (h : q ∈ L.asked) :
    callsFor q (ledgerTrace a limit lookups L) = [] := by
  induction lookups generalizing L with
  | nil => rfl
  | cons l ls ih =>
    have hlater := ih (L := L.after a limit l) (mem_askedAfter.2 (.inr h))
    unfold callsFor at hlater ⊢
    rw [ledgerTrace, List.filter_cons]
    by_cases hl : l = .ask q
    · have hcost : l.cost L a limit = [] := by
        rw [hl]
        exact if_pos h
      rw [if_pos (by simpa using hl), List.flatMap_cons, hlater, hcost]
      rfl
    · rw [if_neg (by simpa using hl), hlater]

/-- **and so a question reaches the catalog at most once.** -/
theorem countP_callsFor (q : Question) (lookups : List Lookup) (L : Ledger) :
    (callsFor q (ledgerTrace a limit lookups L)).countP (·.isQuestion) ≤ 1 := by
  induction lookups generalizing L with
  | nil => exact Nat.zero_le 1
  | cons l ls ih =>
    by_cases hl : l = .ask q
    · have hlater : callsFor q (ledgerTrace a limit ls (L.after a limit l)) = [] :=
        callsFor_of_asked ls (mem_askedAfter.2 (.inl hl))
      have hfirst : callsFor q (ledgerTrace a limit (l :: ls) L) = l.cost L a limit := by
        unfold callsFor at hlater ⊢
        rw [ledgerTrace, List.filter_cons_of_pos (by simpa using hl), List.flatMap_cons, hlater,
          List.append_nil]
      rw [hfirst]
      exact countP_question_cost l
    · have hskip : callsFor q (ledgerTrace a limit (l :: ls) L)
          = callsFor q (ledgerTrace a limit ls (L.after a limit l)) := by
        unfold callsFor
        rw [ledgerTrace, List.filter_cons_of_neg (by simpa using hl)]
      rw [hskip]
      exact ih _

/-- Every lookup of a trace has its cost, whatever the ledger was by then. -/
theorem exists_cost_of_mem_trace {lookups : List Lookup} {l : Lookup} {calls : List CatalogCall}
    (h : (l, calls) ∈ ledgerTrace a limit lookups L) : ∃ L', calls = l.cost L' a limit := by
  induction lookups generalizing L with
  | nil => exact absurd h List.not_mem_nil
  | cons first ls ih =>
    rcases List.mem_cons.1 h with heq | h
    · obtain ⟨rfl, rfl⟩ := Prod.mk.inj heq
      exact ⟨L, rfl⟩
    · exact ih h

/-- The question of a lookup. -/
def question? : Lookup → Option Question
  | .ask q => some q
  | _ => none

/-- The text by which a lookup names a product. -/
def text? : Lookup → Option String
  | .productId text => some text
  | .skuMap => none
  | .ask q => some q.product

/-- **A product number costs no query for the rows.** -/
theorem not_skuRows_of_number {l : Lookup} {text : String} {id : ProductId}
    (hid : Commerce.canonicalId? text = some id) (hl : l.text? = some text) {call : CatalogCall}
    (hcall : call ∈ l.cost L a limit) : call.isSkuRows = false := by
  have hneeds : l.needsMap L = false := by
    cases l with
    | productId text' =>
      obtain rfl := Option.some.inj hl
      simp [needsMap, hid]
    | skuMap => cases hl
    | ask q =>
      obtain rfl := Option.some.inj hl
      simp [needsMap, hid]
  have hcount := countP_skuRows_cost l L a limit
  rw [hneeds, Bool.false_and, if_neg Bool.false_ne_true, List.countP_eq_zero] at hcount
  exact Bool.eq_false_iff.2 (hcount call hcall)

/-- The anonymous visitor's questions cost nothing. -/
theorem cost_of_anonymous (h : q.user = 0) : cost L a limit (.ask q) = [] := by
  simp [cost, Ledger.freshCost, h]

end Lookup

/-- What holds of a ledger after any lookups: every question is remembered once, and where
all SKUs fit, the rows were queried once if the map is kept, and else never. -/
structure Ledger.Thrifty (a : CatalogAnswers) (limit : Nat) (L : Ledger) : Prop where
  asked : L.asked.Nodup
  rows : a.fits limit = true → L.calls.countP (·.isSkuRows) = L.kept.toNat
  kept : a.fits limit = false → L.kept = false

namespace Ledger

variable {a : CatalogAnswers} {limit : Nat} {L : Ledger}

/-- **One lookup keeps it.** -/
theorem Thrifty.after (h : L.Thrifty a limit) (l : Lookup) : (L.after a limit l).Thrifty a limit where
  asked := by
    show (l.askedAfter L.asked).Nodup
    cases l with
    | productId text => exact h.asked
    | skuMap => exact h.asked
    | ask q =>
      unfold Lookup.askedAfter
      by_cases hq : q ∈ L.asked
      · simpa [hq] using h.asked
      · simpa [hq] using h.asked
  rows hfits := by
    have hrows := h.rows hfits
    have hcost := l.countP_skuRows_cost L a limit
    show (L.calls ++ l.cost L a limit).countP _ = (L.kept || (l.needsMap L && a.fits limit)).toNat
    rw [List.countP_append, hrows, hcost, hfits]
    cases L.kept <;> cases l.needsMap L <;> rfl
  kept hfits := by
    show (L.kept || (l.needsMap L && a.fits limit)) = false
    rw [h.kept hfits, hfits, Bool.and_false]
    rfl

theorem thrifty_foldl (lookups : List Lookup) (h : L.Thrifty a limit) :
    (lookups.foldl (·.after a limit) L).Thrifty a limit := by
  induction lookups generalizing L with
  | nil => exact h
  | cons l ls ih => exact ih (h.after l)

/-- The questions that are remembered after lookups. -/
theorem mem_asked_foldl (lookups : List Lookup) (L : Ledger) {q : Question} :
    q ∈ (lookups.foldl (·.after a limit) L).asked ↔ .ask q ∈ lookups ∨ q ∈ L.asked := by
  induction lookups generalizing L with
  | nil => simp
  | cons l ls ih =>
    have hafter : q ∈ (L.after a limit l).asked ↔ l = .ask q ∨ q ∈ L.asked := Lookup.mem_askedAfter
    rw [List.foldl_cons, ih, hafter, List.mem_cons, eq_comm (a := Lookup.ask q)]
    tauto

/-- All calls are those of the trace. -/
theorem calls_foldl (lookups : List Lookup) (L : Ledger) :
    (lookups.foldl (·.after a limit) L).calls
      = L.calls ++ (Lookup.ledgerTrace a limit lookups L).flatMap (·.2) := by
  induction lookups generalizing L with
  | nil => simp [Lookup.ledgerTrace]
  | cons l ls ih =>
    rw [List.foldl_cons, ih, Lookup.ledgerTrace, List.flatMap_cons, ← List.append_assoc]
    rfl

end Ledger

end ContentGate
