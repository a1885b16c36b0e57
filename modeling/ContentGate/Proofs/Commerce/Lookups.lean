/-
  ContentGate.Proofs.Commerce.Lookups — lookups answer as the catalog does.

  A lookup goes through two caches: the kept map of SKUs and the memo of
  earlier answers.  We compare it with a catalog that has no state: its
  answers are fixed (`CatalogAnswers`), and what a lookup ought to answer
  is a function of them (`CatalogAnswers.productId`, `.answer`).

  A session is CONSISTENT with fixed answers when its catalog gives them
  and the SKU map that it keeps, if any, is their map.  The time on its
  clock plays no part: an entry that expires is one entry less.  Every
  lookup keeps a session consistent and answers as it ought to.

  The memo is carried along as a parameter (`M`), because what is known
  of it differs: that its answers are right, or only which questions it
  can answer.

  Main statements:
    * `answers_skuMap?`, `answers_productId`, `answers_freshAnswer` — lookups
      without the memo;
    * `run_answer_of_new` — a question that is not remembered;
    * `answers_answer` — questions where what is remembered is right.
-/
import ContentGate.Proofs.Commerce.SkuMaps
import ContentGate.Proofs.Evaluation.Running

namespace ContentGate

/-! ## §1. Fixed answers -/

/-- The answers of a catalog without a state. -/
structure CatalogAnswers where
  skuRows : (limit : Nat) → Except EvalError SkuRows
  productIdBySku : (sku : String) → Except EvalError ProductId
  bought : UserId → ProductId → Except EvalError Bool
  canDownload : UserId → ProductId → Except EvalError Bool

/-- In every state of a kind the catalog gives these answers, and its
state stays of that kind. -/
structure Catalog.Follows {κ : Type} (c : Catalog κ) (I : κ → Prop) (a : CatalogAnswers) :
    Prop where
  skuRows : ∀ limit, ReturnsIn I (c.skuRows limit).run (a.skuRows limit)
  productIdBySku : ∀ sku, ReturnsIn I (c.productIdBySku sku).run (a.productIdBySku sku)
  bought : ∀ user product, ReturnsIn I (c.bought user product).run (a.bought user product)
  canDownload : ∀ user product,
    ReturnsIn I (c.canDownload user product).run (a.canDownload user product)

/-- The answers of a catalog during an outage. -/
def CatalogAnswers.during (a : CatalogAnswers) (o : Outage) : CatalogAnswers where
  skuRows limit := if o.skuRows then .error (.lookupFailed "rows") else a.skuRows limit
  productIdBySku sku :=
    if o.skus.contains sku then .error (.lookupFailed ("sku " ++ sku)) else a.productIdBySku sku
  bought user product :=
    if o.bought.contains product then .error (.lookupFailed ("bought " ++ toString product))
    else a.bought user product
  canDownload user product :=
    if o.downloads.contains product then .error (.lookupFailed ("download " ++ toString product))
    else a.canDownload user product

/-- A question that fails during an outage, and is asked otherwise. -/
theorem ReturnsIn.unless {S α : Type} {P : S → Prop} {x : ExceptT EvalError (StateM S) α}
    {r : Except EvalError α} (h : ReturnsIn P x.run r) (fails : Bool) (cause : EvalError) :
    ReturnsIn P (if fails then throw cause else x : ExceptT EvalError (StateM S) α).run
      (if fails then .error cause else r) := by
  cases fails with
  | true => exact ReturnsIn.pure _
  | false => exact h

/-- **A catalog with fixed answers has fixed answers during an outage.** -/
theorem Catalog.Follows.during {κ : Type} {c : Catalog κ} {I : κ → Prop} {a : CatalogAnswers}
    (h : c.Follows I a) (o : Outage) : (c.during o).Follows I (a.during o) where
  skuRows limit := (h.skuRows limit).unless _ _
  productIdBySku sku := (h.productIdBySku sku).unless _ _
  bought user product := (h.bought user product).unless _ _
  canDownload user product := (h.canDownload user product).unless _ _

namespace CatalogAnswers

/-- The SKU map, if the catalog has no more SKUs than the limit. -/
def skuMap? (a : CatalogAnswers) (limit : Nat) : Except EvalError (Option SkuMap) :=
  (a.skuRows limit).map fun answer =>
    if limit < answer.found then none else some (SkuMap.ofRows answer.rows)

/-- The product of a SKU, through the map if there is one. -/
def productOfSku (a : CatalogAnswers) (limit : Nat) (sku : String) : Except EvalError ProductId :=
  match a.skuMap? limit with
  | .ok (some m) => .ok ((m.get? sku).getD 0)
  | .ok none => a.productIdBySku sku
  | .error cause => .error cause

/-- The product that a number or SKU names. -/
def productId (a : CatalogAnswers) (limit : Nat) (text : String) : Except EvalError ProductId :=
  match Commerce.canonicalId? text with
  | some id => .ok id
  | none => a.productOfSku limit text

/-- The answer to a question of a kind. -/
def question (a : CatalogAnswers) : LookupKind → UserId → ProductId → Except EvalError Bool
  | .bought => a.bought
  | .canDownload => a.canDownload

/-- The answer for a product, once it is known; no product has no answer but `false`. -/
def answerFor (a : CatalogAnswers) (q : Question) (id : ProductId) : Except EvalError Bool :=
  if id = 0 then .ok false else a.question q.kind q.user id

/-- The answer to a question. -/
def answer (a : CatalogAnswers) (limit : Nat) (q : Question) : Except EvalError Bool :=
  if q.user = 0 then .ok false
  else
    match a.productId limit q.product with
    | .ok id => a.answerFor q id
    | .error cause => .error cause

end CatalogAnswers

/-! ## §2. Consistent sessions -/

namespace Commerce

variable {κ : Type}

/-- A session whose catalog gives the fixed answers, and in which no SKU
map is kept but theirs.  `M` is what is known of the memo. -/
structure Consistent (limit : Nat) (I : κ → Prop) (a : CatalogAnswers) (M : Memo → Prop)
    (σ : Session κ) : Prop where
  catalog : I σ.catalog
  kept : ∀ entry ∈ σ.transients.entries, entry.key = skuKey →
    ∃ rows, a.skuMap? limit = .ok (some (SkuMap.ofRows rows))
      ∧ entry.text = (SkuMap.ofRows rows).stored
  memo : M σ.memo

section
variable {limit : Nat} {I : κ → Prop} {a : CatalogAnswers} {M N : Memo → Prop} {σ : Session κ}

/-- A session without kept texts. -/
theorem Consistent.of_nothing_kept (hcatalog : I σ.catalog) (hkept : σ.transients.entries = [])
    (hmemo : M σ.memo) : Consistent limit I a M σ where
  catalog := hcatalog
  kept := by
    intro entry hentry
    rw [hkept] at hentry
    exact absurd hentry List.not_mem_nil
  memo := hmemo

/-- Another memo, if what is known of it is true. -/
theorem Consistent.with_memo (h : Consistent limit I a M σ) {memo : Memo} (hmemo : N memo) :
    Consistent limit I a N { σ with memo } :=
  ⟨h.catalog, h.kept, hmemo⟩

theorem Consistent.mono (h : Consistent limit I a M σ) (hM : ∀ memo, M memo → N memo) :
    Consistent limit I a N σ :=
  ⟨h.catalog, h.kept, hM _ h.memo⟩

/-- Time that passes changes nothing but the clock, -/
theorem Consistent.with_now (h : Consistent limit I a M σ) (now : Nat) :
    Consistent limit I a M { σ with transients := { σ.transients with now } } :=
  ⟨h.catalog, h.kept, h.memo⟩

/-- and a message nothing but the log. -/
theorem Consistent.with_warnings (h : Consistent limit I a M σ) (warnings : List String) :
    Consistent limit I a M { σ with warnings } :=
  ⟨h.catalog, h.kept, h.memo⟩

/-- A text that is found is one of the entries. -/
theorem exists_entry_of_get? {t : Transients} {key text : String} (h : t.get? key = some text) :
    ∃ entry ∈ t.entries, entry.key = key ∧ entry.text = text := by
  unfold Transients.get? at h
  obtain ⟨entry, hfilter, htext⟩ := Option.map_eq_some_iff.1 h
  have hfind := (Option.filter_eq_some_iff.1 hfilter).1
  exact ⟨entry, List.mem_of_find?_eq_some hfind, by simpa using List.find?_some hfind, htext⟩

/-- **The kept map of a consistent session is the map of its answers.** -/
theorem run_keptMap? (c : Commerce κ) (h : Consistent limit I a M σ) :
    c.keptMap?.run.run σ = (.ok none, σ)
      ∨ ∃ m, a.skuMap? limit = .ok (some m) ∧ c.keptMap?.run.run σ = (.ok (some m), σ) := by
  unfold keptMap?
  rw [run_get_bind]
  cases hget : σ.transients.get? skuKey with
  | none => exact .inl rfl
  | some text =>
    obtain ⟨entry, hentry, hkey, htext⟩ := exists_entry_of_get? hget
    obtain ⟨rows, hmap, hstored⟩ := h.kept entry hentry hkey
    refine .inr ⟨_, hmap, ?_⟩
    have hread : SkuMap.ofStored? text = some (SkuMap.ofRows rows) := by
      rw [← htext, hstored]
      exact SkuMap.ofStored?_stored (SkuMap.nodup_skus_ofRows rows)
    simp only [hread]
    rfl

/-- A map of the answers may be kept. -/
theorem Consistent.keep (h : Consistent limit I a M σ) {rows : List (ProductId × String)}
    (hmap : a.skuMap? limit = .ok (some (SkuMap.ofRows rows))) :
    Consistent limit I a M
      { σ with transients := σ.transients.set skuKey (SkuMap.ofRows rows).stored skuSeconds } where
  catalog := h.catalog
  kept := by
    intro entry hentry hkey
    rcases List.mem_cons.1 hentry with rfl | hold
    · exact ⟨rows, hmap, rfl⟩
    · exact h.kept entry ((List.mem_filter.1 hold).1) hkey
  memo := h.memo

/-! ## §3. Lookups without the memo -/

/-- A question to the catalog gets its fixed answer. -/
theorem answers_ask {α : Type} {question : ExceptT EvalError (StateM κ) α} {r : Except EvalError α}
    (h : ReturnsIn I question.run r) :
    Answers (Consistent limit I a M) (ask question) r := by
  intro σ hσ
  obtain ⟨k, hk, hrun⟩ := h σ.catalog hσ.catalog
  refine ⟨{ σ with catalog := k }, ⟨hk, hσ.kept, hσ.memo⟩, ?_⟩
  have hask : (ask question).run.run σ
      = ((question.run σ.catalog).1, { σ with catalog := (question.run σ.catalog).2 }) := by
    unfold ask
    rw [run_get_bind]
    obtain ⟨answer, catalog⟩ := question.run σ.catalog
    cases answer <;> rfl
  have hquestion : question.run σ.catalog = (r, k) := hrun
  rw [hask, hquestion]

end

variable {c : Commerce κ} {I : κ → Prop} {a : CatalogAnswers} {M N : Memo → Prop}

/-- **The SKU map**, kept or made. -/
theorem answers_skuMap? (hc : c.catalog.Follows I a) :
    Answers (Consistent c.skuLimit I a M) c.skuMap? (a.skuMap? c.skuLimit) := by
  intro σ hσ
  unfold skuMap?
  rcases run_keptMap? c hσ with hnone | ⟨m, hmap, hsome⟩
  · rw [run_bind_of_ok hnone]
    obtain ⟨τ, hτ, hrun⟩ := answers_ask (hc.skuRows c.skuLimit) σ hσ
    cases hrows : a.skuRows c.skuLimit with
    | error cause =>
      rw [hrows] at hrun
      refine ⟨τ, hτ, ?_⟩
      simp only
      rw [run_bind_of_error hrun]
      unfold CatalogAnswers.skuMap?
      rw [hrows]
      rfl
    | ok answer =>
      rw [hrows] at hrun
      have hmap : a.skuMap? c.skuLimit = .ok
          (if c.skuLimit < answer.found then none else some (SkuMap.ofRows answer.rows)) := by
        unfold CatalogAnswers.skuMap?
        rw [hrows]
        rfl
      rw [hmap]
      simp only
      rw [run_bind_of_ok hrun]
      by_cases hfound : c.skuLimit < answer.found
      · rw [if_pos hfound, if_pos hfound]
        exact ⟨τ, hτ, rfl⟩
      · rw [if_neg hfound] at hmap ⊢
        rw [if_neg hfound]
        exact ⟨_, hτ.keep hmap, rfl⟩
  · rw [run_bind_of_ok hsome, hmap]
    exact ⟨σ, hσ, rfl⟩

/-- **The product that a text names.** -/
theorem answers_productId (hc : c.catalog.Follows I a) (text : String) :
    Answers (Consistent c.skuLimit I a M) (c.productId text) (a.productId c.skuLimit text) := by
  have hmap := answers_skuMap? (M := M) hc
  unfold productId CatalogAnswers.productId
  cases canonicalId? text with
  | some id => exact Answers.pure id
  | none =>
    unfold CatalogAnswers.productOfSku
    cases hsku : a.skuMap? c.skuLimit with
    | error cause =>
      rw [hsku] at hmap
      exact hmap.bind_error
    | ok m? =>
      rw [hsku] at hmap
      cases m? with
      | some m => exact hmap.bind (Answers.pure _)
      | none => exact hmap.bind (answers_ask (hc.productIdBySku text))

theorem answers_question (hc : c.catalog.Follows I a) (kind : LookupKind) (user : UserId)
    (product : ProductId) :
    ReturnsIn I (c.question kind user product).run (a.question kind user product) := by
  cases kind with
  | bought => exact hc.bought user product
  | canDownload => exact hc.canDownload user product

/-- The answer for a product that is known. -/
theorem answers_known (hc : c.catalog.Follows I a) (q : Question) (id : ProductId) :
    Answers (Consistent c.skuLimit I a M)
      (if id = 0 then pure false else ask (c.question q.kind q.user id)) (a.answerFor q id) := by
  unfold CatalogAnswers.answerFor
  by_cases hzero : id = 0
  · rw [if_pos hzero, if_pos hzero]
    exact Answers.pure false
  · rw [if_neg hzero, if_neg hzero]
    exact answers_ask (answers_question hc q.kind q.user id)

/-- **A question that is not remembered** is answered by the catalog. -/
theorem answers_freshAnswer (hc : c.catalog.Follows I a) (q : Question) :
    Answers (Consistent c.skuLimit I a M) (c.freshAnswer q) (a.answer c.skuLimit q) := by
  have hid := answers_productId (M := M) hc q.product
  unfold freshAnswer CatalogAnswers.answer
  by_cases huser : q.user = 0
  · rw [if_pos huser, if_pos huser]
    exact Answers.pure false
  · rw [if_neg huser, if_neg huser]
    cases hproduct : a.productId c.skuLimit q.product with
    | error cause =>
      rw [hproduct] at hid
      exact hid.bind_error
    | ok id =>
      rw [hproduct] at hid
      exact hid.bind (answers_known hc q id)

/-! ## §4. Lookups with the memo -/

theorem run_answer_of_remembered {q : Question} {b : Bool} {σ : Session κ}
    (h : σ.memo.get? q = some b) : (c.answer q).run.run σ = (.ok b, σ) := by
  unfold answer
  rw [run_get_bind, h]
  rfl

/-- **A question that is not remembered** is answered by the catalog; the
answer is remembered, and a failure is not. -/
theorem run_answer_of_new (hc : c.catalog.Follows I a) {q : Question} {σ : Session κ}
    (hσ : Consistent c.skuLimit I a M σ) (h : σ.memo.get? q = none)
    (hkeep : ∀ memo, M memo → N memo)
    (hinsert : ∀ memo b, M memo → a.answer c.skuLimit q = .ok b → N (memo.insert q b)) :
    ∃ τ, Consistent c.skuLimit I a N τ
      ∧ (c.answer q).run.run σ = (a.answer c.skuLimit q, τ) := by
  obtain ⟨τ, hτ, hrun⟩ := answers_freshAnswer hc q σ hσ
  unfold answer
  rw [run_get_bind, h]
  simp only
  cases hanswer : a.answer c.skuLimit q with
  | error cause =>
    rw [hanswer] at hrun
    exact ⟨τ, hτ.mono hkeep, run_bind_of_error hrun⟩
  | ok b =>
    rw [hanswer] at hrun
    rw [run_bind_of_ok hrun]
    exact ⟨_, hτ.with_memo (hinsert τ.memo b hτ.memo hanswer), rfl⟩

/-- What is remembered for some users is what the catalog answers. -/
def SoundFor (a : CatalogAnswers) (limit : Nat) (users : UserId → Prop) (memo : Memo) : Prop :=
  ∀ q b, users q.user → memo.get? q = some b → a.answer limit q = .ok b

theorem soundFor_empty {limit : Nat} {users : UserId → Prop} : SoundFor a limit users {} := by
  intro q b _ h
  cases h

/-- Answers of the catalog may be remembered. -/
theorem SoundFor.insert {limit : Nat} {users : UserId → Prop} {memo : Memo}
    (h : SoundFor a limit users memo) {q : Question} {b : Bool} (hb : a.answer limit q = .ok b) :
    SoundFor a limit users (memo.insert q b) := by
  intro r b' hr hget
  by_cases hq : r = q
  · subst hq
    rw [Memo.get?_insert_self] at hget
    cases hget
    exact hb
  · rw [Memo.get?_insert_of_ne memo b hq] at hget
    exact h r b' hr hget

/-- **A question about a user for whom everything remembered is right**
is answered as by the catalog. -/
theorem answers_answer (hc : c.catalog.Follows I a) {users : UserId → Prop} {q : Question}
    (hq : users q.user) :
    Answers (Consistent c.skuLimit I a (SoundFor a c.skuLimit users)) (c.answer q)
      (a.answer c.skuLimit q) := by
  intro σ hσ
  cases hget : σ.memo.get? q with
  | some b =>
    rw [hσ.memo q b hq hget]
    exact ⟨σ, hσ, run_answer_of_remembered hget⟩
  | none => exact run_answer_of_new hc hσ hget (fun _ h => h) fun _ _ h hb => h.insert hb

end Commerce

end ContentGate
