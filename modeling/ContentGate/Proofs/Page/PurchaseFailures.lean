/-
  ContentGate.Proofs.Page.PurchaseFailures — built-in conditions fail only in the catalog.

  A tag that has built-in attributes only, none of them a direct
  condition, asks questions and combines the answers.  Nothing in its
  condition compares, calculates or calls, so no error is found there.  Of
  the questions only those about purchases are passed on to somebody else,
  and so every failure is a failure of the catalog, while it is asked for
  an item of the tag and for a visitor who is logged in.  The error of the
  tag has the words of the catalog's error, whichever that is.

  Main statements:
    * `failsAs_answer`, `failsAs_holds` — why an answer fails, and why the
      condition does;
    * `builtIn_fails_in_catalog` — what becomes of such a tag.
-/
import ContentGate.Proofs.Commerce.Causes
import ContentGate.Proofs.Evaluation.Logical
import ContentGate.Proofs.Invocation.BuiltIn
import ContentGate.Proofs.Page.Caching
import ContentGate.Proofs.Page.FailClosed

namespace ContentGate

namespace AttributeKind

/-- Only one name asks about purchases. -/
theorem ofName_eq_boughtProduct {name : String} (h : ofName name = .boughtProduct) :
    name = AttributeName.boughtProduct := by
  have hall : ∀ p ∈ builtins, p.2 = .boughtProduct → p.1 = AttributeName.boughtProduct := by decide
  exact hall _ (mem_builtins_of_ofName h (by decide)) rfl

end AttributeKind

namespace Site

open Expression Invocation

variable {κ : Type} {s : Site κ} {v : Visitor} {t : Tag}

/-! ## §1. Failures of the catalog -/

/-- A lookup fails with an error of the catalog, for an item among the tag's products and a
visitor who is logged in, and leaves the catalog in the state `k`. -/
def PurchaseFails (s : Site κ) (v : Visitor) (t : Tag) (cause : EvalError) (k : κ) : Prop :=
  v.id ≠ 0 ∧ ∃ shop written product, s.commerce? = some shop
    ∧ (AttributeKey.named AttributeName.boughtProduct, written) ∈ t.attributes.entries
    ∧ HasToken (normalValue written) (.item product)
    ∧ shop.LookupFails v.id product cause k

/-- The cause of an error, and the session behind it, where a lookup fails. -/
def PurchaseFailsAs (s : Site κ) (v : Visitor) (t : Tag) (cause : EvalError) (τ : Session κ) :
    Prop := s.PurchaseFails v t cause τ.catalog

/-- Such an error is one of those that the catalog has. -/
theorem PurchaseFails.of_failsOnly {K : EvalError → Prop}
    (h : ∀ shop, s.commerce? = some shop → shop.catalog.FailsOnly K)
    {cause : EvalError} {k : κ} (hfails : s.PurchaseFails v t cause k) : K cause := by
  obtain ⟨-, shop, written, product, hshop, -, -, hlookup⟩ := hfails
  exact hlookup.of_failsOnly (h shop hshop)

/-! ## §2. Why a condition fails -/

/-- **Why an answer fails** to a question of one of the tag's attributes. -/
theorem failsAs_answer {name written : String} {p : Predicate}
    (hmem : (AttributeKey.named name, written) ∈ t.attributes.entries)
    (hp : (ofTag t s.options v.id).AsksOf s.options s.multisite name (normalValue written) p) :
    FailsAs (s.PurchaseFailsAs v t) ((s.context v).answer p) := by
  cases p with
  | boughtProduct user product =>
    obtain rfl : user = v.id := hp.user rfl
    obtain ⟨hname, hitem⟩ := hp.of_boughtProduct
    rw [AttributeKind.ofName_eq_boughtProduct hname] at hmem
    unfold Context.answer
    cases hshop : (s.context v).commerce? with
    | none => exact FailsAs.pure false
    | some shop =>
      by_cases hid : v.id = 0
      · simp only [if_pos hid]
        exact FailsAs.pure false
      · simp only [if_neg hid]
        refine (shop.failsAs_bought v.id product).mono ?_
        rintro cause τ ⟨-, hfails⟩
        exact ⟨hid, shop, written, product, hshop, hmem, hitem, hfails⟩
  | _ => exact FailsAs.pure _

/-- **Why the condition of a tag fails.** -/
theorem failsAs_holds (ht : t.OnlyBuiltIn) {e : Expression}
    (h : (s.compile v t).condition? = some e) :
    FailsAs (s.PurchaseFailsAs v t) ((s.context v).holds e) := by
  have hmembers : ∀ e ∈ (s.compile v t).conditions,
      Logical True (fun p => FailsAs (s.PurchaseFailsAs v t) ((s.context v).answer p)) e := by
    intro e he
    obtain ⟨name, written, hmem, hlogical⟩ := logical_of_condition ht he
    exact hlogical.mono (fun _ => trivial) fun p hp => failsAs_answer hmem hp
  exact (logical_of_joined hmembers h).holds_of_answers FailsAs.pure FailsAs.bind fun p hp => hp

/-! ## §3. What becomes of a tag -/

/-- **Built-in conditions fail only in the catalog.**  Let the attributes of a tag that have
names be built in, none of them a direct condition, and let compiling it give no error.
Then, whoever the visitor is, whatever functions the site has, and in every session: the
condition has an outcome, which is the answer of the tag, or it fails, and then the tag has
one error.  That is the error of the catalog, of a lookup that failed for an item among the
tag's products, for a visitor who is logged in; and it is a failed lookup, if the catalog
has no other errors.  Without a shop, and with a catalog that never fails, the condition
always has an outcome. -/
theorem builtIn_fails_in_catalog (s : Site κ) (v : Visitor) (t : Tag) (ht : t.OnlyBuiltIn)
    (herrors : (s.compile v t).errors = []) (σ : Session κ) :
    let i := s.compile v t
    let done := (s.invoke v t).run σ
    (i.condition? = none → done = ((i, false), σ))
      ∧ (∀ e, i.condition? = some e →
          (∃ b τ, ((s.context v).holds e).run.run σ = (.ok b, τ) ∧ done = ((i, b), τ))
            ∨ ∃ cause τ, ((s.context v).holds e).run.run σ = (.error cause, τ)
                ∧ s.PurchaseFails v t cause τ.catalog
                ∧ ((∀ shop, s.commerce? = some shop → shop.catalog.FailsByLookup) →
                    ∃ detail, cause = .lookupFailed detail)
                ∧ done
                  = (({ i with errors := [.evaluationFailure cause.message] }, false), τ))
      ∧ ((∀ shop, s.commerce? = some shop → shop.catalog.NeverFails) → ∀ e,
          i.condition? = some e →
            ∃ b τ, ((s.context v).holds e).run.run σ = (.ok b, τ) ∧ done = ((i, b), τ)) := by
  intro i done
  have hcases : ∀ e, i.condition? = some e →
      (∃ b τ, ((s.context v).holds e).run.run σ = (.ok b, τ) ∧ done = ((i, b), τ))
        ∨ ∃ cause τ, ((s.context v).holds e).run.run σ = (.error cause, τ)
            ∧ s.PurchaseFails v t cause τ.catalog
            ∧ done = (({ i with errors := [.evaluationFailure cause.message] }, false), τ) := by
    intro e he
    have hdone : done = (i.decided (((s.context v).holds e).run.run σ).1,
        (((s.context v).holds e).run.run σ).2) := run_decide_of_some herrors he σ
    rcases hrun : ((s.context v).holds e).run.run σ with ⟨r, τ⟩
    rw [hrun] at hdone
    cases r with
    | ok b => exact .inl ⟨b, τ, rfl, hdone⟩
    | error cause =>
      refine .inr ⟨cause, τ, rfl, failsAs_holds ht he σ cause τ hrun, hdone.trans ?_⟩
      -- The failure is the only error, for there was none before.
      show ((i.addError _, false), τ) = _
      unfold addError
      rw [show i.errors = [] from herrors]
      rfl
  refine ⟨fun hnone => ?_, fun e he => ?_, fun hnever e he => ?_⟩
  · show (s.decide v i).run σ = _
    rw [decide_of_none hnone]
    rfl
  · refine (hcases e he).imp_right ?_
    rintro ⟨cause, τ, hrun, hfails, hdone⟩
    exact ⟨cause, τ, hrun, hfails, fun hlookups => hfails.of_failsOnly hlookups, hdone⟩
  · refine (hcases e he).resolve_right ?_
    rintro ⟨cause, τ, -, hfails, -⟩
    exact hfails.of_failsOnly hnever

/-- A tag for readers who do not have the book, or who have the atlas. -/
def atlasTag : Tag :=
  ⟨"if", Attributes.ofPairs [(AttributeName.boughtProduct, "!BOOK || ATLAS")], none⟩

/-- Reader 1, who has the book. -/
def bookReader : Visitor := Profile.visitor { id := 1 }

/-- The readers' site while the shop can answer everything. -/
def openReaders : Site Inventory :=
  { readers with commerce? := some { catalog := Inventory.catalog } }

theorem atlasTag_fails_in_catalog :
    atlasTag.OnlyBuiltIn ∧ (readers.compile bookReader atlasTag).errors = []
      ∧ (∀ shop, readers.commerce? = some shop → shop.catalog.FailsByLookup)
      ∧ (∃ detail k, readers.PurchaseFails bookReader atlasTag (.lookupFailed detail) k
          ∧ ((readers.invoke bookReader atlasTag).run (fresh books)).1.1.errors
            = [.evaluationFailure (EvalError.lookupFailed detail).message])
      ∧ (∀ shop, openReaders.commerce? = some shop → shop.catalog.NeverFails)
      ∧ ((openReaders.invoke bookReader atlasTag).run (fresh books)).1.1.errors = [] := by
  have ht : atlasTag.OnlyBuiltIn := by
    intro name value hmem
    obtain ⟨rfl, rfl⟩ : name = AttributeName.boughtProduct ∧ value = "!BOOK || ATLAS" := by
      simpa [atlasTag, Attributes.ofPairs, Attributes.empty, setEntry] using hmem
    decide
  have herrors : (readers.compile bookReader atlasTag).errors = [] := by decide +kernel
  have hasks : (readers.compile bookReader atlasTag).condition?.isSome = true := by decide +kernel
  obtain ⟨e, he⟩ := Option.isSome_iff_exists.1 hasks
  have hlookups : ∀ shop, readers.commerce? = some shop → shop.catalog.FailsByLookup := by
    rintro shop h
    cases h
    exact Inventory.catalog_neverFails.failsByLookup.during _
  have hnever : ∀ shop, openReaders.commerce? = some shop → shop.catalog.NeverFails := by
    rintro shop h
    cases h
    exact Inventory.catalog_neverFails
  refine ⟨ht, herrors, hlookups, ?_, hnever, ?_⟩
  · rcases (builtIn_fails_in_catalog readers bookReader atlasTag ht herrors (fresh books)).2.1 e he
      with ⟨b, τ, -, hdone⟩ | ⟨cause, τ, -, hfails, hkind, hdone⟩
    · have hfailed : ((readers.invoke bookReader atlasTag).run (fresh books)).1.1.errors ≠ [] := by
        decide +kernel
      rw [hdone] at hfailed
      exact absurd herrors hfailed
    · obtain ⟨detail, rfl⟩ := hkind hlookups
      refine ⟨detail, τ.catalog, hfails, ?_⟩
      rw [hdone]
  · obtain ⟨b, τ, -, hdone⟩ := (builtIn_fails_in_catalog openReaders bookReader atlasTag ht herrors
      (fresh books)).2.2 hnever e he
    rw [hdone]
    exact herrors

end Site

end ContentGate
