/-
  ContentGate.Proofs.Page.Granting — granting something to a visitor hides nothing.

  A tag is POSITIVE when its attributes are built in, none of them is a
  direct condition, and none negates.  What such a tag asks of an
  anonymous visitor is never true, whatever the data of the visitor say,
  so it shows nothing to anonymous visitors.  And if a visitor is granted
  more, more of its questions are true, and none is false that was true.

  The questions about purchases have the same answers for both visitors,
  but they are asked of a catalog that may change its state or fail.  So
  we run both decisions side by side, from two sessions that are related,
  and compare the outcomes of the conditions one by one (`Rises`).

  Main statements:
    * `answer_anonymous`, `tells_mono` — the questions of a tag;
    * `GroupOp.verdict_mono` — outcomes that rise keep a verdict true;
    * `rises_of_condition` — the conditions of a positive tag, side by side;
    * `positive_monotone` — the whole of it.
-/
import ContentGate.Proofs.Evaluation.Logical
import ContentGate.Proofs.Invocation.BuiltIn
import ContentGate.Proofs.Page.Caching
import ContentGate.Proofs.Page.FailClosed

namespace ContentGate

variable {κ : Type}

/-! ## §1. Profiles -/

namespace Profile

/-- The capabilities on another site. -/
def capabilitiesOn (p : Profile) (blog : BlogId) : List String :=
  ((p.blogCapabilities.find? (·.1 == blog)).map (·.2)).getD []

/-- Two profiles of one user; whatever the first one has, the second one has too. -/
structure Below (p q : Profile) : Prop where
  id : p.id = q.id
  capabilities : ∀ c ∈ p.capabilities, c ∈ q.capabilities
  blogCapabilities : ∀ blog, ∀ c ∈ p.capabilitiesOn blog, c ∈ q.capabilitiesOn blog
  options : ∀ key, (lookup key p.options).truthy = true → (lookup key q.options).truthy = true
  userMeta : ∀ key, (lookup key p.userMeta).truthy = true → (lookup key q.userMeta).truthy = true

/-- Data that nobody but their own user is asked about. -/
theorem truthy_own_mono {user id : UserId} {v w : Value} (h : v.truthy = true → w.truthy = true) :
    (if user == 0 || user != id then .null else v : Value).truthy = true →
      (if user == 0 || user != id then .null else w : Value).truthy = true := by
  split
  · exact fun hnull => hnull
  · exact h

end Profile

/-! ## §2. Answers -/

namespace Context

/-- Is the answer to a question true in a session? -/
def tells (c : Context κ) (σ : Session κ) (p : Predicate) : Bool :=
  match ((c.answer p).run.run σ).1 with
  | .ok b => b
  | .error _ => false

/-- Only questions about purchases are passed on; the others are answered at once. -/
theorem answer_eq_pure (c : Context κ) (σ : Session κ) {p : Predicate}
    (hp : ∀ user product, p ≠ .boughtProduct user product) : c.answer p = pure (c.tells σ p) := by
  cases p with
  | boughtProduct user product => exact absurd rfl (hp user product)
  | _ => rfl

end Context

namespace Site

variable {s : Site κ} {p q : Profile}

/-- **No question about an anonymous visitor is true**, whatever the data of the visitor say. -/
theorem answer_anonymous (hid : p.id = 0) {question : Predicate}
    (huser : ∀ u, question.user? = some u → u = 0) :
    (s.context p.visitor).answer question = pure false := by
  cases question with
  | userLoggedIn =>
    show pure (p.id != 0) = _
    rw [hid]
    rfl
  | userCan capability =>
    show pure (p.id != 0 && _) = _
    rw [hid]
    rfl
  | userCanForBlog blog capability =>
    show pure (p.id != 0 && _) = _
    rw [hid]
    rfl
  | userOption user key =>
    rw [huser user rfl]
    rfl
  | userMeta user key =>
    rw [huser user rfl]
    rfl
  | payingCustomer user =>
    rw [huser user rfl]
    show pure (_ && false && _) = _
    rw [Bool.and_false]
    rfl
  | boughtProduct user product =>
    rw [huser user rfl]
    unfold Context.answer
    cases (s.context p.visitor).commerce? <;> rfl

/-- **What is granted makes no answer false** that was true. -/
theorem tells_mono (h : p.Below q) {question : Predicate}
    (hquestion : ∀ user product, question ≠ .boughtProduct user product) (σ : Session κ) :
    (s.context p.visitor).tells σ question = true →
      (s.context q.visitor).tells σ question = true := by
  cases question with
  | userLoggedIn =>
    show (p.id != 0) = true → (q.id != 0) = true
    rw [h.id]
    exact id
  | userCan capability =>
    show (p.id != 0 && p.capabilities.contains capability) = true →
      (q.id != 0 && q.capabilities.contains capability) = true
    rw [h.id, Bool.and_eq_true, Bool.and_eq_true, List.contains_iff_mem, List.contains_iff_mem]
    exact And.imp_right (h.capabilities capability)
  | userCanForBlog blog capability =>
    show (p.id != 0 && (p.capabilitiesOn blog).contains capability) = true →
      (q.id != 0 && (q.capabilitiesOn blog).contains capability) = true
    rw [h.id, Bool.and_eq_true, Bool.and_eq_true, List.contains_iff_mem, List.contains_iff_mem]
    exact And.imp_right (h.blogCapabilities blog capability)
  | userOption user key =>
    show (user != 0 && (if user == 0 || user != p.id then .null else _ : Value).truthy) = true →
      (user != 0 && (if user == 0 || user != q.id then .null else _ : Value).truthy) = true
    rw [h.id, Bool.and_eq_true, Bool.and_eq_true]
    exact And.imp_right (Profile.truthy_own_mono (h.options key))
  | userMeta user key =>
    show (user != 0 && (if user == 0 || user != p.id then .null else _ : Value).truthy) = true →
      (user != 0 && (if user == 0 || user != q.id then .null else _ : Value).truthy) = true
    rw [h.id, Bool.and_eq_true, Bool.and_eq_true]
    exact And.imp_right (Profile.truthy_own_mono (h.userMeta key))
  | payingCustomer user =>
    show (_ && (if user == 0 || user != p.id then .null else _ : Value).truthy) = true →
      (_ && (if user == 0 || user != q.id then .null else _ : Value).truthy) = true
    simp only [h.id, Bool.and_eq_true]
    exact And.imp_right (Profile.truthy_own_mono (h.userMeta _))
  | boughtProduct user product => exact absurd rfl (hquestion user product)

end Site

/-! ## §3. Outcomes side by side -/

/-- The outcomes are the same, or the second one is true and the first one is false. -/
def Raised (r r' : Except EvalError Bool) : Prop := r = r' ∨ (r = .ok false ∧ r' = .ok true)

/-- **Outcomes that rise keep a verdict true.** -/
theorem GroupOp.verdict_mono {op : GroupOp} {rs rs' : List (Except EvalError Bool)}
    (h : List.Forall₂ Raised rs rs') : op.verdict rs = .ok true → op.verdict rs' = .ok true := by
  induction h with
  | nil => exact id
  | @cons r r' rs rs' hr _ ih =>
    obtain rfl | ⟨rfl, rfl⟩ := hr
    · by_cases hneutral : r = op.neutral
      · rw [hneutral, verdict_neutral_cons, verdict_neutral_cons]
        exact ih
      · rw [verdict_cons_of_ne hneutral, verdict_cons_of_ne hneutral]
        exact id
    · cases op with
      | all =>
        -- The verdict was false at once.
        intro hall
        cases hall
      | any => exact fun _ => rfl

variable {R : Session κ → Session κ → Prop} {x y : Evaluation κ Bool}

/-- From related sessions, the outcomes are the same, and the sessions that are left are related. -/
def SameFrom (R : Session κ → Session κ → Prop) (x y : Evaluation κ Bool) : Prop :=
  ∀ σ τ, R σ τ → (x.run.run σ).1 = (y.run.run τ).1 ∧ R (x.run.run σ).2 (y.run.run τ).2

/-- From related sessions, the outcome rises, and the sessions that are left are related. -/
def Rises (R : Session κ → Session κ → Prop) (x y : Evaluation κ Bool) : Prop :=
  ∀ σ τ, R σ τ → Raised (x.run.run σ).1 (y.run.run τ).1 ∧ R (x.run.run σ).2 (y.run.run τ).2

theorem SameFrom.rises (h : SameFrom R x y) : Rises R x y := by
  intro σ τ hR
  obtain ⟨hsame, hleft⟩ := h σ τ hR
  exact ⟨.inl hsame, hleft⟩

theorem SameFrom.pure (b : Bool) : SameFrom R (Pure.pure b : Evaluation κ Bool) (Pure.pure b) :=
  fun _ _ hR => ⟨rfl, hR⟩

theorem SameFrom.bind {f g : Bool → Evaluation κ Bool} (hxy : SameFrom R x y)
    (hfg : ∀ b, SameFrom R (f b) (g b)) : SameFrom R (x >>= f) (y >>= g) := by
  intro σ τ hR
  obtain ⟨hsame, hleft⟩ := hxy σ τ hR
  rcases hx : x.run.run σ with ⟨r, σ'⟩
  rcases hy : y.run.run τ with ⟨r', τ'⟩
  rw [hx, hy] at hsame hleft
  obtain rfl : r = r' := hsame
  cases r with
  | ok b =>
    rw [run_bind_of_ok hx, run_bind_of_ok hy]
    exact hfg b σ' τ' hleft
  | error cause =>
    rw [run_bind_of_error hx, run_bind_of_error hy]
    exact ⟨rfl, hleft⟩

/-- Answers that are settled rise if the second one is true where the first one is. -/
theorem Rises.pure {b b' : Bool} (h : b = true → b' = true) :
    Rises R (Pure.pure b : Evaluation κ Bool) (Pure.pure b') := by
  intro σ τ hR
  refine ⟨?_, hR⟩
  cases b with
  | true =>
    rw [h rfl]
    exact .inl rfl
  | false =>
    cases b' with
    | true => exact .inr ⟨rfl, rfl⟩
    | false => exact .inl rfl

/-- **If every condition rises, the outcomes do**, evaluated in turn. -/
theorem Context.outcomes_rise {c c' : Context κ} {es : List Expression} {σ τ : Session κ}
    (hR : R σ τ) (h : ∀ e ∈ es, Rises R (c.holds e) (c'.holds e)) :
    List.Forall₂ Raised (c.outcomes es σ) (c'.outcomes es τ) := by
  induction es generalizing σ τ with
  | nil => exact .nil
  | cons e es ih =>
    obtain ⟨he, hes⟩ := List.forall_mem_cons.1 h
    obtain ⟨hraised, hleft⟩ := he σ τ hR
    exact .cons hraised (ih hleft hes)

/-! ## §4. Positive tags -/

/-- All attributes with a name are built in, none is a direct condition, and none negates. -/
structure Tag.Positive (t : Tag) : Prop where
  onlyBuiltIn : t.OnlyBuiltIn
  positive : ∀ name written, (AttributeKey.named name, written) ∈ t.attributes.entries →
    ¬ Invocation.Negates name (Invocation.normalValue written)

namespace Site

open Context Expression Invocation

variable {s : Site κ} {t : Tag} {p q : Profile} {e : Expression}

/-- The condition of an attribute of a positive tag has no negations. -/
theorem logical_of_positive (ht : t.Positive) {user : UserId}
    (h : e ∈ ((ofTag t s.options user).compile s.options s.multisite).conditions) :
    ∃ name written, Logical False ((ofTag t s.options user).AsksOf s.options s.multisite name
      (normalValue written)) e := by
  obtain ⟨name, written, hmem, hlogical⟩ := logical_of_condition ht.onlyBuiltIn h
  exact ⟨name, written, hlogical.mono (ht.positive name written hmem) fun _ hp => hp⟩

/-- **The conditions of a positive tag, side by side** for two visitors, if their
questions about purchases have the same answers. -/
theorem rises_of_condition (ht : t.Positive) (hpq : p.Below q)
    (hsame : ∀ product, SameFrom R ((s.context p.visitor).answer (.boughtProduct p.id product))
      ((s.context q.visitor).answer (.boughtProduct p.id product)))
    (h : e ∈ (s.compile p.visitor t).conditions) :
    Rises R ((s.context p.visitor).holds e) ((s.context q.visitor).holds e) := by
  obtain ⟨name, written, hlogical⟩ := logical_of_positive ht h
  by_cases hname : AttributeKind.ofName name = .boughtProduct
  · -- All questions are about purchases.
    refine (hlogical.holds_related SameFrom.pure SameFrom.bind fun question hasks => ?_).rises
    obtain ⟨product, rfl⟩ := hasks.exists_product hname
    exact hsame product
  · -- No question is about a purchase, so both evaluations are settled.
    intro σ τ hR
    have hquestion : ∀ question,
        (ofTag t s.options p.visitor.id).AsksOf s.options s.multisite name (normalValue written)
          question →
        ∀ user product, question ≠ .boughtProduct user product := by
      rintro _ hasks user product rfl
      exact hname hasks.of_boughtProduct.1
    have hp : (s.context p.visitor).holds e = pure (e.truth ((s.context p.visitor).tells σ)) :=
      hlogical.holds_eq_pure fun question hasks => answer_eq_pure _ σ (hquestion question hasks)
    have hq : (s.context q.visitor).holds e = pure (e.truth ((s.context q.visitor).tells σ)) :=
      hlogical.holds_eq_pure fun question hasks => answer_eq_pure _ σ (hquestion question hasks)
    have hmono := Expression.truth_mono hlogical
      fun question hasks => tells_mono (s := s) hpq (hquestion question hasks) σ
    rw [hp, hq]
    exact Rises.pure hmono σ τ hR

/-- Compiling a tag looks at the number of the visitor only. -/
theorem compile_congr {v w : Visitor} (h : v.id = w.id) (t : Tag) :
    s.compile v t = s.compile w t := by
  unfold compile
  rw [h]

/-- **Two decisions side by side.** -/
theorem invoke_mono (ht : t.Positive) (hpq : p.Below q)
    (hsame : ∀ product, SameFrom R ((s.context p.visitor).answer (.boughtProduct p.id product))
      ((s.context q.visitor).answer (.boughtProduct p.id product)))
    {σ τ : Session κ} (hR : R σ τ) (h : ((s.invoke p.visitor t).run σ).1.2 = true) :
    ((s.invoke q.visitor t).run τ).1.2 = true := by
  have hcompile : s.compile q.visitor t = s.compile p.visitor t := compile_congr hpq.id.symm t
  unfold invoke at h ⊢
  rw [hcompile, decide_holds_iff, ← SatisfyMode.verdict_eq_true_iff]
  obtain ⟨hready, hsatisfied⟩ := (decide_holds_iff σ).1 h
  refine ⟨hready, ?_⟩
  have hraised := Context.outcomes_rise hR fun e he => rises_of_condition ht hpq hsame he
  exact GroupOp.verdict_mono hraised (SatisfyMode.verdict_eq_true_iff.2 hsatisfied)

/-- **The condition of a positive tag is false for an anonymous visitor.** -/
theorem holds_anonymous (ht : t.Positive) (hid : p.id = 0)
    (h : (s.compile p.visitor t).condition? = some e) :
    (s.context p.visitor).holds e = pure false := by
  have hmembers : ∀ e ∈ (s.compile p.visitor t).conditions, Logical False
      (fun question => (s.context p.visitor).host.predicate question = pure false) e := by
    intro e he
    obtain ⟨name, written, hlogical⟩ := logical_of_positive ht he
    exact hlogical.mono (fun hn => hn) fun question hasks =>
      answer_anonymous hid fun u hu => (hasks.user hu).trans hid
  have hlogical := logical_of_joined hmembers h
  rw [← Expression.truth_eq_false hlogical]
  exact hlogical.holds_eq_pure fun question hanswer => hanswer

theorem invoke_anonymous (ht : t.Positive) (hid : p.id = 0) (σ : Session κ) :
    ((s.invoke p.visitor t).run σ).1.2 = false := by
  unfold invoke decide
  cases hcondition : (s.compile p.visitor t).condition? with
  | none => rfl
  | some e =>
    cases (s.compile p.visitor t).hasErrors with
    | true => rfl
    | false =>
      simp only
      rw [holds_anonymous ht hid hcondition]
      rfl

/-! ## §5. The theorem -/

/-- **Granting something to a visitor hides nothing.**  On every site, whatever its shop, a
positive tag does not hold for an anonymous visitor given by data, whatever the data say.  If
it holds for a visitor, it holds for the same user with more capabilities, here or on other
sites, and with more true options and meta entries: when both are asked in the same session,
also of a catalog that fails; and where the catalog gives fixed answers, when they are asked
in any two sessions in which what is remembered for the user is right. -/
theorem positive_monotone (s : Site κ) (t : Tag) (ht : t.Positive) :
    (∀ (p : Profile) (σ : Session κ), p.id = 0 →
        ((s.invoke p.visitor t).run σ).1.2 = false)
      ∧ (∀ (p q : Profile) (σ : Session κ), p.Below q →
          ((s.invoke p.visitor t).run σ).1.2 = true →
            ((s.invoke q.visitor t).run σ).1.2 = true)
      ∧ ∀ (I : κ → Prop) (a : CatalogAnswers),
          (∀ shop, s.commerce? = some shop → shop.catalog.Follows I a) →
          ∀ (p q : Profile) (σ τ : Session κ), p.Below q →
            s.RightFor I a (· = p.id) σ → s.RightFor I a (· = p.id) τ →
            ((s.invoke p.visitor t).run σ).1.2 = true →
              ((s.invoke q.visitor t).run τ).1.2 = true := by
  refine ⟨fun p σ hid => invoke_anonymous ht hid σ, ?_, ?_⟩
  · -- Both evaluate the same questions about purchases, in the same session.
    intro p q σ hpq
    refine invoke_mono (R := Eq) ht hpq (fun product => ?_) rfl
    rintro σ _ rfl
    exact ⟨rfl, rfl⟩
  · intro I a hshop p q σ τ hpq hσ hτ
    let R (σ τ : Session κ) : Prop := s.RightFor I a (· = p.id) σ ∧ s.RightFor I a (· = p.id) τ
    refine invoke_mono (R := R) ht hpq (fun product => ?_) ⟨hσ, hτ⟩
    have huser : ∀ u, (Predicate.boughtProduct p.id product).user? = some u → u = p.id :=
      fun u hu => (Option.some.inj hu).symm
    obtain ⟨r, hr⟩ := Context.steady_answer (c := s.context p.visitor)
      (follows_of_catalog (v := p.visitor) hshop) huser
    rintro σ τ ⟨hσ, hτ⟩
    obtain ⟨hp, hp'⟩ := hr.result hσ
    obtain ⟨hq, hq'⟩ := hr.result hτ
    exact ⟨hp.trans hq.symm, hp', hq'⟩

/-- A tag for readers and editors who have the book. -/
def bookTag : Tag where
  name := "if"
  attributes := Attributes.ofPairs
    [(AttributeName.userCan, "edit_posts || read"), (AttributeName.boughtProduct, "BOOK")]
  body? := none

/-- A reader who has the book, -/
def plainReader : Profile where
  id := 1
  capabilities := ["read"]

/-- and the same user as an editor. -/
def readingEditor : Profile where
  id := 1
  capabilities := ["edit_posts", "read"]
  options := [("newsletter", .bool true)]

theorem bookTag_positive_monotone :
    bookTag.Positive ∧ plainReader.Below readingEditor
      ∧ ((readers.invoke plainReader.visitor bookTag).run (fresh books)).1.2 = true
      ∧ ((readers.invoke readingEditor.visitor bookTag).run (fresh books)).1.2 = true
      ∧ ((readers.invoke readingEditor.visitor bookTag).run
          ((readers.invoke plainReader.visitor bookTag).run (fresh books)).2).1.2 = true
      ∧ ((readers.invoke ({ readingEditor with id := 0 } : Profile).visitor bookTag).run
          (fresh books)).1.2 = false := by
  have hentries : ∀ name written, (AttributeKey.named name, written) ∈ bookTag.attributes.entries →
      (name = AttributeName.userCan ∧ written = "edit_posts || read")
        ∨ (name = AttributeName.boughtProduct ∧ written = "BOOK") := by
    intro name written hmem
    simpa [bookTag, Attributes.ofPairs, Attributes.empty, setEntry, AttributeName.userCan,
      AttributeName.boughtProduct] using hmem
  have ht : bookTag.Positive := by
    constructor
    · intro name written hmem
      obtain ⟨rfl, rfl⟩ | ⟨rfl, rfl⟩ := hentries name written hmem <;> decide
    · intro name written hmem
      obtain ⟨rfl, rfl⟩ | ⟨rfl, rfl⟩ := hentries name written hmem
      · show ¬ HasToken _ _
        decide +kernel
      · show ¬ HasToken _ _
        decide +kernel
  have hbelow : plainReader.Below readingEditor := by
    refine ⟨rfl, by decide, fun blog c hc => absurd hc List.not_mem_nil, ?_, fun key h => h⟩
    intro key h
    cases h
  have hshop : ∀ shop, readers.commerce? = some shop → shop.catalog.Follows books.Queried
      (books.answers.during { bought := [8], downloads := [7, 8] }) := by
    rintro shop h
    cases h
    exact books.catalog_follows.during _
  have hfresh : readers.RightFor books.Queried
      (books.answers.during { bought := [8], downloads := [7, 8] }) (· = plainReader.id)
      (fresh books) := rightFor_fresh books.queried_self
  have hreader : ((readers.invoke plainReader.visitor bookTag).run (fresh books)).1.2 = true := by
    decide +kernel
  obtain ⟨hanonymous, hsame, hlater⟩ := positive_monotone readers bookTag ht
  refine ⟨ht, hbelow, hreader, hsame _ _ _ hbelow hreader, ?_, hanonymous _ _ rfl⟩
  -- What the reader's visit leaves behind is right for the editor, who is the same user.
  have hsteady : Steady (readers.RightFor books.Queried
      (books.answers.during { bought := [8], downloads := [7, 8] }) (· = plainReader.id))
      (readers.invoke plainReader.visitor bookTag) := by
    refine steady_invoke hshop (LinkedRegistry.isPure_builtins.isSteady _) ?_ bookTag
    rfl
  obtain ⟨done, hdone⟩ := hsteady
  exact hlater _ _ hshop _ _ _ _ hbelow hfresh (hdone.result hfresh).2 hreader

end Site

end ContentGate
