/-
  ContentGate.Proofs.Page.Caching — what is remembered cannot be seen on the pages.

  The memo outlives a tag, a page and a visitor, and the kept SKU map
  outlives them all.  None of it shows: where the catalog gives fixed
  answers, every page of a row of pages, whoever they are for, is what it
  would be if nothing were remembered.

  The reason is that a page asks about its own visitor only (`Site.asks_own`).
  So it is enough that what is remembered for this visitor is right, and
  that the kept map is the right one: rendering then has the same outcome
  in all sessions (`Site.steady_render`), and leaves such a session behind.
  What is remembered for others may be anything.  The site's functions must
  not tell such sessions apart, nor spoil them; pure functions do neither.

  Main statements:
    * `Context.steady_answer` — questions about some users only;
    * `Site.steady_invoke`, `Site.steady_render` — tags and pages;
    * `Site.pages_as_fresh` — pages one after the other.
-/
import ContentGate.Proofs.Commerce.Saving
import ContentGate.Proofs.Invocation.Sandbox
import ContentGate.Proofs.Page.Meaning

namespace ContentGate

variable {κ : Type} {I : κ → Prop} {a : CatalogAnswers} {users : UserId → Prop}

/-! ## §1. Questions -/

/-- The sessions in which the catalog gives the fixed answers, the kept
SKU map is theirs, and what is remembered for some users is right. -/
def Session.RightFor (limit : Nat) (I : κ → Prop) (a : CatalogAnswers) (users : UserId → Prop) :
    Session κ → Prop :=
  Commerce.Consistent limit I a (Commerce.SoundFor a limit users)

/-- The shop, if there is one, gives the fixed answers. -/
def Follows (shop? : Option (Commerce κ)) (limit : Nat) (I : κ → Prop) (a : CatalogAnswers) :
    Prop :=
  ∀ shop, shop? = some shop → shop.skuLimit = limit ∧ shop.catalog.Follows I a

namespace Context

variable {c : Context κ} {limit : Nat}

/-- A predicate about one of the users has the same answer in all these sessions. -/
theorem steady_answer (hshop : Follows c.commerce? limit I a) {p : Predicate}
    (hp : ∀ u, p.user? = some u → users u) :
    Steady (Session.RightFor limit I a users) (c.answer p).run := by
  cases p with
  | boughtProduct user product =>
    unfold answer
    cases hcommerce : c.commerce? with
    | none => exact Steady.pure _
    | some shop =>
      obtain ⟨rfl, hcatalog⟩ := hshop shop hcommerce
      by_cases huser : user = 0
      · simp only [if_pos huser]
        exact Steady.pure _
      · simp only [if_neg huser]
        exact ⟨_, Commerce.answers_answer hcatalog (hp user rfl)⟩
  | _ => exact Steady.pure _

end Context

/-! ## §2. Tags -/

namespace Site

variable {s : Site κ} {v : Visitor}

/-- **The condition of a tag asks about the visitor only.** -/
theorem asks_own {t : Tag} {e : Expression} (h : (s.compile v t).condition? = some e) :
    Expression.AskOnly (fun p => ∀ u, p.user? = some u → u = v.id) e.nodes := by
  have hmembers : ∀ e ∈ (s.compile v t).conditions, ∀ x ∈ e.nodes, ∀ p, x.2 = .predicate p →
      ∀ u, p.user? = some u → u = v.id := by
    intro e he x hx p hp u hu
    obtain ⟨name, value, -, hcontribution⟩ := Invocation.exists_entry_of_condition t v.id he
    exact (Invocation.permits_contribution hcontribution x hx).user p u hp hu
  unfold Invocation.condition? at h
  split at h
  · cases h
  · cases h
    -- Joining adds one group at most, and a group is no predicate.
    refine Expression.forall_nodesIn_joined (fun p hp => ?_) hmembers
    cases hp

/-- From how many SKUs on the site's shop keeps no map. -/
def skuLimit (s : Site κ) : Nat := (s.commerce?.map (·.skuLimit)).getD 0

/-- Sessions of the site in which what is remembered for some users is right. -/
def RightFor (s : Site κ) (I : κ → Prop) (a : CatalogAnswers) (users : UserId → Prop) :
    Session κ → Prop := Session.RightFor s.skuLimit I a users

theorem ignoresLog_rightFor : IgnoresLog (s.RightFor I a users) :=
  fun _ _ hσ => hσ.with_warnings _

theorem follows_of_catalog (h : ∀ shop, s.commerce? = some shop → shop.catalog.Follows I a) :
    Follows (s.context v).commerce? s.skuLimit I a := by
  intro shop hshop
  have hsite : s.commerce? = some shop := hshop
  refine ⟨?_, h shop hsite⟩
  unfold skuLimit
  rw [hsite]
  rfl

section
variable (hshop : ∀ shop, s.commerce? = some shop → shop.catalog.Follows I a)
  (hcalls : s.functions.IsSteady (s.RightFor I a users)) (hv : users v.id)
include hshop hcalls hv

/-- **A tag is decided alike** in all sessions that are right for the visitor. -/
theorem steady_invoke (t : Tag) : Steady (s.RightFor I a users) (s.invoke v t) := by
  refine steady_decide fun e he => Context.steady_holds hcalls fun x hx p hp => ?_
  refine Context.steady_answer (follows_of_catalog hshop) fun u hu => ?_
  rw [asks_own he x hx p hp u hu]
  exact hv

theorem steady_reply (t : Tag) : Steady (s.RightFor I a users) (s.reply v t) :=
  (steady_invoke hshop hcalls hv t).bind fun r => steady_replyTo ignoresLog_rightFor r.1 r.2

/-! ## §3. Pages -/

theorem steady_showSegment {nested : String → OptionT (StateM (Session κ)) String}
    (hnested : ∀ page, Steady (s.RightFor I a users) (nested page).run) (segment : Segment) :
    Steady (s.RightFor I a users) (s.showSegment v nested segment).run := by
  cases segment with
  | text text => exact Steady.pure _
  | tag t =>
    have hreply : Steady (s.RightFor I a users)
        (liftM (s.reply v t) : OptionT (StateM (Session κ)) Reply).run :=
      (steady_reply hshop hcalls hv t).bind fun r => Steady.pure _
    refine Steady.bind_option hreply fun r => ?_
    cases r.branch? with
    | none => exact Steady.pure _
    | some branch => exact Steady.bind_option (hnested branch) fun inner => Steady.pure _

theorem steady_renderWithin (levels : Nat) (page : String) :
    Steady (s.RightFor I a users) (s.renderWithin v levels page).run := by
  induction levels generalizing page with
  | zero =>
    rw [renderWithin]
    exact Steady.pure none
  | succ levels ih =>
    rw [renderWithin_succ]
    exact Steady.bind_option (Steady.mapM_option (steady_showSegment hshop hcalls hv ih) _)
      fun pieces => Steady.pure _

/-- **A page is the same** in all sessions that are right for the visitor. -/
theorem steady_render (page : String) : Steady (s.RightFor I a users) (s.render v page) := by
  unfold render
  exact (steady_renderWithin hshop hcalls hv maxRenderings page).bind fun text => Steady.pure _

end

/-! ## §4. Pages one after the other -/

/-- A page that is asked for. -/
structure Request where
  visitor : Visitor
  page : String
  /-- How long after the one before. -/
  seconds : Nat := 0

/-- Time passes, and a page is rendered. -/
def serve (s : Site κ) (r : Request) : StateM (Session κ) String := do
  modify fun σ => { σ with
    transients := { σ.transients with now := σ.transients.now + r.seconds } }
  s.render r.visitor r.page

/-- A session in which nothing is kept or remembered. -/
def fresh (catalog : κ) : Session κ := { catalog }

theorem rightFor_fresh {k : κ} (hk : I k) : s.RightFor I a users (fresh k) :=
  .of_nothing_kept hk rfl Commerce.soundFor_empty

section
variable (hshop : ∀ shop, s.commerce? = some shop → shop.catalog.Follows I a)
  (hcalls : s.functions.IsSteady (s.RightFor I a fun _ => True))
include hshop hcalls

/-- Serving a page gives what a fresh session would give, and what is
remembered is right for everybody. -/
theorem returnsIn_serve {k : κ} (hk : I k) (r : Request) :
    ReturnsIn (s.RightFor I a fun _ => True) (s.serve r)
      ((s.render r.visitor r.page).run (fresh k)).1 := by
  have hsteady : Steady (s.RightFor I a fun _ => True) (s.render r.visitor r.page) :=
    steady_render hshop hcalls trivial r.page
  obtain ⟨text, htext⟩ := hsteady
  rw [(htext.result (rightFor_fresh hk)).1]
  exact (ReturnsIn.modify fun σ hσ => hσ.with_now _).bind htext

theorem returnsIn_mapM_serve {k : κ} (hk : I k) (requests : List Request) :
    ReturnsIn (s.RightFor I a fun _ => True) (requests.mapM s.serve)
      (requests.map fun r => ((s.render r.visitor r.page).run (fresh k)).1) := by
  induction requests with
  | nil => exact ReturnsIn.pure _
  | cons r requests ih =>
    rw [List.mapM_cons]
    exact (returnsIn_serve hshop hcalls hk r).bind (ih.bind (ReturnsIn.pure _))

end

/-- **What is remembered cannot be seen.**  On a site whose functions are pure
and whose catalog gives fixed answers, pages that are rendered one after the
other are what each of them is in a fresh session.  At any time, a page does
not even depend on what is remembered for anybody but its own visitor. -/
theorem pages_as_fresh (s : Site κ) (hpure : s.functions.IsPure) {I : κ → Prop}
    {a : CatalogAnswers}
    (hshop : ∀ shop, s.commerce? = some shop → shop.catalog.Follows I a) {k : κ} (hk : I k)
    (requests : List Request) :
    let done := (requests.mapM s.serve).run (fresh k)
    done.1 = requests.map (fun r => ((s.render r.visitor r.page).run (fresh k)).1)
      ∧ ∀ (v : Visitor) (page : String) (memo : Memo),
          (∀ q, q.user = v.id → memo.get? q = done.2.memo.get? q) →
          ((s.render v page).run { done.2 with memo }).1 = ((s.render v page).run (fresh k)).1 := by
  intro done
  obtain ⟨hpages, hright⟩ := (returnsIn_mapM_serve hshop
    (hpure.isSteady _) hk requests).result (rightFor_fresh hk)
  refine ⟨hpages, fun v page memo hmemo => ?_⟩
  -- What is remembered for the visitor is still right.
  have hown : s.RightFor I a (· = v.id) { done.2 with memo } :=
    hright.with_memo fun q b hq hget => hright.memo q b trivial ((hmemo q hq).symm.trans hget)
  have hsteady : Steady (s.RightFor I a (· = v.id)) (s.render v page) := by
    refine steady_render hshop (hpure.isSteady _) ?_ page
    rfl
  exact hsteady.result_eq hown (rightFor_fresh hk)

/-- A shop with a book and an atlas; nothing can be said of downloads or of purchases of the atlas. -/
def bookshop : Commerce Inventory where
  catalog := Inventory.catalog.during { bought := [8], downloads := [7, 8] }
  skuLimit := 2

/-- Reader 1 has bought the book. -/
def books : Inventory where
  products := [{ id := 7, sku := "BOOK" }, { id := 8, sku := "ATLAS" }]
  purchases := [(1, 7)]

/-- A site with the bookshop. -/
def readers : Site Inventory where
  options := ({} : Options).resolved
  commerce? := some bookshop

/-- A reader's page, ten hours after the one before. -/
def reading (user : UserId) (product : String) : Request where
  visitor := Profile.visitor { id := user }
  page := "[if current_user_bought_product=\"" ++ product ++ "\"]yes[else]no[/if]"
  seconds := 36000

theorem pages_of_readers :
    readers.functions.IsPure
      ∧ (∀ shop, readers.commerce? = some shop → shop.catalog.Follows books.Queried
        (books.answers.during { bought := [8], downloads := [7, 8] }))
      ∧ books.Queried books
      ∧ (([reading 1 "BOOK", reading 2 "BOOK", reading 1 "ATLAS", reading 1 "BOOK"].mapM
          readers.serve).run (fresh books)).1 = ["yes", "no", "", "yes"] := by
  have hshop : ∀ shop, readers.commerce? = some shop → shop.catalog.Follows books.Queried
      (books.answers.during { bought := [8], downloads := [7, 8] }) := by
    rintro shop h
    cases h
    exact books.catalog_follows.during _
  have hpure : readers.functions.IsPure := LinkedRegistry.isPure_builtins
  refine ⟨hpure, hshop, books.queried_self, ?_⟩
  rw [(pages_as_fresh readers hpure hshop books.queried_self _).1]
  decide +kernel

end Site

end ContentGate
