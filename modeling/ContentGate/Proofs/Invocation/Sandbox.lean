/-
  ContentGate.Proofs.Invocation.Sandbox — conditions hold nothing that the site does not allow.

  Authors write attributes, and attributes become conditions in several
  ways: through the direct notation, through formulas over predicates,
  through formulas over calls, and as flags.  Whatever an author writes,
  a node of a condition asks about the invocation's own user, asks about
  another site only where that is allowed, and calls a function only
  where a direct condition or the author's own attribute may do so
  (`Permits`).

  Main statements:
    * `contribution_cases` — the ways in which an attribute becomes a
      condition;
    * `permits_direct`, `permits_flag`, `permits_predicates`,
      `permits_arbitrary` — one lemma for each of them;
    * `conditions_permitted` — the conditions of a compiled invocation.
-/
import ContentGate.Proofs.Invocation.Accounting
import ContentGate.Proofs.Notation.DirectNodes
import ContentGate.Proofs.Notation.Reading

namespace ContentGate.Invocation

open Expression

/-! ## §1. What a node may be -/

/-- Is a node a call or a literal? -/
def isCode : Expression → Bool
  | .call _ _ | .literal _ => true
  | _ => false

/-- The attribute calls a function of the site that has the attribute's name. -/
structure Whitelisted (r : Resolved) (name : String) : Prop where
  kind : AttributeKind.ofName name = .arbitrary
  allowed : r.options.allowArbitrary = true
  listed : r.allows name = true
  valid : isValidName name r.options.minNameLength = true

/-- A node is the call that has the attribute's name, or a string among its arguments. -/
def IsOwnCall (name : String) (calls : List String) (n : Expression) : Prop :=
  (calls = [] ∧ ∃ args, n = .call name args) ∨
    (calls = [name] ∧ ∃ s, n = .literal (.string s))

/-- What a node in the condition of the attribute `name` may be, where it
stands in the arguments of `calls`. -/
structure Permits (i : Invocation) (r : Resolved) (multisite : Bool) (name : String)
    (calls : List String) (n : Expression) : Prop where
  /-- A predicate asks about the user of the invocation. -/
  user : ∀ p u, n = .predicate p → p.user? = some u → u = i.user
  /-- It asks about another site only where that is allowed, and about no other than the tag's. -/
  blog : ∀ b capability, n = .predicate (.userCanForBlog b capability) →
    i.forBlog ≠ 0 ∧ r.options.allowForBlog = true ∧ multisite = true ∧ b = i.forBlog
  /-- Calls and literals are direct conditions, or the attribute's own call. -/
  code : isCode n = true →
    (name = AttributeName.direct ∧ r.options.allowDirect = true) ∨
      (Whitelisted r name ∧ IsOwnCall name calls n)
  /-- A direct condition has direct nodes only. -/
  direct : name = AttributeName.direct → Direct.IsDirectNode n

/-! ## §2. How an attribute becomes a condition -/

/-- A predicate of an attribute of this invocation. -/
def Asks (i : Invocation) (r : Resolved) (multisite : Bool) (p : Predicate) : Prop :=
  (∀ u, p.user? = some u → u = i.user) ∧
    ∀ b capability, p = .userCanForBlog b capability →
      i.forBlog ≠ 0 ∧ r.options.allowForBlog = true ∧ multisite = true ∧ b = i.forBlog

variable {i : Invocation} {r : Resolved} {multisite : Bool} {name value : String}

/-- A predicate about nobody's user, and about no other site. -/
theorem asks_nobody {p : Predicate} (h : p.user? = none)
    (hblog : ∀ b capability, p ≠ .userCanForBlog b capability) : i.Asks r multisite p := by
  refine ⟨?_, ?_⟩
  · intro u hu
    rw [h] at hu
    cases hu
  · intro b c hp
    exact absurd hp (hblog b c)

theorem asks_userLoggedIn : i.Asks r multisite .userLoggedIn := by
  refine asks_nobody rfl ?_
  intro b capability h
  cases h

theorem asks_capability (capability : String) :
    i.Asks r multisite (i.capability r multisite capability) := by
  unfold Invocation.capability
  split
  · rename_i hcross
    unfold crossSite at hcross
    simp only [Bool.and_eq_true, bne_iff_ne, ne_eq] at hcross
    obtain ⟨⟨hblog, hallow⟩, hmultisite⟩ := hcross
    refine ⟨?_, ?_⟩
    · intro u hu
      cases hu
    · intro b c h
      cases h
      exact ⟨hblog, hallow, hmultisite, rfl⟩
  · exact asks_nobody rfl nofun

/-- A predicate that carries the user of the invocation. -/
theorem asks_own {p : Predicate} (h : p.user? = some i.user) : i.Asks r multisite p := by
  refine ⟨fun u hu => ?_, fun b c hp => ?_⟩
  · rw [h] at hu
    exact (Option.some.inj hu).symm
  · rw [hp] at h
    cases h

theorem ne_direct_of_kind {k : AttributeKind} (h : AttributeKind.ofName name = k)
    (hk : k ≠ .direct) : name ≠ AttributeName.direct := by
  intro hname
  exact hk (h.symm.trans (AttributeKind.ofName_eq_direct_iff.2 hname))

/-- The ways in which a named attribute becomes a condition. -/
theorem contribution_cases {e : Expression}
    (h : i.contribution r multisite (.named name, value) = some (.ok e)) :
    (name = AttributeName.direct ∧ r.options.allowDirect = true ∧ Direct.parse value = .ok e)
      ∨ (name ≠ AttributeName.direct ∧
          ∃ p, i.Asks r multisite p ∧ e = flag value (.predicate p))
      ∨ (name ≠ AttributeName.direct ∧ ∃ make : String → Predicate,
          (∀ item, i.Asks r multisite (make item)) ∧ i.predicates name value make = .ok e)
      ∨ (name ≠ AttributeName.direct ∧ AttributeKind.ofName name = .arbitrary ∧
          i.arbitrary r name value = .ok e) := by
  have hne : ∀ {k}, AttributeKind.ofName name = k → k ≠ .direct → name ≠ AttributeName.direct :=
    ne_direct_of_kind
  rw [contribution] at h
  split at h
  · cases h
  cases hkind : AttributeKind.ofName name with
  | direct =>
    simp only [hkind] at h
    split at h
    · rename_i hallow
      refine .inl ⟨AttributeKind.ofName_eq_direct_iff.1 hkind, hallow, ?_⟩
      cases hparse : Direct.parse value with
      | ok e' =>
        rw [hparse] at h
        exact congrArg _ (Except.ok.inj (Option.some.inj h))
      | error cause =>
        rw [hparse] at h
        cases Option.some.inj h
    · cases h
  | loggedIn =>
    simp only [hkind] at h
    refine .inr (.inl ⟨hne hkind (by decide), .userLoggedIn, asks_userLoggedIn, ?_⟩)
    exact (Except.ok.inj (Option.some.inj h)).symm
  | payingCustomer =>
    simp only [hkind] at h
    refine .inr (.inl ⟨hne hkind (by decide), .payingCustomer i.user, asks_own rfl, ?_⟩)
    exact (Except.ok.inj (Option.some.inj h)).symm
  | userCan =>
    simp only [hkind] at h
    exact .inr (.inr (.inl ⟨hne hkind (by decide), _, asks_capability, Option.some.inj h⟩))
  | userOption | userMeta | boughtProduct =>
    simp only [hkind] at h
    exact .inr (.inr (.inl ⟨hne hkind (by decide), _, fun _ => asks_own rfl, Option.some.inj h⟩))
  | modifier =>
    simp only [hkind] at h
    cases h
  | arbitrary =>
    simp only [hkind] at h
    split at h
    · cases h
    · exact .inr (.inr (.inr ⟨hne hkind (by decide), rfl, Option.some.inj h⟩))

/-! ## §3. One lemma for each way -/

theorem conditionOr_eq_ok {x : Except ParseError Expression} {e : Expression}
    (h : i.conditionOr name value x = .ok e) : x = .ok e := by
  cases x with
  | ok e' => exact congrArg _ (Except.ok.inj h)
  | error cause => cases h

section
variable {calls : List String} {n : Expression}

/-- Only predicates ask about users and sites. -/
theorem permits_of_ne_predicate (hno : ∀ p, n ≠ .predicate p)
    (hcode : isCode n = true → (name = AttributeName.direct ∧ r.options.allowDirect = true) ∨
      (Whitelisted r name ∧ IsOwnCall name calls n))
    (hdirect : name = AttributeName.direct → Direct.IsDirectNode n) :
    i.Permits r multisite name calls n where
  user p _ hp := absurd hp (hno p)
  blog _ _ hp := absurd hp (hno _)
  code := hcode
  direct := hdirect

/-- A node that is no leaf is permitted outside direct conditions. -/
theorem permits_inner (hname : name ≠ AttributeName.direct) (hcode : isCode n = false)
    (hno : ∀ p, n ≠ .predicate p) : i.Permits r multisite name calls n := by
  refine permits_of_ne_predicate hno ?_ fun h => absurd h hname
  intro h
  rw [hcode] at h
  cases h

/-- So is the attribute's own call, if the site lists the attribute. -/
theorem permits_own (hname : name ≠ AttributeName.direct) (hlisted : Whitelisted r name)
    (hown : IsOwnCall name calls n) (hno : ∀ p, n ≠ .predicate p) :
    i.Permits r multisite name calls n :=
  permits_of_ne_predicate hno (fun _ => .inr ⟨hlisted, hown⟩) fun h => absurd h hname

end

theorem permits_predicate (hname : name ≠ AttributeName.direct) {calls : List String}
    {p : Predicate} (h : i.Asks r multisite p) :
    i.Permits r multisite name calls (.predicate p) where
  user p' u hp := by
    cases hp
    exact h.1 u
  blog b capability hp := by
    cases hp
    exact h.2 b capability rfl
  code h := nomatch h
  direct h := absurd h hname

theorem permits_direct (hallow : r.options.allowDirect = true) {e : Expression}
    (h : Direct.parse value = .ok e) :
    ∀ x ∈ e.nodes, i.Permits r multisite AttributeName.direct x.1 x.2 := by
  intro x hx
  have hdirect : Direct.IsDirectNode x.2 := Direct.isDirect_of_parse h [] x hx
  have hno : ∀ p, x.2 ≠ .predicate p := fun p hp => by rw [hp] at hdirect; exact hdirect
  exact permits_of_ne_predicate hno (fun _ => .inl ⟨rfl, hallow⟩) fun _ => hdirect

/-- A flag adds a negation at most. -/
theorem forall_nodes_flag {P : List String × Expression → Prop} {question : Expression}
    (hnot : ∀ e, P ([], .unary .not e)) (h : ∀ x ∈ question.nodes, P x) :
    ∀ x ∈ (flag value question).nodes, P x := by
  unfold flag
  split
  · exact forall_nodesIn_unary.2 ⟨hnot _, h⟩
  · exact h

theorem permits_flag (hname : name ≠ AttributeName.direct) {p : Predicate}
    (h : i.Asks r multisite p) :
    ∀ x ∈ (flag value (.predicate p)).nodes, i.Permits r multisite name x.1 x.2 :=
  forall_nodes_flag (fun _ => permits_inner hname rfl nofun)
    (forall_nodesIn_predicate.2 (permits_predicate hname h))

/-- What holds of the nodes of all operands holds of the nodes of a formula. -/
theorem forall_nodes_condition {P : List String × Expression → Prop}
    {meaning : Operand → Except ParseError Expression} {e : Expression}
    (h : Formula.condition value meaning = .ok e) (hnot : ∀ e, P ([], .unary .not e))
    (hbinary : ∀ left op right, P ([], .binary left op right))
    (hoperand : ∀ o e, meaning o = .ok e → ∀ x ∈ e.nodes, P x) : ∀ x ∈ e.nodes, P x := by
  obtain ⟨f, d, -, rfl, hm⟩ := Formula.exists_value h
  exact d.forall_nodesIn_value hnot hbinary fun o ho => hoperand o _ (hm o ho)

theorem permits_predicates (hname : name ≠ AttributeName.direct) {make : String → Predicate}
    (hmake : ∀ item, i.Asks r multisite (make item)) {e : Expression}
    (h : i.predicates name value make = .ok e) :
    ∀ x ∈ e.nodes, i.Permits r multisite name x.1 x.2 := by
  refine forall_nodes_condition (conditionOr_eq_ok h) (fun _ => permits_inner hname rfl nofun)
    (fun _ _ _ => permits_inner hname rfl nofun) fun items e he => ?_
  rw [Operand.expand_ok] at he
  cases he
  -- Several items are joined by a group, and each item is one predicate.
  refine forall_nodesIn_joined (permits_inner hname rfl nofun) fun e he => ?_
  obtain ⟨item, _, rfl⟩ := List.mem_map.1 he
  exact forall_nodesIn_predicate.2 (permits_predicate hname (hmake item))

theorem permits_ownCall (hname : name ≠ AttributeName.direct) (hlisted : Whitelisted r name)
    (strings : List String) :
    ∀ x ∈ (Expression.call name (strings.map fun s => .literal (.string s))).nodes,
      i.Permits r multisite name x.1 x.2 := by
  refine forall_nodesIn_call.2 ⟨?_, ?_⟩
  · exact permits_own hname hlisted (.inl ⟨rfl, _, rfl⟩) nofun
  · -- The arguments stand in this call and in no other.
    intro e he
    obtain ⟨s, _, rfl⟩ := List.mem_map.1 he
    exact forall_nodesIn_literal.2 (permits_own hname hlisted (.inr ⟨rfl, s, rfl⟩) nofun)

theorem permits_arbitrary (hname : name ≠ AttributeName.direct)
    (hkind : AttributeKind.ofName name = .arbitrary) {e : Expression}
    (h : i.arbitrary r name value = .ok e) :
    ∀ x ∈ e.nodes, i.Permits r multisite name x.1 x.2 := by
  unfold arbitrary at h
  split at h
  · cases h
  split at h
  · cases h
  split at h
  · cases h
  -- All three refusals are passed, so the attribute may call its function.
  rename_i hallowed hlisted hvalid
  have hw : Whitelisted r name :=
    ⟨hkind, by simpa using hallowed, by simpa using hlisted, by simpa using hvalid⟩
  split at h
  · -- `true` and `false` make a call without arguments.
    cases h
    exact forall_nodes_flag (fun _ => permits_inner hname rfl nofun)
      (permits_ownCall hname hw [])
  · refine forall_nodes_condition (conditionOr_eq_ok h) (fun _ => permits_inner hname rfl nofun)
      (fun _ _ _ => permits_inner hname rfl nofun) fun items e he => ?_
    cases he
    exact permits_ownCall hname hw items

/-! ## §4. Compiled invocations -/

/-- A condition of a fresh invocation is what a named attribute contributes. -/
theorem exists_entry_of_condition (t : Tag) (user : UserId) {e : Expression}
    (h : e ∈ ((ofTag t r user).compile r multisite).conditions) :
    ∃ name value, (AttributeKey.named name, value) ∈ (ofTag t r user).attributes.entries ∧
      (ofTag t r user).contribution r multisite (.named name, value) = some (.ok e) := by
  have hmem : e ∈ conditionsOf ((ofTag t r user).contributions r multisite) := h
  obtain ⟨c, hc, hok⟩ := List.mem_filterMap.1 hmem
  obtain ⟨⟨name | n, value⟩, hentry, hcontribution⟩ := List.mem_filterMap.1 hc
  · cases c with
    | ok e' =>
      cases Option.some.inj hok
      exact ⟨name, value, hentry, hcontribution⟩
    | error err => cases hok
  · -- A value without a name contributes an error.
    cases hcontribution
    cases hok

theorem permits_contribution {e : Expression}
    (h : i.contribution r multisite (.named name, value) = some (.ok e)) :
    ∀ x ∈ e.nodes, i.Permits r multisite name x.1 x.2 := by
  rcases contribution_cases h with ⟨rfl, hallow, hparse⟩ | ⟨hname, p, hp, rfl⟩
    | ⟨hname, make, hmake, hpredicates⟩ | ⟨hname, hkind, harbitrary⟩
  · exact permits_direct hallow hparse
  · exact permits_flag hname hp
  · exact permits_predicates hname hmake hpredicates
  · exact permits_arbitrary hname hkind harbitrary

/-- Where neither direct conditions nor authors' attributes are allowed, nothing is code. -/
theorem Permits.isCode_eq_false {calls : List String} {n : Expression}
    (h : i.Permits r multisite name calls n) (hdirect : r.options.allowDirect = false)
    (harbitrary : r.options.allowArbitrary = false) : isCode n = false := by
  rw [← Bool.not_eq_true]
  intro hcode
  rcases h.code hcode with ⟨-, hallow⟩ | ⟨hlisted, -⟩
  · rw [hdirect] at hallow
    cases hallow
  · have hallow := hlisted.allowed
    rw [harbitrary] at hallow
    cases hallow

/-- **Conditions hold nothing that the site does not allow.** -/
theorem conditions_permitted (t : Tag) (r : Resolved) (user : UserId) (multisite : Bool)
    (e : Expression) (h : e ∈ ((ofTag t r user).compile r multisite).conditions) :
    (∃ name value, (AttributeKey.named name, value) ∈ (ofTag t r user).attributes.entries ∧
        (ofTag t r user).contribution r multisite (.named name, value) = some (.ok e))
      ∧ (∀ name value,
          (ofTag t r user).contribution r multisite (.named name, value) = some (.ok e) →
          ∀ x ∈ e.nodes, (ofTag t r user).Permits r multisite name x.1 x.2)
      ∧ (r.options.allowDirect = false → r.options.allowArbitrary = false →
          ∀ x ∈ e.nodes, isCode x.2 = false) := by
  have hentry := exists_entry_of_condition t user h
  refine ⟨hentry, fun name value => permits_contribution, ?_⟩
  intro hdirect harbitrary x hx
  obtain ⟨name, value, _, hcontribution⟩ := hentry
  exact (permits_contribution hcontribution x hx).isCode_eq_false hdirect harbitrary

/-- A tag with a direct condition, an author's attribute and a capability on another site. -/
def regionalTag : Tag where
  name := "if"
  attributes := Attributes.ofPairs [("php", "!is_feed() && has('x')"),
    ("in_region", "'north', south OR !east"), ("current_user_can", "edit_posts"),
    ("_for_blog", "3")]
  body? := none

/-- A site that allows all of it. -/
def regionalSite : Resolved :=
  Options.resolved { allowDirect := true, allowForBlog := true, allowArbitrary := true,
                     whitelist := "in_region" }

theorem regionalTag_permitted :
    ∃ e ∈ ((ofTag regionalTag regionalSite 7).compile regionalSite true).conditions,
      e.text = "in_region('north', 'south') || !in_region('east')" ∧
        ∃ name, ∀ x ∈ e.nodes,
          (ofTag regionalTag regionalSite 7).Permits regionalSite true name x.1 x.2 := by
  have htexts : ((ofTag regionalTag regionalSite 7).compile regionalSite true).conditions.map text
      = ["!is_feed() && has('x')", "current_user_can_for_blog(3, 'edit_posts')",
        "in_region('north', 'south') || !in_region('east')"] := by decide +kernel
  have hmem : "in_region('north', 'south') || !in_region('east')"
      ∈ ((ofTag regionalTag regionalSite 7).compile regionalSite true).conditions.map text := by
    rw [htexts]
    decide
  obtain ⟨e, he, htext⟩ := List.mem_map.1 hmem
  obtain ⟨⟨name, value, _, hcontribution⟩, hall, -⟩ :=
    conditions_permitted regionalTag regionalSite 7 true e he
  exact ⟨e, he, htext, name, hall name value hcontribution⟩

end ContentGate.Invocation
