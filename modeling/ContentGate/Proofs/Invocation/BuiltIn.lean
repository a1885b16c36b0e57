/-
  ContentGate.Proofs.Invocation.BuiltIn — what tags with built-in attributes ask.

  A built-in attribute other than a direct condition asks in one of two
  ways.  A flag asks one question, and `false` negates it.  A formula asks
  one question for each of its items, and negates where it has a `!`.  The
  questions of an attribute are about one matter only: no formula mixes
  capabilities with purchases, for example (`AsksOf`).

  Main statements:
    * `exists_written` — only an attribute that the author wrote asks
      something, in normal form;
    * `logical_of_contribution` — what one attribute asks;
    * `logical_of_condition` — what a tag asks that has built-in attributes
      only, none of them a direct condition.
-/
import ContentGate.Proofs.Condition.Logical
import ContentGate.Proofs.Invocation.Order
import ContentGate.Proofs.Invocation.Sandbox

namespace ContentGate

open Expression Notation

/-- All attributes with a name are built in, and none is a direct condition. -/
def Tag.OnlyBuiltIn (t : Tag) : Prop :=
  ∀ name value, (AttributeKey.named name, value) ∈ t.attributes.entries →
    AttributeKind.ofName name ≠ .arbitrary ∧ AttributeKind.ofName name ≠ .direct

namespace Invocation

/-! ## §1. Questions -/

/-- A value is made of tokens, and this is one of them. -/
def HasToken (value : String) (k : TokenKind) : Prop :=
  ∃ kinds, Lexes (Text.trim value.toList) kinds ∧ k ∈ kinds

instance (value : String) (k : TokenKind) : Decidable (HasToken value k) :=
  match h : tokens (Text.trim value.toList) with
  | .ok ts => decidable_of_iff (k ∈ ts.map Token.kind)
      ⟨fun hk => ⟨_, lexes_iff.2 ⟨ts, h, rfl⟩, hk⟩, fun ⟨_, hlexes, hk⟩ =>
        hlexes.unique (lexes_iff.2 ⟨ts, h, rfl⟩) ▸ hk⟩
  | .error _ => .isFalse fun ⟨_, hlexes, _⟩ => by
      obtain ⟨ts, hts, -⟩ := lexes_iff.1 hlexes
      rw [h] at hts
      cases hts

/-- Does an attribute negate?  A flag does with `false`, and a formula with a `!`. -/
def Negates (name value : String) : Prop :=
  match AttributeKind.ofName name with
  | .loggedIn | .payingCustomer => value = "false"
  | .userCan | .userOption | .userMeta | .boughtProduct => HasToken value .not
  | .direct | .modifier | .arbitrary => False

/-- What a flag asks. -/
def flagQuestion? (i : Invocation) : AttributeKind → Option Predicate
  | .loggedIn => some .userLoggedIn
  | .payingCustomer => some (.payingCustomer i.user)
  | _ => none

/-- What a formula asks for each item. -/
def itemQuestion? (i : Invocation) (r : Resolved) (multisite : Bool) :
    AttributeKind → Option (String → Predicate)
  | .userCan => some (i.capability r multisite)
  | .userOption => some (.userOption i.user)
  | .userMeta => some (.userMeta i.user)
  | .boughtProduct => some (.boughtProduct i.user)
  | _ => none

/-- The predicate is a question of the attribute. -/
def AsksOf (i : Invocation) (r : Resolved) (multisite : Bool) (name value : String)
    (p : Predicate) : Prop :=
  i.flagQuestion? (AttributeKind.ofName name) = some p
    ∨ ∃ make item, i.itemQuestion? r multisite (AttributeKind.ofName name) = some make
        ∧ HasToken value (.item item) ∧ p = make item

variable {i : Invocation} {r : Resolved} {multisite : Bool} {name value : String}
  {e : Expression}

/-- A question carries the user of the invocation, if it carries any. -/
theorem AsksOf.user {p : Predicate} (h : i.AsksOf r multisite name value p) {u : UserId}
    (hu : p.user? = some u) : u = i.user := by
  have hquestion : i.Asks r multisite p := by
    obtain hflag | ⟨make, item, hmake, -, rfl⟩ := h
    · cases hkind : AttributeKind.ofName name <;> rw [hkind] at hflag <;> cases hflag
      · exact asks_userLoggedIn
      · exact asks_own rfl
    · cases hkind : AttributeKind.ofName name <;> rw [hkind] at hmake <;> cases hmake
      · exact asks_capability item
      · exact asks_own rfl
      · exact asks_own rfl
      · exact asks_own rfl
  exact hquestion.1 u hu

/-- Only one attribute asks about purchases, and it asks for its items; -/
theorem AsksOf.of_boughtProduct {user : UserId} {product : String}
    (h : i.AsksOf r multisite name value (.boughtProduct user product)) :
    AttributeKind.ofName name = .boughtProduct ∧ HasToken value (.item product) := by
  obtain hflag | ⟨make, item, hmake, hitem, hp⟩ := h
  · cases hkind : AttributeKind.ofName name <;> rw [hkind] at hflag <;> cases hflag
  · cases hkind : AttributeKind.ofName name with
    | boughtProduct =>
      rw [hkind] at hmake
      cases hmake
      cases hp
      exact ⟨rfl, hitem⟩
    | userCan =>
      rw [hkind] at hmake
      cases hmake
      unfold capability at hp
      split at hp <;> cases hp
    | userOption | userMeta =>
      rw [hkind] at hmake
      cases hmake
      cases hp
    | direct | loggedIn | payingCustomer | modifier | arbitrary =>
      rw [hkind] at hmake
      cases hmake

/-- it asks nothing else. -/
theorem AsksOf.exists_product {p : Predicate} (h : i.AsksOf r multisite name value p)
    (hname : AttributeKind.ofName name = .boughtProduct) :
    ∃ product, p = .boughtProduct i.user product := by
  unfold AsksOf at h
  rw [hname] at h
  obtain hflag | ⟨make, product, hmake, -, rfl⟩ := h
  · cases hflag
  · cases hmake
    exact ⟨product, rfl⟩

/-! ## §2. What one attribute asks -/

/-- The two ways in which a built-in attribute becomes a condition. -/
theorem contribution_of_builtIn (harbitrary : AttributeKind.ofName name ≠ .arbitrary)
    (hdirect : AttributeKind.ofName name ≠ .direct)
    (h : i.contribution r multisite (.named name, value) = some (.ok e)) :
    (∃ p, i.flagQuestion? (AttributeKind.ofName name) = some p ∧ e = flag value (.predicate p))
      ∨ ∃ make, i.itemQuestion? r multisite (AttributeKind.ofName name) = some make
          ∧ i.predicates name value make = .ok e := by
  rw [contribution] at h
  split at h
  · cases h
  cases hkind : AttributeKind.ofName name with
  | direct => exact absurd hkind hdirect
  | arbitrary => exact absurd hkind harbitrary
  | modifier =>
    simp only [hkind] at h
    cases h
  | loggedIn | payingCustomer =>
    simp only [hkind] at h
    exact .inl ⟨_, rfl, (Except.ok.inj (Option.some.inj h)).symm⟩
  | userCan | userOption | userMeta | boughtProduct =>
    simp only [hkind] at h
    exact .inr ⟨_, rfl, Option.some.inj h⟩

/-- A flag asks its question, and negates it with `false`. -/
theorem logical_flag (value : String) (p : Predicate) :
    Logical (value = "false") (· = p) (flag value (.predicate p)) := by
  unfold flag
  split
  · rename_i hfalse
    exact .not hfalse (.predicate rfl)
  · exact .predicate rfl

/-- A flag negates with `false`, -/
theorem negates_of_flag {p : Predicate}
    (h : i.flagQuestion? (AttributeKind.ofName name) = some p) :
    Negates name value ↔ value = "false" := by
  unfold Negates
  cases hkind : AttributeKind.ofName name with
  | loggedIn | payingCustomer => exact Iff.rfl
  | direct | userCan | userOption | userMeta | boughtProduct | modifier | arbitrary =>
    rw [hkind] at h
    cases h

/-- and a formula with a `!`. -/
theorem negates_of_item {make : String → Predicate}
    (h : i.itemQuestion? r multisite (AttributeKind.ofName name) = some make) :
    Negates name value ↔ HasToken value .not := by
  unfold Negates
  cases hkind : AttributeKind.ofName name with
  | userCan | userOption | userMeta | boughtProduct => exact Iff.rfl
  | direct | loggedIn | payingCustomer | modifier | arbitrary =>
    rw [hkind] at h
    cases h

/-- **What one built-in attribute asks.** -/
theorem logical_of_contribution (harbitrary : AttributeKind.ofName name ≠ .arbitrary)
    (hdirect : AttributeKind.ofName name ≠ .direct)
    (h : i.contribution r multisite (.named name, value) = some (.ok e)) :
    Logical (Negates name value) (i.AsksOf r multisite name value) e := by
  obtain ⟨p, hflag, rfl⟩ | ⟨make, hitem, hformula⟩ :=
    contribution_of_builtIn harbitrary hdirect h
  · refine (logical_flag value p).mono (negates_of_flag hflag).2 fun p' hp' => ?_
    exact .inl (hp' ▸ hflag)
  · obtain ⟨kinds, hlexes, hlogical⟩ := Formula.logical_condition (conditionOr_eq_ok hformula)
    refine hlogical.mono (fun hnot => ?_) fun p hp => ?_
    · exact (negates_of_item hitem).2 ⟨kinds, hlexes, hnot⟩
    · obtain ⟨item, hmem, rfl⟩ := hp
      exact .inr ⟨make, item, hitem, ⟨kinds, hlexes, hmem⟩, rfl⟩

/-! ## §3. What a tag asks -/

/-- A default value is switched off, or that of a modifier. -/
theorem isFalsy_of_default {debugDefault : String}
    (h : (AttributeKey.named name, value) ∈ (defaultAttributes debugDefault).entries) :
    AttributeKind.ofName name = .modifier ∨ isFalsy value = true := by
  have hentries : (defaultAttributes debugDefault).entries
      = AttributeKind.builtins.map fun p =>
          (.named p.1, if p.2 = .modifier then
            if p.1 = AttributeName.forBlog then "0"
            else if p.1 = AttributeName.satisfy then "all" else debugDefault
          else "") := rfl
  rw [hentries] at h
  obtain ⟨⟨name', k⟩, hp, heq⟩ := List.mem_map.1 h
  obtain ⟨rfl, rfl⟩ : name' = name ∧ _ = value := by simpa using heq
  have hkinds : ∀ p ∈ AttributeKind.builtins, AttributeKind.ofName p.1 = p.2 := by decide
  by_cases hk : k = .modifier
  · exact .inl ((hkinds _ hp).trans hk)
  · right
    simp only [if_neg hk]
    rfl

/-- **Only what the author wrote asks something.** -/
theorem exists_written {t : Tag} {user : UserId}
    (hmem : (AttributeKey.named name, value) ∈ (ofTag t r user).attributes.entries)
    (h : i.contribution r multisite (.named name, value) = some (.ok e)) :
    ∃ written, (AttributeKey.named name, written) ∈ t.attributes.entries
      ∧ value = normalValue written := by
  have hasks : asks (.named name, value) = true := by
    have hcounts := contribution_eq i r multisite (.named name, value)
    rw [h] at hcounts
    by_cases hasks : asks (.named name, value) = true
    · exact hasks
    · simp [counts, hasks, AttributeKey.isPositional] at hcounts
  simp only [asks, Bool.and_eq_true, Bool.not_eq_true', bne_iff_ne] at hasks
  obtain ⟨⟨hvalue, hmodifier⟩, -⟩ := hasks
  -- The two modifiers that are set again are not asked about.
  have hne : ∀ other, AttributeKind.ofName other = .modifier →
      AttributeKey.named other ≠ .named name := by
    rintro other hother heq
    exact hmodifier (AttributeKey.named.inj heq ▸ hother)
  have hfind : (ofTag t r user).attributes.find? (.named name) = some value :=
    Attributes.find?_eq_some_iff.2 hmem
  unfold ofTag at hfind
  simp only at hfind
  rw [Attributes.find?_insert, if_neg (hne _ rfl), Attributes.find?_insert, if_neg (hne _ rfl),
    find?_merged] at hfind
  rcases Option.or_eq_some_iff.1 hfind with hwritten | ⟨-, hdefault⟩
  · obtain ⟨written, hfound, rfl⟩ := Option.map_eq_some_iff.1 hwritten
    exact ⟨written, Attributes.find?_eq_some_iff.1 hfound, rfl⟩
  · rcases isFalsy_of_default (Attributes.find?_eq_some_iff.1 hdefault) with hkind | hfalsy
    · exact absurd hkind hmodifier
    · rw [hvalue] at hfalsy
      cases hfalsy

/-- Joining the conditions of an invocation adds one group at most. -/
theorem logical_of_joined {j : Invocation} {N : Prop} {K : Predicate → Prop}
    (h : ∀ e ∈ j.conditions, Logical N K e) (he : j.condition? = some e) : Logical N K e := by
  unfold condition? at he
  split at he
  · cases he
  · cases he
    exact Logical.joined h

/-- **What a tag asks that has built-in attributes only.** -/
theorem logical_of_condition {t : Tag} {user : UserId} (ht : t.OnlyBuiltIn)
    (h : e ∈ ((ofTag t r user).compile r multisite).conditions) :
    ∃ name written, (AttributeKey.named name, written) ∈ t.attributes.entries
      ∧ Logical (Negates name (normalValue written))
          ((ofTag t r user).AsksOf r multisite name (normalValue written)) e := by
  obtain ⟨name, value, hmem, hcontribution⟩ := exists_entry_of_condition t user h
  obtain ⟨written, hwritten, rfl⟩ := exists_written hmem hcontribution
  obtain ⟨harbitrary, hdirect⟩ := ht name written hwritten
  exact ⟨name, written, hwritten, logical_of_contribution harbitrary hdirect hcontribution⟩

end Invocation

end ContentGate
