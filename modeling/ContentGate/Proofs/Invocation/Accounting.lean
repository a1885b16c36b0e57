/-
  ContentGate.Proofs.Invocation.Accounting — no attribute is lost.

  An entry of a tag's attributes COUNTS when it stands alone, or when it
  has a name that asks something and a value that is not switched off.
  Every entry that counts has an OUTCOME: a condition, or an error that
  names the entry.  Compiling a fresh invocation collects the outcomes
  and adds nothing, but for one error about another site.

  A direct condition that the site does not allow is the exception that
  makes this worth a proof: its entry contributes nothing in its place,
  because its error stands before all others.

  Main statements:
    * `names_of_outcome` — an error of an entry names that entry;
    * `contribution_eq` — in its place, an entry contributes its outcome,
      unless it does not count or is a direct condition not allowed;
    * `earlyErrors_eq` — the errors before all others are the outcome of
      that entry, and the one about another site;
    * `compile_accounts` — the account of a whole invocation.
-/
import ContentGate.Invocation.Compile

namespace ContentGate

/-! ## §1. Kinds and keys -/

namespace AttributeKind

/-- A name whose kind is built in is one of the built-in names. -/
theorem mem_builtins_of_ofName {name : String} {k : AttributeKind} (h : ofName name = k)
    (hk : k ≠ .arbitrary) : (name, k) ∈ builtins := by
  unfold ofName at h
  cases hfind : builtins.find? (·.1 == name) with
  | none =>
    rw [hfind] at h
    exact absurd h.symm hk
  | some entry =>
    obtain ⟨name', k'⟩ := entry
    rw [hfind] at h
    obtain rfl : k' = k := h
    obtain rfl : name' = name := by simpa using List.find?_some hfind
    exact List.mem_of_find?_eq_some hfind

/-- Only `php` asks a direct condition. -/
theorem ofName_eq_direct_iff {name : String} :
    ofName name = .direct ↔ name = AttributeName.direct := by
  constructor
  · intro h
    have hall : ∀ p ∈ builtins, p.2 = .direct → p.1 = AttributeName.direct := by decide
    exact hall _ (mem_builtins_of_ofName h (by decide)) rfl
  · rintro rfl
    rfl

end AttributeKind

namespace Attributes

theorem filter_key_of_nodup {key : AttributeKey} {es : List (AttributeKey × String)}
    (h : (es.map (·.1)).Nodup) :
    es.filter (·.1 == key) = (es.find? (·.1 == key)).toList := by
  induction es with
  | nil => rfl
  | cons e es ih =>
    rw [List.map_cons, List.nodup_cons] at h
    by_cases he : e.1 = key
    · -- The key does not come back, since it occurs once.
      have hnone : es.filter (·.1 == key) = [] := by
        rw [List.filter_eq_nil_iff]
        intro e' hmem he'
        have hsame : e'.1 = e.1 := (beq_iff_eq.1 he').trans he.symm
        exact h.1 (hsame ▸ List.mem_map_of_mem hmem)
      rw [List.filter_cons_of_pos (by simpa using he), List.find?_cons_of_pos (by simpa using he),
        hnone]
      rfl
    · rw [List.filter_cons_of_neg (by simpa using he), List.find?_cons_of_neg (by simpa using he)]
      exact ih h.2

/-- At most one entry has a key, the one that is found under it. -/
theorem filter_key (a : Attributes) (key : AttributeKey) :
    a.entries.filter (·.1 == key) = (a.entries.find? (·.1 == key)).toList :=
  filter_key_of_nodup a.distinct

end Attributes

/-! ## §2. Entries that count, and their outcomes -/

/-- An error is about an entry of a tag, and says so. -/
def TagError.Names (tag : String) : TagError → AttributeKey × String → Prop
  | .featureDisabled tag' name value _, entry => tag' = tag ∧ entry = (.named name, value)
  | .notWhitelisted tag' name value, entry => tag' = tag ∧ entry = (.named name, value)
  | .invalidAttributeName tag' name value _, entry => tag' = tag ∧ entry = (.named name, value)
  | .invalidExpression tag' name value _, entry => tag' = tag ∧ entry = (.named name, value)
  | .unsupportedBareAttribute tag' value, entry =>
    tag' = tag ∧ entry.1.isPositional = true ∧ entry.2 = value
  | .evaluationFailure _, _ => False

namespace Invocation

/-- Does a named entry ask something?  Modifiers do not, nor do authors'
names with an underscore in front, nor values that are switched off. -/
def asks : AttributeKey × String → Bool
  | (.named name, value) =>
    !isFalsy value && AttributeKind.ofName name != .modifier
      && !(AttributeKind.ofName name == .arbitrary && name.toList.head? == some '_')
  | (.positional _, _) => false

/-- Does an entry count? -/
def counts (entry : AttributeKey × String) : Bool := entry.1.isPositional || asks entry

theorem countP_counts (es : List (AttributeKey × String)) :
    es.countP counts = es.countP (·.1.isPositional) + es.countP asks := by
  induction es with
  | nil => rfl
  | cons e es ih =>
    rw [List.countP_cons, List.countP_cons, List.countP_cons, ih]
    obtain ⟨name | n, value⟩ := e
    · cases h : asks (.named name, value) <;>
        simp [counts, h, AttributeKey.isPositional]
      omega
    · simp [counts, asks, AttributeKey.isPositional]
      omega

variable (i : Invocation) (r : Resolved) (multisite : Bool)

/-- Is an entry a direct condition that the site does not allow? -/
def isBlocked : AttributeKey × String → Bool
  | (key, _) => key == .named AttributeName.direct && !r.options.allowDirect

/-- The outcome of an entry that counts: what it contributes, or the
refusal of a direct condition. -/
def outcome (entry : AttributeKey × String) : Except TagError Expression :=
  match i.contribution r multisite entry with
  | some result => result
  | none => .error (.featureDisabled i.tag AttributeName.direct entry.2 false)

/-- The error about another site, if there is one. -/
def forBlogErrors : List TagError :=
  if i.forBlog ≠ 0 ∧ r.options.allowForBlog = false then
    [.featureDisabled i.tag AttributeName.forBlog (toString i.forBlog) false]
  else []

/-! ## §3. What an entry contributes -/

/-- **In its place an entry contributes its outcome**, unless it does not count or is blocked. -/
theorem contribution_eq (entry : AttributeKey × String) :
    i.contribution r multisite entry =
      if counts entry && !isBlocked r entry then some (i.outcome r multisite entry) else none := by
  obtain ⟨name | n, value⟩ := entry
  · cases hfalsy : isFalsy value with
    | true => simp [contribution, counts, asks, AttributeKey.isPositional, hfalsy]
    | false =>
      have hdirect : AttributeKind.ofName name = .direct ↔ _ := AttributeKind.ofName_eq_direct_iff
      cases hkind : AttributeKind.ofName name with
      | direct =>
        -- The one kind whose entries can be blocked.
        obtain rfl := hdirect.1 hkind
        cases hallow : r.options.allowDirect <;>
          simp [contribution, outcome, counts, asks, isBlocked, AttributeKey.isPositional, hfalsy,
            hkind, hallow]
      | arbitrary =>
        have hne : name ≠ AttributeName.direct := fun h => by simp [hdirect.2 h] at hkind
        by_cases hhead : name.toList.head? = some '_' <;>
          simp [contribution, outcome, counts, asks, isBlocked, AttributeKey.isPositional, hfalsy,
            hkind, hhead, hne]
      | _ =>
        have hne : name ≠ AttributeName.direct := fun h => by simp [hdirect.2 h] at hkind
        simp [contribution, outcome, counts, asks, isBlocked, AttributeKey.isPositional, hfalsy,
          hkind, hne]
  · rfl

theorem outcome_of_blocked {entry : AttributeKey × String} (h : isBlocked r entry = true) :
    i.outcome r multisite entry
      = .error (.featureDisabled i.tag AttributeName.direct entry.2 false) := by
  have hnone : i.contribution r multisite entry = none := by
    rw [contribution_eq, h]
    simp
  unfold outcome
  rw [hnone]

variable {i r multisite}

theorem names_of_conditionOr {name value : String} {x : Except ParseError Expression}
    {err : TagError} (h : i.conditionOr name value x = .error err) :
    err.Names i.tag (.named name, value) := by
  cases x with
  | ok e => cases h
  | error cause =>
    cases h
    exact ⟨rfl, rfl⟩

theorem names_of_arbitrary {name value : String} {err : TagError}
    (h : i.arbitrary r name value = .error err) : err.Names i.tag (.named name, value) := by
  unfold arbitrary at h
  split at h
  · cases h
    exact ⟨rfl, rfl⟩
  split at h
  · cases h
    exact ⟨rfl, rfl⟩
  split at h
  · cases h
    exact ⟨rfl, rfl⟩
  split at h
  · cases h
  · exact names_of_conditionOr h

/-- What an entry contributes names the entry, if it is an error. -/
theorem names_of_contribution {entry : AttributeKey × String} {err : TagError}
    (h : i.contribution r multisite entry = some (.error err)) : err.Names i.tag entry := by
  obtain ⟨name | n, value⟩ := entry
  · rw [contribution] at h
    split at h
    · cases h
    split at h
    · split at h
      · exact names_of_conditionOr (Option.some.inj h)
      · cases h
    · cases h
    · cases h
    · exact names_of_conditionOr (Option.some.inj h)
    · exact names_of_conditionOr (Option.some.inj h)
    · exact names_of_conditionOr (Option.some.inj h)
    · exact names_of_conditionOr (Option.some.inj h)
    · cases h
    · split at h
      · cases h
      · exact names_of_arbitrary (Option.some.inj h)
  · cases h
    exact ⟨rfl, rfl, rfl⟩

/-- **An error of an entry names that entry.** -/
theorem names_of_outcome {entry : AttributeKey × String} {err : TagError}
    (hcounts : counts entry = true) (h : i.outcome r multisite entry = .error err) :
    err.Names i.tag entry := by
  by_cases hblocked : isBlocked r entry = true
  · rw [outcome_of_blocked i r multisite hblocked] at h
    cases h
    obtain ⟨key, value⟩ := entry
    simp only [isBlocked, Bool.and_eq_true, beq_iff_eq] at hblocked
    obtain ⟨rfl, -⟩ := hblocked
    exact ⟨rfl, rfl⟩
  · have hsome : i.contribution r multisite entry = some (i.outcome r multisite entry) := by
      rw [contribution_eq, hcounts]
      simp [hblocked]
    exact names_of_contribution (h ▸ hsome)

/-! ## §4. Lists of outcomes -/

theorem length_conditionsOf_add_errorsOf (cs : List (Except TagError Expression)) :
    (conditionsOf cs).length + (errorsOf cs).length = cs.length := by
  induction cs with
  | nil => rfl
  | cons c cs ih =>
    cases c with
    | ok e =>
      show (conditionsOf cs).length + 1 + (errorsOf cs).length = cs.length + 1
      omega
    | error err =>
      show (conditionsOf cs).length + ((errorsOf cs).length + 1) = cs.length + 1
      omega

section
variable {α : Type} {out : α → Except TagError Expression} {p : α → Bool}

/-- What only gives errors may be left out of the conditions. -/
theorem conditionsOf_filter (es : List α) (h : ∀ e, p e = true → ∃ err, out e = .error err) :
    conditionsOf ((es.filter (!p ·)).map out) = conditionsOf (es.map out) := by
  induction es with
  | nil => rfl
  | cons e es ih =>
    cases hp : p e with
    | true =>
      obtain ⟨err, herr⟩ := h e hp
      rw [List.filter_cons_of_neg (by simp [hp]), ih, List.map_cons, herr]
      rfl
    | false =>
      rw [List.filter_cons_of_pos (by simp [hp]), List.map_cons, List.map_cons]
      unfold conditionsOf at ih ⊢
      rw [List.filterMap_cons, List.filterMap_cons, ih]

/-- The errors of two complementary parts are all errors. -/
theorem length_errorsOf_filter (es : List α) :
    (errorsOf ((es.filter p).map out)).length + (errorsOf ((es.filter (!p ·)).map out)).length
      = (errorsOf (es.map out)).length := by
  unfold errorsOf
  rw [← List.length_append, ← List.filterMap_append, ← List.map_append]
  exact (((List.filter_append_perm p es).map out).filterMap _).length_eq

end

variable (i r multisite)

/-- All contributions are outcomes, in the order of the entries. -/
theorem contributions_eq :
    i.contributions r multisite
      = ((i.attributes.entries.filter counts).filter (!isBlocked r ·)).map
          (i.outcome r multisite) := by
  unfold contributions
  rw [List.filter_filter]
  induction i.attributes.entries with
  | nil => rfl
  | cons e es ih =>
    rw [List.filterMap_cons, ih, contribution_eq, Bool.and_comm, List.filter_cons]
    cases !isBlocked r e && counts e <;> rfl

/-- The entry of a direct condition that the site does not allow, if it counts. -/
theorem filter_isBlocked (h : r.options.allowDirect = false) :
    (i.attributes.entries.filter counts).filter (isBlocked r)
      = (i.attributes.entries.find? (·.1 == .named AttributeName.direct)).toList.filter counts := by
  rw [← Attributes.filter_key, List.filter_filter, List.filter_filter]
  refine List.filter_congr fun e _ => ?_
  rw [Bool.and_comm]
  simp [isBlocked, h]

theorem filter_isBlocked_of_allowed (h : r.options.allowDirect = true)
    (es : List (AttributeKey × String)) : es.filter (isBlocked r) = [] := by
  rw [List.filter_eq_nil_iff]
  intro e _ he
  simp [isBlocked, h] at he

/-- At most one entry is refused this way. -/
theorem length_filter_isBlocked_le :
    ((i.attributes.entries.filter counts).filter (isBlocked r)).length ≤ 1 := by
  cases hallow : r.options.allowDirect with
  | true =>
    rw [filter_isBlocked_of_allowed r hallow]
    exact Nat.zero_le 1
  | false =>
    rw [filter_isBlocked i r hallow]
    refine Nat.le_trans (List.length_filter_le _ _) ?_
    cases i.attributes.entries.find? (·.1 == .named AttributeName.direct) with
    | none => exact Nat.zero_le 1
    | some e => exact Nat.le_refl 1

/-- **The errors before all others** are the refusal of a direct condition,
and the error about another site. -/
theorem earlyErrors_eq :
    i.earlyErrors r
      = errorsOf (((i.attributes.entries.filter counts).filter (isBlocked r)).map
          (i.outcome r multisite)) ++ i.forBlogErrors r := by
  have hforBlog : (if i.forBlog != 0 && !r.options.allowForBlog then
      [TagError.featureDisabled i.tag AttributeName.forBlog (toString i.forBlog) false] else [])
      = i.forBlogErrors r := by
    simp [forBlogErrors]
  unfold earlyErrors
  rw [hforBlog]
  refine congrArg (· ++ i.forBlogErrors r) ?_
  cases hallow : r.options.allowDirect with
  | true =>
    rw [filter_isBlocked_of_allowed r hallow]
    simp [errorsOf]
  | false =>
    rw [filter_isBlocked i r hallow]
    unfold valueOf Attributes.get? Attributes.find?
    cases hfind : i.attributes.entries.find? (·.1 == .named AttributeName.direct) with
    | none => rfl
    | some e =>
      obtain ⟨key, value⟩ := e
      obtain rfl : key = .named AttributeName.direct := by simpa using List.find?_some hfind
      -- Unless it is switched off, the entry counts and is refused.
      have hblocked : isBlocked r (.named AttributeName.direct, value) = true := by
        simp [isBlocked, hallow]
      have hcounts : counts (.named AttributeName.direct, value) = !isFalsy value := by
        show (false || (!isFalsy value && true && true)) = _
        rw [Bool.and_true, Bool.and_true, Bool.false_or]
      show (if (!isFalsy value && true) = true then _ else _)
        = errorsOf ((List.filter counts [(.named AttributeName.direct, value)]).map _)
      rw [List.filter_cons, List.filter_nil, hcounts, Bool.and_true]
      cases isFalsy value with
      | true => rfl
      | false =>
        show _ = errorsOf [i.outcome r multisite (.named AttributeName.direct, value)]
        rw [outcome_of_blocked i r multisite hblocked]
        rfl

end Invocation

/-! ## §5. The account -/

open Invocation in
/-- **No attribute is lost.** -/
theorem Invocation.compile_accounts (t : Tag) (r : Resolved) (user : UserId) (multisite : Bool) :
    let i := ofTag t r user
    let done := i.compile r multisite
    let counted := done.attributes.entries.filter counts
    let refused := counted.filter (isBlocked r)
    let outcome := i.outcome r multisite
    done.conditions.length + done.errors.length
        = done.attributes.entries.countP (·.1.isPositional)
          + done.attributes.entries.countP asks
          + (if i.forBlog ≠ 0 ∧ r.options.allowForBlog = false then 1 else 0)
      ∧ done.conditions = conditionsOf (counted.map outcome)
      ∧ done.errors = errorsOf (refused.map outcome) ++ i.forBlogErrors r
          ++ errorsOf ((counted.filter (!isBlocked r ·)).map outcome)
      ∧ refused.length ≤ 1
      ∧ (∀ entry ∈ refused, outcome entry
          = .error (.featureDisabled i.tag AttributeName.direct entry.2 false))
      ∧ ∀ entry ∈ counted, ∀ err, outcome entry = .error err → err.Names i.tag entry := by
  intro i done counted refused outcome
  have hconditions : done.conditions = conditionsOf (counted.map outcome) := by
    show [] ++ conditionsOf (i.contributions r multisite) = _
    -- The refused entry has an error as its outcome, so it may be put back.
    rw [contributions_eq]
    exact conditionsOf_filter _ fun e he => ⟨_, outcome_of_blocked i r multisite he⟩
  have herrors : done.errors = errorsOf (refused.map outcome) ++ i.forBlogErrors r
      ++ errorsOf ((counted.filter (!isBlocked r ·)).map outcome) := by
    show [] ++ i.earlyErrors r ++ errorsOf (i.contributions r multisite) = _
    rw [contributions_eq, earlyErrors_eq i r multisite]
    rfl
  refine ⟨?_, hconditions, herrors, ?_, ?_, ?_⟩
  · have hforBlog : (i.forBlogErrors r).length
        = if i.forBlog ≠ 0 ∧ r.options.allowForBlog = false then 1 else 0 := by
      unfold forBlogErrors
      split <;> rfl
    have hparts : (errorsOf (refused.map outcome)).length
        + (errorsOf ((counted.filter (!isBlocked r ·)).map outcome)).length
        = (errorsOf (counted.map outcome)).length := length_errorsOf_filter counted
    have hall := length_conditionsOf_add_errorsOf (counted.map outcome)
    rw [List.length_map, ← List.countP_eq_length_filter, countP_counts] at hall
    rw [hconditions, herrors, List.length_append, List.length_append, hforBlog]
    omega
  · exact length_filter_isBlocked_le i r
  · intro entry hentry
    exact outcome_of_blocked i r multisite (List.mem_filter.1 hentry).2
  · intro entry hentry err herr
    exact names_of_outcome (List.mem_filter.1 hentry).2 herr

end ContentGate
