/-
  ContentGate.Proofs.Condition.Logical — conditions that only ask and combine answers.

  What a formula over predicates gives, and what a flag gives, has a
  simple shape: predicates, negations, the two connectives and groups.
  Nothing in it compares, calculates or calls (`Logical`).  Such a
  condition is a truth function of the answers to its predicates
  (`truth`), and where nothing is negated the function is monotone.

  Main statements:
    * `truth_mono`, `truth_eq_false` — without negations, more true answers
      make no condition false, and without any true answer none is true;
    * `Formula.logical_condition` — an accepted formula over predicates is
      logical, asks for its items only, and negates only where it has a `!`.
-/
import ContentGate.Proofs.Condition.Nodes
import ContentGate.Proofs.Notation.Reading

namespace ContentGate

namespace Expression

/-! ## §1. Logical conditions -/

/-- The condition is made of predicates of `K` by connectives and groups, and by
negations, if there may be any. -/
inductive Logical (negations : Prop) (K : Predicate → Prop) : Expression → Prop where
  | predicate {p : Predicate} (h : K p) : Logical negations K (.predicate p)
  | not {e : Expression} (h : negations) (he : Logical negations K e) : Logical negations K e.not
  | binary {left right : Expression} (op : GroupOp) (hleft : Logical negations K left)
      (hright : Logical negations K right) :
      Logical negations K (.binary left op.operator right)
  | group {members : List Expression} (op : GroupOp)
      (h : ∀ e ∈ members, Logical negations K e) : Logical negations K (.group op members)

section
variable {N N' : Prop} {K K' : Predicate → Prop} {e : Expression}

theorem Logical.mono (h : Logical N K e) (hN : N → N') (hK : ∀ p, K p → K' p) :
    Logical N' K' e := by
  induction h with
  | predicate hp => exact .predicate (hK _ hp)
  | not hn _ ih => exact .not (hN hn) ih
  | binary op _ _ ihl ihr => exact .binary op ihl ihr
  | group op _ ih => exact .group op ih

theorem Logical.joined {op : GroupOp} {es : List Expression} (h : ∀ e ∈ es, Logical N K e) :
    Logical N K (Expression.joined op es) := by
  unfold Expression.joined
  split
  · exact h _ (List.mem_singleton.2 rfl)
  · exact .group op h

end

/-! ## §2. Their truth -/

mutual

/-- The truth of a condition whose predicates are answered by `ask`.  A group
without members is false; what is not logical counts as false. -/
def truth (ask : Predicate → Bool) : Expression → Bool
  | .predicate p => ask p
  | .unary .not e => !truth ask e
  | .binary left .and right => truth ask left && truth ask right
  | .binary left .or right => truth ask left || truth ask right
  | .group _ [] => false
  | .group op (e :: es) => truthOfMembers ask op (e :: es)
  | _ => false

/-- All members are true, or any of them is. -/
def truthOfMembers (ask : Predicate → Bool) (op : GroupOp) : List Expression → Bool
  | [] => op == .all
  | e :: es =>
    match op with
    | .all => truth ask e && truthOfMembers ask .all es
    | .any => truth ask e || truthOfMembers ask .any es

end

section
variable {K : Predicate → Prop} {ask ask' : Predicate → Bool} {es : List Expression}
  {e : Expression}

theorem truthOfMembers_all_iff :
    truthOfMembers ask .all es = true ↔ ∀ e ∈ es, e.truth ask = true := by
  induction es with
  | nil =>
    show true = true ↔ _
    simp
  | cons e es ih =>
    show (e.truth ask && truthOfMembers ask .all es) = true ↔ _
    rw [Bool.and_eq_true, ih, List.forall_mem_cons]

theorem truthOfMembers_any_iff :
    truthOfMembers ask .any es = true ↔ ∃ e ∈ es, e.truth ask = true := by
  induction es with
  | nil =>
    show false = true ↔ _
    simp
  | cons e es ih =>
    show (e.truth ask || truthOfMembers ask .any es) = true ↔ _
    rw [Bool.or_eq_true, ih]
    simp

/-- A group of all holds if it has members and all of them hold, -/
theorem truth_all_iff :
    (group .all es).truth ask = true ↔ es ≠ [] ∧ ∀ e ∈ es, e.truth ask = true := by
  cases es with
  | nil =>
    show false = true ↔ _
    simp
  | cons e es =>
    show truthOfMembers ask .all (e :: es) = true ↔ _
    rw [truthOfMembers_all_iff, and_iff_right (List.cons_ne_nil e es)]

/-- and a group of any if one of them holds. -/
theorem truth_any_iff :
    (group .any es).truth ask = true ↔ ∃ e ∈ es, e.truth ask = true := by
  cases es with
  | nil =>
    show false = true ↔ _
    simp
  | cons e es =>
    show truthOfMembers ask .any (e :: es) = true ↔ _
    rw [truthOfMembers_any_iff]

/-- **Without negations, more true answers make no condition false.** -/
theorem truth_mono (h : Logical False K e) (hask : ∀ p, K p → ask p = true → ask' p = true) :
    e.truth ask = true → e.truth ask' = true := by
  induction h with
  | @predicate p hp =>
    show ask p = true → ask' p = true
    exact hask p hp
  | not hn _ _ => exact hn.elim
  | binary op _ _ ihl ihr =>
    cases op with
    | all =>
      show (_ && _) = true → (_ && _) = true
      rw [Bool.and_eq_true, Bool.and_eq_true]
      exact And.imp ihl ihr
    | any =>
      show (_ || _) = true → (_ || _) = true
      rw [Bool.or_eq_true, Bool.or_eq_true]
      exact Or.imp ihl ihr
  | group op _ ih =>
    cases op with
    | all =>
      rw [truth_all_iff, truth_all_iff]
      exact And.imp_right fun hall e he => ih e he (hall e he)
    | any =>
      rw [truth_any_iff, truth_any_iff]
      rintro ⟨e, he, htrue⟩
      exact ⟨e, he, ih e he htrue⟩

/-- **Without a true answer, no condition without negations is true.** -/
theorem truth_eq_false (h : Logical False K e) : e.truth (fun _ => false) = false := by
  induction h with
  | predicate _ => rfl
  | not hn _ _ => exact hn.elim
  | binary op _ _ ihl ihr =>
    cases op with
    | all =>
      show (_ && _) = false
      rw [ihl, Bool.false_and]
    | any =>
      show (_ || _) = false
      rw [ihl, ihr, Bool.false_or]
  | @group members op _ ih =>
    rw [← Bool.not_eq_true]
    intro htrue
    obtain ⟨e, he, htrue⟩ : ∃ e ∈ members, e.truth (fun _ => false) = true := by
      cases op with
      | all =>
        obtain ⟨hne, hall⟩ := truth_all_iff.1 htrue
        obtain ⟨e, he⟩ := List.exists_mem_of_ne_nil members hne
        exact ⟨e, he, hall e he⟩
      | any => exact truth_any_iff.1 htrue
    rw [ih e he] at htrue
    cases htrue

end

end Expression

/-! ## §3. Formulas over predicates -/

namespace Formula

open Expression Notation

/-- The items of the operands are among the tokens. -/
theorem Derivation.item_mem_tokens {c : Category} (d : Derivation c) {o : Operand}
    (ho : o ∈ d.operands) {item : String} (hitem : item ∈ o) :
    TokenKind.item item ∈ d.tokens := by
  induction d with
  | operand first more =>
    obtain rfl := List.mem_singleton.1 ho
    rcases List.mem_cons.1 hitem with rfl | hmore
    · exact List.mem_cons_self
    · exact List.mem_cons_of_mem _ (List.mem_flatMap.2 ⟨item, hmore, by simp⟩)
  | not inner ih => exact List.mem_cons_of_mem _ (ih ho)
  | group inner ih => exact List.mem_cons_of_mem _ (List.mem_append_left _ (ih ho))
  | single first ih => exact ih ho
  | link left right ihl ihr =>
    rcases List.mem_append.1 ho with ho | ho
    · exact List.mem_append_left _ (ihl ho)
    · exact List.mem_append_right _ (List.mem_cons_of_mem _ (ihr ho))

/-- A formula is logical if its operands are; it negates only where it has a `!`. -/
theorem Derivation.logical_value {f : Operand → Expression} {N : Prop} {K : Predicate → Prop}
    {c : Category} (d : Derivation c) (hnot : TokenKind.not ∈ d.tokens → N)
    (h : ∀ o ∈ d.operands, Logical N K (f o)) : Logical N K (d.value f) := by
  induction d with
  | operand first more => exact h _ (List.mem_singleton.2 rfl)
  | not inner ih =>
    exact .not (hnot List.mem_cons_self) (ih (fun hmem => hnot (List.mem_cons_of_mem _ hmem)) h)
  | group inner ih =>
    exact ih (fun hmem => hnot (List.mem_cons_of_mem _ (List.mem_append_left _ hmem))) h
  | single first ih => exact ih hnot h
  | @link op left right ihl ihr =>
    obtain ⟨hl, hr⟩ := List.forall_mem_append.1 h
    have hleft := ihl (fun hmem => hnot (List.mem_append_left _ hmem)) hl
    have hright := ihr
      (fun hmem => hnot (List.mem_append_right _ (List.mem_cons_of_mem _ hmem))) hr
    cases op with
    | and => exact .binary .all hleft hright
    | or => exact .binary .any hleft hright

/-- **An accepted formula over predicates** asks for its items, and negates only
where it has a `!`. -/
theorem logical_condition {raw : String} {make : String → Predicate} {e : Expression}
    (h : condition raw (Operand.expand .all fun item => .ok (.predicate (make item))) = .ok e) :
    ∃ kinds, Lexes (Text.trim raw.toList) kinds ∧
      Logical (TokenKind.not ∈ kinds)
        (fun p => ∃ item, TokenKind.item item ∈ kinds ∧ p = make item) e := by
  have hf : ∀ (o : Operand) e,
      Operand.expand .all (fun item => .ok (.predicate (make item))) o = .ok e →
      joined .all (o.map fun item => .predicate (make item)) = e := by
    intro o e ho
    rw [Operand.expand_ok] at ho
    exact Except.ok.inj ho
  obtain ⟨-, d, hlexes, -, rfl, -⟩ := exists_derivation hf h
  refine ⟨d.tokens, hlexes, d.logical_value id fun o ho => Logical.joined fun e he => ?_⟩
  obtain ⟨item, hitem, rfl⟩ := List.mem_map.1 he
  exact .predicate ⟨item, d.item_mem_tokens ho hitem, rfl⟩

end Formula

end ContentGate
