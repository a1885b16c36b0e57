/-
  ContentGate.Proofs.Evaluation.Comparison — the laws of loose comparison.

  Two values are compared in one of three ways: by truth, as numbers or
  texts, or, if an array is among them and no truth value, as they are.  In
  the first two ways they have an ORDER, which may be that of NaN, namely none
  (`order?`); every operator then asks about this order (`compareWith_of_ordered`).
  In the third way there is no order to ask for (`MeetsArray`).

  So the laws of the operators are laws of orders: what is exchanged has the
  opposite order (`order?_swap`), and only NaN leaves two values unordered
  (`order?_eq_none_iff`).

  Main statements:
    * `Coherent` — the laws: equal or not; mirrored operators; which orders
      fail; at most one of less, equal and greater; comparison with `true`;
    * `comparison_coherent` — they hold of all values, in every context;
    * `equal_to_itself` — which values are equal to themselves.
-/
import ContentGate.Evaluation.Context
import ContentGate.Proofs.Decimal.Order
import ContentGate.Proofs.Evaluation.Running

namespace ContentGate

/-! ## §1. Operators -/

namespace Operator

/-- The operator that asks the same when the operands are exchanged. -/
def mirrored : Operator → Operator
  | .gt => .lt
  | .ge => .le
  | .lt => .gt
  | .le => .ge
  | op => op

/-- Does the operator ask which operand comes first? -/
def isOrdering : Operator → Bool
  | .gt | .ge | .lt | .le => true
  | _ => false

theorem isComparison_of_isOrdering {op : Operator} (h : op.isOrdering = true) :
    op.isComparison = true := by
  cases op <;> first | rfl | cases h

/-- A mirrored operator asks the opposite order for the same. -/
theorem holdsOf_mirrored (op : Operator) (o : Option Ordering) :
    op.mirrored.holdsOf (o.map Ordering.swap) = op.holdsOf o := by
  cases o with
  | none => cases op <;> rfl
  | some o => cases op <;> cases o <;> rfl

/-- No two of less, equal and greater hold of one order. -/
theorem holdsOf_exclusive (o : Option Ordering) :
    (holdsOf .lt o && holdsOf .eq o) = false ∧ (holdsOf .lt o && holdsOf .gt o) = false
      ∧ (holdsOf .eq o && holdsOf .gt o) = false := by
  cases o with
  | none => decide
  | some o => cases o <;> decide

/-- And one of them does, if there is an order. -/
theorem holdsOf_total (o : Option Ordering) :
    (holdsOf .lt o || holdsOf .eq o || holdsOf .gt o) = o.isSome := by
  cases o with
  | none => rfl
  | some o => cases o <;> rfl

end Operator

/-! ## §2. The order of two values -/

namespace Value

/-- The order by which two values compare, if no array hinders it. -/
def order? (l r : Value) : Option Ordering :=
  if l.comparesTruth || r.comparesTruth then some (compare l.truthy.toNat r.truthy.toNat)
  else l.numbersOrTexts r

/-- An array is compared, and not by its truth. -/
def MeetsArray (l r : Value) : Prop :=
  (l.isArray = true ∨ r.isArray = true) ∧ l.comparesTruth = false ∧ r.comparesTruth = false

/-- Both values compare as numbers, and one of these is NaN. -/
def Unordered (l r : Value) : Prop :=
  l.comparesTruth = false ∧ r.comparesTruth = false
    ∧ ∃ x y, l.toFloat? = some x ∧ r.toFloat? = some y ∧ (x.isNaN = true ∨ y.isNaN = true)

variable {l r : Value}

theorem MeetsArray.symm (h : MeetsArray l r) : MeetsArray r l := ⟨h.1.symm, h.2.2, h.2.1⟩

theorem MeetsArray.truth (h : MeetsArray l r) : (l.comparesTruth || r.comparesTruth) = false := by
  rw [h.2.1, h.2.2]
  rfl

theorem MeetsArray.array (h : MeetsArray l r) : (l.isArray || r.isArray) = true :=
  Bool.or_eq_true_iff.2 h.1

/-- **Where no array hinders it, every operator asks about the order.** -/
theorem compareWith_of_ordered (h : ¬ MeetsArray l r) (op : Operator) :
    compareWith op l r = .ok (op.holdsOf (order? l r)) := by
  unfold compareWith order?
  by_cases htruth : (l.comparesTruth || r.comparesTruth) = true
  · rw [if_pos htruth, if_pos htruth]
  · rw [if_neg htruth, if_neg htruth]
    -- Without a truth value, an array would hinder.
    have harray : ¬ (l.isArray || r.isArray) = true := by
      intro harray
      rw [Bool.not_eq_true, Bool.or_eq_false_iff] at htruth
      exact h ⟨Bool.or_eq_true_iff.1 harray, htruth⟩
    rw [if_neg harray]

/-- Where one does, only equality can be asked for. -/
theorem compareWith_eq_of_array (h : MeetsArray l r) : compareWith .eq l r = .ok (l.same r) := by
  unfold compareWith
  rw [h.truth, if_neg (by decide), if_pos h.array]

theorem compareWith_ne_of_array (h : MeetsArray l r) : compareWith .ne l r = .ok (!l.same r) := by
  unfold compareWith
  rw [h.truth, if_neg (by decide), if_pos h.array]

theorem compareWith_of_array (h : MeetsArray l r) {op : Operator} (hop : op.isOrdering = true) :
    ∃ detail, compareWith op l r = .error (.invalidOperation detail) := by
  unfold compareWith
  rw [h.truth, if_neg (by decide), if_pos h.array]
  cases op with
  | gt | ge | lt | le => exact ⟨_, rfl⟩
  | eq | ne | and | or => cases hop

theorem toOption_of_array (h : MeetsArray l r) {op : Operator} (hop : op.isOrdering = true) :
    (compareWith op l r).toOption = none := by
  obtain ⟨detail, hdetail⟩ := compareWith_of_array h hop
  rw [hdetail]
  rfl

/-! ## §3. Exchanged values -/

/-- Two values with numbers compare as numbers, -/
theorem numbersOrTexts_of_some {x y : Float} (hl : l.toFloat? = some x) (hr : r.toFloat? = some y) :
    l.numbersOrTexts r = Decimal.compare? x y := by
  unfold numbersOrTexts
  rw [hl, hr]

/-- and others as texts. -/
theorem numbersOrTexts_of_none (h : l.toFloat? = none ∨ r.toFloat? = none) :
    l.numbersOrTexts r = some (compare l.comparedText r.comparedText) := by
  unfold numbersOrTexts
  rcases h with h | h
  · rw [h]
  · rw [h]
    cases l.toFloat? <;> rfl

theorem numbersOrTexts_swap (l r : Value) :
    r.numbersOrTexts l = (l.numbersOrTexts r).map Ordering.swap := by
  have htexts (h : l.toFloat? = none ∨ r.toFloat? = none) :
      r.numbersOrTexts l = (l.numbersOrTexts r).map Ordering.swap := by
    rw [numbersOrTexts_of_none h, numbersOrTexts_of_none h.symm]
    exact congrArg some Std.OrientedCmp.eq_swap
  cases hl : l.toFloat? with
  | none => exact htexts (.inl hl)
  | some x =>
    cases hr : r.toFloat? with
    | none => exact htexts (.inr hr)
    | some y =>
      rw [numbersOrTexts_of_some hl hr, numbersOrTexts_of_some hr hl]
      exact Decimal.compare?_swap x y

/-- **Values that are exchanged have the opposite order.** -/
theorem order?_swap (l r : Value) : order? r l = (order? l r).map Ordering.swap := by
  unfold order?
  rw [Bool.or_comm r.comparesTruth]
  by_cases htruth : (l.comparesTruth || r.comparesTruth) = true
  · rw [if_pos htruth, if_pos htruth, Option.map_some, Nat.compare_swap]
  · rw [if_neg htruth, if_neg htruth]
    exact numbersOrTexts_swap l r

mutual

/-- Which value stands first does not matter for their being the same. -/
theorem same_comm (l r : Value) : l.same r = r.same l := by
  cases l with
  | null => cases r <;> rfl
  | bool a =>
    cases r with
    | bool b => exact BEq.comm
    | _ => rfl
  | number x =>
    cases r with
    | number y => exact Decimal.beq_comm x y
    | _ => rfl
  | string s =>
    cases r with
    | string t => exact BEq.comm
    | _ => rfl
  | array as =>
    cases r with
    | array bs =>
      rw [same, same]
      exact sameItems_comm as bs
    | _ => rfl

theorem sameItems_comm (as bs : List Value) : sameItems as bs = sameItems bs as := by
  cases as with
  | nil => cases bs <;> rfl
  | cons a as =>
    cases bs with
    | nil => rfl
    | cons b bs => rw [sameItems, sameItems, same_comm a b, sameItems_comm as bs]

end

/-! ## §4. No order -/

theorem numbersOrTexts_eq_none_iff (l r : Value) :
    l.numbersOrTexts r = none
      ↔ ∃ x y, l.toFloat? = some x ∧ r.toFloat? = some y ∧ (x.isNaN = true ∨ y.isNaN = true) := by
  cases hl : l.toFloat? with
  | none => simp [numbersOrTexts_of_none (.inl hl)]
  | some x =>
    cases hr : r.toFloat? with
    | none => simp [numbersOrTexts_of_none (.inr hr)]
    | some y => simp [numbersOrTexts_of_some hl hr, Decimal.compare?_eq_none_iff]

/-- **Only NaN leaves two values unordered.** -/
theorem order?_eq_none_iff (l r : Value) : order? l r = none ↔ Unordered l r := by
  unfold order? Unordered
  cases hl : l.comparesTruth with
  | true => simp
  | false =>
    cases hr : r.comparesTruth with
    | true => simp
    | false => simp [numbersOrTexts_eq_none_iff]

/-- A comparison with `true` asks for the truth. -/
theorem order?_true (v : Value) : order? v (.bool true) = some (compare v.truthy.toNat 1) := by
  unfold order?
  have htruth : (v.comparesTruth || (Value.bool true).comparesTruth) = true := Bool.or_true _
  rw [if_pos htruth]
  rfl

end Value

/-! ## §5. In a context -/

namespace Context

variable {κ : Type}

/-- What the comparison of two literals answers. -/
def compared (c : Context κ) (σ : Session κ) (op : Operator) (l r : Value) :
    Except EvalError Bool :=
  ((c.holds (.binary (.literal l) op (.literal r))).run.run σ).1

/-- Comparing literals asks nobody. -/
theorem compared_eq (c : Context κ) (σ : Session κ) {op : Operator} (h : op.isComparison = true)
    (l r : Value) : c.compared σ op l r = Value.compareWith op l r := by
  have hvalue : c.holds (.binary (.literal l) op (.literal r))
      = (liftM (Value.compareWith op l r) >>= fun b => pure b) := by
    unfold Context.holds Expression.holds
    cases op with
    | and | or => cases h
    | eq | ne | gt | ge | lt | le =>
      simp only [Expression.value, pure_bind, bind_assoc]
      rfl
  unfold compared
  rw [hvalue]
  cases Value.compareWith op l r <;> rfl

end Context

/-! ## §6. The laws -/

/-- The laws of comparison, for the answers that a pair of values gets. -/
structure Coherent (answer : Operator → Value → Value → Except EvalError Bool) (l r : Value) :
    Prop where
  /-- Being equal and being different are always told, and are opposites. -/
  negated : ∃ b, answer .eq l r = .ok b ∧ answer .ne l r = .ok (!b)
  /-- Exchanged values and the mirrored operator succeed together, and agree. -/
  mirrored : ∀ op : Operator, op.isComparison = true →
    (answer op l r).toOption = (answer op.mirrored r l).toOption
  /-- To order values fails exactly for an array that is not compared by its truth. -/
  fails : ∀ op : Operator, op.isOrdering = true →
    ((∃ cause, answer op l r = .error cause) ↔ Value.MeetsArray l r)
  /-- The failure is that of an invalid operation. -/
  cause : ∀ (op : Operator) cause, op.isOrdering = true → answer op l r = .error cause →
    ∃ detail, cause = .invalidOperation detail
  /-- Without failure at most one of less, equal and greater holds, and one does unless
  NaN leaves the values unordered; the other two orders are disjunctions of these. -/
  ordered : ¬ Value.MeetsArray l r → ∃ lt eq gt,
    answer .lt l r = .ok lt ∧ answer .eq l r = .ok eq ∧ answer .gt l r = .ok gt
      ∧ answer .le l r = .ok (lt || eq) ∧ answer .ge l r = .ok (gt || eq)
      ∧ ((lt && eq) = false ∧ (lt && gt) = false ∧ (eq && gt) = false)
      ∧ ((lt || eq || gt) = true ↔ ¬ Value.Unordered l r)
  /-- To compare with `true` is to ask for the truth. -/
  truth : answer .eq l (.bool true) = .ok l.truthy

namespace Value

variable (l r : Value)

theorem compareWith_negated :
    ∃ b, compareWith .eq l r = .ok b ∧ compareWith .ne l r = .ok (!b) := by
  by_cases h : MeetsArray l r
  · exact ⟨_, compareWith_eq_of_array h, compareWith_ne_of_array h⟩
  · exact ⟨_, compareWith_of_ordered h .eq, compareWith_of_ordered h .ne⟩

theorem compareWith_mirrored {op : Operator} (hop : op.isComparison = true) :
    (compareWith op l r).toOption = (compareWith op.mirrored r l).toOption := by
  by_cases h : MeetsArray l r
  · -- Equality of arrays is symmetric, and the orders fail on both sides.
    cases op with
    | eq =>
      show _ = (compareWith .eq r l).toOption
      rw [compareWith_eq_of_array h, compareWith_eq_of_array h.symm, same_comm]
    | ne =>
      show _ = (compareWith .ne r l).toOption
      rw [compareWith_ne_of_array h, compareWith_ne_of_array h.symm, same_comm]
    | gt | ge | lt | le => exact (toOption_of_array h rfl).trans (toOption_of_array h.symm rfl).symm
    | and | or => cases hop
  · have h' : ¬ MeetsArray r l := fun harray => h harray.symm
    rw [compareWith_of_ordered h, compareWith_of_ordered h', order?_swap l r,
      Operator.holdsOf_mirrored]

theorem compareWith_fails {op : Operator} (hop : op.isOrdering = true) :
    (∃ cause, compareWith op l r = .error cause) ↔ MeetsArray l r := by
  apply Iff.intro
  · intro ⟨cause, hcause⟩
    by_cases h : MeetsArray l r
    · exact h
    · rw [compareWith_of_ordered h] at hcause
      cases hcause
  · intro h
    obtain ⟨detail, hdetail⟩ := compareWith_of_array h hop
    exact ⟨_, hdetail⟩

theorem compareWith_ordered (h : ¬ MeetsArray l r) : ∃ lt eq gt,
    compareWith .lt l r = .ok lt ∧ compareWith .eq l r = .ok eq ∧ compareWith .gt l r = .ok gt
      ∧ compareWith .le l r = .ok (lt || eq) ∧ compareWith .ge l r = .ok (gt || eq)
      ∧ ((lt && eq) = false ∧ (lt && gt) = false ∧ (eq && gt) = false)
      ∧ ((lt || eq || gt) = true ↔ ¬ Unordered l r) := by
  have hall := compareWith_of_ordered h
  refine ⟨_, _, _, hall .lt, hall .eq, hall .gt, hall .le, hall .ge,
    Operator.holdsOf_exclusive _, ?_⟩
  rw [Operator.holdsOf_total, Option.isSome_iff_ne_none, ne_eq, order?_eq_none_iff]

theorem compareWith_true : compareWith .eq l (.bool true) = .ok l.truthy := by
  have h : ¬ MeetsArray l (.bool true) := by
    intro h
    cases h.2.2
  rw [compareWith_of_ordered h, order?_true]
  cases l.truthy <;> rfl

end Value

namespace Context

variable {κ : Type}

/-- **Loose comparison is coherent**, whatever the values and the context. -/
theorem comparison_coherent (c : Context κ) (σ : Session κ) (l r : Value) :
    Coherent (c.compared σ) l r where
  negated := by
    rw [compared_eq c σ rfl, compared_eq c σ rfl]
    exact Value.compareWith_negated l r
  mirrored op hop := by
    have hop' : op.mirrored.isComparison = true := by
      cases op <;> first | rfl | cases hop
    rw [compared_eq c σ hop, compared_eq c σ hop']
    exact Value.compareWith_mirrored l r hop
  fails op hop := by
    rw [compared_eq c σ (Operator.isComparison_of_isOrdering hop)]
    exact Value.compareWith_fails l r hop
  cause op cause hop hcause := by
    rw [compared_eq c σ (Operator.isComparison_of_isOrdering hop)] at hcause
    obtain ⟨detail, hdetail⟩ :=
      Value.compareWith_of_array ((Value.compareWith_fails l r hop).1 ⟨_, hcause⟩) hop
    rw [hdetail] at hcause
    exact ⟨detail, (Except.error.inj hcause).symm⟩
  ordered h := by
    rw [compared_eq c σ rfl, compared_eq c σ rfl, compared_eq c σ rfl, compared_eq c σ rfl,
      compared_eq c σ rfl]
    exact Value.compareWith_ordered l r h
  truth := by
    rw [compared_eq c σ rfl]
    exact Value.compareWith_true l

end Context

/-! ## §7. What is equal to itself -/

namespace Value

mutual

/-- Is NaN among the numbers of a value, at any depth? -/
def hasNaN : Value → Bool
  | .number x => x.isNaN
  | .array items => itemsHaveNaN items
  | _ => false

/-- Is NaN among the numbers of these values? -/
def itemsHaveNaN : List Value → Bool
  | [] => false
  | v :: vs => hasNaN v || itemsHaveNaN vs

end

/-- Is the value a string that is read as NaN? -/
def writesNaN : Value → Bool
  | .string s => Decimal.spellsNaN (Text.trim s.toList)
  | _ => false

mutual

/-- A value without NaN is the same as itself; strings are not read as numbers here. -/
theorem same_self (v : Value) (h : v.hasNaN = false) : v.same v = true := by
  cases v with
  | null => rfl
  | bool b => exact beq_self_eq_true b
  | number x => exact Decimal.beq_self h
  | string s => exact beq_self_eq_true s
  | array items =>
    rw [same]
    exact sameItems_self items h

theorem sameItems_self (vs : List Value) (h : itemsHaveNaN vs = false) :
    sameItems vs vs = true := by
  cases vs with
  | nil => rfl
  | cons v vs =>
    rw [itemsHaveNaN, Bool.or_eq_false_iff] at h
    rw [sameItems, same_self v h.1, sameItems_self vs h.2]
    rfl

end

/-- A string compares as equal to itself, unless it is read as NaN. -/
theorem numbersOrTexts_string_self (s : String) :
    numbersOrTexts (.string s) (.string s)
      = if Decimal.spellsNaN (Text.trim s.toList) = true then none else some .eq := by
  cases hread : (Value.string s).toFloat? with
  | none =>
    -- What spells NaN would be read.
    have hnan : ¬ Decimal.spellsNaN (Text.trim s.toList) = true := by
      intro hspells
      obtain ⟨x, hx⟩ := Decimal.float?_of_spellsNaN hspells
      cases hread.symm.trans hx
    rw [if_neg hnan, numbersOrTexts_of_none (.inl hread)]
    exact congrArg some Std.ReflCmp.compare_self
  | some x =>
    have hnan : x.isNaN = Decimal.spellsNaN (Text.trim s.toList) := Decimal.isNaN_of_float? hread
    rw [numbersOrTexts_of_some hread hread, ← hnan]
    cases hx : x.isNaN with
    | true =>
      rw [if_pos rfl]
      exact (Decimal.compare?_eq_none_iff x x).2 (.inl hx)
    | false =>
      rw [if_neg (by decide)]
      exact Decimal.compare?_self hx

/-- **A value without NaN is equal to itself, unless it is a string that is read as NaN.** -/
theorem compareWith_self {v : Value} (h : v.hasNaN = false) :
    compareWith .eq v v = .ok (!v.writesNaN) := by
  cases v with
  | null => rfl
  | bool b => cases b <;> rfl
  | number x =>
    show Except.ok (Operator.holdsOf .eq (Decimal.compare? x x)) = _
    rw [Decimal.compare?_self h]
    rfl
  | string s =>
    show Except.ok (Operator.holdsOf .eq (numbersOrTexts (.string s) (.string s)))
      = .ok (!Decimal.spellsNaN (Text.trim s.toList))
    rw [numbersOrTexts_string_self]
    cases Decimal.spellsNaN (Text.trim s.toList) <;> rfl
  | array items =>
    show Except.ok (same (.array items) (.array items)) = _
    rw [same_self _ h]
    rfl

end Value

namespace Context

variable {κ : Type}

/-- **A value without NaN is equal to itself, unless it is a string that spells NaN.** -/
theorem equal_to_itself (c : Context κ) (σ : Session κ) {v : Value} (h : v.hasNaN = false) :
    c.compared σ .eq v v = .ok (!v.writesNaN) := by
  rw [compared_eq c σ rfl]
  exact Value.compareWith_self h

/-- The context of an anonymous visitor, without a shop. -/
def anonymous : Context Inventory where
  visitor := ({} : Profile).visitor
  functions := .builtins

/-- In a list, the text is compared as a text. -/
theorem equal_to_itself_listed :
    (Value.array [.string "nan"]).hasNaN = false
      ∧ anonymous.compared { catalog := {} } .eq (.array [.string "nan"]) (.array [.string "nan"])
          = .ok true :=
  ⟨rfl, equal_to_itself anonymous _ rfl⟩

/-- On its own it is read as a number, and differs from itself, although it holds no number. -/
theorem nanText_differs_from_itself :
    (Value.string "nan").hasNaN = false
      ∧ anonymous.compared { catalog := {} } .eq (.string "nan") (.string "nan") = .ok false := by
  refine ⟨rfl, ?_⟩
  rw [compared_eq anonymous _ rfl, Value.compareWith_self rfl]
  rfl

end Context

end ContentGate
