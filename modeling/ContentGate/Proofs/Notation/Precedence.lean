/-
  ContentGate.Proofs.Notation.Precedence — what operands in a row mean.

  Without parentheses a condition is a row of operands with an operator
  between neighbours.  Precedence says how such a row is to be taken:

    • at every `or` it falls into parts, which are joined to the left;
    • each of these falls into parts at every `and`, joined to the left;
    • what is left are comparisons, one after another, to the left.

  `Row.tree` is this rule.  A reader may take a row apart in another
  order: we say what the tree of a row is when it is put together from two
  rows at one operator.

  Main statements:
    * `parts_join`, `parts_of_none` — the parts of a row;
    * `alike_joinedParts_join`, `joinedParts_join` — a row put together at a
      connective: the tree has the same meaning, or is the same;
    * `alike_tree_map` — operands that are alike make trees that are alike;
    * `loosest_induction` — what holds of rows that are taken apart at the
      last of the loosest joints.
-/
import ContentGate.Proofs.Evaluation.Alike

namespace ContentGate

open Expression

/-- Operands in a row, with a joint between neighbours. -/
structure Row (ι α : Type) where
  first : α
  rest : List (ι × α)

namespace Row

variable {ι κ α β : Type}

/-! ## §1. Rows and their parts -/

/-- One operand. -/
def single (a : α) : Row ι α := ⟨a, []⟩

/-- Two rows with a joint between them. -/
def join (left : Row ι α) (i : ι) (right : Row ι α) : Row ι α :=
  ⟨left.first, left.rest ++ (i, right.first) :: right.rest⟩

/-- The joints of a row. -/
def joints (row : Row ι α) : List ι := row.rest.map Prod.fst

/-- The operands of a row. -/
def items (row : Row ι α) : List α := row.first :: row.rest.map Prod.snd

/-- A row with other joints and operands. -/
def map (f : ι → κ) (g : α → β) (row : Row ι α) : Row κ β :=
  ⟨g row.first, row.rest.map fun x => (f x.1, g x.2)⟩

/-- The first of the parts between the joints of a kind, and the other parts. -/
def partsFrom (p : ι → Bool) : α → List (ι × α) → Row ι α × List (Row ι α)
  | a, [] => (single a, [])
  | a, (i, b) :: rest =>
    let (part, more) := partsFrom p b rest
    if p i then (single a, part :: more) else ((single a).join i part, more)

/-- The parts of a row between the joints of a kind. -/
def parts (p : ι → Bool) (row : Row ι α) : List (Row ι α) :=
  let (part, more) := partsFrom p row.first row.rest
  part :: more

@[simp] theorem joints_single (a : α) : (single a : Row ι α).joints = [] := rfl

@[simp] theorem joints_join (left right : Row ι α) (i : ι) :
    (left.join i right).joints = left.joints ++ i :: right.joints := by
  simp [joints, join]

@[simp] theorem items_join (left right : Row ι α) (i : ι) :
    (left.join i right).items = left.items ++ right.items := by
  simp [items, join]

@[simp] theorem map_join (f : ι → κ) (g : α → β) (left right : Row ι α) (i : ι) :
    (left.join i right).map f g = (left.map f g).join (f i) (right.map f g) := by
  simp [map, join]

@[simp] theorem joints_map (f : ι → κ) (g : α → β) (row : Row ι α) :
    (row.map f g).joints = row.joints.map f := by
  simp [joints, map]

@[simp] theorem items_map (f : ι → κ) (g : α → β) (row : Row ι α) :
    (row.map f g).items = row.items.map g := by
  simp [items, map]

theorem map_map {κ' β' : Type} (f : ι → κ) (g : α → β) (f' : κ → κ') (g' : β → β') (row : Row ι α) :
    (row.map f g).map f' g' = row.map (f' ∘ f) (g' ∘ g) := by
  simp [map]

theorem parts_ne_nil (p : ι → Bool) (row : Row ι α) : row.parts p ≠ [] := List.cons_ne_nil _ _

theorem partsFrom_append {p : ι → Bool} {i : ι} (h : p i = true) (a b : α)
    (xs ys : List (ι × α)) :
    partsFrom p a (xs ++ (i, b) :: ys)
      = ((partsFrom p a xs).1,
          (partsFrom p a xs).2 ++ (partsFrom p b ys).1 :: (partsFrom p b ys).2) := by
  induction xs generalizing a with
  | nil => simp [partsFrom, h]
  | cons x xs ih =>
    obtain ⟨j, c⟩ := x
    by_cases hj : p j = true <;> simp [partsFrom, hj, ih]

/-- **A row put together at a joint of the kind has the parts of both.** -/
theorem parts_join {p : ι → Bool} {i : ι} (h : p i = true) (left right : Row ι α) :
    (left.join i right).parts p = left.parts p ++ right.parts p := by
  simp only [parts, join, partsFrom_append h]
  rfl

theorem partsFrom_of_none {p : ι → Bool} {a : α} {xs : List (ι × α)}
    (h : ∀ x ∈ xs, p x.1 = false) : partsFrom p a xs = (⟨a, xs⟩, []) := by
  induction xs generalizing a with
  | nil => rfl
  | cons x xs ih =>
    obtain ⟨hx, hxs⟩ := List.forall_mem_cons.1 h
    simp [partsFrom, hx, ih hxs, join, single]

/-- **A row without such joints is its only part.** -/
theorem parts_of_none {p : ι → Bool} {row : Row ι α} (h : ∀ i ∈ row.joints, p i = false) :
    row.parts p = [row] := by
  have hrest : ∀ x ∈ row.rest, p x.1 = false := fun x hx => h x.1 (List.mem_map_of_mem hx)
  simp only [parts, partsFrom_of_none hrest]

theorem partsFrom_map (p : κ → Bool) (f : ι → κ) (g : α → β) (a : α) (xs : List (ι × α)) :
    partsFrom p (g a) (xs.map fun x => (f x.1, g x.2))
      = ((partsFrom (p ∘ f) a xs).1.map f g, (partsFrom (p ∘ f) a xs).2.map (map f g)) := by
  induction xs generalizing a with
  | nil => rfl
  | cons x xs ih =>
    obtain ⟨i, b⟩ := x
    by_cases hi : p (f i) = true
    · simp [partsFrom, hi, ih b, map, single]
    · simp [partsFrom, hi, ih b, map, single, join]

theorem parts_map (p : κ → Bool) (f : ι → κ) (g : α → β) (row : Row ι α) :
    (row.map f g).parts p = (row.parts (p ∘ f)).map (map f g) := by
  simp only [parts, map, partsFrom_map]
  rfl

theorem mem_partsFrom {p : ι → Bool} {a : α} {xs : List (ι × α)} {part : Row ι α}
    (h : part = (partsFrom p a xs).1 ∨ part ∈ (partsFrom p a xs).2) :
    ∀ b ∈ part.items, b = a ∨ b ∈ xs.map Prod.snd := by
  induction xs generalizing a part with
  | nil =>
    rcases h with rfl | h
    · intro b hb
      exact .inl (List.mem_singleton.1 hb)
    · cases h
  | cons x xs ih =>
    obtain ⟨i, c⟩ := x
    intro b hb
    rw [List.map_cons, List.mem_cons]
    by_cases hi : p i = true
    · simp only [partsFrom, hi, if_true, List.mem_cons] at h
      rcases h with rfl | h
      · exact .inl (List.mem_singleton.1 hb)
      · exact .inr (ih h b hb)
    · simp only [partsFrom, hi, Bool.false_eq_true, if_false] at h
      rcases h with rfl | h
      · -- The first part has grown by the operand in front of it.
        rw [items_join, List.mem_append] at hb
        rcases hb with hb | hb
        · exact .inl (List.mem_singleton.1 hb)
        · exact .inr (ih (.inl rfl) b hb)
      · exact .inr (ih (.inr h) b hb)

theorem mem_items_of_mem_parts {p : ι → Bool} {row part : Row ι α} (h : part ∈ row.parts p)
    {b : α} (hb : b ∈ part.items) : b ∈ row.items :=
  List.mem_cons.2 (mem_partsFrom (List.mem_cons.1 h) b hb)

/-! ## §2. The tree of a row -/

/-- Comparisons, one after another, to the left. -/
def compared (row : Row Operator Expression) : Expression :=
  row.rest.foldl (fun left x => .binary left x.1 x.2) row.first

/-- The parts at a connective, joined to the left; `inner` says what a part is. -/
def joinedParts (op : GroupOp) (inner : Row Operator Expression → Expression)
    (row : Row Operator Expression) : Expression :=
  joinedLeft op ((row.parts (· == op.operator)).map inner)

/-- A row without `or`: the parts at `and`, joined to the left. -/
def conjunction : Row Operator Expression → Expression := joinedParts .all compared

/-- **The tree of a row**: the parts at `or`, joined to the left. -/
def tree : Row Operator Expression → Expression := joinedParts .any conjunction

variable {op : GroupOp} {inner : Row Operator Expression → Expression}
  {row left right : Row Operator Expression}

theorem compared_join_single (row : Row Operator Expression) (op : Operator) (e : Expression) :
    (row.join op (single e)).compared = .binary row.compared op e := by
  simp [compared, join, single]

/-- Where the connective does not occur there is one part. -/
theorem joinedParts_of_none (h : op.operator ∉ row.joints) :
    row.joinedParts op inner = inner row := by
  have hnone : ∀ i ∈ row.joints, (i == op.operator) = false := by
    intro i hi
    rw [beq_eq_false_iff_ne]
    rintro rfl
    exact h hi
  unfold joinedParts
  rw [parts_of_none hnone]
  rfl

/-- **Two rows put together at the connective mean the two, connected.** -/
theorem alike_joinedParts_join (op : GroupOp) (inner : Row Operator Expression → Expression)
    (left right : Row Operator Expression) :
    Alike (.binary (left.joinedParts op inner) op.operator (right.joinedParts op inner))
      ((left.join op.operator right).joinedParts op inner) := by
  have hne : ∀ row : Row Operator Expression, (row.parts (· == op.operator)).map inner ≠ [] := by
    intro row
    simpa using parts_ne_nil _ row
  unfold joinedParts
  rw [parts_join (p := (· == op.operator)) (beq_self_eq_true op.operator), List.map_append]
  exact alike_append (hne left) (hne right)

/-- **They are the two, connected**, if the connective does not occur on the right. -/
theorem joinedParts_join (op : GroupOp) (inner : Row Operator Expression → Expression)
    (left : Row Operator Expression) {right : Row Operator Expression}
    (h : op.operator ∉ right.joints) :
    (left.join op.operator right).joinedParts op inner
      = .binary (left.joinedParts op inner) op.operator (right.joinedParts op inner) := by
  have hone : right.joinedParts op inner = inner right := joinedParts_of_none h
  have hparts : right.parts (· == op.operator) = [right] := by
    refine parts_of_none fun i hi => ?_
    rw [beq_eq_false_iff_ne]
    rintro rfl
    exact h hi
  have hne : (left.parts (· == op.operator)).map inner ≠ [] := by
    simpa using parts_ne_nil _ left
  rw [hone]
  unfold joinedParts
  rw [parts_join (p := (· == op.operator)) (beq_self_eq_true op.operator), hparts, List.map_append]
  exact joinedLeft_concat hne (inner right)

/-! ## §3. Operands that are alike -/

/-- What a row becomes depends on its operands only through what they mean. -/
def Respects (inner : Row Operator Expression → Expression) : Prop :=
  ∀ (α : Type) (row : Row Operator α) (f g : α → Expression),
    (∀ a ∈ row.items, Alike (f a) (g a)) → Alike (inner (row.map id f)) (inner (row.map id g))

theorem alike_foldl {α : Type} {f g : α → Expression} {xs : List (Operator × α)}
    (h : ∀ x ∈ xs, Alike (f x.2) (g x.2)) {e e' : Expression} (he : Alike e e') :
    Alike ((xs.map fun x => (x.1, f x.2)).foldl (fun left x => .binary left x.1 x.2) e)
      ((xs.map fun x => (x.1, g x.2)).foldl (fun left x => .binary left x.1 x.2) e') := by
  induction xs generalizing e e' with
  | nil => exact he
  | cons x xs ih =>
    obtain ⟨hx, hxs⟩ := List.forall_mem_cons.1 h
    exact ih hxs (he.binary x.1 hx)

theorem respects_compared : Respects compared := by
  intro α row f g h
  obtain ⟨hfirst, hrest⟩ := List.forall_mem_cons.1 h
  exact alike_foldl (fun x hx => hrest x.2 (List.mem_map_of_mem hx)) hfirst

theorem Respects.joinedParts (op : GroupOp) (h : Respects inner) :
    Respects (joinedParts op inner) := by
  intro α row f g hrow
  unfold Row.joinedParts
  rw [parts_map, parts_map, List.map_map, List.map_map]
  refine alike_joinedLeft_map fun part hpart => ?_
  exact h α part f g fun a ha => hrow a (mem_items_of_mem_parts hpart ha)

/-- **Operands that are alike make trees that are alike.** -/
theorem alike_tree_map {α : Type} {row : Row Operator α} {f g : α → Expression}
    (h : ∀ a ∈ row.items, Alike (f a) (g a)) :
    Alike (row.map id f).tree (row.map id g).tree :=
  ((respects_compared.joinedParts .all).joinedParts .any) α row f g h

/-! ## §4. Rows taken apart -/

section
variable (rank : ι → Nat)

/-- **The last of the loosest joints of a row.** -/
theorem exists_loosest (a : α) {xs : List (ι × α)} (h : xs ≠ []) :
    ∃ (left : Row ι α) (i : ι) (right : Row ι α), (⟨a, xs⟩ : Row ι α) = left.join i right
      ∧ (∀ j ∈ left.joints, rank i ≤ rank j) ∧ ∀ j ∈ right.joints, rank i < rank j := by
  induction xs generalizing a with
  | nil => exact absurd rfl h
  | cons x xs ih =>
    obtain ⟨i, b⟩ := x
    by_cases hxs : xs = []
    · subst hxs
      exact ⟨single a, i, single b, rfl, by simp, by simp⟩
    · obtain ⟨left, j, right, heq, hleft, hright⟩ := ih b hxs
      by_cases hle : rank j ≤ rank i
      · refine ⟨(single a).join i left, j, right, ?_, ?_, hright⟩
        · injection heq with hfirst hrest
          simp [join, single, hfirst, hrest]
        · rw [joints_join, joints_single, List.nil_append]
          exact List.forall_mem_cons.2 ⟨hle, hleft⟩
      · -- The first joint is looser than all the others.
        have hlt : rank i < rank j := Nat.not_le.1 hle
        have hjoints : (⟨b, xs⟩ : Row ι α).joints = left.joints ++ j :: right.joints := by
          rw [heq, joints_join]
        refine ⟨single a, i, ⟨b, xs⟩, rfl, by simp, fun k hk => ?_⟩
        rw [hjoints, List.mem_append, List.mem_cons] at hk
        rcases hk with hk | rfl | hk
        · exact Nat.lt_of_lt_of_le hlt (hleft k hk)
        · exact hlt
        · exact Nat.lt_trans hlt (hright k hk)

/-- **Rows are put together at the last of their loosest joints**, from single operands. -/
theorem loosest_induction {P : Row ι α → Prop} (single : ∀ a, P (single a))
    (join : ∀ left i right, (∀ j ∈ left.joints, rank i ≤ rank j) →
      (∀ j ∈ right.joints, rank i < rank j) → P left → P right → P (left.join i right))
    (row : Row ι α) : P row := by
  -- Both sides of a joint have fewer joints than the row.
  induction hn : row.rest.length using Nat.strongRecOn generalizing row with
  | ind n ih =>
    obtain ⟨a, xs⟩ := row
    by_cases hxs : xs = []
    · subst hxs
      exact single a
    · obtain ⟨left, i, right, heq, hleft, hright⟩ := exists_loosest rank a hxs
      have hsum : left.rest.length + right.rest.length + 1 = n := by
        rw [← hn, heq, Row.join, List.length_append, List.length_cons]
        omega
      rw [heq]
      exact join left i right hleft hright (ih _ (by omega) left rfl) (ih _ (by omega) right rfl)

end

end Row

end ContentGate
