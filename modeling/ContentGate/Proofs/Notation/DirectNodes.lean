/-
  ContentGate.Proofs.Notation.DirectNodes — what direct conditions are made of.

  The direct notation has literals, calls, operators, and nothing else:
  no text becomes a predicate or a group, no literal is an array, and
  every called name is an identifier (`IsDirectNode`).  The reader has
  two functions that call each other with a number of levels that goes
  down, so both are treated in one induction on the levels.  The induction
  is the same for everything that a level keeps (`KeptByLevels`), the
  height of what is read among it.

  Main statements:
    * `KeptByLevels.of_levels` — what a level keeps, the reader keeps;
    * `isDirect_of_parse` — every node of a condition that was read from a
      direct text is a direct node;
    * `depth_le_of_parse` — it is no higher than the limit.
-/
import ContentGate.Notation.Direct
import ContentGate.Proofs.Condition.Nodes

namespace ContentGate.Direct

open Expression Text Notation

/-! ## §1. Direct nodes -/

/-- Is a value an array? -/
def isArray : Value → Bool
  | .array _ => true
  | _ => false

/-- A node that the direct notation can write. -/
def IsDirectNode : Expression → Prop
  | .literal v => isArray v = false
  | .predicate _ => False
  | .call name _ => isIdentifier name.toList = true
  | .binary _ _ _ => True
  | .unary _ _ => True
  | .group _ _ => False

/-- A condition whose nodes the direct notation can write, in whatever call it stands. -/
def IsDirect (e : Expression) : Prop := ∀ calls, ∀ x ∈ nodesIn calls e, IsDirectNode x.2

theorem isDirect_literal {v : Value} (h : isArray v = false) : IsDirect (.literal v) :=
  fun _ => forall_nodesIn_literal.2 h

theorem isDirect_call {name : String} {args : List Expression}
    (h : isIdentifier name.toList = true) (hargs : ∀ e ∈ args, IsDirect e) :
    IsDirect (.call name args) :=
  fun _ => forall_nodesIn_call.2 ⟨h, fun e he => hargs e he _⟩

theorem isDirect_binary {left right : Expression} (op : Operator) (hleft : IsDirect left)
    (hright : IsDirect right) : IsDirect (.binary left op right) :=
  fun calls => forall_nodesIn_binary.2 ⟨trivial, hleft calls, hright calls⟩

theorem isDirect_unary {e : Expression} (op : UnaryOp) (h : IsDirect e) :
    IsDirect (.unary op e) :=
  fun calls => forall_nodesIn_unary.2 ⟨trivial, h calls⟩

/-! ## §2. The reader -/

theorem isArray_of_literal? {cs : List Char} {v : Value} (h : literal? cs = some v) :
    isArray v = false := by
  unfold literal? at h
  split at h
  · cases h
    rfl
  · split at h
    · rename_i v' hkeyword
      cases h
      unfold keyword? at hkeyword
      split at hkeyword
      · cases hkeyword
        rfl
      split at hkeyword
      · cases hkeyword
        rfl
      split at hkeyword
      · cases hkeyword
        rfl
      · cases hkeyword
    · obtain ⟨x, _, rfl⟩ := Option.map_eq_some_iff.1 h
      rfl

theorem isIdentifier_of_call? {cs name inner : List Char} (h : call? cs = some (name, inner)) :
    isIdentifier name = true := by
  have hdef : call? cs = if isIdentifier (trim (cs.takeWhile (· != '('))) then
      (enclosed? (cs.drop (cs.takeWhile (· != '(')).length)).bind fun inner =>
        some (trim (cs.takeWhile (· != '(')), inner)
      else none := rfl
  rw [hdef] at h
  split at h
  · rename_i hname
    obtain ⟨inner', _, h⟩ := Option.bind_eq_some_iff.1 h
    cases h
    exact hname
  · cases h

theorem bind_eq_ok {α β : Type} {x : Except ParseError α} {g : α → Except ParseError β} {b : β}
    (h : x >>= g = .ok b) : ∃ a, x = .ok a ∧ g a = .ok b := by
  cases x with
  | ok a => exact ⟨a, rfl, h⟩
  | error cause => cases h

/-- What holds of whatever is read once holds of all that is read of a list. -/
theorem forall_of_mapM {P : Expression → Prop} {read : List Char → Except ParseError Expression}
    (hread : ∀ {cs e}, read cs = .ok e → P e) {args : List (List Char)}
    {es : List Expression} (h : args.mapM read = .ok es) : ∀ e ∈ es, P e := by
  induction args generalizing es with
  | nil =>
    rw [List.mapM_nil] at h
    cases h
    exact fun e he => absurd he List.not_mem_nil
  | cons a args ih =>
    rw [List.mapM_cons] at h
    obtain ⟨e, he, h⟩ := bind_eq_ok h
    obtain ⟨es', hes', h⟩ := bind_eq_ok h
    cases h
    exact List.forall_mem_cons.2 ⟨hread he, ih hes'⟩

/-! ## §3. What a level keeps -/

/-- With the levels that are left, a property of conditions: it holds of the literals that
can be written, and what is built of conditions with one level less has it. -/
structure KeptByLevels (P : Nat → Expression → Prop) : Prop where
  literal : ∀ {levels v}, isArray v = false → P (levels + 1) (.literal v)
  call : ∀ {levels name args}, isIdentifier name.toList = true → (∀ e ∈ args, P levels e) →
    P (levels + 1) (.call name args)
  binary : ∀ {levels left op right}, P levels left → P levels right →
    P (levels + 1) (.binary left op right)
  unary : ∀ {levels op e}, P levels e → P (levels + 1) (.unary op e)
  same : ∀ {levels e}, P levels e → P (levels + 1) e

namespace KeptByLevels

variable {P : Nat → Expression → Prop} {levels : Nat}

/-- One level of a text with operators. -/
theorem expression_step (hP : KeptByLevels P)
    (hexpression : ∀ {cs e}, expression levels cs = .ok e → P levels e)
    (hoperand : ∀ {cs e}, operand levels cs = .ok e → P levels e) {cs : List Char}
    {e : Expression} (h : expression (levels + 1) cs = .ok e) : P (levels + 1) e := by
  rw [expression] at h
  split at h
  · cases h
  split at h
  · obtain ⟨left, hleft, h⟩ := bind_eq_ok h
    obtain ⟨right, hright, h⟩ := bind_eq_ok h
    cases h
    exact hP.binary (hexpression hleft) (hexpression hright)
  · exact hP.same (hoperand h)

/-- One level of a text without operators. -/
theorem operand_step (hP : KeptByLevels P)
    (hexpression : ∀ {cs e}, expression levels cs = .ok e → P levels e)
    (hoperand : ∀ {cs e}, operand levels cs = .ok e → P levels e) {cs : List Char}
    {e : Expression} (h : operand (levels + 1) cs = .ok e) : P (levels + 1) e := by
  rw [operand] at h
  split at h
  · obtain ⟨e', he', h⟩ := bind_eq_ok h
    cases h
    exact hP.unary (hoperand he')
  split at h
  · obtain ⟨e', he', h⟩ := bind_eq_ok h
    cases h
    exact hP.unary (hoperand he')
  split at h
  · exact hP.same (hexpression h)
  split at h
  · rename_i hliteral
    cases h
    exact hP.literal (isArray_of_literal? hliteral)
  split at h
  · rename_i hcall
    obtain ⟨inner, _, h⟩ := bind_eq_ok h
    obtain ⟨args, hargs, h⟩ := bind_eq_ok h
    cases h
    refine hP.call ?_ (forall_of_mapM hexpression hargs)
    rw [String.toList_ofList]
    exact isIdentifier_of_call? hcall
  · cases h

/-- **What a level keeps holds of all that is read.** -/
theorem of_levels (hP : KeptByLevels P) (levels : Nat) :
    (∀ {cs e}, expression levels cs = .ok e → P levels e)
      ∧ ∀ {cs e}, operand levels cs = .ok e → P levels e := by
  -- Both readers call both one level down, so neither half goes through alone.
  induction levels with
  | zero =>
    constructor
    · intro cs e h
      rw [expression] at h
      cases h
    · intro cs e h
      rw [operand] at h
      cases h
  | succ levels ih =>
    obtain ⟨hexpression, hoperand⟩ := ih
    exact ⟨hP.expression_step hexpression hoperand, hP.operand_step hexpression hoperand⟩

theorem of_parse (hP : KeptByLevels P) {raw : String} {e : Expression} (h : parse raw = .ok e) :
    P maxNesting e := by
  unfold parse at h
  change (if (trim raw.toList).isEmpty = true then _ else _) = _ at h
  split at h
  · cases h
  · obtain ⟨_, _, h⟩ := bind_eq_ok h
    exact (hP.of_levels maxNesting).1 h

end KeptByLevels

theorem keptByLevels_isDirect : KeptByLevels fun _ => IsDirect where
  literal := isDirect_literal
  call := isDirect_call
  binary := isDirect_binary _
  unary := isDirect_unary _
  same := id

/-- **What is read from a direct text is made of direct nodes.** -/
theorem isDirect_of_parse {raw : String} {e : Expression} (h : parse raw = .ok e) :
    IsDirect e :=
  keptByLevels_isDirect.of_parse h

/-- A condition is no higher than the levels that were left for it. -/
theorem keptByLevels_depth : KeptByLevels fun levels e => e.depth ≤ levels where
  literal _ := Nat.le_add_left 1 _
  call _ hargs := depth_call_le hargs
  binary hleft hright := depth_binary_le hleft hright
  unary h := depth_unary_le h
  same h := Nat.le_succ_of_le h

/-- **What is read from a direct text is no higher than the limit.** -/
theorem depth_le_of_parse {raw : String} {e : Expression} (h : parse raw = .ok e) :
    e.depth ≤ maxNesting :=
  keptByLevels_depth.of_parse h

end ContentGate.Direct
