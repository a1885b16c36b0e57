/-
  ContentGate.Proofs.Notation.DirectNesting — how deep a direct text is nested, and what it takes.

  A direct condition is nested one level deeper by every operand, every pair
  of parentheses and every argument.  This is a number of its SHAPE, the tree
  with the parentheses kept: a literal has nesting one, and whatever encloses
  something adds one.  The limit is stated for this number.

  The reader counts otherwise.  It goes down a level when it looks for an
  operator, and another one when it looks for an operand, so that literals,
  calls and parentheses take two levels and operators and signs one.  A text
  takes more levels than its nesting, and at most twice as many.  So texts
  nested up to half the limit are accepted, but not all up to the limit.

  Main statements:
    * `Shaped.reads` — a text of a shape takes what the shape takes;
    * `Shaped.of_expression`, `Shaped.unique` — a text that can be read has one shape;
    * `Shape.nesting_lt_taken`, `Shape.taken_le` — what is taken for the nesting;
    * `parse_of_readable` — which texts the limit refuses;
    * `parse_inParens` — how many pairs of parentheses a text may stand in.
-/
import ContentGate.Proofs.Notation.DirectForms
import ContentGate.Proofs.Notation.DirectPhrases

namespace ContentGate.Direct

open Text Notation

/-! ## §1. Shapes -/

/-- A direct condition, with the parentheses that it is written with. -/
inductive Shape where
  | literal (v : Value)
  | call (name : String) (args : List Shape)
  | binary (left : Shape) (op : Operator) (right : Shape)
  | unary (op : UnaryOp) (operand : Shape)
  | group (inner : Shape)

/-- How many levels a node counts on top of the deepest of its parts. -/
structure Weights where
  literal : Nat
  call : Nat
  binary : Nat
  unary : Nat
  group : Nat

namespace Shape

mutual

/-- The condition, without parentheses. -/
def tree : Shape → Expression
  | .literal v => .literal v
  | .call name args => .call name (trees args)
  | .binary left op right => .binary (tree left) op (tree right)
  | .unary op operand => .unary op (tree operand)
  | .group inner => tree inner

/-- The conditions of several shapes. -/
def trees : List Shape → List Expression
  | [] => []
  | s :: ss => tree s :: trees ss

end

mutual

/-- The levels of a shape. -/
def count (w : Weights) : Shape → Nat
  | .literal _ => w.literal
  | .call _ args => countAll w args + w.call
  | .binary left _ right => max (count w left) (count w right) + w.binary
  | .unary _ operand => count w operand + w.unary
  | .group inner => count w inner + w.group

/-- The levels of the deepest of several shapes. -/
def countAll (w : Weights) : List Shape → Nat
  | [] => 0
  | s :: ss => max (count w s) (countAll w ss)

end

/-- Every node counts one level. -/
def evenWeights : Weights := ⟨1, 1, 1, 1, 1⟩

/-- Literals, calls and parentheses are looked for one level below operators. -/
def readerWeights : Weights := ⟨2, 2, 1, 1, 2⟩

/-- How deep a shape is nested. -/
def nesting (s : Shape) : Nat := s.count evenWeights

/-- The levels that the reader needs. -/
def taken (s : Shape) : Nat := s.count readerWeights

mutual

theorem count_bounds : ∀ s : Shape, s.nesting < s.taken ∧ s.taken ≤ 2 * s.nesting
  | .literal _ => by
    show 1 < 2 ∧ 2 ≤ 2 * 1
    decide
  | .call _ args => by
    obtain ⟨hle, htwice⟩ := countAll_bounds args
    simp only [nesting, taken, count, evenWeights, readerWeights] at hle htwice ⊢
    omega
  | .binary left _ right => by
    obtain ⟨hleft, hleft'⟩ := count_bounds left
    obtain ⟨hright, hright'⟩ := count_bounds right
    simp only [nesting, taken, count, evenWeights, readerWeights] at hleft hleft' hright hright' ⊢
    omega
  | .unary _ operand => by
    obtain ⟨hlt, htwice⟩ := count_bounds operand
    simp only [nesting, taken, count, evenWeights, readerWeights] at hlt htwice ⊢
    omega
  | .group inner => by
    obtain ⟨hlt, htwice⟩ := count_bounds inner
    simp only [nesting, taken, count, evenWeights, readerWeights] at hlt htwice ⊢
    omega

theorem countAll_bounds : ∀ ss : List Shape,
    countAll evenWeights ss ≤ countAll readerWeights ss
      ∧ countAll readerWeights ss ≤ 2 * countAll evenWeights ss
  | [] => by decide
  | s :: ss => by
    obtain ⟨hlt, htwice⟩ := count_bounds s
    obtain ⟨hle, htwice'⟩ := countAll_bounds ss
    simp only [nesting, taken] at hlt htwice
    simp only [countAll]
    omega

end

/-- **The reader takes more levels than the nesting**, -/
theorem nesting_lt_taken (s : Shape) : s.nesting < s.taken := (count_bounds s).1

/-- **and at most twice as many.** -/
theorem taken_le (s : Shape) : s.taken ≤ 2 * s.nesting := (count_bounds s).2

end Shape

/-! ## §2. The shape of a text -/

/-- Where a text is read: as a condition, or as an operand of one. -/
inductive Place where
  | condition
  | operand

/-- The shape of a text in its place. -/
inductive Shaped : Place → List Char → Shape → Prop where
  | split {cs : List Char} {s : Split} {left right : Shape} (hsplit : split? (trim cs) = some s)
      (hleft : Shaped .condition (trim s.left) left)
      (hright : Shaped .condition (trim s.right) right) :
      Shaped .condition cs (.binary left s.op right)
  | operand {cs : List Char} {s : Shape} (hne : trim cs ≠ []) (hsplit : split? (trim cs) = none)
      (h : Shaped .operand (trim cs) s) : Shaped .condition cs s
  | not {cs rest : List Char} {s : Shape} (hform : operandForm (trim cs) = .not rest)
      (h : Shaped .operand rest s) : Shaped .operand cs (.unary .not s)
  | minus {cs rest : List Char} {s : Shape} (hform : operandForm (trim cs) = .minus rest)
      (h : Shaped .operand rest s) : Shaped .operand cs (.unary .negate s)
  | group {cs inner : List Char} {s : Shape} (hform : operandForm (trim cs) = .group inner)
      (h : Shaped .condition inner s) : Shaped .operand cs (.group s)
  | literal {cs : List Char} {v : Value} (hform : operandForm (trim cs) = .literal v) :
      Shaped .operand cs (.literal v)
  | call {cs name inner : List Char} {args : List (List Char)} {shapes : List Shape}
      (hform : operandForm (trim cs) = .call name inner) (hargs : arguments inner = .ok args)
      (hlength : args.length = shapes.length)
      (h : ∀ p ∈ args.zip shapes, Shaped .condition p.1 p.2) :
      Shaped .operand cs (.call (String.ofList name) shapes)

section
variable {cs ds : List Char} {s : Shape} {ms : List Marked}

/-- **Parentheses around a part of a text.** -/
theorem Shaped.parenthesised (hmarks : Marks cs ms) (hbalance : marksBalance 0 ms = true)
    (h : Shaped .condition cs s) : Shaped .condition ('(' :: (cs ++ [')'])) (.group s) := by
  have hsolid : Solid ('(' :: (cs ++ [')'])) := .enclose rfl rfl cs
  have hsplit : split? ('(' :: (cs ++ [')'])) = none :=
    split?_of_inert hmarks.enclosed fun level hlevel =>
      inert_enclosed (startsNone_paren hlevel) hbalance
  refine .operand ?_ ?_ ?_
  · rw [hsolid.trim]
    exact hsolid.ne_nil
  · rw [hsolid.trim, hsplit]
  · refine .group ?_ h
    rw [hsolid.trim, hsolid.trim, operandForm_group hmarks hbalance]

/-! ## §3. What a shape takes -/

/-- The reader takes what the shape of a text takes, and for an operand one level less. -/
def Place.Reads : Place → List Char → Shape → Prop
  | .condition, cs, s => Direct.Reads s.taken cs s.tree
  | .operand, cs, s => ∃ n, s.taken = n + 1 ∧ ReadsOperand n cs s.tree

theorem Reads.of_trim {n : Nat} {e : Expression} (h : Reads n (trim cs) e) : Reads n cs e := by
  intro levels
  show expression levels cs = _
  rw [← expression_trim]
  exact h levels

/-- A text of a form takes one level more than what is read for the form. -/
theorem readsOperand_of_form {n : Nat} {e : Expression} {form : OperandForm}
    (hform : operandForm (trim cs) = form)
    (h : Takes n (fun levels => form.read levels (trim cs)) e) : ReadsOperand (n + 1) cs e := by
  refine Takes.succ (operand_zero cs) (fun levels => ?_) h
  rw [operand_succ, hform]

/-- The arguments of a call take what the deepest of them takes. -/
theorem takes_arguments {args : List (List Char)} {shapes : List Shape}
    (hlength : args.length = shapes.length)
    (h : ∀ p ∈ args.zip shapes, Reads p.2.taken p.1 p.2.tree) :
    Takes (Shape.countAll Shape.readerWeights shapes)
      (fun levels => args.mapM (expression levels)) (Shape.trees shapes) := by
  induction args generalizing shapes with
  | nil =>
    obtain rfl := List.eq_nil_of_length_eq_zero hlength.symm
    exact takes_ok []
  | cons arg args ih =>
    cases shapes with
    | nil => cases hlength
    | cons s shapes =>
      rw [List.zip_cons_cons] at h
      obtain ⟨hfirst, hrest⟩ := List.forall_mem_cons.1 h
      exact takes_mapM_cons hfirst (ih (Nat.succ.inj hlength) hrest)

/-- **A text takes what its shape takes.** -/
theorem Shaped.reads {place : Place} (h : Shaped place cs s) : place.Reads cs s := by
  induction h with
  | @split cs sides left right hsplit _ _ ihleft ihright =>
    have hne : trim cs ≠ [] := by
      intro hnil
      rw [hnil] at hsplit
      cases hsplit
    exact (reads_of_split (solid_trim hne) hsplit ihleft ihright).of_trim
  | @operand cs s hne hsplit _ ih =>
    obtain ⟨n, htaken, hreads⟩ := ih
    show Direct.Reads s.taken cs s.tree
    rw [htaken]
    exact (reads_of_operand (solid_trim hne) hsplit hreads).of_trim
  | not hform _ ih =>
    obtain ⟨n, htaken, hreads⟩ := ih
    exact ⟨n + 1, congrArg (· + 1) htaken, readsOperand_of_form hform (hreads.map _)⟩
  | minus hform _ ih =>
    obtain ⟨n, htaken, hreads⟩ := ih
    exact ⟨n + 1, congrArg (· + 1) htaken, readsOperand_of_form hform (hreads.map _)⟩
  | @group cs inner s hform _ ih => exact ⟨s.taken + 1, rfl, readsOperand_of_form hform ih⟩
  | literal hform => exact ⟨1, rfl, readsOperand_of_form hform (takes_ok _)⟩
  | @call cs name inner args shapes hform hargs hlength _ ih =>
    have hread : Takes (Shape.countAll Shape.readerWeights shapes)
        (fun levels => readArguments levels inner) (Shape.trees shapes) := by
      intro levels
      unfold readArguments
      rw [hargs]
      exact takes_arguments hlength ih levels
    exact ⟨_, rfl, readsOperand_of_form hform (hread.map _)⟩

/-! ## §4. Texts that can be read -/

/-- Texts that are read one by one have shapes. -/
theorem exists_shapes {levels : Nat} {args : List (List Char)} {es : List Expression}
    (hread : ∀ {cs e}, expression levels cs = .ok e → ∃ s, Shaped .condition cs s ∧ s.tree = e)
    (h : args.mapM (expression levels) = .ok es) :
    ∃ shapes : List Shape, args.length = shapes.length
      ∧ (∀ p ∈ args.zip shapes, Shaped .condition p.1 p.2) ∧ Shape.trees shapes = es := by
  induction args generalizing es with
  | nil =>
    rw [List.mapM_nil] at h
    cases h
    exact ⟨[], rfl, fun p hp => absurd hp List.not_mem_nil, rfl⟩
  | cons arg args ih =>
    rw [List.mapM_cons] at h
    obtain ⟨e, he, h⟩ := bind_eq_ok h
    obtain ⟨es', hes', h⟩ := bind_eq_ok h
    cases h
    obtain ⟨s, hs, rfl⟩ := hread he
    obtain ⟨shapes, hlength, hshapes, rfl⟩ := ih hes'
    exact ⟨s :: shapes, congrArg (· + 1) hlength, List.forall_mem_cons.2 ⟨hs, hshapes⟩, rfl⟩

/-- One level of a text with operators. -/
theorem exists_shape_expression {levels : Nat} {e : Expression}
    (hexpression : ∀ {cs e}, expression levels cs = .ok e →
      ∃ s, Shaped .condition cs s ∧ s.tree = e)
    (hoperand : ∀ {cs e}, operand levels cs = .ok e → ∃ s, Shaped .operand cs s ∧ s.tree = e)
    (h : expression (levels + 1) cs = .ok e) : ∃ s, Shaped .condition cs s ∧ s.tree = e := by
  cases hsplit : split? (trim cs) with
  | some sides =>
    obtain ⟨left, right, hleft, hright, rfl⟩ := sides_of_expression h hsplit
    obtain ⟨l, hl, rfl⟩ := hexpression hleft
    obtain ⟨r, hr, rfl⟩ := hexpression hright
    exact ⟨.binary l sides.op r, .split hsplit hl hr, rfl⟩
  | none =>
    obtain ⟨s, hs, rfl⟩ := hoperand (operand_of_expression h hsplit)
    exact ⟨s, .operand (ne_nil_of_expression h) hsplit hs, rfl⟩

/-- One level of an operand. -/
theorem exists_shape_operand {levels : Nat} {e : Expression}
    (hexpression : ∀ {cs e}, expression levels cs = .ok e →
      ∃ s, Shaped .condition cs s ∧ s.tree = e)
    (hoperand : ∀ {cs e}, operand levels cs = .ok e → ∃ s, Shaped .operand cs s ∧ s.tree = e)
    (h : operand (levels + 1) cs = .ok e) : ∃ s, Shaped .operand cs s ∧ s.tree = e := by
  rw [operand_succ] at h
  cases hform : operandForm (trim cs) with
  | not rest =>
    rw [hform] at h
    obtain ⟨e', he', h⟩ := bind_eq_ok h
    cases h
    obtain ⟨s, hs, rfl⟩ := hoperand he'
    exact ⟨.unary .not s, .not hform hs, rfl⟩
  | minus rest =>
    rw [hform] at h
    obtain ⟨e', he', h⟩ := bind_eq_ok h
    cases h
    obtain ⟨s, hs, rfl⟩ := hoperand he'
    exact ⟨.unary .negate s, .minus hform hs, rfl⟩
  | group inner =>
    rw [hform] at h
    obtain ⟨s, hs, rfl⟩ := hexpression h
    exact ⟨.group s, .group hform hs, rfl⟩
  | literal v =>
    rw [hform] at h
    cases h
    exact ⟨.literal v, .literal hform, rfl⟩
  | call name inner =>
    rw [hform] at h
    obtain ⟨es, hes, h⟩ := bind_eq_ok h
    cases h
    obtain ⟨args, hargs, hes⟩ := bind_eq_ok hes
    obtain ⟨shapes, hlength, hshapes, rfl⟩ := exists_shapes hexpression hes
    exact ⟨.call (String.ofList name) shapes, .call hform hargs hlength hshapes, rfl⟩
  | unknown =>
    rw [hform] at h
    cases h

theorem exists_shape (levels : Nat) :
    (∀ {cs e}, expression levels cs = .ok e → ∃ s, Shaped .condition cs s ∧ s.tree = e)
      ∧ ∀ {cs e}, operand levels cs = .ok e → ∃ s, Shaped .operand cs s ∧ s.tree = e := by
  -- Each of the two readers calls both one level down.
  induction levels with
  | zero =>
    constructor
    · intro cs e h
      rw [expression_zero] at h
      cases h
    · intro cs e h
      rw [operand_zero] at h
      cases h
  | succ levels ih =>
    obtain ⟨hexpression, hoperand⟩ := ih
    exact ⟨exists_shape_expression hexpression hoperand,
      exists_shape_operand hexpression hoperand⟩

/-- **A text that is read with some number of levels has a shape.** -/
theorem Shaped.of_expression {levels : Nat} {e : Expression} (h : expression levels cs = .ok e) :
    ∃ s, Shaped .condition cs s ∧ s.tree = e :=
  (exists_shape levels).1 h

/-- Lists that pair up with the same list are equal, if what pairs up with each item is. -/
theorem eq_of_zip {α β : Type} {R : α → β → Prop} {as : List α} {bs bs' : List β}
    (hlength : as.length = bs.length) (hlength' : as.length = bs'.length)
    (h : ∀ p ∈ as.zip bs, ∀ b, R p.1 b → p.2 = b) (h' : ∀ p ∈ as.zip bs', R p.1 p.2) :
    bs = bs' := by
  induction as generalizing bs bs' with
  | nil =>
    rw [List.eq_nil_of_length_eq_zero hlength.symm, List.eq_nil_of_length_eq_zero hlength'.symm]
  | cons a as ih =>
    cases bs with
    | nil => cases hlength
    | cons b bs =>
      cases bs' with
      | nil => cases hlength'
      | cons b' bs' =>
        rw [List.zip_cons_cons] at h h'
        obtain ⟨hfirst, hrest⟩ := List.forall_mem_cons.1 h
        obtain ⟨hfirst', hrest'⟩ := List.forall_mem_cons.1 h'
        obtain rfl : b = b' := hfirst b' hfirst'
        rw [ih (Nat.succ.inj hlength) (Nat.succ.inj hlength') hrest hrest']

/-- **A text has one shape in its place.** -/
theorem Shaped.unique {place : Place} {s' : Shape} (h : Shaped place cs s)
    (h' : Shaped place cs s') : s = s' := by
  induction h generalizing s' with
  | split hsplit _ _ ihleft ihright =>
    cases h' with
    | split hsplit' hleft hright =>
      obtain rfl := Option.some.inj (hsplit.symm.trans hsplit')
      rw [ihleft hleft, ihright hright]
    | operand _ hsplit' => cases hsplit.symm.trans hsplit'
  | operand _ hsplit _ ih =>
    cases h' with
    | split hsplit' => cases hsplit.symm.trans hsplit'
    | operand _ _ h => exact ih h
  | not hform _ ih =>
    cases h' with
    | not hform' h =>
      obtain rfl := OperandForm.not.inj (hform.symm.trans hform')
      rw [ih h]
    | _ hform' => cases hform.symm.trans hform'
  | minus hform _ ih =>
    cases h' with
    | minus hform' h =>
      obtain rfl := OperandForm.minus.inj (hform.symm.trans hform')
      rw [ih h]
    | _ hform' => cases hform.symm.trans hform'
  | group hform _ ih =>
    cases h' with
    | group hform' h =>
      obtain rfl := OperandForm.group.inj (hform.symm.trans hform')
      rw [ih h]
    | _ hform' => cases hform.symm.trans hform'
  | literal hform =>
    cases h' with
    | literal hform' => rw [OperandForm.literal.inj (hform.symm.trans hform')]
    | _ hform' => cases hform.symm.trans hform'
  | call hform hargs hlength _ ih =>
    cases h' with
    | call hform' hargs' hlength' h =>
      obtain ⟨rfl, rfl⟩ := OperandForm.call.inj (hform.symm.trans hform')
      obtain rfl := Except.ok.inj (hargs.symm.trans hargs')
      rw [eq_of_zip hlength hlength' (fun p hp b hb => ih p hp hb) h]
    | _ hform' => cases hform.symm.trans hform'

end

/-! ## §5. The limit -/

/-- **A text that passes the check and can be read with enough levels** is read if its shape
does not take more than there are, and is refused for its nesting otherwise.  Its shape takes
more than its nesting, and at most twice as much. -/
theorem parse_of_readable {raw : String} {levels : Nat} {e : Expression}
    (hcheck : check (trim raw.toList) = .ok ())
    (hread : expression levels (trim raw.toList) = .ok e) :
    ∃ s, Shaped .condition (trim raw.toList) s
      ∧ (∀ s', Shaped .condition (trim raw.toList) s' → s' = s)
      ∧ s.tree = e
      ∧ parse raw = (if s.taken ≤ maxNesting then .ok e else .error (.nestingTooDeep maxNesting))
      ∧ s.nesting < s.taken ∧ s.taken ≤ 2 * s.nesting := by
  obtain ⟨s, hs, rfl⟩ := Shaped.of_expression hread
  have hne := ne_nil_of_expression hread
  rw [trim_trim] at hne
  refine ⟨s, hs, fun s' hs' => hs'.unique hs, rfl, ?_, s.nesting_lt_taken, s.taken_le⟩
  rw [parse_eq_expression hne hcheck]
  exact hs.reads maxNesting

/-- A sign and a pair of parentheses, read with as many levels as they take. -/
theorem parse_of_readable_negated :
    check (trim "!(true)".toList) = .ok ()
      ∧ expression 5 (trim "!(true)".toList) = .ok (.unary .not (.literal (.bool true)))
      ∧ ∃ s, Shaped .condition (trim "!(true)".toList) s
        ∧ (∀ s', Shaped .condition (trim "!(true)".toList) s' → s' = s)
        ∧ s.tree = .unary .not (.literal (.bool true))
        ∧ parse "!(true)" = (if s.taken ≤ maxNesting then .ok (.unary .not (.literal (.bool true)))
          else .error (.nestingTooDeep maxNesting))
        ∧ s.nesting < s.taken ∧ s.taken ≤ 2 * s.nesting := by
  have hcheck : check (trim "!(true)".toList) = .ok () := by decide +kernel
  have hread : expression 5 (trim "!(true)".toList)
      = .ok (.unary .not (.literal (.bool true))) := rfl
  exact ⟨hcheck, hread, parse_of_readable hcheck hread⟩

/-- Text between several pairs of parentheses. -/
def inParens (cs : List Char) : Nat → List Char
  | 0 => cs
  | n + 1 => '(' :: (inParens cs n ++ [')'])

/-- A shape between several pairs of parentheses. -/
def Shape.inGroups (s : Shape) : Nat → Shape
  | 0 => s
  | n + 1 => .group (s.inGroups n)

/-- **Every pair of parentheses adds one to the nesting**, -/
theorem Shape.nesting_inGroups (s : Shape) (n : Nat) : (s.inGroups n).nesting = s.nesting + n := by
  induction n with
  | zero => rfl
  | succ n ih =>
    show (s.inGroups n).nesting + 1 = _
    rw [ih, Nat.add_assoc]

/-- **and two to what is taken.** -/
theorem Shape.taken_inGroups (s : Shape) (n : Nat) : (s.inGroups n).taken = s.taken + 2 * n := by
  induction n with
  | zero => rfl
  | succ n ih =>
    show (s.inGroups n).taken + 2 = _
    omega

section
variable {cs : List Char} {ms : List Marked} {s : Shape}

theorem part_inParens (h : Part cs ms) (n : Nat) : ∃ ns, Part (inParens cs n) ns := by
  induction n with
  | zero => exact ⟨ms, h⟩
  | succ n ih =>
    obtain ⟨ns, hns⟩ := ih
    exact ⟨_, hns.enclosed⟩

theorem Shaped.inParens (h : Part cs ms) (hs : Shaped .condition cs s) (n : Nat) :
    Shaped .condition (inParens cs n) (s.inGroups n) := by
  induction n with
  | zero => exact hs
  | succ n ih =>
    obtain ⟨ns, hns⟩ := part_inParens h n
    exact ih.parenthesised hns.marks hns.balanced

theorem solid_inParens (h : Solid cs) : ∀ n, Solid (inParens cs n)
  | 0 => h
  | _ + 1 => .enclose rfl rfl _

/-- **How many pairs of parentheses a text may stand in.** -/
theorem parse_inParens {raw : String} {n : Nat} (h : Part cs ms) (hsolid : Solid cs)
    (hs : Shaped .condition cs s) (hraw : raw.toList = inParens cs n) :
    parse raw = if s.taken + 2 * n ≤ maxNesting then .ok (s.inGroups n).tree
      else .error (.nestingTooDeep maxNesting) := by
  obtain ⟨ns, hns⟩ := part_inParens h n
  have hreads : Reads (s.inGroups n).taken (inParens cs n) (s.inGroups n).tree :=
    (hs.inParens h n).reads
  rw [Shape.taken_inGroups] at hreads
  have htext : raw.toList = [] ++ (inParens cs n ++ []) := by rw [hraw]; simp
  exact parse_of_reads htext rfl rfl (solid_inParens hsolid n) hns hreads

end

/-- The word `true`, and its shape. -/
theorem shaped_true : Part "true".toList (bare "true".toList)
    ∧ Shaped .condition "true".toList (.literal (.bool true)) := by
  have hsolid : Solid "true".toList := solid_of_isIdentifier (by decide)
  have hpart : Part "true".toList (bare "true".toList) := part_plain (by decide)
  refine ⟨hpart, .operand (by decide) ?_ (.literal ?_)⟩
  · rw [hsolid.trim]
    exact split?_of_inert hpart.marks fun level hlevel =>
      inert_valueWord hlevel (by decide)
  · rw [hsolid.trim, hsolid.trim]
    exact operandForm_literal rfl rfl

/-- **Thirty-two pairs of parentheses around `true`** are nested no deeper than the limit,
and the text is refused for its nesting. -/
theorem nesting_within_limit_refused :
    ∃ s, check (trim "((((((((((((((((((((((((((((((((true))))))))))))))))))))))))))))))))".toList)
        = .ok ()
      ∧ Shaped .condition
        (trim "((((((((((((((((((((((((((((((((true))))))))))))))))))))))))))))))))".toList) s
      ∧ s.nesting = 33 ∧ s.nesting ≤ maxNesting
      ∧ parse "((((((((((((((((((((((((((((((((true))))))))))))))))))))))))))))))))"
        = .error (.nestingTooDeep maxNesting) := by
  obtain ⟨hpart, hshape⟩ := shaped_true
  have hsolid : Solid "true".toList := solid_of_isIdentifier (by decide)
  have hraw : "((((((((((((((((((((((((((((((((true))))))))))))))))))))))))))))))))".toList
      = inParens "true".toList 32 := by decide
  have hnesting : ((Shape.literal (.bool true)).inGroups 32).nesting = 33 :=
    Shape.nesting_inGroups _ 32
  obtain ⟨ns, hns⟩ := part_inParens hpart 32
  refine ⟨_, ?_, ?_, hnesting, ?_, ?_⟩
  · rw [hraw, (solid_inParens hsolid 32).trim]
    exact hns.check
  · rw [hraw, (solid_inParens hsolid 32).trim]
    exact hshape.inParens hpart 32
  · rw [hnesting]
    decide
  · rw [parse_inParens hpart hsolid hshape hraw]
    exact if_neg (by decide)

end ContentGate.Direct
