/-
  ContentGate.Proofs.Notation.Grammar — the grammar of formulas, apart from its reader.

      or      := and (OR and)*
      and     := unary (AND unary)*
      unary   := '!' unary | '(' or ')' | operand
      operand := item (',' item)*

  A DERIVATION is a tree of this grammar.  It says which tokens it
  stands for (`tokens`), which condition it denotes (`value`), how many
  `!` and `(` there are at most around a token (`nesting`), and whether
  the trees of its nodes stay within the height limit
  (`HeightsBounded`).  A chain `x (OP x)*` grows at its right end, so
  that its tree leans to the left.

  Main statement:
    * `tokens_injective` — the grammar is unambiguous: a list of tokens
      has at most one derivation.
-/
import ContentGate.Notation.Formula

namespace ContentGate.Formula

open Notation

/-! ## §1. Categories -/

/-- The two connectives. -/
inductive Connective where
  | and
  | or
  deriving Repr, DecidableEq

namespace Connective

/-- The token of a connective. -/
def kind : Connective → TokenKind
  | .and => .and
  | .or => .or

/-- The operator of a connective. -/
def operator : Connective → Operator
  | .and => .and
  | .or => .or

end Connective

/-- The categories of the grammar: `unary`, and the chains of either connective. -/
inductive Category where
  | unary
  | chain (op : Connective)
  deriving Repr, DecidableEq

/-- What a connective joins. -/
def Connective.unit : Connective → Category
  | .and => .unary
  | .or => .chain .and

/-! ## §2. Derivations -/

/-- The derivations of a category. -/
inductive Derivation : Category → Type where
  /-- `item (',' item)*` -/
  | operand (first : String) (more : List String) : Derivation .unary
  /-- `'!' unary` -/
  | not (inner : Derivation .unary) : Derivation .unary
  /-- `'(' or ')'` -/
  | group (inner : Derivation (.chain .or)) : Derivation .unary
  /-- A chain of one unit. -/
  | single {op : Connective} (first : Derivation op.unit) : Derivation (.chain op)
  /-- A chain, the connective, and one more unit. -/
  | link {op : Connective} (left : Derivation (.chain op)) (right : Derivation op.unit) :
      Derivation (.chain op)

namespace Derivation

variable {c : Category}

/-- The further items of an operand, as tokens. -/
def itemTokens (more : List String) : List TokenKind :=
  more.flatMap fun s => [.comma, .item s]

/-- The tokens that a derivation stands for. -/
def tokens : {c : Category} → Derivation c → List TokenKind
  | _, .operand first more => .item first :: itemTokens more
  | _, .not inner => .not :: tokens inner
  | _, .group inner => .openParen :: (tokens inner ++ [.closeParen])
  | _, .single first => tokens first
  | .chain op, .link left right => tokens left ++ op.kind :: tokens right

/-- The operands, in order. -/
def operands : {c : Category} → Derivation c → List Operand
  | _, .operand first more => [first :: more]
  | _, .not inner => operands inner
  | _, .group inner => operands inner
  | _, .single first => operands first
  | _, .link left right => operands left ++ operands right

/-- The condition that a derivation denotes, where `f` says what operands denote. -/
def value (f : Operand → Expression) : {c : Category} → Derivation c → Expression
  | _, .operand first more => f (first :: more)
  | _, .not inner => (value f inner).not
  | _, .group inner => value f inner
  | _, .single first => value f first
  | .chain op, .link left right => .binary (value f left) op.operator (value f right)

/-- How many `!` and `(` stand around a token, at most. -/
def nesting : {c : Category} → Derivation c → Nat
  | _, .operand _ _ => 0
  | _, .not inner => nesting inner + 1
  | _, .group inner => nesting inner + 1
  | _, .single first => nesting first
  | _, .link left right => max (nesting left) (nesting right)

/-- The trees of `!` and of the connectives are no higher than the limit. -/
def HeightsBounded (f : Operand → Expression) : {c : Category} → Derivation c → Prop
  | _, .operand _ _ => True
  | _, .not inner => HeightsBounded f inner ∧ (value f inner).not.depth ≤ maxNesting
  | _, .group inner => HeightsBounded f inner
  | _, .single first => HeightsBounded f first
  | .chain op, .link left right =>
    HeightsBounded f left ∧ HeightsBounded f right ∧
      (Expression.binary (value f left) op.operator (value f right)).depth ≤ maxNesting

/-- No item is blank. -/
def ItemsMatter (d : Derivation c) : Prop :=
  ∀ items ∈ d.operands, ∀ item ∈ items, Text.trim item.toList ≠ []

end Derivation

/-! ## §3. What may follow -/

/-- The tokens that carry on a derivation of a category. -/
def Category.continuing : Category → List TokenKind
  | .unary => [.comma]
  | .chain .and => [.comma, .and]
  | .chain .or => [.comma, .and, .or]

/-- A derivation of the category is not carried on by these tokens. -/
def Stops (c : Category) (rest : List TokenKind) : Prop := ∀ k ∈ rest.head?, k ∉ c.continuing

theorem stops_nil (c : Category) : Stops c [] := by
  intro k hk
  cases hk

theorem stops_closeParen (c : Category) (rest : List TokenKind) :
    Stops c (.closeParen :: rest) := by
  intro k hk
  obtain rfl : .closeParen = k := by simpa using hk
  rcases c with _ | (_ | _) <;> simp [Category.continuing]

/-- A connective ends the unit before it. -/
theorem stops_connective (op : Connective) (rest : List TokenKind) :
    Stops op.unit (op.kind :: rest) := by
  intro k hk
  obtain rfl : op.kind = k := by simpa using hk
  cases op <;> simp [Connective.unit, Connective.kind, Category.continuing]

/-- What ends a chain ends its last unit. -/
theorem Stops.unit {op : Connective} {rest : List TokenKind} (h : Stops (.chain op) rest) :
    Stops op.unit rest := by
  intro k hk hmem
  refine h k hk ?_
  cases op with
  | and => exact List.mem_cons.2 (.inl (List.mem_singleton.1 hmem))
  | or => exact List.mem_append_left [.or] hmem

/-- A chain is not ended by its connective. -/
theorem Stops.head?_ne {op : Connective} {rest : List TokenKind} (h : Stops (.chain op) rest) :
    rest.head? ≠ some op.kind := by
  intro hk
  refine h op.kind hk ?_
  cases op <;> simp [Connective.kind, Category.continuing]

/-- An operand is not ended by a comma. -/
theorem Stops.head?_ne_comma {rest : List TokenKind} (h : Stops .unary rest) :
    rest.head? ≠ some .comma := by
  intro hk
  exact h .comma hk (by simp [Category.continuing])

/-! ## §4. Chains and their units -/

namespace Derivation

variable {c : Category} {op : Connective}

/-- The chain with more units at its end. -/
def extend (d : Derivation (.chain op)) (us : List (Derivation op.unit)) :
    Derivation (.chain op) :=
  us.foldl .link d

/-- Units, each behind the connective, as tokens. -/
def unitTokens (us : List (Derivation op.unit)) : List TokenKind :=
  us.flatMap fun u => op.kind :: tokens u

/-- A chain is its first unit and the units behind it. -/
theorem exists_extend : ∀ d : Derivation (.chain op), ∃ u us, d = extend (.single u) us
  | .single u => ⟨u, [], rfl⟩
  | .link left right => by
    obtain ⟨u, us, hleft⟩ := exists_extend left
    refine ⟨u, us ++ [right], ?_⟩
    unfold extend
    rw [List.foldl_append, hleft]
    rfl

theorem tokens_extend (d : Derivation (.chain op)) (us : List (Derivation op.unit)) :
    tokens (extend d us) = tokens d ++ unitTokens us := by
  induction us generalizing d with
  | nil => exact (List.append_nil _).symm
  | cons u us ih =>
    show tokens (extend (.link d u) us) = _
    rw [ih]
    simp [tokens, unitTokens]

/-- Units behind a connective never carry on the unit before them. -/
theorem stops_unitTokens {rest : List TokenKind} (us : List (Derivation op.unit))
    (h : Stops op.unit rest) : Stops op.unit (unitTokens us ++ rest) := by
  cases us with
  | nil => exact h
  | cons u us => exact stops_connective op _

/-- Where a chain ends, no unit follows it. -/
theorem eq_nil_of_stops {rest : List TokenKind} {us : List (Derivation op.unit)}
    (h : Stops (.chain op) (unitTokens us ++ rest)) : us = [] := by
  cases us with
  | nil => rfl
  | cons u us => exact absurd rfl h.head?_ne

/-! ## §5. One derivation at most -/

/-- Whatever follows, the tokens at the head of a text fix the derivation. -/
def IsFixed (d : Derivation c) : Prop :=
  ∀ (d' : Derivation c) (rest rest' : List TokenKind), Stops c rest → Stops c rest' →
    d.tokens ++ rest = d'.tokens ++ rest' → d = d' ∧ rest = rest'

/-- Of two chains at the head of the same tokens, one carries on the other. -/
def IsComparable (d : Derivation (.chain op)) : Prop :=
  ∀ (d' : Derivation (.chain op)) (rest rest' : List TokenKind),
    Stops op.unit rest → Stops op.unit rest' → d.tokens ++ rest = d'.tokens ++ rest' →
    ∃ us, (d' = extend d us ∧ rest = unitTokens us ++ rest')
      ∨ (d = extend d' us ∧ rest' = unitTokens us ++ rest)

theorem itemTokens_fixed {more more' : List String} {rest rest' : List TokenKind}
    (h : Stops .unary rest) (h' : Stops .unary rest')
    (heq : itemTokens more ++ rest = itemTokens more' ++ rest') : more = more' ∧ rest = rest' := by
  induction more generalizing more' with
  | nil =>
    cases more' with
    | nil => exact ⟨rfl, heq⟩
    | cons s' more' =>
      obtain rfl : rest = _ := heq
      exact absurd rfl h.head?_ne_comma
  | cons s more ih =>
    cases more' with
    | nil =>
      obtain rfl : _ = rest' := heq
      exact absurd rfl h'.head?_ne_comma
    | cons s' more' =>
      simp only [itemTokens, List.flatMap_cons, List.cons_append, List.nil_append, List.cons.injEq,
        TokenKind.item.injEq, true_and] at heq
      obtain ⟨rfl, hmore⟩ := heq
      obtain ⟨rfl, hrest⟩ := ih hmore
      exact ⟨rfl, hrest⟩

theorem isFixed_operand (first : String) (more : List String) : IsFixed (.operand first more) := by
  intro d' rest rest' h h' heq
  cases d' with
  | operand first' more' =>
    simp only [tokens, List.cons_append, List.cons.injEq, TokenKind.item.injEq] at heq
    obtain ⟨rfl, hmore⟩ := heq
    obtain ⟨rfl, hrest⟩ := itemTokens_fixed h h' hmore
    exact ⟨rfl, hrest⟩
  | not inner' => cases heq
  | group inner' => cases heq

theorem isFixed_not {inner : Derivation .unary} (ih : IsFixed inner) : IsFixed (.not inner) := by
  intro d' rest rest' h h' heq
  cases d' with
  | operand first' more' => cases heq
  | not inner' =>
    obtain ⟨rfl, hrest⟩ := ih inner' rest rest' h h' (List.cons.inj heq).2
    exact ⟨rfl, hrest⟩
  | group inner' => cases heq

theorem isFixed_group {inner : Derivation (.chain .or)} (ih : IsFixed inner) :
    IsFixed (.group inner) := by
  intro d' rest rest' _ _ heq
  cases d' with
  | operand first' more' => cases heq
  | not inner' => cases heq
  | group inner' =>
    simp only [tokens, List.cons_append, List.cons.injEq, true_and, List.append_assoc,
      List.nil_append] at heq
    obtain ⟨rfl, hrest⟩ := ih inner' _ _ (stops_closeParen _ _) (stops_closeParen _ _) heq
    exact ⟨rfl, (List.cons.inj hrest).2⟩

theorem isComparable_single {first : Derivation op.unit} (ih : IsFixed first) :
    IsComparable (.single first) := by
  intro d' rest rest' h h' heq
  -- The other chain starts with a unit too, and it has to be the same one.
  obtain ⟨first', us, rfl⟩ := exists_extend d'
  rw [tokens_extend, List.append_assoc] at heq
  obtain ⟨rfl, hrest⟩ := ih first' _ _ h (stops_unitTokens us h') heq
  exact ⟨us, .inl ⟨rfl, hrest⟩⟩

theorem isComparable_link {left : Derivation (.chain op)} {right : Derivation op.unit}
    (ihl : IsComparable left) (ihr : IsFixed right) : IsComparable (.link left right) := by
  intro d' rest rest' h h' heq
  rw [tokens, List.append_assoc] at heq
  obtain ⟨us, ⟨rfl, hrest⟩ | ⟨rfl, hrest⟩⟩ :=
    ihl d' _ rest' (stops_connective op (right.tokens ++ rest)) h' heq
  · cases us with
    | nil =>
      -- The other chain ends where `left` does.
      exact ⟨[right], .inr ⟨rfl, by simpa [unitTokens] using hrest.symm⟩⟩
    | cons u us =>
      -- The unit behind `left` is the same in both chains.
      simp only [unitTokens, List.flatMap_cons, List.cons_append, List.cons.injEq, true_and,
        List.append_assoc] at hrest
      obtain ⟨rfl, hrest'⟩ := ihr u rest (unitTokens us ++ rest') h (stops_unitTokens us h') hrest
      exact ⟨us, .inl ⟨rfl, hrest'⟩⟩
  · -- The other chain ends within `left`.
    refine ⟨us ++ [right], .inr ⟨?_, ?_⟩⟩
    · unfold extend
      rw [List.foldl_append]
      rfl
    · rw [hrest]
      simp [unitTokens]

/-- Chains that are not carried on are compared only with themselves. -/
theorem IsComparable.isFixed {d : Derivation (.chain op)} (h : IsComparable d) : IsFixed d := by
  intro d' rest rest' hs hs' heq
  obtain ⟨us, ⟨rfl, hrest⟩ | ⟨rfl, hrest⟩⟩ := h d' rest rest' hs.unit hs'.unit heq
  · subst hrest
    obtain rfl := eq_nil_of_stops hs
    exact ⟨rfl, rfl⟩
  · subst hrest
    obtain rfl := eq_nil_of_stops hs'
    exact ⟨rfl, rfl⟩

/-- What an induction over derivations shows of each. -/
def IsDetermined : {c : Category} → Derivation c → Prop
  | .unary, d => IsFixed d
  | .chain _, d => IsComparable d

theorem IsDetermined.isFixed {d : Derivation c} (h : IsDetermined d) : IsFixed d := by
  cases c with
  | unary => exact h
  | chain op => exact IsComparable.isFixed h

theorem isDetermined (d : Derivation c) : IsDetermined d := by
  -- A chain is compared before it is fixed: its left part may be carried on.
  induction d with
  | operand first more => exact isFixed_operand first more
  | not inner ih => exact isFixed_not ih
  | group inner ih => exact isFixed_group ih.isFixed
  | single first ih => exact isComparable_single ih.isFixed
  | link left right ihl ihr => exact isComparable_link ihl ihr.isFixed

/-- **The grammar is unambiguous.**  Tokens have at most one derivation. -/
theorem tokens_injective {d d' : Derivation c} (h : d.tokens = d'.tokens) : d = d' :=
  ((isDetermined d).isFixed d' [] [] (stops_nil c) (stops_nil c) (by rw [h])).1

end Derivation

end ContentGate.Formula
