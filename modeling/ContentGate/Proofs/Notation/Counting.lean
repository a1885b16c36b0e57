/-
  ContentGate.Proofs.Notation.Counting — how deep the readers of conditions go.

  The readers are given a number of levels and have fewer of them further
  inside, so nothing in them says how deep they are.  Here they COUNT: a
  reader with a counter of its own goes one deeper and comes up again, and
  refuses to go deeper than the limit (`deeper`).  It has no levels, and more
  fuel than it can use.  What the operands of a formula mean may have effects
  on a state, so each of them may mean something else whenever it is asked for.

  The readers that count do the same as those with levels (`Tracks`): they give
  the same result and leave the same state, and the counter never passes the
  limit.  A formula is no higher than the limit or than what an operand meant.

  Main statements:
    * `Tracks.bind`, `Tracks.deeper` — computations that count, step by step;
    * `chain_tracks`, `unary_tracks` — the readers of chains, and of units by
      induction on the levels;
    * `compileCounting_tracks` — whole formulas;
    * `parseCounting_tracks` — whole direct conditions.
-/
import ContentGate.Notation.Direct
import ContentGate.Notation.Formula

namespace ContentGate.Notation

/-! ## §1. Counting -/

/-- What a reader keeps count of. -/
structure Count where
  /-- How deep the reader is. -/
  inside : Nat := 0
  /-- How deep it was at most. -/
  deepest : Nat := 0
  /-- The greatest height of what an operand meant. -/
  highest : Nat := 0

namespace Count

/-- One deeper. -/
def enter (c : Count) : Count :=
  { c with inside := c.inside + 1, deepest := max c.deepest (c.inside + 1) }

/-- One up again. -/
def leave (c : Count) : Count := { c with inside := c.inside - 1 }

/-- A note of the height of what an operand meant. -/
def note (e : Expression) (c : Count) : Count := { c with highest := max c.highest e.depth }

end Count

/-- Computations that count. -/
abbrev Counting (m : Type → Type) (α : Type) := ExceptT ParseError (StateT Count m) α

/-- Goes one deeper and comes up again; it refuses to go deeper than the limit. -/
def deeper {m : Type → Type} [Monad m] {α : Type} (x : Counting m α) : Counting m α := do
  let c ← get
  if c.inside < maxNesting then
    set c.enter
    let a ← x
    modify Count.leave
    pure a
  else throw (.nestingTooDeep maxNesting)

/-! ## §2. Computations that do the same -/

section
variable {σ α β : Type} {H : Nat → Prop} {n : Nat} {pre : Nat → Prop}

/-- What counting comes to: never deeper than the limit, and no height noted that is not
allowed by `H`.  With a result, the reader is back to where it was, inside `n`. -/
structure Outcome (H : Nat → Prop) (n : Nat) (post : α → Nat → Prop) (c : Count)
    (r : Except ParseError α) (c' : Count) : Prop where
  deepest : c'.deepest ≤ maxNesting
  highest : c'.highest = c.highest ∨ H c'.highest
  result : ∀ a, r = .ok a → c'.inside = n ∧ post a c'.highest

/-- Started inside `n`, the counting computation gives what the other gives and leaves the
same state.  What is asked for and what is ensured are about the greatest height so far. -/
def Tracks (H : Nat → Prop) (n : Nat) (pre : Nat → Prop) (x : Counting (StateM σ) α)
    (y : ExceptT ParseError (StateM σ) α) (post : α → Nat → Prop) : Prop :=
  ∀ (c : Count) (s : σ), c.inside = n → c.deepest ≤ maxNesting → pre c.highest →
    ∃ c' : Count, (x.run.run c).run s = (((y.run.run s).1, c'), (y.run.run s).2)
      ∧ Outcome H n post c (y.run.run s).1 c'

/-- Without a result nothing is ensured of one. -/
theorem Outcome.error {post : α → Nat → Prop} {c c' : Count} {cause : ParseError}
    (hdeepest : c'.deepest ≤ maxNesting) (hhighest : c'.highest = c.highest ∨ H c'.highest) :
    Outcome H n post c (.error cause) c' := by
  refine ⟨hdeepest, hhighest, ?_⟩
  intro a ha
  cases ha

theorem Outcome.ok {post : α → Nat → Prop} {c c' : Count} {a : α}
    (hdeepest : c'.deepest ≤ maxNesting) (hhighest : c'.highest = c.highest ∨ H c'.highest)
    (hinside : c'.inside = n) (hpost : post a c'.highest) : Outcome H n post c (.ok a) c' := by
  refine ⟨hdeepest, hhighest, ?_⟩
  intro b hb
  cases hb
  exact ⟨hinside, hpost⟩

theorem Tracks.pure {a : α} {post : α → Nat → Prop}
    (h : ∀ {highest}, pre highest → post a highest) :
    Tracks (σ := σ) H n pre (Pure.pure a) (Pure.pure a) post := by
  intro c s hinside hdeepest hpre
  exact ⟨c, rfl, Outcome.ok hdeepest (.inl rfl) hinside (h hpre)⟩

theorem Tracks.throw (cause : ParseError) (post : α → Nat → Prop) :
    Tracks (σ := σ) H n pre (MonadExcept.throw cause) (MonadExcept.throw cause) post := by
  intro c s _ hdeepest _
  exact ⟨c, rfl, Outcome.error hdeepest (.inl rfl)⟩

/-- A step without effects. -/
theorem Tracks.lift {r : Except ParseError α} {post : α → Nat → Prop}
    (h : ∀ {a highest}, r = .ok a → pre highest → post a highest) :
    Tracks (σ := σ) H n pre (liftM r) (liftM r) post := by
  cases r with
  | ok a => exact Tracks.pure (h rfl)
  | error cause => exact Tracks.throw cause post

theorem Tracks.plain (r : Except ParseError α) :
    Tracks (σ := σ) H n pre (liftM r) (liftM r) fun _ _ => True :=
  Tracks.lift fun _ _ => trivial

theorem Tracks.bind {x : Counting (StateM σ) α} {y : ExceptT ParseError (StateM σ) α}
    {f : α → Counting (StateM σ) β} {g : α → ExceptT ParseError (StateM σ) β}
    {mid : α → Nat → Prop} {post : β → Nat → Prop} (hx : Tracks H n pre x y mid)
    (hf : ∀ a, Tracks H n (mid a) (f a) (g a) post) :
    Tracks H n pre (x >>= f) (y >>= g) post := by
  intro c s hinside hdeepest hpre
  obtain ⟨c₁, hrun, hdeepest₁, hhighest₁, hresult₁⟩ := hx c s hinside hdeepest hpre
  rw [ExceptT.run_bind, StateT.run_bind, StateT.run_bind, hrun, ExceptT.run_bind, StateT.run_bind]
  cases hy : y.run.run s with
  | mk r s₁ =>
    rw [hy] at hresult₁
    cases r with
    | error cause => exact ⟨c₁, rfl, Outcome.error hdeepest₁ hhighest₁⟩
    | ok a =>
      obtain ⟨hinside₁, hmid⟩ := hresult₁ a rfl
      obtain ⟨c₂, hrun₂, hdeepest₂, hhighest₂, hresult₂⟩ := hf a c₁ s₁ hinside₁ hdeepest₁ hmid
      refine ⟨c₂, hrun₂, hdeepest₂, ?_, hresult₂⟩
      -- The height was noted by the second step, or by the first, or by neither.
      rcases hhighest₂ with hsame | hnoted
      · rw [hsame]
        exact hhighest₁
      · exact .inr hnoted

theorem run_deeper (x : Counting (StateM σ) α) (c : Count) (s : σ) :
    ((deeper x).run.run c).run s
      = ((if c.inside < maxNesting then
            (do
              set c.enter
              let a ← x
              modify Count.leave
              Pure.pure a : Counting (StateM σ) α)
          else MonadExcept.throw (.nestingTooDeep maxNesting)).run.run c).run s := rfl

/-- Going deeper is the same as going on, as long as the limit allows it. -/
theorem Tracks.deeper {x : Counting (StateM σ) α} {y : ExceptT ParseError (StateM σ) α}
    {post : α → Nat → Prop} (hn : n < maxNesting) (h : Tracks H (n + 1) pre x y post) :
    Tracks H n pre (Notation.deeper x) y post := by
  intro c s hinside hdeepest hpre
  subst hinside
  have hdeepest' : c.enter.deepest ≤ maxNesting := Nat.max_le.2 ⟨hdeepest, hn⟩
  obtain ⟨c₁, hrun, hdeepest₁, hhighest₁, hresult₁⟩ := h c.enter s rfl hdeepest' hpre
  rw [run_deeper, if_pos hn]
  show ∃ c', ((x >>= fun a => (do modify Count.leave; Pure.pure a)).run.run c.enter).run s = _ ∧ _
  rw [ExceptT.run_bind, StateT.run_bind, StateT.run_bind, hrun]
  cases hy : y.run.run s with
  | mk r s₁ =>
    rw [hy] at hresult₁
    cases r with
    | error cause => exact ⟨c₁, rfl, Outcome.error hdeepest₁ hhighest₁⟩
    | ok a =>
      obtain ⟨hinside₁, hpost⟩ := hresult₁ a rfl
      have hinside : c₁.inside - 1 = c.inside := by omega
      exact ⟨c₁.leave, rfl, Outcome.ok hdeepest₁ hhighest₁ hinside hpost⟩

/-- At the limit it is refused. -/
theorem Tracks.refused (x : Counting (StateM σ) α) (post : α → Nat → Prop) :
    Tracks H maxNesting pre (Notation.deeper x)
      (MonadExcept.throw (.nestingTooDeep maxNesting)) post := by
  intro c s hinside hdeepest hpre
  rw [run_deeper, if_neg (by omega)]
  exact Tracks.throw _ post c s hinside hdeepest hpre

/-- Whatever would come next. -/
theorem Tracks.refused_bind (x : Counting (StateM σ) α) (f : α → Counting (StateM σ) β)
    (post : β → Nat → Prop) :
    Tracks H maxNesting pre (Notation.deeper x >>= f)
      (MonadExcept.throw (.nestingTooDeep maxNesting)) post := by
  have hnever (a : α) : Tracks H maxNesting (fun _ => False) (f a)
      (MonadExcept.throw (.nestingTooDeep maxNesting)) post := by
    intro c s _ _ hfalse
    exact hfalse.elim
  exact (Tracks.refused x fun _ _ => False).bind hnever

end

end ContentGate.Notation

namespace ContentGate.Formula

open Notation

/-! ## §3. Formulas -/

section
variable {m : Type → Type} [Monad m]

/-- The meaning of an operand, and a note of its height. -/
def askCounting (meaning : Operand → ExceptT ParseError m Expression) (o : Operand) :
    Counting m Expression := do
  let e ← ExceptT.mk (StateT.lift (meaning o).run)
  modify (Count.note e)
  pure e

/-- The reader of units that counts; with more fuel than the limit it does not run out. -/
def unaryCounting (meaning : Operand → ExceptT ParseError m Expression) :
    (fuel : Nat) → Reader (StateT Count m)
  | _, [] => throw .unexpectedEnd
  | 0, ⟨.not, _⟩ :: _ => throw (.nestingTooDeep maxNesting)
  | fuel + 1, ⟨.not, _⟩ :: ts => do
    let (e, rest) ← deeper (unaryCounting meaning fuel ts)
    let e ← bounded e.not
    pure (e, rest)
  | 0, ⟨.openParen, _⟩ :: _ => throw (.nestingTooDeep maxNesting)
  | fuel + 1, ⟨.openParen, _⟩ :: ts => do
    let (e, rest) ← deeper (orChain (unaryCounting meaning fuel) ts)
    match rest with
    | ⟨.closeParen, _⟩ :: rest => pure (e, rest)
    | t :: _ => throw t.unexpected
    | [] => throw .unexpectedEnd
  | _, ⟨.item first, _⟩ :: ts => do
    let (items, rest) ← operand first ts
    let e ← askCounting meaning items
    pure (e, rest)
  | _, t :: _ => throw t.unexpected

/-- The condition of a formula, counting. -/
def compileCounting (fuel : Nat) (raw : String)
    (meaning : Operand → ExceptT ParseError m Expression) : Counting m Expression := do
  let cs := Text.trim raw.toList
  if cs.isEmpty then throw .emptyExpression
  let ts ← tokens cs
  if !parensBalance 0 ts then throw (.unbalancedParentheses (String.ofList cs))
  let (e, rest) ← orChain (unaryCounting meaning fuel) ts
  match rest with
  | t :: _ => throw t.unexpected
  | [] => pure e

end

section
variable {σ : Type} {H : Nat → Prop} {n : Nat} {pre : Nat → Prop}

/-- The heights of what operands may mean. -/
def MeansHeight (meaning : Operand → ExceptT ParseError (StateM σ) Expression) (k : Nat) :
    Prop :=
  ∃ (o : Operand) (s : σ) (e : Expression), ((meaning o).run.run s).1 = .ok e ∧ e.depth = k

/-- An operand means the same, and its height is noted. -/
theorem Tracks.ask (meaning : Operand → ExceptT ParseError (StateM σ) Expression) (o : Operand) :
    Tracks (MeansHeight meaning) n pre (askCounting meaning o) (meaning o)
      (fun e highest => e.depth ≤ highest) := by
  intro c s hinside hdeepest hpre
  have hlift : ((ExceptT.mk (StateT.lift (meaning o).run) :
        Counting (StateM σ) Expression).run.run c).run s
      = ((((meaning o).run.run s).1, c), ((meaning o).run.run s).2) := rfl
  unfold askCounting
  rw [ExceptT.run_bind, StateT.run_bind, StateT.run_bind, hlift]
  cases hy : (meaning o).run.run s with
  | mk r s₁ =>
    cases r with
    | error cause => exact ⟨c, rfl, Outcome.error hdeepest (.inl rfl)⟩
    | ok e =>
      have hhighest : (c.note e).highest = c.highest ∨ MeansHeight meaning (c.note e).highest := by
        show max c.highest e.depth = c.highest ∨ MeansHeight meaning (max c.highest e.depth)
        -- The greatest height is the one so far, or the one that is noted.
        by_cases hle : e.depth ≤ c.highest
        · exact .inl (Nat.max_eq_left hle)
        · rw [Nat.max_eq_right (by omega)]
          exact .inr ⟨o, s, e, congrArg (·.1) hy, rfl⟩
      exact ⟨c.note e, rfl, Outcome.ok hdeepest hhighest hinside (Nat.le_max_right _ _)⟩

/-- A condition is no higher than the limit or than what an operand meant. -/
def Bounded (e : Expression) (highest : Nat) : Prop := e.depth ≤ max maxNesting highest

/-- Inside `n`, both readers give the same. -/
def ReaderTracks (H : Nat → Prop) (n : Nat) (read : Reader (StateT Count (StateM σ)))
    (read' : Reader (StateM σ)) : Prop :=
  ∀ (pre : Nat → Prop) (ts : List Token),
    Tracks H n pre (read ts) (read' ts) fun found highest => Bounded found.1 highest

/-- A tree that is not refused is no higher than the limit. -/
theorem Tracks.bounded (pre : Nat → Prop) (e : Expression) :
    Tracks (σ := σ) H n pre (liftM (bounded e)) (liftM (bounded e)) Bounded := by
  refine Tracks.lift ?_
  intro e' highest he' _
  unfold Formula.bounded at he'
  by_cases h : e.depth ≤ maxNesting
  · rw [if_pos h] at he'
    cases he'
    exact Nat.le_trans h (Nat.le_max_left _ _)
  · rw [if_neg h] at he'
    cases he'

variable {unit : Reader (StateT Count (StateM σ))} {unit' : Reader (StateM σ)}

/-- **Chains are read alike if their units are**: what is joined is bounded anew. -/
theorem chain_tracks (h : ReaderTracks H n unit unit') (kind : TokenKind) (op : Operator)
    (fuel : Nat) (left : Expression) (ts : List Token) :
    Tracks H n (Bounded left) (chain kind op unit fuel left ts)
      (chain kind op unit' fuel left ts) fun found highest => Bounded found.1 highest := by
  induction fuel generalizing left ts with
  | zero => exact Tracks.pure id
  | succ fuel ih =>
    rcases ts with _ | ⟨t, ts⟩
    · exact Tracks.pure id
    · rw [chain, chain]
      by_cases ht : t.kind = kind
      · rw [if_pos ht, if_pos ht]
        refine Tracks.bind (h _ ts) ?_
        rintro ⟨right, rest⟩
        -- How high the two sides are does not matter any more.
        refine Tracks.bind (Tracks.bounded _ _) ?_
        intro joined
        exact ih joined rest
      · rw [if_neg ht, if_neg ht]
        exact Tracks.pure id

theorem andChain_tracks (h : ReaderTracks H n unit unit') :
    ReaderTracks H n (andChain unit) (andChain unit') := by
  intro pre ts
  refine Tracks.bind (h pre ts) ?_
  rintro ⟨left, rest⟩
  exact chain_tracks h .and .and rest.length left rest

theorem orChain_tracks (h : ReaderTracks H n unit unit') :
    ReaderTracks H n (orChain unit) (orChain unit') := by
  intro pre ts
  refine Tracks.bind (andChain_tracks h pre ts) ?_
  rintro ⟨left, rest⟩
  exact chain_tracks (andChain_tracks h) .or .or rest.length left rest

variable (meaning : Operand → ExceptT ParseError (StateM σ) Expression)

/-- An operand is read alike on every level. -/
theorem item_tracks (fuel levels : Nat) (pre : Nat → Prop) (first : String) (position : Nat)
    (ts : List Token) :
    Tracks (MeansHeight meaning) n pre
      (unaryCounting meaning fuel (⟨.item first, position⟩ :: ts))
      (unary meaning levels (⟨.item first, position⟩ :: ts))
      fun found highest => Bounded found.1 highest := by
  have hcounting : unaryCounting meaning fuel (⟨.item first, position⟩ :: ts) = (do
      let (items, rest) ← (liftM (operand first ts) : Counting (StateM σ) _)
      let e ← askCounting meaning items
      pure (e, rest)) := by
    cases fuel <;> rfl
  have hplain : unary meaning levels (⟨.item first, position⟩ :: ts) = (do
      let (items, rest) ← (liftM (operand first ts) : ExceptT ParseError (StateM σ) _)
      let e ← meaning items
      pure (e, rest)) := by
    cases levels <;> rfl
  rw [hcounting, hplain]
  refine Tracks.bind (Tracks.plain _) ?_
  rintro ⟨items, rest⟩
  refine Tracks.bind (Tracks.ask meaning items) ?_
  intro e
  refine Tracks.pure ?_
  intro highest hle
  exact Nat.le_trans hle (Nat.le_max_right _ _)

/-- **Units are read alike**, with the levels that are left inside `n` and more fuel than that. -/
theorem unary_tracks {levels fuel : Nat} (hlevels : n + levels = maxNesting)
    (hfuel : levels < fuel) :
    ReaderTracks (MeansHeight meaning) n (unaryCounting meaning fuel) (unary meaning levels) := by
  -- Only `!` and `(` take a level and go deeper, so the levels carry the induction.
  induction levels generalizing n fuel with
  | zero =>
    -- One reader has no level left, and the counter of the other is at the limit.
    obtain rfl : n = maxNesting := hlevels
    obtain ⟨fuel, rfl⟩ : ∃ k, fuel = k + 1 := ⟨fuel - 1, by omega⟩
    intro pre ts
    rcases ts with _ | ⟨⟨kind, position⟩, ts⟩
    · exact Tracks.throw _ _
    · cases kind with
      | item first => exact item_tracks meaning _ _ pre first position ts
      | not => exact Tracks.refused_bind _ _ _
      | openParen => exact Tracks.refused_bind _ _ _
      | _ => exact Tracks.throw _ _
  | succ levels ih =>
    obtain ⟨fuel, rfl⟩ : ∃ k, fuel = k + 1 := ⟨fuel - 1, by omega⟩
    have hunit : ReaderTracks (MeansHeight meaning) (n + 1) (unaryCounting meaning fuel)
        (unary meaning levels) := ih (by omega) (by omega)
    have hn : n < maxNesting := by omega
    intro pre ts
    rcases ts with _ | ⟨⟨kind, position⟩, ts⟩
    · exact Tracks.throw _ _
    · cases kind with
      | item first => exact item_tracks meaning _ _ pre first position ts
      | not =>
        refine Tracks.bind ((hunit pre ts).deeper hn) ?_
        rintro ⟨e, rest⟩
        refine Tracks.bind (Tracks.bounded _ _) ?_
        intro e'
        exact Tracks.pure id
      | openParen =>
        refine Tracks.bind ((orChain_tracks hunit pre ts).deeper hn) ?_
        rintro ⟨e, rest⟩
        rcases rest with _ | ⟨⟨kind, position'⟩, rest⟩
        · exact Tracks.throw _ _
        · cases kind with
          | closeParen => exact Tracks.pure id
          | _ => exact Tracks.throw _ _
      | _ => exact Tracks.throw _ _

/-- **A formula is compiled alike by the reader that counts**, whatever its fuel above the
limit.  The counter says that the reader is never inside more `!` and `(` than the limit,
and what is read is no higher than the limit or than what an operand meant. -/
theorem compileCounting_tracks {fuel : Nat} (hfuel : maxNesting < fuel) (raw : String) (s : σ) :
    ∃ c : Count, ((compileCounting fuel raw meaning).run.run {}).run s
        = ((((compile raw meaning).run.run s).1, c), ((compile raw meaning).run.run s).2)
      ∧ c.deepest ≤ maxNesting
      ∧ (c.highest = 0 ∨ MeansHeight meaning c.highest)
      ∧ ∀ e, ((compile raw meaning).run.run s).1 = .ok e → e.depth ≤ max maxNesting c.highest := by
  have hread : ReaderTracks (MeansHeight meaning) 0 (unaryCounting meaning fuel)
      (unary meaning maxNesting) := unary_tracks meaning (Nat.zero_add _) hfuel
  have htracks : Tracks (MeansHeight meaning) 0 (fun _ => True)
      (compileCounting fuel raw meaning) (compile raw meaning) Bounded := by
    unfold compileCounting compile
    by_cases hempty : (Text.trim raw.toList).isEmpty = true
    · rw [if_pos hempty, if_pos hempty]
      exact Tracks.throw _ _
    · rw [if_neg hempty, if_neg hempty]
      refine Tracks.bind (Tracks.plain _) ?_
      intro ts
      by_cases hbalance : (!parensBalance 0 ts) = true
      · rw [if_pos hbalance, if_pos hbalance]
        exact Tracks.throw _ _
      · rw [if_neg hbalance, if_neg hbalance]
        refine Tracks.bind (orChain_tracks hread _ ts) ?_
        rintro ⟨e, rest⟩
        rcases rest with _ | ⟨t, rest⟩
        · exact Tracks.pure id
        · exact Tracks.throw _ _
  obtain ⟨c, hrun, hdeepest, hhighest, hresult⟩ := htracks {} s rfl (Nat.zero_le _) trivial
  exact ⟨c, hrun, hdeepest, hhighest, fun e he => (hresult e he).2⟩

end

end ContentGate.Formula

namespace ContentGate.Direct

open Notation Text

/-! ## §4. Direct conditions -/

section
variable {m : Type → Type} [Monad m]

mutual

/-- The reader of texts with operators, counting. -/
def expressionCounting : (fuel : Nat) → List Char → Counting m Expression
  | 0, _ => throw (.nestingTooDeep maxNesting)
  | fuel + 1, cs => deeper do
    let cs := trim cs
    if cs.isEmpty then throw .unexpectedEnd
    else
      match split? cs with
      | some s => do
        let left ← expressionCounting fuel (trim s.left)
        let right ← expressionCounting fuel (trim s.right)
        pure (.binary left s.op right)
      | none => operandCounting fuel cs

/-- The reader of texts without operators, counting. -/
def operandCounting : (fuel : Nat) → List Char → Counting m Expression
  | 0, _ => throw (.nestingTooDeep maxNesting)
  | fuel + 1, cs => deeper do
    let cs := trim cs
    match dropWord? ['!'] cs with
    | some rest => do
      let e ← operandCounting fuel rest
      pure (.unary .not e)
    | none =>
      match negated? cs with
      | some rest => do
        let e ← operandCounting fuel rest
        pure (.unary .negate e)
      | none =>
        match enclosed? cs with
        | some inner => expressionCounting fuel inner
        | none =>
          match literal? cs with
          | some v => pure (.literal v)
          | none =>
            match call? cs with
            | some (name, inner) => do
              let args ← arguments inner
              let args ← args.mapM (expressionCounting fuel)
              pure (.call (String.ofList name) args)
            | none => throw (.invalidExpression ("Cannot parse: " ++ String.ofList cs))

end

/-- The condition of a direct text, counting. -/
def parseCounting (fuel : Nat) (raw : String) : Counting m Expression := do
  let cs := trim raw.toList
  if cs.isEmpty then throw .emptyExpression
  check cs
  expressionCounting fuel cs

end

section
variable {σ : Type} {H : Nat → Prop} {n : Nat} {α β : Type}

/-- Inside `n`, the reader that counts gives what the other gives. -/
def ReaderTracks (H : Nat → Prop) (n : Nat) (read : List Char → Counting (StateM σ) Expression)
    (read' : List Char → Except ParseError Expression) : Prop :=
  ∀ (pre : Nat → Prop) (cs : List Char), Tracks H n pre (read cs) (liftM (read' cs)) fun _ _ => True

/-- A step of a reader without effects. -/
theorem tracks_bind {pre : Nat → Prop} {x : Counting (StateM σ) α} {r : Except ParseError α}
    {f : α → Counting (StateM σ) β} {g : α → Except ParseError β}
    (hx : Tracks H n pre x (liftM r) fun _ _ => True)
    (hf : ∀ a, Tracks H n (fun _ => True) (f a) (liftM (g a)) fun _ _ => True) :
    Tracks H n pre (x >>= f) (liftM (r >>= g)) fun _ _ => True := by
  have hlift : (liftM (r >>= g) : ExceptT ParseError (StateM σ) β)
      = (liftM r : ExceptT ParseError (StateM σ) α) >>= fun a => liftM (g a) := by
    cases r <;> rfl
  rw [hlift]
  exact hx.bind hf

theorem mapM_tracks {read : List Char → Counting (StateM σ) Expression}
    {read' : List Char → Except ParseError Expression} (h : ReaderTracks H n read read')
    (pre : Nat → Prop) (css : List (List Char)) :
    Tracks H n pre (css.mapM read) (liftM (css.mapM read')) fun _ _ => True := by
  induction css generalizing pre with
  | nil => exact Tracks.plain _
  | cons cs css ih =>
    rw [List.mapM_cons, List.mapM_cons]
    refine tracks_bind (h pre cs) ?_
    intro e
    refine tracks_bind (ih _) ?_
    intro es
    exact Tracks.plain _

section
variable {fuel levels : Nat}

/-- One level of a text with operators. -/
theorem expression_tracks (hn : n < maxNesting)
    (hexpression : ReaderTracks (σ := σ) H (n + 1) (expressionCounting fuel) (expression levels))
    (hoperand : ReaderTracks (σ := σ) H (n + 1) (operandCounting fuel) (operand levels)) :
    ReaderTracks (σ := σ) H n (expressionCounting (fuel + 1)) (expression (levels + 1)) := by
  intro pre cs
  rw [expressionCounting, expression]
  refine Tracks.deeper hn ?_
  by_cases hempty : (trim cs).isEmpty = true
  · rw [if_pos hempty, if_pos hempty]
    exact Tracks.throw _ _
  · rw [if_neg hempty, if_neg hempty]
    cases split? (trim cs) with
    | none => exact hoperand pre _
    | some s =>
      refine tracks_bind (hexpression pre _) ?_
      intro left
      refine tracks_bind (hexpression _ _) ?_
      intro right
      exact Tracks.plain _

/-- One level of a text without operators. -/
theorem operand_tracks (hn : n < maxNesting)
    (hexpression : ReaderTracks (σ := σ) H (n + 1) (expressionCounting fuel) (expression levels))
    (hoperand : ReaderTracks (σ := σ) H (n + 1) (operandCounting fuel) (operand levels)) :
    ReaderTracks (σ := σ) H n (operandCounting (fuel + 1)) (operand (levels + 1)) := by
  intro pre cs
  rw [operandCounting, operand]
  refine Tracks.deeper hn ?_
  dsimp only
  cases dropWord? ['!'] (trim cs) with
  | some rest =>
    refine tracks_bind (hoperand pre rest) ?_
    intro e
    exact Tracks.plain _
  | none =>
    cases negated? (trim cs) with
    | some rest =>
      refine tracks_bind (hoperand pre rest) ?_
      intro e
      exact Tracks.plain _
    | none =>
      cases enclosed? (trim cs) with
      | some inner => exact hexpression pre inner
      | none =>
        cases literal? (trim cs) with
        | some v => exact Tracks.plain _
        | none =>
          cases call? (trim cs) with
          | none => exact Tracks.throw _ _
          | some call =>
            obtain ⟨name, inner⟩ := call
            refine tracks_bind (Tracks.plain (arguments inner)) ?_
            intro args
            refine tracks_bind (mapM_tracks hexpression _ args) ?_
            intro es
            exact Tracks.plain _

/-- **Both readers are tracked**, with the levels that are left inside `n`. -/
theorem readers_track (hlevels : n + levels = maxNesting) (hfuel : levels < fuel) :
    ReaderTracks (σ := σ) H n (expressionCounting fuel) (expression levels)
      ∧ ReaderTracks (σ := σ) H n (operandCounting fuel) (operand levels) := by
  -- Each of the two readers calls both, one level down and one deeper.
  induction levels generalizing n fuel with
  | zero =>
    obtain rfl : n = maxNesting := hlevels
    obtain ⟨fuel, rfl⟩ : ∃ k, fuel = k + 1 := ⟨fuel - 1, by omega⟩
    constructor
    · intro pre cs
      rw [expressionCounting, expression]
      exact Tracks.refused _ _
    · intro pre cs
      rw [operandCounting, operand]
      exact Tracks.refused _ _
  | succ levels ih =>
    obtain ⟨fuel, rfl⟩ : ∃ k, fuel = k + 1 := ⟨fuel - 1, by omega⟩
    have hn : n < maxNesting := by omega
    have hlevels' : n + 1 + levels = maxNesting := by omega
    have hfuel' : levels < fuel := by omega
    obtain ⟨hexpression, hoperand⟩ := ih hlevels' hfuel'
    exact ⟨expression_tracks hn hexpression hoperand, operand_tracks hn hexpression hoperand⟩

end

/-- **A direct condition is read alike by the reader that counts**, whatever its fuel above
the limit, and the counter says that no call is inside more calls than the limit. -/
theorem parseCounting_tracks {fuel : Nat} (hfuel : maxNesting < fuel) (raw : String) (s : σ) :
    ∃ c : Count,
      ((parseCounting fuel raw : Counting (StateM σ) Expression).run.run {}).run s
          = ((parse raw, c), s)
        ∧ c.deepest ≤ maxNesting := by
  have htracks : Tracks (σ := σ) (fun _ => False) 0 (fun _ => True) (parseCounting fuel raw)
      (liftM (parse raw)) fun _ _ => True := by
    unfold parseCounting parse
    by_cases hempty : (trim raw.toList).isEmpty = true
    · rw [if_pos hempty, if_pos hempty]
      exact Tracks.throw _ _
    · rw [if_neg hempty, if_neg hempty]
      refine tracks_bind (Tracks.plain _) ?_
      rintro ⟨⟩
      exact (readers_track (Nat.zero_add _) hfuel).1 _ _
  obtain ⟨c, hrun, hdeepest, -, -⟩ := htracks {} s rfl (Nat.zero_le _) trivial
  refine ⟨c, ?_, hdeepest⟩
  rw [hrun]
  cases parse raw <;> rfl

end

end ContentGate.Direct
