/-
  ContentGate.Proofs.Notation.Reading — the reader of formulas follows the grammar.

  What the reader accepts has a derivation whose value it returns, and
  every derivation within the limits is accepted.  Both halves are
  proved for any meaning of operands that may fail: the derivation then
  consists of operands whose meanings do not fail.

  Main statements:
    * `reader_sound` — by induction on the levels, and within a level on
      the chains, what is read has a derivation;
    * `Derivation.reached` — by induction on the derivation, the reader
      comes to its end with its value;
    * `exists_derivation`, `condition_of_derivation` — the same of whole
      texts;
    * `condition_eq_ok_iff` — the texts that are accepted, and their
      conditions, when every operand has a meaning.
-/
import ContentGate.Invocation.Compile
import ContentGate.Proofs.Notation.Grammar
import ContentGate.Proofs.Notation.Lexing

namespace ContentGate.Formula

open Notation

/-! ## §1. Computations that succeed -/

section
variable {α β : Type}

/-- The computation gives `a`. -/
def Gives (x : ExceptT ParseError Id α) (a : α) : Prop := x = pure a

theorem gives_pure {a b : α} : Gives (pure a) b ↔ a = b := by
  constructor
  · intro h
    cases h
    rfl
  · rintro rfl
    rfl

theorem not_gives_throw {cause : ParseError} {a : α} : ¬ Gives (throw cause) a := by
  intro h
  cases h

theorem gives_bind {x : ExceptT ParseError Id α} {g : α → ExceptT ParseError Id β} {b : β} :
    Gives (x >>= g) b ↔ ∃ a, Gives x a ∧ Gives (g a) b := by
  constructor
  · intro h
    cases x with
    | ok a => exact ⟨a, rfl, h⟩
    | error cause => cases h
  · rintro ⟨a, rfl, h⟩
    exact h

theorem gives_liftM {r : Except ParseError α} {a : α} :
    Gives (liftM r) a ↔ r = .ok a := by
  cases r with
  | ok b => exact gives_pure.trans (by simp)
  | error cause =>
    constructor
    · intro h
      cases h
    · intro h
      cases h

end

/-! ## §2. Derivations within the limits -/

/-- With so many levels allowed, nothing about the derivation is refused. -/
structure Derivation.Fits (f : Operand → Expression) (levels : Nat) {c : Category}
    (d : Derivation c) : Prop where
  items : d.ItemsMatter
  nesting : d.nesting ≤ levels
  heights : d.HeightsBounded f

namespace Derivation.Fits

variable {f : Operand → Expression} {levels : Nat} {op : Connective}

/-- A negation leaves one level less for what is inside. -/
theorem of_not {inner : Derivation .unary} (h : (Derivation.not inner).Fits f levels) :
    ∃ l, levels = l + 1 ∧ inner.Fits f l := by
  have hnesting : inner.nesting + 1 ≤ levels := h.nesting
  refine ⟨levels - 1, by omega, h.items, by omega, h.heights.1⟩

/-- So does a group. -/
theorem of_group {inner : Derivation (.chain .or)} (h : (Derivation.group inner).Fits f levels) :
    ∃ l, levels = l + 1 ∧ inner.Fits f l := by
  have hnesting : inner.nesting + 1 ≤ levels := h.nesting
  refine ⟨levels - 1, by omega, h.items, by omega, h.heights⟩

theorem single_iff {first : Derivation op.unit} :
    (Derivation.single first).Fits f levels ↔ first.Fits f levels :=
  ⟨fun h => ⟨h.items, h.nesting, h.heights⟩, fun h => ⟨h.items, h.nesting, h.heights⟩⟩

theorem link_iff {left : Derivation (.chain op)} {right : Derivation op.unit} :
    (Derivation.link left right).Fits f levels ↔
      left.Fits f levels ∧ right.Fits f levels ∧
        (Expression.binary (left.value f) op.operator (right.value f)).depth ≤ maxNesting := by
  constructor
  · intro h
    obtain ⟨hitems₁, hitems₂⟩ := List.forall_mem_append.1 h.items
    obtain ⟨hnesting₁, hnesting₂⟩ := Nat.max_le.1 h.nesting
    obtain ⟨hheights₁, hheights₂, hdepth⟩ := h.heights
    exact ⟨⟨hitems₁, hnesting₁, hheights₁⟩, ⟨hitems₂, hnesting₂, hheights₂⟩, hdepth⟩
  · rintro ⟨h₁, h₂, hdepth⟩
    exact ⟨List.forall_mem_append.2 ⟨h₁.items, h₂.items⟩, Nat.max_le.2 ⟨h₁.nesting, h₂.nesting⟩,
      h₁.heights, h₂.heights, hdepth⟩

end Derivation.Fits

theorem gives_bounded {e e' : Expression} :
    Gives (liftM (bounded e)) e' ↔ e.depth ≤ maxNesting ∧ e = e' := by
  rw [gives_liftM]
  unfold bounded
  by_cases h : e.depth ≤ maxNesting
  · simp [h]
  · simp [h]

section
variable (meaning : Operand → Except ParseError Expression) (f : Operand → Expression)

/-- The meaning of operands, as the reader asks for it. -/
def asked (o : Operand) : ExceptT ParseError Id Expression := liftM (meaning o)

/-- The readers of the categories. -/
def reader : Category → (levels : Nat) → Reader Id
  | .unary, levels => unary (asked meaning) levels
  | .chain .and, levels => andChain (unary (asked meaning) levels)
  | .chain .or, levels => orChain (unary (asked meaning) levels)

/-- A chain is read unit by unit. -/
theorem reader_chain (op : Connective) (levels : Nat) (ts : List Token) :
    reader meaning (.chain op) levels ts = (do
      let (left, rest) ← reader meaning op.unit levels ts
      chain op.kind op.operator (reader meaning op.unit levels) rest.length left rest) := by
  cases op <;> rfl

/-- The tokens before `rest` have the derivation `d`, and it has the value `e`. -/
structure Found (levels : Nat) (ts : List Token) (e : Expression) (rest : List Token)
    {c : Category} (d : Derivation c) : Prop where
  tokens : ts.map Token.kind = d.tokens ++ rest.map Token.kind
  value : d.value f = e
  fits : d.Fits f levels
  meanings : ∀ o ∈ d.operands, meaning o = .ok (f o)

/-- What the reader gives is found. -/
def Sound (c : Category) (levels : Nat) (read : Reader Id) : Prop :=
  ∀ ts e rest, Gives (read ts) (e, rest) →
    ∃ d : Derivation c, Found meaning f levels ts e rest d

end

/-! ## §3. What is read has a derivation -/

section
variable {meaning : Operand → Except ParseError Expression} {f : Operand → Expression}
variable {levels : Nat} {op : Connective}

theorem Found.link {ts mid rest : List Token} {e e' : Expression} {t : Token}
    {left : Derivation (.chain op)} {right : Derivation op.unit}
    (hleft : Found meaning f levels ts e (t :: mid) left) (ht : t.kind = op.kind)
    (hright : Found meaning f levels mid e' rest right)
    (hdepth : (Expression.binary e op.operator e').depth ≤ maxNesting) :
    Found meaning f levels ts (.binary e op.operator e') rest (.link left right) := by
  obtain ⟨htl, rfl, hfl, hml⟩ := hleft
  obtain ⟨htr, rfl, hfr, hmr⟩ := hright
  refine ⟨?_, rfl, Derivation.Fits.link_iff.2 ⟨hfl, hfr, hdepth⟩, ?_⟩
  · rw [htl, List.map_cons, ht, htr]
    simp [Derivation.tokens]
  · exact List.forall_mem_append.2 ⟨hml, hmr⟩

/-- Reading on behind a chain finds a longer chain. -/
theorem chain_sound {unit : Reader Id} (hunit : Sound meaning f op.unit levels unit) {fuel : Nat}
    {left e : Expression} {ts mid rest : List Token} {d : Derivation (.chain op)}
    (hd : Found meaning f levels ts left mid d)
    (h : Gives (chain op.kind op.operator unit fuel left mid) (e, rest)) :
    ∃ d : Derivation (.chain op), Found meaning f levels ts e rest d := by
  induction fuel generalizing left mid d with
  | zero =>
    rw [chain, gives_pure] at h
    cases h
    exact ⟨d, hd⟩
  | succ fuel ih =>
    cases mid with
    | nil =>
      rw [chain, gives_pure] at h
      cases h
      exact ⟨d, hd⟩
    | cons t mid =>
      rw [chain] at h
      by_cases ht : t.kind = op.kind
      · -- The connective and one more unit make the derivation one link longer.
        rw [if_pos ht, gives_bind] at h
        obtain ⟨⟨right, behind⟩, hright, h⟩ := h
        rw [gives_bind] at h
        obtain ⟨joined, hjoined, h⟩ := h
        obtain ⟨hdepth, rfl⟩ := gives_bounded.1 hjoined
        obtain ⟨u, hu⟩ := hunit _ _ _ hright
        exact ih (hd.link ht hu hdepth) h
      · rw [if_neg ht, gives_pure] at h
        cases h
        exact ⟨d, hd⟩

/-- A reader of units makes a reader of chains. -/
theorem chain_reader_sound
    (hunit : Sound meaning f op.unit levels (reader meaning op.unit levels)) :
    Sound meaning f (.chain op) levels (reader meaning (.chain op) levels) := by
  intro ts e rest h
  rw [reader_chain, gives_bind] at h
  obtain ⟨⟨left, mid⟩, hleft, h⟩ := h
  obtain ⟨first, hfirst⟩ := hunit _ _ _ hleft
  have hsingle : Found meaning f levels ts left mid (.single first) :=
    ⟨hfirst.tokens, hfirst.value, Derivation.Fits.single_iff.2 hfirst.fits, hfirst.meanings⟩
  exact chain_sound hunit hsingle h

/-- The further items of an operand are a comma and an item, again and again. -/
theorem moreItems_tokens {ts rest : List Token} {items : List String}
    (h : moreItems ts = .ok (items, rest)) :
    ts.map Token.kind = Derivation.itemTokens items ++ rest.map Token.kind := by
  fun_induction moreItems ts generalizing items with
  | case1 _ s _ ts ih =>
    cases hmore : moreItems ts with
    | error cause =>
      rw [hmore] at h
      cases h
    | ok found =>
      rw [hmore] at h
      cases h
      show .comma :: .item s :: ts.map Token.kind = _
      rw [ih hmore]
      rfl
  | case2 => cases h
  | case3 => cases h
  | case4 ts =>
    cases h
    rfl

theorem operand_tokens {first : String} {ts rest : List Token} {items : Operand}
    (h : operand first ts = .ok (items, rest)) :
    ∃ more, items = first :: more
      ∧ ts.map Token.kind = Derivation.itemTokens more ++ rest.map Token.kind
      ∧ ∀ item ∈ items, Text.trim item.toList ≠ [] := by
  unfold operand at h
  cases hmore : moreItems ts with
  | error cause =>
    rw [hmore] at h
    cases h
  | ok found =>
    obtain ⟨more, rest'⟩ := found
    simp only [hmore, bind, Except.bind] at h
    cases hblank : (first :: more).find? (Text.blank ·.toList) with
    | some item =>
      rw [hblank] at h
      cases h
    | none =>
      rw [hblank] at h
      cases h
      refine ⟨more, rfl, moreItems_tokens hmore, ?_⟩
      intro item hitem htrim
      exact List.find?_eq_none.1 hblank item hitem (Text.trim_eq_nil_iff.1 htrim)

theorem reader_item (first : String) (position levels : Nat) (ts : List Token) :
    reader meaning .unary levels (⟨.item first, position⟩ :: ts) = (do
      let (items, rest) ← (liftM (operand first ts) : ExceptT ParseError Id _)
      let e ← asked meaning items
      pure (e, rest)) := by
  cases levels <;> rfl

theorem item_sound (hf : ∀ o e, meaning o = .ok e → f o = e) {first : String} {position : Nat}
    {ts rest : List Token} {e : Expression}
    (h : Gives (reader meaning .unary levels (⟨.item first, position⟩ :: ts)) (e, rest)) :
    ∃ d : Derivation .unary, Found meaning f levels (⟨.item first, position⟩ :: ts) e rest d := by
  rw [reader_item, gives_bind] at h
  obtain ⟨⟨items, mid⟩, hitems, h⟩ := h
  rw [gives_bind] at h
  obtain ⟨e', hmeaning, h⟩ := h
  rw [gives_pure] at h
  cases h
  obtain ⟨more, rfl, htokens, hmatter⟩ := operand_tokens (gives_liftM.1 hitems)
  have he := gives_liftM.1 hmeaning
  refine ⟨.operand first more, ⟨?_, hf _ _ he, ⟨?_, Nat.zero_le _, trivial⟩, ?_⟩⟩
  · rw [List.map_cons, htokens]
    rfl
  · exact List.forall_mem_singleton.2 hmatter
  · refine List.forall_mem_singleton.2 ?_
    rw [he, hf _ _ he]

theorem Found.not {ts rest : List Token} {e : Expression} {position : Nat}
    {inner : Derivation .unary} (h : Found meaning f levels ts e rest inner)
    (hdepth : e.not.depth ≤ maxNesting) :
    Found meaning f (levels + 1) (⟨.not, position⟩ :: ts) e.not rest (.not inner) := by
  obtain ⟨htokens, rfl, hfits, hm⟩ := h
  refine ⟨?_, rfl, ⟨hfits.items, ?_, hfits.heights, hdepth⟩, hm⟩
  · rw [List.map_cons, htokens]
    rfl
  · exact Nat.succ_le_succ hfits.nesting

theorem Found.group {ts rest : List Token} {e : Expression} {position position' : Nat}
    {inner : Derivation (.chain .or)}
    (h : Found meaning f levels ts e (⟨.closeParen, position'⟩ :: rest) inner) :
    Found meaning f (levels + 1) (⟨.openParen, position⟩ :: ts) e rest (.group inner) := by
  obtain ⟨htokens, rfl, hfits, hm⟩ := h
  refine ⟨?_, rfl, ⟨hfits.items, ?_, hfits.heights⟩, hm⟩
  · rw [List.map_cons, htokens]
    simp [Derivation.tokens]
  · exact Nat.succ_le_succ hfits.nesting

/-- **What the reader gives, a derivation within the levels has as its value.** -/
theorem reader_sound (hf : ∀ o e, meaning o = .ok e → f o = e) (levels : Nat) :
    Sound meaning f .unary levels (reader meaning .unary levels) := by
  -- Only `!` and `(` go down a level, so the levels carry the induction.
  induction levels with
  | zero =>
    intro ts e rest h
    rcases ts with _ | ⟨⟨kind, position⟩, ts⟩
    · exact absurd h not_gives_throw
    · cases kind with
      | item first => exact item_sound hf h
      | _ => exact absurd h not_gives_throw
  | succ levels ih =>
    -- What stands in a group is a chain of chains, one level down.
    have hchain : Sound meaning f (.chain .or) levels (reader meaning (.chain .or) levels) :=
      chain_reader_sound (chain_reader_sound ih)
    intro ts e rest h
    rcases ts with _ | ⟨⟨kind, position⟩, ts⟩
    · exact absurd h not_gives_throw
    · cases kind with
      | item first => exact item_sound hf h
      | not =>
        obtain ⟨⟨inner, mid⟩, hinner, h⟩ := gives_bind.1 h
        obtain ⟨e', hbounded, h⟩ := gives_bind.1 h
        obtain ⟨hdepth, rfl⟩ := gives_bounded.1 hbounded
        cases gives_pure.1 h
        obtain ⟨d, hd⟩ := ih _ _ _ hinner
        exact ⟨.not d, hd.not hdepth⟩
      | openParen =>
        obtain ⟨⟨inner, mid⟩, hinner, h⟩ := gives_bind.1 h
        obtain ⟨d, hd⟩ := hchain _ _ _ hinner
        rcases mid with _ | ⟨⟨kind, position'⟩, mid⟩
        · exact absurd h not_gives_throw
        · cases kind with
          | closeParen =>
            cases gives_pure.1 h
            exact ⟨.group d, hd.group⟩
          | _ => exact absurd h not_gives_throw
      | _ => exact absurd h not_gives_throw

/-! ## §4. What has a derivation is read -/

theorem exists_cons_of_kinds {us : List Token} {kind : TokenKind} {kinds : List TokenKind}
    (h : us.map Token.kind = kind :: kinds) :
    ∃ position us', us = ⟨kind, position⟩ :: us' ∧ us'.map Token.kind = kinds := by
  obtain ⟨⟨_, position⟩, us', rfl, rfl, hus'⟩ := List.map_eq_cons_iff.1 h
  exact ⟨position, us', rfl, hus'⟩

/-- Tokens on two sides of one. -/
theorem exists_joined_of_kinds {us : List Token} {kind : TokenKind} {kinds kinds' : List TokenKind}
    (h : us.map Token.kind = kinds ++ kind :: kinds') :
    ∃ before position behind, us = before ++ ⟨kind, position⟩ :: behind ∧
      before.map Token.kind = kinds ∧ behind.map Token.kind = kinds' := by
  obtain ⟨before, tail, rfl, hbefore, htail⟩ := List.map_eq_append_iff.1 h
  obtain ⟨position, behind, rfl, hbehind⟩ := exists_cons_of_kinds htail
  exact ⟨before, position, behind, rfl, hbefore, hbehind⟩

theorem moreItems_of_tokens {more : List String} {us rest : List Token}
    (hus : us.map Token.kind = Derivation.itemTokens more)
    (hrest : Stops .unary (rest.map Token.kind)) :
    moreItems (us ++ rest) = .ok (more, rest) := by
  induction more generalizing us with
  | nil =>
    obtain rfl := List.map_eq_nil_iff.1 hus
    show moreItems rest = .ok ([], rest)
    rcases rest with _ | ⟨⟨kind, position⟩, rest⟩
    · rfl
    · cases kind with
      | comma => exact absurd rfl hrest.head?_ne_comma
      | _ => rfl
  | cons s more ih =>
    obtain ⟨position, us₁, rfl, hus₁⟩ := exists_cons_of_kinds hus
    obtain ⟨position', us₂, rfl, hus₂⟩ := exists_cons_of_kinds hus₁
    show (moreItems (us₂ ++ rest) >>= fun found => _) = _
    rw [ih hus₂]
    rfl

theorem operand_of_tokens {first : String} {more : List String} {us rest : List Token}
    (hus : us.map Token.kind = Derivation.itemTokens more)
    (hrest : Stops .unary (rest.map Token.kind))
    (hmatter : ∀ item ∈ first :: more, Text.trim item.toList ≠ []) :
    operand first (us ++ rest) = .ok (first :: more, rest) := by
  have hfind : (first :: more).find? (Text.blank ·.toList) = none := by
    rw [List.find?_eq_none]
    intro item hitem hblank
    exact hmatter item hitem (Text.trim_eq_nil_iff.2 hblank)
  unfold operand
  simp only [moreItems_of_tokens hus hrest, bind, Except.bind, hfind]

/-- A chain ends where its connective does not follow. -/
theorem chain_of_stops {unit : Reader Id} {fuel : Nat} {e : Expression} {rest : List Token}
    (h : Stops (.chain op) (rest.map Token.kind)) :
    chain op.kind op.operator unit fuel e rest = pure (e, rest) := by
  rcases fuel with _ | fuel
  · rfl
  · rcases rest with _ | ⟨t, rest⟩
    · rfl
    · have ht : t.kind ≠ op.kind := fun heq => h.head?_ne (by rw [List.map_cons, heq]; rfl)
      rw [chain, if_neg ht]

variable (meaning f levels) in
/-- The reader comes to the end of the derivation and has its value: a
chain is then ready to be carried on. -/
def Reached : {c : Category} → Derivation c → List Token → List Token → Prop
  | .unary, d, us, rest =>
    Gives (reader meaning .unary levels (us ++ rest)) (d.value f, rest)
  | .chain op, d, us, rest =>
    ∃ fuel, rest.length ≤ fuel ∧ reader meaning (.chain op) levels (us ++ rest)
      = chain op.kind op.operator (reader meaning op.unit levels) fuel (d.value f) rest

/-- What has to follow a derivation for the reader to come to its end. -/
def Category.last : Category → Category
  | .unary => .unary
  | .chain op => op.unit

theorem stops_last_unit {kinds : List TokenKind} (h : Stops op.unit kinds) :
    Stops op.unit.last kinds := by
  cases op with
  | and => exact h
  | or => exact Stops.unit h

theorem Reached.gives {c : Category} {d : Derivation c} {us rest : List Token}
    (h : Reached meaning f levels d us rest) (hrest : Stops c (rest.map Token.kind)) :
    Gives (reader meaning c levels (us ++ rest)) (d.value f, rest) := by
  cases c with
  | unary => exact h
  | chain op =>
    obtain ⟨fuel, _, h⟩ := h
    rw [h, chain_of_stops hrest]
    exact gives_pure.2 rfl

/-- **The reader follows every derivation within the levels.** -/
theorem Derivation.reached {c : Category} (d : Derivation c) {us rest : List Token}
    (hus : us.map Token.kind = d.tokens) (hrest : Stops c.last (rest.map Token.kind))
    (hfits : d.Fits f levels) (hm : ∀ o ∈ d.operands, meaning o = .ok (f o)) :
    Reached meaning f levels d us rest := by
  induction d generalizing levels us rest with
  | operand first more =>
    obtain ⟨position, us', rfl, hus'⟩ := exists_cons_of_kinds hus
    show Gives _ _
    rw [List.cons_append, reader_item,
      operand_of_tokens hus' hrest (hfits.items _ (List.mem_singleton.2 rfl))]
    refine gives_bind.2 ⟨_, gives_liftM.2 rfl, gives_bind.2 ⟨_, gives_liftM.2 ?_, gives_pure.2 rfl⟩⟩
    exact hm _ (List.mem_singleton.2 rfl)
  | not inner ih =>
    obtain ⟨position, us', rfl, hus'⟩ := exists_cons_of_kinds hus
    obtain ⟨levels, rfl, hinner⟩ := hfits.of_not
    exact gives_bind.2 ⟨_, ih hus' hrest hinner hm,
      gives_bind.2 ⟨_, gives_bounded.2 ⟨hfits.heights.2, rfl⟩, gives_pure.2 rfl⟩⟩
  | group inner ih =>
    obtain ⟨position, us', rfl, hus'⟩ := exists_cons_of_kinds hus
    obtain ⟨body, position', close, rfl, hbody, hclose⟩ := exists_joined_of_kinds hus'
    obtain rfl := List.map_eq_nil_iff.1 hclose
    obtain ⟨levels, rfl, hinner⟩ := hfits.of_group
    have hreached : Reached meaning f levels inner body (⟨.closeParen, position'⟩ :: rest) :=
      ih hbody (stops_closeParen _ _) hinner hm
    have hread := hreached.gives (stops_closeParen _ _)
    show Gives (reader meaning (.chain .or) levels (body ++ [_] ++ rest) >>= fun found => _) _
    rw [List.append_assoc]
    exact gives_bind.2 ⟨_, hread, gives_pure.2 rfl⟩
  | @single op first ih =>
    -- The reader starts a chain with as much fuel as there are tokens behind its first unit.
    have hread := (ih hus (stops_last_unit hrest) (Fits.single_iff.1 hfits) hm).gives hrest
    refine ⟨rest.length, Nat.le_refl _, ?_⟩
    rw [reader_chain, hread, pure_bind]
    rfl
  | @link op left right ihl ihr =>
    obtain ⟨body, position, unit, rfl, hbody, hunit⟩ := exists_joined_of_kinds hus
    obtain ⟨hfits₁, hfits₂, hdepth⟩ := Fits.link_iff.1 hfits
    obtain ⟨hm₁, hm₂⟩ := List.forall_mem_append.1 hm
    -- Behind `left` the reader is ready to go on, and what follows is a connective.
    have hreached : Reached meaning f levels left body (⟨op.kind, position⟩ :: (unit ++ rest)) :=
      ihl hbody (stops_connective op _) hfits₁ hm₁
    obtain ⟨fuel, hfuel, hleft⟩ := hreached
    rw [List.length_cons, List.length_append] at hfuel
    have hright := (ihr hunit (stops_last_unit hrest) hfits₂ hm₂).gives hrest
    -- The step costs one unit of fuel and takes at least one token, so enough is left.
    obtain ⟨fuel, rfl⟩ : ∃ n, fuel = n + 1 := ⟨fuel - 1, by omega⟩
    refine ⟨fuel, by omega, ?_⟩
    rw [List.append_assoc]
    show reader meaning (.chain op) levels (body ++ ⟨op.kind, position⟩ :: (unit ++ rest)) = _
    have hjoined : Gives (liftM (bounded (.binary (left.value f) op.operator (right.value f)))) _ :=
      gives_bounded.2 ⟨hdepth, rfl⟩
    rw [hleft, chain, if_pos rfl, hright, pure_bind]
    show (liftM (bounded _) >>= fun joined => _) = _
    rw [hjoined, pure_bind]
    rfl

/-! ## §5. Whole formulas -/

theorem parensBalance_itemTokens {more : List String} {us : List Token}
    (hus : us.map Token.kind = Derivation.itemTokens more) (depth : Nat) (rest : List Token) :
    parensBalance depth (us ++ rest) = parensBalance depth rest := by
  induction more generalizing us with
  | nil =>
    obtain rfl := List.map_eq_nil_iff.1 hus
    rfl
  | cons s more ih =>
    obtain ⟨_, us₁, rfl, hus₁⟩ := exists_cons_of_kinds hus
    obtain ⟨_, us₂, rfl, hus₂⟩ := exists_cons_of_kinds hus₁
    show parensBalance depth (us₂ ++ rest) = _
    exact ih hus₂

/-- The parentheses of a derivation pair up. -/
theorem parensBalance_derivation {c : Category} (d : Derivation c) {us : List Token}
    (hus : us.map Token.kind = d.tokens) (depth : Nat) (rest : List Token) :
    parensBalance depth (us ++ rest) = parensBalance depth rest := by
  induction d generalizing us depth rest with
  | operand first more =>
    obtain ⟨position, us', rfl, hus'⟩ := exists_cons_of_kinds hus
    exact parensBalance_itemTokens hus' depth rest
  | not inner ih =>
    obtain ⟨position, us', rfl, hus'⟩ := exists_cons_of_kinds hus
    exact ih hus' depth rest
  | group inner ih =>
    obtain ⟨position, us', rfl, hus'⟩ := exists_cons_of_kinds hus
    obtain ⟨body, position', close, rfl, hbody, hclose⟩ := exists_joined_of_kinds hus'
    obtain rfl := List.map_eq_nil_iff.1 hclose
    show parensBalance (depth + 1) (body ++ [_] ++ rest) = _
    rw [List.append_assoc, ih hbody]
    rfl
  | single first ih => exact ih hus depth rest
  | @link op left right ihl ihr =>
    obtain ⟨body, position, unit, rfl, hbody, hunit⟩ := exists_joined_of_kinds hus
    rw [List.append_assoc, ihl hbody]
    show parensBalance depth (⟨op.kind, position⟩ :: (unit ++ rest)) = _
    have hop : parensBalance depth (⟨op.kind, position⟩ :: (unit ++ rest))
        = parensBalance depth (unit ++ rest) := by
      cases op <;> rfl
    rw [hop, ihr hunit]

/-- The steps of an accepted formula. -/
theorem condition_eq_ok {raw : String} {e : Expression} :
    condition raw meaning = .ok e ↔
      Text.trim raw.toList ≠ [] ∧ ∃ ts, tokens (Text.trim raw.toList) = .ok ts ∧
        parensBalance 0 ts = true ∧
        Gives (reader meaning (.chain .or) maxNesting ts) (e, []) := by
  show Gives (compile raw (asked meaning)) e ↔ _
  unfold compile
  by_cases hempty : Text.trim raw.toList = []
  · simp only [hempty, List.isEmpty_nil, if_true, ne_eq, not_true, false_and, iff_false]
    exact not_gives_throw
  · rw [if_neg (by simpa using hempty), gives_bind, and_iff_right hempty]
    -- The same tokens on both sides; what is left is the check and the reader.
    refine exists_congr fun ts => and_congr gives_liftM ?_
    cases hbalance : parensBalance 0 ts with
    | false =>
      constructor
      · intro h
        cases h
      · rintro ⟨h, -⟩
        cases h
    | true =>
      rw [and_iff_right rfl]
      show Gives (reader meaning (.chain .or) maxNesting ts >>= fun found => _) e ↔ _
      rw [gives_bind]
      constructor
      · rintro ⟨⟨e', rest⟩, hread, h⟩
        cases rest with
        | nil =>
          cases gives_pure.1 h
          exact hread
        | cons t rest => exact absurd h not_gives_throw
      · intro hread
        exact ⟨_, hread, gives_pure.2 rfl⟩

/-- An accepted formula has a derivation, and its value is the condition. -/
theorem exists_derivation (hf : ∀ o e, meaning o = .ok e → f o = e) {raw : String} {e : Expression}
    (h : condition raw meaning = .ok e) :
    Text.trim raw.toList ≠ [] ∧
      ∃ d : Derivation (.chain .or), Lexes (Text.trim raw.toList) d.tokens ∧
        d.Fits f maxNesting ∧ d.value f = e ∧ ∀ o ∈ d.operands, meaning o = .ok (f o) := by
  -- The balance of the parentheses is not needed here: derivations have it anyway.
  obtain ⟨hne, ts, hts, -, hread⟩ := condition_eq_ok.1 h
  have hsound : Sound meaning f (.chain .or) maxNesting (reader meaning (.chain .or) maxNesting) :=
    chain_reader_sound (chain_reader_sound (reader_sound hf maxNesting))
  obtain ⟨d, htokens, hvalue, hfits, hm⟩ := hsound _ _ _ hread
  refine ⟨hne, d, lexes_iff.2 ⟨ts, hts, ?_⟩, hfits, hvalue, hm⟩
  rw [htokens, List.map_nil, List.append_nil]

/-- An accepted formula is the value of a derivation whose operands all have a meaning. -/
theorem exists_value {raw : String} {e : Expression} (h : condition raw meaning = .ok e) :
    ∃ (f : Operand → Expression) (d : Derivation (.chain .or)),
      d.Fits f maxNesting ∧ d.value f = e ∧ ∀ o ∈ d.operands, meaning o = .ok (f o) := by
  -- Operands without a meaning do not occur, so any value will do for them.
  have hf : ∀ o e, meaning o = .ok e → (meaning o).toOption.getD default = e := by
    intro o e ho
    rw [ho]
    rfl
  obtain ⟨-, d, -, hfits, hvalue, hm⟩ := exists_derivation hf h
  exact ⟨_, d, hfits, hvalue, hm⟩

/-- A formula that has a derivation within the limits is accepted. -/
theorem condition_of_derivation {raw : String} {d : Derivation (.chain .or)}
    (hne : Text.trim raw.toList ≠ []) (hlex : Lexes (Text.trim raw.toList) d.tokens)
    (hfits : d.Fits f maxNesting) (hm : ∀ o ∈ d.operands, meaning o = .ok (f o)) :
    condition raw meaning = .ok (d.value f) := by
  obtain ⟨ts, hts, hkinds⟩ := lexes_iff.1 hlex
  have hbalance := parensBalance_derivation d hkinds 0 []
  have hreached : Reached meaning f maxNesting d ts [] := d.reached hkinds (stops_nil _) hfits hm
  have hread := hreached.gives (stops_nil _)
  rw [List.append_nil] at hbalance hread
  exact condition_eq_ok.2 ⟨hne, ts, hts, hbalance, hread⟩

end

/-- **A formula is accepted if and only if it derives from the grammar within
the limits, and then its condition is the value of its only derivation.** -/
theorem condition_eq_ok_iff (raw : String) (f : Operand → Expression) (e : Expression) :
    (condition raw (fun items => .ok (f items)) = .ok e ↔
      Text.trim raw.toList ≠ [] ∧ ∃ d : Derivation (.chain .or),
        Lexes (Text.trim raw.toList) d.tokens ∧ d.Fits f maxNesting ∧ d.value f = e) ∧
    ∀ d d' : Derivation (.chain .or), Lexes (Text.trim raw.toList) d.tokens →
      Lexes (Text.trim raw.toList) d'.tokens → d = d' := by
  refine ⟨⟨?_, ?_⟩, ?_⟩
  · intro h
    obtain ⟨hne, d, hlex, hfits, hvalue, -⟩ :=
      exists_derivation (f := f) (fun _ _ heq => Except.ok.inj heq) h
    exact ⟨hne, d, hlex, hfits, hvalue⟩
  · rintro ⟨hne, d, hlex, hfits, rfl⟩
    exact condition_of_derivation hne hlex hfits fun _ _ => rfl
  · intro d d' hd hd'
    exact Derivation.tokens_injective (hd.unique hd')

end ContentGate.Formula
