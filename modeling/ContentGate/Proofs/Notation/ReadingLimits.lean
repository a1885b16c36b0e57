/-
  ContentGate.Proofs.Notation.ReadingLimits — why a derived formula is refused.

  A formula that derives from the grammar, and whose operands all have a
  meaning, can only be refused for its limits: too many levels, or a tree
  that is too high.  The reader then follows the derivation up to the node
  that is too deep, so the proof goes along the derivation.  In a chain the
  reader may stop in the left part, in the last unit, or at the tree of both.

  Main statements:
    * `Derivation.reached_or_refused` — along a derivation;
    * `condition_of_lexes` — a whole formula has the value of its derivation,
      or is refused for its limits.
-/
import ContentGate.Proofs.Notation.Reading

namespace ContentGate.Formula

open Notation

section
variable {α β : Type} {meaning : Operand → Except ParseError Expression} {f : Operand → Expression}
  {levels : Nat}

/-- The computation stops at a limit. -/
def Refused (x : ExceptT ParseError Id α) : Prop := x = throw (.nestingTooDeep maxNesting)

theorem Refused.bind {x : ExceptT ParseError Id α} (h : Refused x)
    (g : α → ExceptT ParseError Id β) : Refused (x >>= g) := by
  rw [h]
  rfl

theorem gives_or_refused_bounded (e : Expression) :
    Gives (liftM (bounded e)) e ∨ Refused (liftM (bounded e) : ExceptT ParseError Id Expression) := by
  by_cases h : e.depth ≤ maxNesting
  · exact .inl (gives_bounded.2 ⟨h, rfl⟩)
  · refine .inr ?_
    unfold bounded
    rw [if_neg h]
    rfl

/-- The reader comes to the end of the derivation, or stops at a limit. -/
def ReachedOrRefused (meaning : Operand → Except ParseError Expression) (f : Operand → Expression)
    (levels : Nat) {c : Category} (d : Derivation c) (us rest : List Token) : Prop :=
  Reached meaning f levels d us rest ∨ Refused (reader meaning c levels (us ++ rest))

theorem ReachedOrRefused.gives {c : Category} {d : Derivation c} {us rest : List Token}
    (h : ReachedOrRefused meaning f levels d us rest) (hrest : Stops c (rest.map Token.kind)) :
    Gives (reader meaning c levels (us ++ rest)) (d.value f, rest)
      ∨ Refused (reader meaning c levels (us ++ rest)) :=
  h.imp (fun hreached => hreached.gives hrest) id

/-- One `!` more. -/
theorem reachedOrRefused_not {inner : Derivation .unary} {position : Nat} {us rest : List Token}
    (h : ∀ levels, ReachedOrRefused meaning f levels inner us rest) :
    ReachedOrRefused meaning f levels (.not inner) (⟨.not, position⟩ :: us) rest := by
  cases levels with
  | zero => exact .inr rfl
  | succ levels =>
    rcases h levels with hinner | hrefused
    · rcases gives_or_refused_bounded (inner.value f).not with hbounded | hbounded
      · exact .inl (gives_bind.2 ⟨_, hinner, gives_bind.2 ⟨_, hbounded, gives_pure.2 rfl⟩⟩)
      · refine .inr ?_
        show Refused (reader meaning .unary levels (us ++ rest) >>= fun found => _)
        rw [hinner, pure_bind]
        exact Refused.bind hbounded _
    · exact .inr (Refused.bind hrefused _)

/-- One pair of parentheses more. -/
theorem reachedOrRefused_group {inner : Derivation (.chain .or)} {position position' : Nat}
    {body rest : List Token}
    (h : ∀ levels, ReachedOrRefused meaning f levels inner body (⟨.closeParen, position'⟩ :: rest)) :
    ReachedOrRefused meaning f levels (.group inner)
      (⟨.openParen, position⟩ :: (body ++ [⟨.closeParen, position'⟩])) rest := by
  cases levels with
  | zero => exact .inr rfl
  | succ levels =>
    have htokens : body ++ [⟨.closeParen, position'⟩] ++ rest
        = body ++ ⟨.closeParen, position'⟩ :: rest := by simp
    rcases (h levels).gives (stops_closeParen _ _) with hread | hrefused
    · refine .inl ?_
      show Gives (reader meaning (.chain .or) levels (body ++ [_] ++ rest) >>= fun found => _) _
      rw [htokens]
      exact gives_bind.2 ⟨_, hread, gives_pure.2 rfl⟩
    · refine .inr ?_
      show Refused (reader meaning (.chain .or) levels (body ++ [_] ++ rest) >>= fun found => _)
      rw [htokens]
      exact hrefused.bind _

/-- One unit more in a chain. -/
theorem reachedOrRefused_link {op : Connective} {left : Derivation (.chain op)}
    {right : Derivation op.unit} {position : Nat} {body unit rest : List Token}
    (hleft : ReachedOrRefused meaning f levels left body (⟨op.kind, position⟩ :: (unit ++ rest)))
    (hright : Gives (reader meaning op.unit levels (unit ++ rest)) (right.value f, rest)
      ∨ Refused (reader meaning op.unit levels (unit ++ rest))) :
    ReachedOrRefused meaning f levels (.link left right)
      (body ++ ⟨op.kind, position⟩ :: unit) rest := by
  unfold ReachedOrRefused
  have htokens : body ++ ⟨op.kind, position⟩ :: unit ++ rest
      = body ++ ⟨op.kind, position⟩ :: (unit ++ rest) := by simp
  rcases hleft with ⟨fuel, hfuel, hleft⟩ | hrefused
  · rw [List.length_cons, List.length_append] at hfuel
    obtain ⟨fuel, rfl⟩ : ∃ n, fuel = n + 1 := ⟨fuel - 1, by omega⟩
    rw [chain, if_pos rfl] at hleft
    rcases hright with hright | hright
    · rw [hright, pure_bind] at hleft
      rcases gives_or_refused_bounded (.binary (left.value f) op.operator (right.value f)) with
        hbounded | hbounded
      · refine .inl ⟨fuel, by omega, ?_⟩
        rw [htokens, hleft]
        show (liftM (bounded _) >>= fun joined => _) = _
        rw [hbounded, pure_bind]
        rfl
      · refine .inr ?_
        rw [htokens, hleft]
        exact Refused.bind hbounded _
    · refine .inr ?_
      rw [htokens, hleft]
      exact hright.bind _
  · refine .inr ?_
    rw [htokens]
    -- The reader of the whole chain is the reader of its left part, which stops.
    exact hrefused

/-- **Along a derivation whose operands have a meaning, the reader stops only at a limit.** -/
theorem Derivation.reached_or_refused {c : Category} (d : Derivation c) {us rest : List Token}
    (hus : us.map Token.kind = d.tokens) (hrest : Stops c.last (rest.map Token.kind))
    (hitems : d.ItemsMatter) (hm : ∀ o ∈ d.operands, meaning o = .ok (f o)) :
    ReachedOrRefused meaning f levels d us rest := by
  induction d generalizing levels us rest with
  | operand first more =>
    exact .inl (Derivation.reached (.operand first more) hus hrest
      ⟨hitems, Nat.zero_le _, trivial⟩ hm)
  | not inner ih =>
    obtain ⟨position, us', rfl, hus'⟩ := exists_cons_of_kinds hus
    exact reachedOrRefused_not fun levels => ih hus' hrest hitems hm
  | group inner ih =>
    obtain ⟨position, us', rfl, hus'⟩ := exists_cons_of_kinds hus
    obtain ⟨body, position', close, rfl, hbody, hclose⟩ := exists_joined_of_kinds hus'
    obtain rfl := List.map_eq_nil_iff.1 hclose
    exact reachedOrRefused_group fun levels => ih hbody (stops_closeParen _ _) hitems hm
  | @single op first ih =>
    rcases (ih hus (stops_last_unit hrest) hitems hm).gives hrest with hread | hrefused
    · refine .inl ⟨rest.length, Nat.le_refl _, ?_⟩
      rw [reader_chain, hread, pure_bind]
      rfl
    · refine .inr ?_
      rw [reader_chain]
      exact hrefused.bind _
  | @link op left right ihl ihr =>
    obtain ⟨body, position, unit, rfl, hbody, hunit⟩ := exists_joined_of_kinds hus
    obtain ⟨hitems₁, hitems₂⟩ := List.forall_mem_append.1 hitems
    obtain ⟨hm₁, hm₂⟩ := List.forall_mem_append.1 hm
    have hleft : ReachedOrRefused meaning f levels left body (⟨op.kind, position⟩ :: (unit ++ rest)) :=
      ihl hbody (stops_connective op _) hitems₁ hm₁
    exact reachedOrRefused_link hleft ((ihr hunit (stops_last_unit hrest) hitems₂ hm₂).gives hrest)

/-- **A formula that derives from the grammar has the value of its derivation,
or is refused for its limits**, if all its operands have a meaning. -/
theorem condition_of_lexes {raw : String} {d : Derivation (.chain .or)}
    (hne : Text.trim raw.toList ≠ []) (hlex : Lexes (Text.trim raw.toList) d.tokens)
    (hitems : d.ItemsMatter) (hm : ∀ o ∈ d.operands, meaning o = .ok (f o)) :
    condition raw meaning = .ok (d.value f)
      ∨ condition raw meaning = .error (.nestingTooDeep maxNesting) := by
  obtain ⟨ts, hts, hkinds⟩ := lexes_iff.1 hlex
  have hbalance := parensBalance_derivation d hkinds 0 []
  have hread : ReachedOrRefused meaning f maxNesting d ts [] :=
    d.reached_or_refused hkinds (stops_nil _) hitems hm
  rw [List.append_nil] at hbalance
  rcases hread.gives (stops_nil _) with hgives | hrefused
  · rw [List.append_nil] at hgives
    exact .inl (condition_eq_ok.2 ⟨hne, ts, hts, hbalance, hgives⟩)
  · rw [List.append_nil] at hrefused
    have hbalanced : parensBalance 0 ts = true := hbalance
    refine .inr ?_
    show Refused (compile raw (asked meaning))
    unfold compile
    have htokens : (liftM (tokens (Text.trim raw.toList)) : ExceptT ParseError Id (List Token))
        = pure ts := gives_liftM.2 hts
    rw [if_neg (by simpa using hne), htokens, pure_bind, hbalanced]
    exact hrefused.bind _

end

end ContentGate.Formula
