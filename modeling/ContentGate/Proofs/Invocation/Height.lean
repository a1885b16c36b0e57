/-
  ContentGate.Proofs.Invocation.Height — conditions are bounded in height.

  Whatever an author writes, a condition is no higher than a limit, so that
  those who go through it, to decide it or to write it, do not go deeper
  than that.  A direct condition has its limit from the levels of its
  reader.  A formula has it where trees are joined; what its operands mean
  has one level, or two for several items.  The conditions of a tag are
  joined by one group at most.

  Main statements:
    * `depth_condition_le` — formulas over operands of a bounded height;
    * `depth_contribution_le` — what an attribute contributes;
    * `heights_bounded` — conditions of tags, and both notations, with the
      depth of their readers.
-/
import ContentGate.Proofs.Invocation.Sandbox
import ContentGate.Proofs.Notation.Counting

namespace ContentGate

open Expression Notation

/-! ## §1. Conditions of attributes -/

/-- A formula is no higher than the limit or than what its operands mean. -/
theorem Formula.depth_condition_le {value : String} {n : Nat}
    {meaning : Operand → Except ParseError Expression} {e : Expression}
    (h : Formula.condition value meaning = .ok e)
    (hoperand : ∀ o e, meaning o = .ok e → e.depth ≤ n) : e.depth ≤ max maxNesting n := by
  obtain ⟨f, d, hfits, rfl, hm⟩ := Formula.exists_value h
  exact d.depth_value_le hfits.heights fun o ho => hoperand o _ (hm o ho)

namespace Invocation

variable {i : Invocation} {r : Resolved} {multisite : Bool} {name value : String} {e : Expression}

/-- A flag adds a negation at most. -/
theorem depth_flag_le {question : Expression} {n : Nat} (h : question.depth ≤ n) :
    (flag value question).depth ≤ n + 1 := by
  unfold flag
  split
  · exact depth_unary_le h
  · exact Nat.le_succ_of_le h

/-- Predicates for several items are one group. -/
theorem depth_predicates_le {make : String → Predicate}
    (h : i.predicates name value make = .ok e) : e.depth ≤ max maxNesting 2 := by
  refine Formula.depth_condition_le (conditionOr_eq_ok h) ?_
  intro items e he
  rw [Operand.expand_ok] at he
  cases he
  -- Every member of the group is a single predicate.
  refine depth_joined_le (n := 1) ?_
  intro e he
  obtain ⟨item, _, rfl⟩ := List.mem_map.1 he
  exact Nat.le_refl 1

/-- The arguments of an author's call are strings. -/
theorem depth_ownCall_le (strings : List String) :
    (Expression.call name (strings.map fun s => .literal (.string s))).depth ≤ 2 := by
  refine depth_call_le (n := 1) ?_
  intro e he
  obtain ⟨s, _, rfl⟩ := List.mem_map.1 he
  exact Nat.le_refl 1

theorem depth_arbitrary_le (h : i.arbitrary r name value = .ok e) :
    e.depth ≤ max maxNesting 2 := by
  unfold arbitrary at h
  split at h
  · cases h
  split at h
  · cases h
  split at h
  · cases h
  split at h
  · -- `true` and `false` make a call without arguments.
    cases h
    have hflag : (flag value (.call name [])).depth ≤ 2 := depth_flag_le (Nat.le_refl 1)
    exact Nat.le_trans hflag (Nat.le_max_right _ _)
  · refine Formula.depth_condition_le (conditionOr_eq_ok h) ?_
    intro items e he
    cases he
    exact depth_ownCall_le items

/-- **What an attribute contributes is no higher than the limit.** -/
theorem depth_contribution_le (h : i.contribution r multisite (.named name, value) = some (.ok e)) :
    e.depth ≤ maxNesting := by
  have hlimit : max maxNesting 2 = maxNesting := by decide
  rcases contribution_cases h with ⟨-, -, hparse⟩ | ⟨-, p, -, rfl⟩ | ⟨-, make, -, hpredicates⟩
    | ⟨-, -, harbitrary⟩
  · exact Direct.depth_le_of_parse hparse
  · have hflag : (flag value (.predicate p)).depth ≤ 2 := depth_flag_le (Nat.le_refl 1)
    exact Nat.le_trans hflag (by decide)
  · exact hlimit ▸ depth_predicates_le hpredicates
  · exact hlimit ▸ depth_arbitrary_le harbitrary

/-- The conditions of a tag, joined. -/
theorem depth_condition?_le {t : Tag} {user : UserId}
    (h : ((ofTag t r user).compile r multisite).condition? = some e) : e.depth ≤ maxNesting + 1 := by
  unfold condition? at h
  split at h
  · cases h
  · cases h
    refine depth_joined_le ?_
    intro e he
    obtain ⟨name, value, -, hcontribution⟩ := exists_entry_of_condition t user he
    exact depth_contribution_le hcontribution

/-! ## §2. Both notations -/

/-- **Conditions are bounded in height, and so are their readers.**  The condition of a tag
is at most one higher than the limit, for all options and every user.  A direct condition
is no higher than the limit.  A formula is no higher than the limit or than what one of
its operands meant, whatever effects their meanings have on a state of type `σ`.  A reader
that counts does the same as either reader, with as much fuel as one likes, and is never
deeper than the limit: inside `!` and `(` in a formula, and inside any call of itself in a
direct condition. -/
theorem heights_bounded :
    (∀ (t : Tag) (r : Resolved) (user : UserId) (multisite : Bool) (e : Expression),
        ((ofTag t r user).compile r multisite).condition? = some e → e.depth ≤ maxNesting + 1)
      ∧ (∀ (raw : String) (e : Expression), Direct.parse raw = .ok e → e.depth ≤ maxNesting)
      ∧ (∀ {σ : Type} (raw : String)
          (meaning : Operand → ExceptT ParseError (StateM σ) Expression) (s : σ) (fuel : Nat),
          maxNesting < fuel → ∃ c : Count,
            ((Formula.compileCounting fuel raw meaning).run.run {}).run s
                = ((((Formula.compile raw meaning).run.run s).1, c),
                    ((Formula.compile raw meaning).run.run s).2)
              ∧ c.deepest ≤ maxNesting
              ∧ (c.highest = 0 ∨ Formula.MeansHeight meaning c.highest)
              ∧ ∀ e, ((Formula.compile raw meaning).run.run s).1 = .ok e →
                  e.depth ≤ max maxNesting c.highest)
      ∧ ∀ {σ : Type} (raw : String) (s : σ) (fuel : Nat), maxNesting < fuel →
          ∃ c : Count,
            ((Direct.parseCounting fuel raw : Counting (StateM σ) Expression).run.run {}).run s
                = ((Direct.parse raw, c), s)
              ∧ c.deepest ≤ maxNesting := by
  refine ⟨?_, ?_, ?_, ?_⟩
  · intro t r user multisite e h
    exact depth_condition?_le h
  · intro raw e h
    exact Direct.depth_le_of_parse h
  · intro σ raw meaning s fuel hfuel
    exact Formula.compileCounting_tracks meaning hfuel raw s
  · intro σ raw s fuel hfuel
    exact Direct.parseCounting_tracks hfuel raw s

end Invocation

end ContentGate
