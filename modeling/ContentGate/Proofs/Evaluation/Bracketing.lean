/-
  ContentGate.Proofs.Evaluation.Bracketing — groups are chains of their connective.

  There are two ways to say that all of some conditions hold, or any of
  them: as a GROUP, and by the binary connective, bracketed in some way
  (`Bracketing`).  Both are evaluated by rules of their own.  A group runs
  through its members in a loop; the connective asks its left side, and the
  right one unless the left one decides.

  The loop over two lists, one after the other, is the rule of the connective
  (`groupHolds_append`).  So by induction on the brackets every bracketing is
  evaluated like the loop, whatever host is asked in whatever monad: the same
  members are asked in the same order, and the same ones are not.

  Main statements:
    * `Bracketing.holds_eq`, `Bracketing.value_eq` — every bracketing holds
      like the loop over its list, and with two members has its value;
    * `group_eq_bracketing` — a group and the bracketings of its members, in
      every context and session.
-/
import ContentGate.Proofs.Evaluation.Logical

namespace ContentGate.Expression

/-- A tree of one connective that has these conditions, in this order, as leaves. -/
inductive Bracketing (op : GroupOp) : List Expression → Expression → Prop where
  | single (e : Expression) : Bracketing op [e] e
  | join {es fs : List Expression} {left right : Expression} (hleft : Bracketing op es left)
      (hright : Bracketing op fs right) :
      Bracketing op (es ++ fs) (.binary left op.operator right)

variable {op : GroupOp} {es fs : List Expression} {e : Expression}

theorem Bracketing.ne_nil (h : Bracketing op es e) : es ≠ [] := by
  induction h with
  | single e => exact List.cons_ne_nil _ _
  | join _ _ ihl _ => exact List.append_ne_nil_of_left_ne_nil ihl _

/-! ## §1. The loop over two lists -/

section
variable {m : Type → Type} [Monad m] [LawfulMonad m] {host : Host m}

/-- **The loop over two lists** is the rule of the connective: the second list
is looked at unless the first one decides. -/
theorem groupHolds_append (op : GroupOp) (es fs : List Expression) :
    groupHolds host op (es ++ fs)
      = groupHolds host op es >>= fun b =>
          if b = op.decisive then pure b else groupHolds host op fs := by
  induction es with
  | nil =>
    -- A loop over nothing does not decide, for either connective.
    have hneutral : ¬ (op == .all) = op.decisive := by cases op <;> decide
    rw [List.nil_append, groupHolds, pure_bind, if_neg hneutral]
  | cons e es ih =>
    rw [List.cons_append, groupHolds_cons, groupHolds_cons, bind_assoc]
    refine bind_congr fun b => ?_
    by_cases hb : b = op.decisive
    · rw [if_pos hb, if_pos hb, pure_bind, if_pos hb]
    · rw [if_neg hb, if_neg hb]
      exact ih

/-- A loop over one member asks it. -/
theorem groupHolds_singleton (op : GroupOp) (e : Expression) :
    groupHolds host op [e] = holds host e :=
  (holds_joined host op (List.cons_ne_nil e [])).symm

/-! ## §2. Every bracketing -/

/-- **A bracketing holds like the loop over its list.** -/
theorem Bracketing.holds_eq (h : Bracketing op es e) : holds host e = groupHolds host op es := by
  induction h with
  | single e => exact (groupHolds_singleton op e).symm
  | join _ _ ihl ihr => rw [holds_binary, groupHolds_append, ihl, ihr]

/-- A connective has a truth value, and it is the one by which it holds. -/
theorem value_binary (op : GroupOp) (left right : Expression) :
    value host (.binary left op.operator right)
      = holds host (.binary left op.operator right) >>= fun b => pure (.bool b) := by
  rw [holds, bind_assoc]
  cases op with
  | all =>
    show value host (.binary left .and right) = value host (.binary left .and right) >>= _
    rw [value, bind_assoc]
    refine bind_congr fun l => ?_
    cases l.truthy <;> simp [Value.truthy]
  | any =>
    show value host (.binary left .or right) = value host (.binary left .or right) >>= _
    rw [value, bind_assoc]
    refine bind_congr fun l => ?_
    cases l.truthy <;> simp [Value.truthy]

omit [LawfulMonad m] in
/-- A group that has members has the truth value of the loop. -/
theorem value_group (h : es ≠ []) :
    value host (.group op es) = groupHolds host op es >>= fun b => pure (.bool b) := by
  cases es with
  | nil => exact absurd rfl h
  | cons e es => rw [value]

/-- **A bracketing of two members or more has the value of the group.** -/
theorem Bracketing.value_eq (h : Bracketing op es e) (htwo : 2 ≤ es.length) :
    value host e = value host (.group op es) := by
  rw [value_group h.ne_nil, ← h.holds_eq]
  cases h with
  | single e => simp at htwo
  | join _ _ => exact value_binary op _ _

end

end ContentGate.Expression

namespace ContentGate.Context

open Expression

variable {κ : Type}

/-! ## §3. In a context -/

/-- **A group is the chain of its connective**, in every context and session:
it gives the same answer or the same error as any bracketing of its members,
and leaves the same session, that is, memo, transients and catalog.  With two
members or more this is so of the values too, and they are truth values.
Joined conditions hold like the group that they may not be, and a group
without members does not hold. -/
theorem group_eq_bracketing (c : Context κ) (op : GroupOp) (σ : Session κ) :
    (∀ es e, Bracketing op es e →
        (c.holds (.group op es)).run.run σ = (c.holds e).run.run σ
          ∧ (2 ≤ es.length →
              (c.value (.group op es)).run.run σ = (c.value e).run.run σ
                ∧ ∀ v, ((c.value e).run.run σ).1 = .ok v → ∃ b, v = .bool b))
      ∧ (∀ es, es ≠ [] →
          (c.holds (joined op es)).run.run σ = (c.holds (.group op es)).run.run σ)
      ∧ (c.holds (.group op [])).run.run σ = (.ok false, σ) := by
  -- A group with members holds like the loop over them.
  have hgroup : ∀ es, es ≠ [] → c.holds (.group op es) = groupHolds c.host op es := by
    intro es hne
    cases es with
    | nil => exact absurd rfl hne
    | cons e es => exact holds_group op e es
  refine ⟨?_, ?_, ?_⟩
  · intro es e h
    refine ⟨?_, ?_⟩
    · rw [hgroup es h.ne_nil, ← h.holds_eq]
      rfl
    · intro htwo
      have hvalue : c.value e = c.value (.group op es) := h.value_eq htwo
      refine ⟨by rw [hvalue], ?_⟩
      intro v hv
      -- The value is made from the answer of the loop, if there is one.
      rw [hvalue, Context.value, value_group h.ne_nil] at hv
      obtain ⟨⟨r, τ⟩, hrun⟩ : ∃ p, (groupHolds c.host op es).run.run σ = p := ⟨_, rfl⟩
      cases r with
      | ok b =>
        rw [run_bind_of_ok hrun] at hv
        exact ⟨b, (Except.ok.inj hv).symm⟩
      | error cause =>
        rw [run_bind_of_error hrun] at hv
        cases hv
  · intro es hne
    rw [hgroup es hne]
    unfold Context.holds
    rw [holds_joined c.host op hne]
  · unfold Context.holds
    rw [holds_group_nil]
    rfl

/-- Did the visitor buy the product?  The function asks the shop, which remembers the answer. -/
def hasBought : Function Inventory := fun caller args =>
  match caller.commerce?, args with
  | some shop, [.string product] => do
    let bought ← shop.bought caller.visitor.id product
    pure (.bool bought)
  | _, _ => pure (.bool false)

/-- The context of a customer, with this function. -/
def customer : Context Inventory where
  visitor := Profile.visitor { id := 1 }
  commerce? := some (Inventory.shop 10)
  functions := .ofStandalone (Registry.builtins.register "has_bought" hasBought)
    (Registry.standalone_builtins.register "has_bought" fun _ _ _ => rfl)

/-- Three conditions; the first one asks the shop, and the one in the middle calls a function
that there is not. -/
def missingInMiddle : List Expression :=
  [.call "has_bought" [.literal (.string "BOOK")], .call "missing" [], .literal (.bool true)]

/-- The three, bracketed to the right. -/
def missingBracketed : Expression :=
  .binary (.call "has_bought" [.literal (.string "BOOK")]) .or
    (.binary (.call "missing" []) .or (.literal (.bool true)))

/-- The first one does not decide, so the group and the chain both fail at the second, and what
the shop has answered is remembered. -/
theorem group_eq_bracketing_missing :
    Bracketing .any missingInMiddle missingBracketed ∧ 2 ≤ missingInMiddle.length
      ∧ (customer.holds (.group .any missingInMiddle)).run.run { catalog := {} }
          = (customer.holds missingBracketed).run.run { catalog := {} }
      ∧ ((customer.holds missingBracketed).run.run { catalog := {} }).1
          = .error (.undefinedFunction "missing")
      ∧ ((customer.holds missingBracketed).run.run { catalog := {} }).2.memo.get?
          ⟨.bought, 1, "BOOK"⟩ = some false := by
  have h : Bracketing .any missingInMiddle missingBracketed :=
    .join (.single (.call "has_bought" _)) (.join (.single (.call "missing" [])) (.single _))
  refine ⟨h, by decide, ?_, ?_, ?_⟩
  · exact ((group_eq_bracketing customer .any { catalog := {} }).1 _ _ h).1
  · rfl
  · decide +kernel

end ContentGate.Context
