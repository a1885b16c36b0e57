/-
  ContentGate.Proofs.Evaluation.Alike — conditions that cannot be told apart.

  Two conditions are ALIKE when they have the same value from every host
  in every monad.  The monad may keep a record of what the host is asked,
  so alike conditions ask the same questions and make the same calls in
  the same order, stop at the same places and fail with the same errors.

  The connectives stop at the first operand that decides them, and they
  do so from left to right however a chain of them is bracketed.  So the
  bracketing of a chain does not matter.

  Main statements:
    * `alike_assoc` — a connective is associative;
    * `alike_append` — two chains of a connective, joined, are one chain.
-/
import Mathlib.Data.List.Induction
import ContentGate.Evaluation.Evaluator
import ContentGate.Proofs.Notation.DirectRoundTrip

namespace ContentGate.Expression

/-- The same value from every host, whatever its answers do. -/
def Alike (e f : Expression) : Prop :=
  ∀ (m : Type → Type) [Monad m] [LawfulMonad m] (host : Host m), value host e = value host f

namespace Alike

variable {e f g left left' right right' : Expression}

theorem refl (e : Expression) : Alike e e := by
  intro m _ _ host
  rfl

theorem symm (h : Alike e f) : Alike f e := by
  intro m _ _ host
  exact (h m host).symm

theorem trans (h : Alike e f) (h' : Alike f g) : Alike e g := by
  intro m _ _ host
  exact (h m host).trans (h' m host)

/-- Alike conditions hold alike. -/
theorem holds (h : Alike e f) {m : Type → Type} [Monad m] [LawfulMonad m] (host : Host m) :
    Expression.holds host e = Expression.holds host f := by
  unfold Expression.holds
  rw [h m host]

theorem binary (op : Operator) (hl : Alike left left') (hr : Alike right right') :
    Alike (.binary left op right) (.binary left' op right') := by
  intro m _ _ host
  cases op <;> simp only [value, hl m host, hr m host]

theorem unary (op : UnaryOp) (h : Alike e f) : Alike (.unary op e) (.unary op f) := by
  intro m _ _ host
  cases op <;> simp only [value, h m host]

end Alike

/-! ## §1. Chains of a connective -/

variable {op : GroupOp}

theorem truthy_bool (b : Bool) : (Value.bool b).truthy = b := rfl

/-- **A connective is associative**: both ways it stops at the same operand. -/
theorem alike_assoc (op : GroupOp) (a b c : Expression) :
    Alike (.binary a op.operator (.binary b op.operator c))
      (.binary (.binary a op.operator b) op.operator c) := by
  intro m _ _ host
  cases op with
  | any =>
    show value host (.binary a .or (.binary b .or c)) = value host (.binary (.binary a .or b) .or c)
    simp only [value, bind_assoc]
    refine bind_congr fun l => ?_
    by_cases hl : l.truthy = true
    · simp [hl, truthy_bool]
    · -- The first operand decides nothing, so the second one is asked.
      simp only [if_neg hl, bind_assoc]
      refine bind_congr fun r => ?_
      by_cases hr : r.truthy = true <;> simp [hr, truthy_bool]
  | all =>
    show value host (.binary a .and (.binary b .and c))
      = value host (.binary (.binary a .and b) .and c)
    simp only [value, bind_assoc]
    refine bind_congr fun l => ?_
    by_cases hl : l.truthy = true
    · simp only [if_pos hl, bind_assoc]
      refine bind_congr fun r => ?_
      by_cases hr : r.truthy = true <;> simp [hr, truthy_bool]
    · simp [hl, truthy_bool]

/-- A chain grows at its end. -/
theorem joinedLeft_concat {es : List Expression} (h : es ≠ []) (e : Expression) :
    joinedLeft op (es ++ [e]) = .binary (joinedLeft op es) op.operator e := by
  cases es with
  | nil => exact absurd rfl h
  | cons f es =>
    show (es ++ [e]).foldl _ f = _
    rw [List.foldl_append]
    rfl

/-- **Two chains of a connective, joined, are one chain.** -/
theorem alike_append {es fs : List Expression} (hes : es ≠ []) (hfs : fs ≠ []) :
    Alike (.binary (joinedLeft op es) op.operator (joinedLeft op fs))
      (joinedLeft op (es ++ fs)) := by
  -- The second chain is taken apart at its end, where it grows.
  induction fs using List.reverseRecOn with
  | nil => exact absurd rfl hfs
  | append_singleton fs f ih =>
    by_cases hnil : fs = []
    · subst hnil
      have hone : joinedLeft op (es ++ [f]) = _ := joinedLeft_concat hes f
      rw [List.nil_append, hone]
      exact Alike.refl _
    · have hlong : es ++ fs ≠ [] := fun h => hnil (List.append_eq_nil_iff.1 h).2
      rw [joinedLeft_concat hnil, ← List.append_assoc, joinedLeft_concat hlong]
      have hassoc := alike_assoc op (joinedLeft op es) (joinedLeft op fs) f
      exact hassoc.trans ((ih hnil).binary op.operator (Alike.refl f))

/-- Chains whose members are alike, one by one. -/
theorem alike_joinedLeft_map {α : Type} {f g : α → Expression} {as : List α}
    (h : ∀ a ∈ as, Alike (f a) (g a)) :
    Alike (joinedLeft op (as.map f)) (joinedLeft op (as.map g)) := by
  induction as using List.reverseRecOn with
  | nil => exact Alike.refl _
  | append_singleton as a ih =>
    obtain ⟨has, ha⟩ := List.forall_mem_append.1 h
    have hlast := ha a List.mem_cons_self
    by_cases hnil : as = []
    · subst hnil
      exact hlast
    · have hmap : ∀ k : α → Expression, as.map k ≠ [] := fun k => by simpa using hnil
      simp only [List.map_append, List.map_cons, List.map_nil, joinedLeft_concat (hmap _)]
      exact (ih has).binary op.operator hlast

end ContentGate.Expression
