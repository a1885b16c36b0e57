/-
  ContentGate.Proofs.Notation.DirectLevels — every direct text takes some levels.

  The reader of direct texts is given a number of levels, and looks at
  that number only to refuse a text when none is left.  So one level more
  changes nothing about a text, unless it was refused for want of levels.
  It follows that a text which is read with some number of levels TAKES
  a certain number: with as many or more it is read in the same way, with
  fewer it is refused for want of levels.

  Main statements:
    * `persists` — what one level more changes;
    * `exists_reads` — a text that is read takes some number of levels.
-/
import ContentGate.Proofs.Notation.DirectReading

namespace ContentGate.Direct

open Text Notation

/-! ## §1. Answers that may only change from a refusal -/

/-- The second answer is the first, unless that is a refusal for want of levels. -/
def Persists {α : Type} (x y : Except ParseError α) : Prop :=
  x = y ∨ x = .error (.nestingTooDeep maxNesting)

section
variable {α β : Type}

theorem Persists.rfl {x : Except ParseError α} : Persists x x := .inl (Eq.refl x)

theorem Persists.bind {x y : Except ParseError α} {f g : α → Except ParseError β}
    (h : Persists x y) (hf : ∀ a, Persists (f a) (g a)) : Persists (x >>= f) (y >>= g) := by
  rcases h with rfl | rfl
  · cases x with
    | ok a => exact hf a
    | error cause => exact .inl (Eq.refl _)
  · exact .inr (Eq.refl _)

theorem Persists.mapM {f g : List Char → Except ParseError β} (h : ∀ cs, Persists (f cs) (g cs))
    (css : List (List Char)) : Persists (css.mapM f) (css.mapM g) := by
  induction css with
  | nil => exact .rfl
  | cons cs css ih =>
    rw [List.mapM_cons, List.mapM_cons]
    exact (h cs).bind fun b => ih.bind fun bs => .rfl

variable {read : Nat → Except ParseError α} {a : α} {n k : Nat}

/-- Once there is an answer, more levels do not change it. -/
theorem ok_of_le (hstep : ∀ l, Persists (read l) (read (l + 1))) (h : read n = .ok a)
    (hle : n ≤ k) : read k = .ok a := by
  induction hle with
  | refl => exact h
  | @step k _ ih =>
    rcases hstep k with hk | hk
    · rw [← hk, ih]
    · rw [ih] at hk
      cases hk

/-- As long as levels are missing, they are missing with fewer too. -/
theorem refused_of_le (hstep : ∀ l, Persists (read l) (read (l + 1)))
    (h : read k = .error (.nestingTooDeep maxNesting)) (hle : n ≤ k) :
    read n = .error (.nestingTooDeep maxNesting) := by
  induction hle with
  | refl => exact h
  | @step k _ ih =>
    rcases hstep k with hk | hk
    · exact ih (hk.trans h)
    · exact ih hk

/-- Answers each of which persists in the next: a reader that gives one
takes some number of levels. -/
theorem exists_takes (hstep : ∀ l, Persists (read l) (read (l + 1))) (h : read k = .ok a) :
    ∃ n, Takes n read a := by
  induction k with
  | zero =>
    refine ⟨0, fun l => ?_⟩
    rw [if_pos (Nat.zero_le l)]
    exact ok_of_le hstep h (Nat.zero_le l)
  | succ k ih =>
    rcases hstep k with hsame | hrefused
    · exact ih (hsame.trans h)
    · -- With one level less the text is refused, so it takes all of them.
      refine ⟨k + 1, fun l => ?_⟩
      by_cases hl : k + 1 ≤ l
      · rw [if_pos hl]
        exact ok_of_le hstep h hl
      · rw [if_neg hl]
        exact refused_of_le hstep hrefused (by omega)

end

/-! ## §2. The reader -/

/-- One level more, for a text with operators. -/
theorem persists_expression_succ {levels : Nat}
    (hexpression : ∀ cs, Persists (expression levels cs) (expression (levels + 1) cs))
    (hoperand : ∀ cs, Persists (operand levels cs) (operand (levels + 1) cs)) (cs : List Char) :
    Persists (expression (levels + 1) cs) (expression (levels + 2) cs) := by
  rw [expression, expression]
  split
  · exact .rfl
  split
  · exact (hexpression _).bind fun left => (hexpression _).bind fun right => .rfl
  · exact hoperand _

/-- One level more, for an operand. -/
theorem persists_operand_succ {levels : Nat}
    (hexpression : ∀ cs, Persists (expression levels cs) (expression (levels + 1) cs))
    (hoperand : ∀ cs, Persists (operand levels cs) (operand (levels + 1) cs)) (cs : List Char) :
    Persists (operand (levels + 1) cs) (operand (levels + 2) cs) := by
  rw [operand, operand]
  split
  · exact (hoperand _).bind fun e => .rfl
  split
  · exact (hoperand _).bind fun e => .rfl
  split
  · exact hexpression _
  split
  · exact .rfl
  split
  · exact Persists.rfl.bind fun args => (Persists.mapM hexpression args).bind fun es => .rfl
  · exact .rfl

/-- **One level more changes nothing but refusals for want of levels.** -/
theorem persists (levels : Nat) :
    (∀ cs, Persists (expression levels cs) (expression (levels + 1) cs))
      ∧ ∀ cs, Persists (operand levels cs) (operand (levels + 1) cs) := by
  -- Each of the two readers calls both one level down.
  induction levels with
  | zero => exact ⟨fun cs => .inr (expression_zero cs), fun cs => .inr (operand_zero cs)⟩
  | succ levels ih =>
    obtain ⟨hexpression, hoperand⟩ := ih
    exact ⟨persists_expression_succ hexpression hoperand,
      persists_operand_succ hexpression hoperand⟩

/-- **A text that is read takes some number of levels.** -/
theorem exists_reads {levels : Nat} {cs : List Char} {e : Expression}
    (h : expression levels cs = .ok e) : ∃ n, Reads n cs e :=
  exists_takes (fun l => (persists l).1 cs) h

end ContentGate.Direct
