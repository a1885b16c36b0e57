/-
  ContentGate.Proofs.Decimal.Digits — whole numbers in decimal digits.

  The digits of a number are read back to the number, and nothing but
  zero is written with a leading zero.  So a number has one canonical
  text, the one that it is written with.

  A text that is read as a float need not be canonical, but it has only
  letters, digits, signs and points.

  Main statements:
    * `digitsValue_digitsOf` — digits are read back;
    * `head?_digitsOf_ne_zero` — no leading zero;
    * `isNumberChar_of_float?` — the characters of a float.
-/
import ContentGate.Decimal.Layout
import ContentGate.Decimal.Reading
import ContentGate.Proofs.Text.Blank

namespace ContentGate.Decimal

open Layout

theorem digitsOf_ne_nil (n : Nat) : digitsOf n ≠ [] := Nat.toDigits_ne_nil

theorem isDigit_of_mem_digitsOf {n : Nat} {c : Char} (h : c ∈ digitsOf n) : c.isDigit = true :=
  Nat.isDigit_of_mem_toDigits (by decide) (by decide) h

theorem toNat_of_isDigit {c : Char} (h : c.isDigit = true) : 48 ≤ c.toNat ∧ c.toNat ≤ 57 := by
  simpa [Char.isDigit, UInt32.le_iff_toNat_le] using h

theorem digitsValue_concat (ds : List Char) (c : Char) :
    digitsValue (ds ++ [c]) = 10 * digitsValue ds + (c.toNat - '0'.toNat) := by
  unfold digitsValue
  rw [List.foldl_append]
  rfl

/-- **Digits are read back.** -/
theorem digitsValue_digitsOf (n : Nat) : digitsValue (digitsOf n) = n :=
  Nat.ofDigitChars_ten_toDigits

/-- The written form of a number is its digits. -/
theorem toList_toString (n : Nat) : (toString n).toList = digitsOf n := Nat.toList_repr

/-- Two numbers have two written forms. -/
theorem toString_inj {m n : Nat} (h : toString m = toString n) : m = n := by
  have hdigits := congrArg String.toList h
  rw [toList_toString, toList_toString] at hdigits
  rw [← digitsValue_digitsOf m, hdigits, digitsValue_digitsOf]

/-- **A number other than zero has no leading zero.** -/
theorem head?_digitsOf_ne_zero {n : Nat} (h : 0 < n) : (digitsOf n).head? ≠ some '0' := by
  induction n using Nat.strongRecOn with
  | ind n ih =>
    have hdigits : digitsOf n
        = if n < 10 then [n.digitChar] else digitsOf (n / 10) ++ [(n % 10).digitChar] :=
      Nat.toDigits_eq_if (by decide)
    rw [hdigits]
    split
    · intro hhead
      have hzero : n.digitChar = '0' := by simpa using hhead
      rw [Nat.digitChar_eq_zero] at hzero
      omega
    · -- The leading digit is that of `n / 10`.
      have hrest := ih (n / 10) (by omega) (by omega)
      cases hds : digitsOf (n / 10) with
      | nil => exact absurd hds (digitsOf_ne_nil _)
      | cons d ds =>
        rw [hds] at hrest
        exact hrest

/-! ## The characters of a float -/

/-- Letters, digits, signs and points. -/
def isNumberChar (c : Char) : Bool := c.isAlphanum || c == '+' || c == '-' || c == '.'

section
open Text
variable {c : Char} {cs : List Char}

theorem isNumberChar_of_isAlpha (h : c.isAlpha = true) : isNumberChar c = true := by
  simp [isNumberChar, Char.isAlphanum, h]

theorem isNumberChar_of_isDigit (h : c.isDigit = true) : isNumberChar c = true := by
  simp [isNumberChar, Char.isAlphanum, h]

theorem isAlpha_of_toLower (h : c.toLower.isAlpha = true) : c.isAlpha = true := by
  cases hc : c.isUpper with
  | true => exact isAlpha_of_isUpper hc
  | false =>
    have hsame : c.toLower = c := dif_neg (of_decide_eq_false hc)
    rwa [hsame] at h

theorem isNumberChar_of_isWordAnyCase {w : List Char} (hw : w.all Char.isAlpha = true)
    (h : isWordAnyCase w cs = true) : ∀ c ∈ cs, isNumberChar c = true := by
  intro c hc
  apply isNumberChar_of_isAlpha
  apply isAlpha_of_toLower
  apply List.all_eq_true.1 hw
  rw [← beq_iff_eq.1 h]
  exact List.mem_map_of_mem hc

/-- A sign stands in front of the rest. -/
theorem eq_append_sign (cs : List Char) :
    ∃ s, cs = s ++ (sign cs).2 ∧ ∀ c ∈ s, isNumberChar c = true := by
  unfold sign
  split
  · exact ⟨['-'], rfl, List.all_eq_true.1 (by decide)⟩
  · exact ⟨['+'], rfl, List.all_eq_true.1 (by decide)⟩
  · exact ⟨[], rfl, List.forall_mem_nil _⟩

theorem isNumberChar_of_exponentPart? {n : Int} (h : exponentPart? cs = some n) :
    ∀ c ∈ cs, isNumberChar c = true := by
  cases cs with
  | nil => exact fun c hc => absurd hc List.not_mem_nil
  | cons e cs =>
    rw [exponentPart?] at h
    by_cases he : e = 'e' ∨ e = 'E'
    · rw [if_pos he] at h
      obtain ⟨s, hcs, hs⟩ := eq_append_sign cs
      have hdigits : ((sign cs).2.isEmpty || !(sign cs).2.all Char.isDigit) = false := by
        rw [Bool.eq_false_iff]
        intro hnone
        simp only [if_pos hnone] at h
        cases h
      rw [Bool.or_eq_false_iff, Bool.not_eq_false'] at hdigits
      refine List.forall_mem_cons.2 ⟨by rcases he with rfl | rfl <;> rfl, ?_⟩
      rw [hcs]
      exact List.forall_mem_append.2
        ⟨hs, fun c hc => isNumberChar_of_isDigit (List.all_eq_true.1 hdigits.2 c hc)⟩
    · rw [if_neg he] at h
      cases h

theorem isNumberChar_of_takeWhile : ∀ c ∈ cs.takeWhile Char.isDigit, isNumberChar c = true :=
  fun c hc => isNumberChar_of_isDigit (List.all_eq_true.1 List.all_takeWhile c hc)

theorem isNumberChar_of_written? {w : Written} (h : written? cs = some w) :
    ∀ c ∈ cs, isNumberChar c = true := by
  have hsplit : ∀ ds : List Char, ds = ds.takeWhile Char.isDigit ++ ds.dropWhile Char.isDigit :=
    fun ds => List.takeWhile_append_dropWhile.symm
  have htail : ∀ (b : Bool) (f : Int → Written) (tail : List Char),
      (if b = true then none else (exponentPart? tail).map f) = some w →
        ∀ c ∈ tail, isNumberChar c = true := by
    intro b f tail hsome
    cases b with
    | true => cases hsome
    | false =>
      obtain ⟨n, hexponent, -⟩ := Option.map_eq_some_iff.1 hsome
      exact isNumberChar_of_exponentPart? hexponent
  unfold written? at h
  rw [hsplit cs]
  refine List.forall_mem_append.2 ⟨isNumberChar_of_takeWhile, ?_⟩
  simp only at h
  split at h
  · -- Digits may follow the point.
    rename_i rest hrest
    rw [hrest, hsplit rest]
    exact List.forall_mem_cons.2
      ⟨rfl, List.forall_mem_append.2 ⟨isNumberChar_of_takeWhile, htail _ _ _ h⟩⟩
  · exact htail _ _ _ h

/-- **A text that is read as a float has only letters, digits, signs and points.** -/
theorem isNumberChar_of_float? {x : Float} (h : float? cs = some x) :
    ∀ c ∈ cs, isNumberChar c = true := by
  obtain ⟨s, hcs, hs⟩ := eq_append_sign cs
  have hinf : ['i', 'n', 'f'].all Char.isAlpha = true := by decide
  have hinfinity : "infinity".toList.all Char.isAlpha = true := by decide
  have hnan : ['n', 'a', 'n'].all Char.isAlpha = true := by decide
  rw [hcs]
  refine List.forall_mem_append.2 ⟨hs, ?_⟩
  unfold float? at h
  simp only at h
  split at h
  · rename_i hword
    rcases Bool.or_eq_true_iff.1 hword with hword | hword
    · exact isNumberChar_of_isWordAnyCase hinf hword
    · exact isNumberChar_of_isWordAnyCase hinfinity hword
  split at h
  · rename_i hword
    exact isNumberChar_of_isWordAnyCase hnan hword
  · obtain ⟨w, hwritten, -⟩ := Option.map_eq_some_iff.1 h
    exact isNumberChar_of_written? hwritten

end

end ContentGate.Decimal
