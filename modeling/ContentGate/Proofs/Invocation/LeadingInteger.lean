/-
  ContentGate.Proofs.Invocation.LeadingInteger — the integer at the head of a text.

  The number of a blog is read leniently: blanks, one sign or none, and then
  digits, up to the first character that is no digit.  Whatever follows is
  ignored, and no digits at all are zero.  There may be more digits than 64
  bits can hold.  The number is then kept at the bound, and because a further
  digit never makes it smaller, it stays there.

  `appendDigit` is one step on words of 64 bits: a product and a sum, each kept
  within the bounds.  The words are exact as long as the number fits, so they
  are the least of the number and the bound after every digit.  The bound is
  the greatest word; its negation is a word too, and the least word is never
  reached.  So what is read is written as a text from which it is read again.

  Main statements:
    * `exists_isLeadingInteger`, `IsLeadingInteger.unique` — the parts of a text;
    * `foldl_withDigit`, `toInt_foldl_appendDigit` — the digits, one after the other;
    * `lenientInt_toString` — a written integer is read back;
    * `lenientInt_exact` — the whole of it, down to the attribute of a tag.
-/
import Mathlib.Data.List.Induction
import ContentGate.Invocation.Basic
import ContentGate.Proofs.Decimal.Digits
import ContentGate.Proofs.Tag.Entries
import ContentGate.Proofs.Text.FirstWord

namespace ContentGate

open Decimal Text

/-! ## §1. The head of a text -/

/-- The sign in front of a text, if there is one, and whether it is a minus.  A text without a
sign in front of it starts with no sign and no blank. -/
inductive IsSign : (negative : Bool) → (sign behind : List Char) → Prop where
  | minus (behind : List Char) : IsSign true ['-'] behind
  | plus (behind : List Char) : IsSign false ['+'] behind
  | none {behind : List Char}
      (h : ∀ c, behind.head? = some c → c ≠ '-' ∧ c ≠ '+' ∧ isBlank c = false) :
      IsSign false [] behind

/-- A text taken apart: its first blanks, a sign or none, the longest run of digits behind it, and
the rest. -/
structure IntegerParts (cs : List Char) (negative : Bool) (blanks sign digits rest : List Char) :
    Prop where
  eq : cs = blanks ++ (sign ++ (digits ++ rest))
  blank : Text.blank blanks = true
  isSign : IsSign negative sign (digits ++ rest)
  isDigit : ∀ c ∈ digits, c.isDigit = true
  maximal : ∀ c, rest.head? = some c → c.isDigit = false

/-- The sign and the digits of the integer at the head of a text; there may be no digits. -/
def IsLeadingInteger (cs : List Char) (negative : Bool) (digits : List Char) : Prop :=
  ∃ blanks sign rest, IntegerParts cs negative blanks sign digits rest

section
variable {cs behind blanks sign digits rest : List Char} {negative : Bool}

/-- Behind the first blanks there is a sign or none. -/
theorem exists_isSign (cs : List Char) :
    ∃ negative sign behind, trimStart cs = sign ++ behind ∧ IsSign negative sign behind := by
  have hhead : ∀ c, (trimStart cs).head? = some c → isBlank c = false := by
    intro c hc
    have hnot := List.head?_dropWhile_not isBlank cs
    unfold trimStart at hc
    rw [hc] at hnot
    exact hnot
  by_cases hminus : (trimStart cs).head? = some '-'
  · obtain ⟨behind, hcs⟩ := List.head?_eq_some_iff.1 hminus
    exact ⟨true, ['-'], behind, hcs, .minus behind⟩
  by_cases hplus : (trimStart cs).head? = some '+'
  · obtain ⟨behind, hcs⟩ := List.head?_eq_some_iff.1 hplus
    exact ⟨false, ['+'], behind, hcs, .plus behind⟩
  refine ⟨false, [], trimStart cs, rfl, .none ?_⟩
  intro c hc
  refine ⟨?_, ?_, hhead c hc⟩
  · rintro rfl
    exact hminus hc
  · rintro rfl
    exact hplus hc

/-- **Every text has an integer at its head**, perhaps one without digits. -/
theorem exists_isLeadingInteger (cs : List Char) :
    ∃ negative digits, IsLeadingInteger cs negative digits := by
  obtain ⟨negative, sign, behind, hcs, hsign⟩ := exists_isSign cs
  have hbehind : behind.takeWhile Char.isDigit ++ behind.dropWhile Char.isDigit = behind :=
    List.takeWhile_append_dropWhile
  refine ⟨negative, behind.takeWhile Char.isDigit, cs.takeWhile isBlank, sign,
    behind.dropWhile Char.isDigit, ?_, List.all_takeWhile, ?_, ?_, ?_⟩
  · rw [hbehind, ← hcs]
    exact List.takeWhile_append_dropWhile.symm
  · rw [hbehind]
    exact hsign
  · exact List.all_eq_true.1 List.all_takeWhile
  · intro c hc
    have hnot := List.head?_dropWhile_not Char.isDigit behind
    rw [hc] at hnot
    exact hnot

/-- Neither a sign nor what may stand without one starts with a blank. -/
theorem IsSign.isBlank_head (h : IsSign negative sign behind) :
    ∀ c, (sign ++ behind).head? = some c → isBlank c = false := by
  intro c hc
  cases h with
  | minus =>
    obtain rfl : '-' = c := by simpa using hc
    decide
  | plus =>
    obtain rfl : '+' = c := by simpa using hc
    decide
  | none hnone => exact (hnone c hc).2.2

theorem IntegerParts.trimStart_eq (h : IntegerParts cs negative blanks sign digits rest) :
    trimStart cs = sign ++ (digits ++ rest) := by
  rw [h.eq]
  exact dropWhile_run (List.all_eq_true.1 h.blank) h.isSign.isBlank_head

/-- The sign is taken off. -/
theorem IsSign.sign_eq (h : IsSign negative sign behind) :
    Decimal.sign (sign ++ behind) = (negative, behind) := by
  cases h with
  | minus => rfl
  | plus => rfl
  | none hnone =>
    rw [List.nil_append]
    unfold Decimal.sign
    split
    · exact absurd rfl (hnone _ rfl).1
    · exact absurd rfl (hnone _ rfl).2.1
    · rfl

/-- **There is only one integer at the head of a text.** -/
theorem IsLeadingInteger.unique {negative' : Bool} {digits' : List Char}
    (h : IsLeadingInteger cs negative digits) (h' : IsLeadingInteger cs negative' digits') :
    negative' = negative ∧ digits' = digits := by
  obtain ⟨blanks, sign, rest, h⟩ := h
  obtain ⟨blanks', sign', rest', h'⟩ := h'
  have hsame : sign' ++ (digits' ++ rest') = sign ++ (digits ++ rest) :=
    h'.trimStart_eq.symm.trans h.trimStart_eq
  have hsign := h'.isSign.sign_eq
  rw [hsame, h.isSign.sign_eq] at hsign
  obtain ⟨hnegative, hbehind⟩ := Prod.mk.inj hsign
  refine ⟨hnegative.symm, ?_⟩
  rw [← takeWhile_run h'.isDigit h'.maximal, ← hbehind, takeWhile_run h.isDigit h.maximal]

end

/-! ## §2. The digits -/

/-- A number with one more digit behind it, no greater than the greatest word. -/
def withDigit (n : Int) (c : Char) : Int := min (min (n * 10) int64Max + digitValue c) int64Max

theorem digitValue_eq {c : Char} (h : c.isDigit = true) :
    digitValue c = ((c.toNat - '0'.toNat : Nat) : Int) ∧ c.toNat - '0'.toNat ≤ 9 := by
  have hbounds := toNat_of_isDigit h
  have hzero : '0'.toNat = 48 := rfl
  unfold digitValue
  rw [hzero]
  omega

/-- **The digits, one after the other, give the number or the bound.**  Where the number has
passed the bound, a further digit leaves it there. -/
theorem foldl_withDigit {ds : List Char} (h : ∀ c ∈ ds, c.isDigit = true) :
    ds.foldl withDigit 0 = min (digitsValue ds : Int) int64Max := by
  induction ds using List.reverseRecOn with
  | nil => rfl
  | append_singleton ds c ih =>
    obtain ⟨hds, hc⟩ := List.forall_mem_append.1 h
    obtain ⟨hvalue, hnine⟩ := digitValue_eq (hc c List.mem_cons_self)
    have hstep : (ds ++ [c]).foldl withDigit 0 = withDigit (ds.foldl withDigit 0) c := by
      rw [List.foldl_append]
      rfl
    rw [hstep, ih hds, digitsValue_concat]
    unfold withDigit int64Max
    rw [hvalue]
    omega

/-! ## §3. The digits in words of 64 bits -/

/-- The product of two words, at the nearer bound if it is no word. -/
def saturatingMul (m n : Int64) : Int64 := clampInt64 (m.toInt * n.toInt)

/-- The sum of two words, at the nearer bound if it is no word. -/
def saturatingAdd (m n : Int64) : Int64 := clampInt64 (m.toInt + n.toInt)

/-- A word with one more digit behind it. -/
def appendDigit (n : Int64) (c : Char) : Int64 :=
  saturatingAdd (saturatingMul n 10) (Int64.ofInt (digitValue c))

/-- One step in words is one step in integers. -/
theorem toInt_appendDigit {n : Int64} {c : Char} (hn : 0 ≤ n.toInt) (hc : c.isDigit = true) :
    (appendDigit n c).toInt = withDigit n.toInt c := by
  obtain ⟨hvalue, hnine⟩ := digitValue_eq hc
  have hdigit : (Int64.ofInt (digitValue c)).toInt = digitValue c :=
    Int64.toInt_ofInt_of_le (by omega) (by omega)
  have hten : (10 : Int64).toInt = 10 := rfl
  unfold appendDigit saturatingAdd saturatingMul withDigit
  rw [toInt_clampInt64, toInt_clampInt64, hdigit, hten]
  unfold int64Min int64Max
  omega

/-- **The words are the number or the bound**, after every digit. -/
theorem toInt_foldl_appendDigit {ds : List Char} (h : ∀ c ∈ ds, c.isDigit = true) :
    (ds.foldl appendDigit 0).toInt = min (digitsValue ds : Int) int64Max := by
  rw [← foldl_withDigit h]
  induction ds using List.reverseRecOn with
  | nil => rfl
  | append_singleton ds c ih =>
    obtain ⟨hds, hc⟩ := List.forall_mem_append.1 h
    have hnonneg : 0 ≤ (ds.foldl appendDigit 0).toInt := by
      rw [ih hds, foldl_withDigit hds]
      unfold int64Max
      omega
    rw [List.foldl_append, List.foldl_append]
    show (appendDigit (ds.foldl appendDigit 0) c).toInt = withDigit (ds.foldl withDigit 0) c
    rw [toInt_appendDigit hnonneg (hc c List.mem_cons_self), ih hds]

/-- Within a step the product is exact or at the bound. -/
theorem toInt_saturatingMul_ten {n : Int64} {number : Nat}
    (h : n.toInt = min (number : Int) int64Max) :
    (saturatingMul n 10).toInt = min (10 * number : Int) int64Max := by
  have hten : (10 : Int64).toInt = 10 := rfl
  unfold saturatingMul
  rw [toInt_clampInt64, h, hten]
  unfold int64Min int64Max
  omega

/-! ## §4. The integer -/

section
variable {s : String} {negative : Bool} {digits : List Char}

/-- The integer at the head of a text, by its sign and its digits. -/
theorem IsLeadingInteger.lenientInt_eq (h : IsLeadingInteger s.toList negative digits) :
    lenientInt s
      = Int64.ofInt (if negative then -(digits.foldl withDigit 0) else digits.foldl withDigit 0) := by
  obtain ⟨blanks, sign, rest, h⟩ := h
  have hread : lenientInt s = Int64.ofInt
      (if (Decimal.sign (trimStart s.toList)).1 then
        -(((Decimal.sign (trimStart s.toList)).2.takeWhile Char.isDigit).foldl withDigit 0)
      else ((Decimal.sign (trimStart s.toList)).2.takeWhile Char.isDigit).foldl withDigit 0) := rfl
  rw [hread, h.trimStart_eq, h.isSign.sign_eq, takeWhile_run h.isDigit h.maximal]

theorem IsLeadingInteger.isDigit (h : IsLeadingInteger s.toList negative digits) :
    ∀ c ∈ digits, c.isDigit = true := by
  obtain ⟨_, _, _, h⟩ := h
  exact h.isDigit

/-- **The integer at the head of a text** is its number, at the bound if it is greater, with its
sign. -/
theorem IsLeadingInteger.toInt_lenientInt (h : IsLeadingInteger s.toList negative digits) :
    (lenientInt s).toInt
      = (if negative then -1 else 1) * min (digitsValue digits : Int) int64Max := by
  rw [h.lenientInt_eq, foldl_withDigit h.isDigit]
  unfold int64Max
  cases negative with
  | true => rw [if_pos rfl, if_pos rfl, Int64.toInt_ofInt_of_le (by omega) (by omega)]; omega
  | false =>
    rw [if_neg Bool.false_ne_true, if_neg Bool.false_ne_true,
      Int64.toInt_ofInt_of_le (by omega) (by omega), Int.one_mul]

/-- A word of digits can be negated. -/
theorem toInt_neg_foldl_appendDigit {ds : List Char} (h : ∀ c ∈ ds, c.isDigit = true) :
    (-(ds.foldl appendDigit 0)).toInt = -(ds.foldl appendDigit 0).toInt := by
  rw [← Int64.ofInt_toInt (ds.foldl appendDigit 0), ← Int64.ofInt_neg, Int64.ofInt_toInt,
    toInt_foldl_appendDigit h]
  unfold int64Max
  exact Int64.toInt_ofInt_of_le (by omega) (by omega)

/-- **The integer is computed in words.** -/
theorem IsLeadingInteger.lenientInt_eq_words (h : IsLeadingInteger s.toList negative digits) :
    lenientInt s
      = if negative then -(digits.foldl appendDigit 0) else digits.foldl appendDigit 0 := by
  rw [← Int64.toInt_inj, h.toInt_lenientInt]
  cases negative with
  | true =>
    rw [if_pos rfl, if_pos rfl, toInt_neg_foldl_appendDigit h.isDigit,
      toInt_foldl_appendDigit h.isDigit, Int.neg_one_mul]
  | false =>
    rw [if_neg Bool.false_ne_true, if_neg Bool.false_ne_true, toInt_foldl_appendDigit h.isDigit,
      Int.one_mul]

end

/-! ## §5. Written integers -/

/-- A digit is no sign and no blank. -/
theorem isDigit_apart {c : Char} (h : c.isDigit = true) :
    c ≠ '-' ∧ c ≠ '+' ∧ isBlank c = false := by
  have hbounds := toNat_of_isDigit h
  refine ⟨?_, ?_, ?_⟩
  · rintro rfl
    exact absurd h (by decide)
  · rintro rfl
    exact absurd h (by decide)
  · simp only [isBlank, Bool.or_eq_false_iff, Bool.and_eq_false_iff, decide_eq_false_iff_not,
      beq_eq_false_iff_ne]
    omega

/-- A written integer is its sign and its digits. -/
theorem isLeadingInteger_toString (k : Int) :
    IsLeadingInteger (toString k).toList (decide (k < 0)) (Layout.digitsOf k.natAbs) := by
  have hdigits : ∀ c ∈ Layout.digitsOf k.natAbs, c.isDigit = true :=
    fun c hc => isDigit_of_mem_digitsOf hc
  have hrest : ∀ c, ([] : List Char).head? = some c → c.isDigit = false := by
    intro c hc
    cases hc
  cases k with
  | ofNat n =>
    refine ⟨[], [], [], (toList_toString n).trans (List.append_nil _).symm, rfl, ?_, hdigits, hrest⟩
    refine .none ?_
    intro c hc
    rw [List.append_nil] at hc
    exact isDigit_apart (hdigits c (List.mem_of_mem_head? hc))
  | negSucc n =>
    have hwritten : (toString (Int.negSucc n)).toList = '-' :: Layout.digitsOf (n + 1) := by
      show ("-" ++ toString (n + 1)).toList = _
      rw [String.toList_append, toList_toString]
      rfl
    rw [hwritten, decide_eq_true (Int.negSucc_lt_zero n)]
    exact ⟨[], ['-'], [], by rw [List.append_nil]; rfl, rfl, .minus _, hdigits, hrest⟩

/-- **A written integer is read back**, unless it is the least word. -/
theorem lenientInt_toString {n : Int64} (h : -int64Max ≤ n.toInt) :
    lenientInt (toString n) = n := by
  have hlead : IsLeadingInteger (toString n).toList _ _ := isLeadingInteger_toString n.toInt
  have hupper : n.toInt ≤ int64Max := Int.le_of_lt_add_one n.toInt_lt
  rw [← Int64.toInt_inj, hlead.toInt_lenientInt, digitsValue_digitsOf]
  unfold int64Max at h hupper ⊢
  by_cases hneg : n.toInt < 0
  · rw [if_pos (decide_eq_true hneg)]
    omega
  · rw [if_neg (by simpa using hneg)]
    omega

/-! ## §6. The number of a blog -/

/-- What is read is written as a text from which it is read again. -/
theorem lenientInt_toString_lenientInt (s : String) :
    lenientInt (toString (lenientInt s)) = lenientInt s := by
  obtain ⟨negative, digits, h⟩ := exists_isLeadingInteger s.toList
  apply lenientInt_toString
  rw [h.toInt_lenientInt]
  unfold int64Max
  cases negative with
  | true => rw [if_pos rfl]; omega
  | false => rw [if_neg Bool.false_ne_true]; omega

/-- The normal form of a tag writes the blog that the tag is for. -/
theorem Invocation.forBlog_ofTag (t : Tag) (r : Resolved) (user : UserId) :
    (ofTag t r user).attributes.get? AttributeName.forBlog
      = some (toString (ofTag t r user).forBlog) := by
  have hapart : AttributeKey.named AttributeName.satisfy ≠ .named AttributeName.forBlog := by decide
  show ((Attributes.insert _ _ _).insert _ _).find? (.named AttributeName.forBlog) = _
  rw [Attributes.find?_insert, if_neg hapart, Attributes.find?_insert, if_pos rfl]
  rfl

/-- **The integer at the head of a text is exact, kept within 64 bits, and stable.**  Every text
has one sign and one run of digits at its head.  What is read is their number with the sign, or the
greatest word with the sign where the number is greater.  It is computed in words: after every
digit the word is the least of the number so far and the greatest word, and so is the product that
the next digit is added to; and the last word is negated exactly.  Written and read again, the
integer is the same, so the attribute of a tag that names a blog names the blog that the tag is
for. -/
theorem lenientInt_exact (s : String) :
    ∃ negative digits, IsLeadingInteger s.toList negative digits
      ∧ (∀ negative' digits', IsLeadingInteger s.toList negative' digits' →
          negative' = negative ∧ digits' = digits)
      ∧ (lenientInt s).toInt
          = (if negative then -1 else 1) * min (digitsValue digits : Int) int64Max
      ∧ (digits = [] → lenientInt s = 0)
      ∧ lenientInt s
          = (if negative then -(digits.foldl appendDigit 0) else digits.foldl appendDigit 0)
      ∧ (∀ before after, digits = before ++ after →
          let n := before.foldl appendDigit 0
          n.toInt = min (digitsValue before : Int) int64Max
            ∧ (saturatingMul n 10).toInt = min (10 * digitsValue before : Int) int64Max)
      ∧ (-(digits.foldl appendDigit 0)).toInt = -(digits.foldl appendDigit 0).toInt
      ∧ lenientInt (toString (lenientInt s)) = lenientInt s
      ∧ ∀ (t : Tag) (r : Resolved) (user : UserId),
          let i := Invocation.ofTag t r user
          i.forBlog = lenientInt (Invocation.valueOf
              (Invocation.merged t.attributes r.options.debugDefault) AttributeName.forBlog)
            ∧ i.attributes.get? AttributeName.forBlog = some (toString i.forBlog)
            ∧ lenientInt (toString i.forBlog) = i.forBlog := by
  obtain ⟨negative, digits, h⟩ := exists_isLeadingInteger s.toList
  refine ⟨negative, digits, h, fun _ _ => h.unique, h.toInt_lenientInt, ?_, h.lenientInt_eq_words,
    ?_, toInt_neg_foldl_appendDigit h.isDigit, lenientInt_toString_lenientInt s, ?_⟩
  · rintro rfl
    rw [h.lenientInt_eq_words]
    cases negative <;> rfl
  · rintro before after rfl n
    have hn : n.toInt = min (digitsValue before : Int) int64Max :=
      toInt_foldl_appendDigit (List.forall_mem_append.1 h.isDigit).1
    exact ⟨hn, toInt_saturatingMul_ten hn⟩
  · intro t r user i
    exact ⟨rfl, Invocation.forBlog_ofTag t r user, lenientInt_toString_lenientInt _⟩

end ContentGate
