/-
  ContentGate.Proofs.Notation.Gaps — a blank beside a symbol.

  In a direct text a blank may stand between a symbol and its operand, and
  it may be missing there.  We look at a text with such a GAP and at the
  same text without it, and compare the scans.  A symbol has only characters
  that no word has, and no word of an operator has one of these; so no
  spelling begins before the gap and ends behind it, whether the blank is
  there or not.

  One thing is different.  A word beside the symbol stands apart with the
  blank, and without it does not.  But then the word is an operator next to
  a symbol, one side of it begins or ends with that symbol, and the text is
  not accepted.

  Main statements:
    * `Gap.part`, `apart_of_part` — gaps in parts of a text;
    * `exists_trim_gap` — what trimming takes away;
    * `operatorAt?_gap` — operators in front of a gap;
    * `scan_none`, `scan_behind`, `scan_front` — the scan of a text without its gap.
-/
import ContentGate.Proofs.Notation.Cutting
import ContentGate.Proofs.Notation.DirectEnds
import ContentGate.Proofs.Notation.Spellings

namespace ContentGate.Direct

open Text Notation

/-! ## §1. Gaps -/

/-- Two parts with a blank between them.  One of them touches the blank with a
symbol, if both are there; and the second does not begin with a sign. -/
structure Gap (front back : List Char) : Prop where
  touched : front = [] ∨ back = [] ∨ endsInSymbol front = true ∨ startsInSymbol back = true
  unsigned : ¬ Signed back

/-- The two parts of a gap do not both touch it with a symbol. -/
def Apart (front back : List Char) : Prop :=
  (endsInSymbol front && startsInSymbol back) = false

section
variable {front back front' back' : List Char}

theorem endsInSymbol_of_isSuffix (h : front' <:+ front) (hne : front' ≠ []) :
    endsInSymbol front = endsInSymbol front' := by
  obtain ⟨rest, rfl⟩ := h
  exact endsInSymbol_append rest hne

theorem startsInSymbol_of_isPrefix (h : back' <+: back) (hne : back' ≠ []) :
    startsInSymbol back = startsInSymbol back' := by
  obtain ⟨rest, rfl⟩ := h
  exact startsInSymbol_append hne rest

theorem Signed.of_isPrefix (h : Signed back') (hback : back' <+: back) : Signed back := by
  obtain ⟨rest, rfl⟩ := hback
  exact h.append rest

/-- **A part of a text with a gap** has that gap, or one of the sides is missing. -/
theorem Gap.part (h : Gap front back) (hfront : front' <:+ front) (hback : back' <+: back) :
    Gap front' back' := by
  refine ⟨?_, fun hsigned => h.unsigned (hsigned.of_isPrefix hback)⟩
  by_cases hf : front' = []
  · exact .inl hf
  by_cases hb : back' = []
  · exact .inr (.inl hb)
  rcases h.touched with rfl | rfl | hends | hstarts
  · exact absurd (List.suffix_nil.1 hfront) hf
  · exact absurd (List.prefix_nil.1 hback) hb
  · rw [endsInSymbol_of_isSuffix hfront hf] at hends
    exact .inr (.inr (.inl hends))
  · rw [startsInSymbol_of_isPrefix hback hb] at hstarts
    exact .inr (.inr (.inr hstarts))

theorem isBlank_of_isOperatorChar {c : Char} (h : isOperatorChar c = true) : isBlank c = false := by
  rw [Bool.eq_false_iff]
  intro hblank
  rw [isOperatorChar_of_isBlank hblank] at h
  cases h

/-- A symbol at the start of a text is not trimmed away, -/
theorem startsInSymbol_trim (h : startsInSymbol back = true) :
    startsInSymbol (trim back) = true ∧ trim back <+: back := by
  cases back with
  | nil => cases h
  | cons c cs =>
    obtain ⟨rest, htrim, hback⟩ := exists_trim_cons (isBlank_of_isOperatorChar h) cs
    rw [htrim]
    exact ⟨h, hback⟩

theorem endsInSymbol_of_blank (h : blank front = true) : endsInSymbol front = false :=
  (ends_of_forall fun c hc => isOperatorChar_of_isBlank (List.all_eq_true.1 h c hc)).stop

theorem startsInSymbol_of_blank (h : blank back = true) : startsInSymbol back = false := by
  cases back with
  | nil => rfl
  | cons c cs => exact isOperatorChar_of_isBlank (List.all_eq_true.1 h c List.mem_cons_self)

/-- and neither is one at its end. -/
theorem endsInSymbol_trim (h : endsInSymbol front = true) : endsInSymbol (trim front) = true := by
  have hne : trim front ≠ [] := by
    intro hnil
    rw [endsInSymbol_of_blank (trim_eq_nil_iff.1 hnil)] at h
    cases h
  obtain ⟨before, behind, hfront, -, hbehind⟩ := exists_trim front
  generalize trim front = kept at hne hfront ⊢
  subst hfront
  rw [← List.append_assoc] at h
  by_cases hempty : behind = []
  · rw [hempty, List.append_nil] at h
    rwa [endsInSymbol_append before hne] at h
  · rw [endsInSymbol_append _ hempty, endsInSymbol_of_blank hbehind] at h
    cases h

/-- **Behind a gap at the start of an accepted text** no symbol begins, unless it is a sign, -/
theorem startsInSymbol_of_ends (hunsigned : ¬ Signed back) (hends : Ends (trim (' ' :: back))) :
    startsInSymbol back = false := by
  have htrim : trim ([' '] ++ back) = trim back := trim_blank_append rfl back
  rw [List.singleton_append] at htrim
  rw [htrim] at hends
  refine Bool.eq_false_iff.2 fun hstarts => ?_
  obtain ⟨hsymbol, htrimmed⟩ := startsInSymbol_trim hstarts
  exact hunsigned ((hends.start hsymbol).of_isPrefix htrimmed)

/-- and in front of one at its end none ends. -/
theorem endsInSymbol_of_ends (hends : Ends (trim (front ++ [' ']))) : endsInSymbol front = false := by
  have htrim : trim (front ++ [' ']) = trim front := trim_append_blank rfl front
  rw [htrim] at hends
  refine Bool.eq_false_iff.2 fun hsymbol => ?_
  have hstop := hends.stop
  rw [endsInSymbol_trim hsymbol] at hstop
  cases hstop

/-- **If a part of a text is accepted with its gap, the sides are apart**, also in the whole text. -/
theorem apart_of_part (hunsigned : ¬ Signed back) (hfront : front' <:+ front)
    (hback : back' <+: back) (hne : trim (front' ++ ' ' :: back') ≠ [])
    (hends : Ends (trim (front' ++ ' ' :: back'))) (h : Apart front' back') :
    Apart front back := by
  unfold Apart at h ⊢
  by_cases hf : front' = []
  · subst hf
    have hb : back' ≠ [] := by
      rintro rfl
      exact hne rfl
    have hstart := startsInSymbol_of_ends (fun hsigned => hunsigned (hsigned.of_isPrefix hback)) hends
    rw [startsInSymbol_of_isPrefix hback hb, hstart, Bool.and_false]
  by_cases hb : back' = []
  · subst hb
    rw [endsInSymbol_of_isSuffix hfront hf, endsInSymbol_of_ends hends, Bool.false_and]
  · rwa [endsInSymbol_of_isSuffix hfront hf, startsInSymbol_of_isPrefix hback hb]

/-- **What trimming takes away** from a text with something between two parts. -/
theorem exists_trim_gap (hfront : trim front ≠ []) (hback : trim back ≠ []) :
    ∃ before front' back' behind, front = before ++ front' ∧ back = back' ++ behind
      ∧ blank before = true ∧ blank behind = true ∧ front' ≠ [] ∧ back' ≠ []
      ∧ ∀ between, trim (front ++ (between ++ back)) = front' ++ (between ++ back') := by
  obtain ⟨before, f, hf, hbefore, -⟩ := exists_trim front
  obtain ⟨b, behind, hb, -, hbehind⟩ := exists_trim back
  have hsolid := fun between => (solid_trim hfront).append (solid_trim hback) (f ++ (between ++ b))
  generalize trim front = kept at hfront hf hsolid
  generalize trim back = kept' at hback hb hsolid
  subst hf hb
  refine ⟨before, kept ++ f, b ++ kept', behind, rfl, by simp, hbefore, hbehind, by simp [hfront],
    by simp [hback], fun between => ?_⟩
  have htrim := (hsolid between).trim_around hbefore hbehind
  simpa using htrim

end

/-! ## §2. Operators in front of a gap -/

theorem isOperatorChar_toLower (c : Char) : isOperatorChar c.toLower = isOperatorChar c := by
  cases hc : c.isUpper with
  | false => rw [toLower_of_not_isUpper hc]
  | true =>
    have hname := isNameChar_of_isUpper hc
    rw [isOperatorChar_of_isNameChar (isNameChar_toLower hname), isOperatorChar_of_isNameChar hname]

/-- The levels of symbols have only characters of symbols, and those of words have none of them. -/
theorem level_kinds {level : Level} (h : level ∈ levels) :
    (level.apart = apartFromSymbols ∧ ∀ p ∈ level.spellings, ∀ a ∈ p.1, isOperatorChar a = true)
      ∨ level.apart = apartFromWords
        ∧ (∃ p, level.spellings = [p])
        ∧ ∀ p ∈ level.spellings, ∀ a ∈ p.1, isOperatorChar a = false := by
  have hsymbols : ∀ {ps : List (List Char × Operator)},
      (ps.all fun p => p.1.all isOperatorChar) = true →
      ∀ p ∈ ps, ∀ a ∈ p.1, isOperatorChar a = true :=
    fun hall p hp => List.all_eq_true.1 (List.all_eq_true.1 hall p hp)
  have hwords : ∀ {ps : List (List Char × Operator)},
      (ps.all fun p => p.1.all fun a => !isOperatorChar a) = true →
      ∀ p ∈ ps, ∀ a ∈ p.1, isOperatorChar a = false := by
    intro ps hall p hp a ha
    simpa using List.all_eq_true.1 (List.all_eq_true.1 hall p hp) a ha
  simp only [levels, List.mem_cons, List.not_mem_nil, or_false] at h
  rcases h with rfl | rfl | rfl | rfl | rfl
  · exact .inl ⟨rfl, hsymbols (by decide)⟩
  · exact .inr ⟨rfl, ⟨_, rfl⟩, hwords (by decide)⟩
  · exact .inl ⟨rfl, hsymbols (by decide)⟩
  · exact .inr ⟨rfl, ⟨_, rfl⟩, hwords (by decide)⟩
  · exact .inl ⟨rfl, hsymbols (by decide)⟩

section
variable {level : Level} {before : Option Char} {ms rest : List Marked} {a b : Marked}
  {behind : List Marked}

/-- No spelling has both a character of symbols and another one. -/
theorem not_mem_of_differ (hlevel : level ∈ levels) (h : isOperatorChar a.1 ≠ isOperatorChar b.1)
    {p : List Char × Operator} (hp : p ∈ level.spellings) : a.1.toLower ∉ p.1 ∨ b.1.toLower ∉ p.1 := by
  by_contra hboth
  obtain ⟨ha, hb⟩ := not_or.1 hboth
  have ha := not_not.1 ha
  have hb := not_not.1 hb
  rcases level_kinds hlevel with ⟨-, hall⟩ | ⟨-, -, hall⟩
  · have hac := hall p hp _ ha
    have hbc := hall p hp _ hb
    rw [isOperatorChar_toLower] at hac hbc
    exact h (hac.trans hbc.symm)
  · have hac := hall p hp _ ha
    have hbc := hall p hp _ hb
    rw [isOperatorChar_toLower] at hac hbc
    exact h (hac.trans hbc.symm)

/-- **A spelling does not go from one side of a place to the other**, where it
has not both of the characters there. -/
theorem dropSpelling?_append_of_or {w : List Char} (h : a.1.toLower ∉ w ∨ b.1.toLower ∉ w) :
    dropSpelling? w (ms ++ [a] ++ b :: behind)
      = (dropSpelling? w (ms ++ [a])).map (· ++ b :: behind) := by
  rcases h with ha | hb
  · have hstop : ∀ more m' more', a :: more = m' :: more' → m'.1.toLower ∉ w := by
      intro more m' more' heq
      obtain ⟨rfl, -⟩ := List.cons.inj heq
      exact ha
    have hshort : dropSpelling? w (ms ++ [a]) = (dropSpelling? w ms).map (· ++ [a]) :=
      dropSpelling?_append (hstop [])
    have hlong : dropSpelling? w (ms ++ a :: b :: behind)
        = (dropSpelling? w ms).map (· ++ a :: b :: behind) :=
      dropSpelling?_append (hstop (b :: behind))
    rw [List.append_assoc, List.singleton_append, hlong, hshort, Option.map_map]
    congr 1
    funext r
    simp
  · apply dropSpelling?_append
    intro m more heq
    obtain ⟨rfl, -⟩ := List.cons.inj heq
    exact hb

theorem dropSpelling?_gap (hlevel : level ∈ levels) {p : List Char × Operator}
    (hp : p ∈ level.spellings) (ms : List Marked) :
    dropSpelling? p.1 (ms ++ (' ', false) :: behind)
      = (dropSpelling? p.1 ms).map (· ++ (' ', false) :: behind) := by
  apply dropSpelling?_append
  intro m more heq
  obtain ⟨rfl, -⟩ := List.cons.inj heq
  exact not_mem_spelling_of_isBlank hlevel rfl hp

theorem apart_space (hlevel : level ∈ levels) : level.apart (some ' ') = true := by
  have hall : ∀ l ∈ levels, l.apart (some ' ') = true := by decide
  exact hall level hlevel

/-- Where no operator stands in front of the gap, none stands there without it. -/
theorem operatorAt?_gap_none (hlevel : level ∈ levels)
    (hdiffer : isOperatorChar a.1 ≠ isOperatorChar b.1) (ms : List Marked)
    (h : operatorAt? level before (ms ++ [a] ++ (' ', false) :: b :: behind) = none) :
    operatorAt? level before (ms ++ [a] ++ b :: behind) = none := by
  rw [operatorAt?_eq_none_iff] at h ⊢
  intro p hp rest hrest
  rw [dropSpelling?_append_of_or (not_mem_of_differ hlevel hdiffer hp), Option.map_eq_some_iff] at hrest
  obtain ⟨r, hr, rfl⟩ := hrest
  have hgap := h p hp (r ++ (' ', false) :: b :: behind) (by rw [dropSpelling?_gap hlevel hp, hr]; rfl)
  cases r with
  | nil =>
    -- The blank joins nothing, so it is the other neighbour that does.
    have hbefore : level.apart before = false := by
      rcases Bool.and_eq_false_iff.1 hgap with hbefore | hspace
      · exact hbefore
      · change level.apart (some ' ') = false at hspace
        rw [apart_space hlevel] at hspace
        cases hspace
    rw [hbefore]
    rfl
  | cons m r => exact hgap

/-- A spelling that ends where the gap is, and stands apart only with it, is a
word in front of a symbol. -/
theorem word_of_not_apart (hlevel : level ∈ levels)
    (hdiffer : isOperatorChar a.1 ≠ isOperatorChar b.1) {p : List Char × Operator}
    (hp : p ∈ level.spellings) (hdrop : dropSpelling? p.1 (ms ++ [a]) = some [])
    (hapart : level.apart (some b.1) = false) :
    (∃ p, level.spellings = [p]) ∧ isOperatorChar b.1 = true := by
  obtain ⟨ns, hns, hlower⟩ := eq_append_of_dropSpelling? hdrop
  rw [List.append_nil] at hns
  have hmem : a.1.toLower ∈ p.1 := by
    rw [← hlower, ← hns]
    simp [unmarked, lower]
  rcases level_kinds hlevel with ⟨hkind, hall⟩ | ⟨-, hsingle, hall⟩
  · have ha := hall p hp _ hmem
    rw [isOperatorChar_toLower] at ha
    have hb : isOperatorChar b.1 = true := by
      rw [hkind] at hapart
      simpa [apartFromSymbols] using hapart
    exact absurd (ha.trans hb.symm) hdiffer
  · have ha := hall p hp _ hmem
    rw [isOperatorChar_toLower] at ha
    refine ⟨hsingle, ?_⟩
    rw [ha] at hdiffer
    simpa using hdiffer.symm

/-- **An operator in front of a gap** is one without it, too, unless it ends where
the gap is and a symbol follows. -/
theorem operatorAt?_gap {op : Operator} (hlevel : level ∈ levels)
    (hdiffer : isOperatorChar a.1 ≠ isOperatorChar b.1)
    (h : operatorAt? level before (ms ++ [a] ++ (' ', false) :: b :: behind) = some (op, rest)) :
    (∃ r, rest = r ++ (' ', false) :: b :: behind
        ∧ operatorAt? level before (ms ++ [a] ++ b :: behind) = some (op, r ++ b :: behind))
      ∨ rest = (' ', false) :: b :: behind ∧ isOperatorChar b.1 = true := by
  by_cases hend : ∃ p ∈ level.spellings, dropSpelling? p.1 (ms ++ [a]) = some []
      ∧ level.apart (some b.1) = false
  · obtain ⟨p, hp, hdrop, hapart⟩ := hend
    obtain ⟨⟨p', hsingle⟩, hb⟩ := word_of_not_apart hlevel hdiffer hp hdrop hapart
    -- There is only this spelling.
    obtain ⟨w, hw, hdrop', -, -⟩ := operatorAt?_eq_some h
    rw [hsingle, List.mem_singleton] at hp hw
    subst hp
    have hw' : w = p.1 := congrArg Prod.fst hw
    have hp : p ∈ level.spellings := by
      rw [hsingle]
      exact List.mem_singleton_self p
    rw [hw', dropSpelling?_gap hlevel hp, hdrop] at hdrop'
    exact .inr ⟨(Option.some.inj hdrop').symm, hb⟩
  · have hsame : ∀ p ∈ level.spellings, ∀ r, dropSpelling? p.1 (ms ++ [a]) = some r →
        level.apart (headOf (r ++ (' ', false) :: b :: behind))
          = level.apart (headOf (r ++ b :: behind)) := by
      intro p hp r hr
      cases r with
      | nil =>
        have hb : level.apart (some b.1) = true := by
          by_contra hb
          exact hend ⟨p, hp, hr, Bool.eq_false_iff.2 hb⟩
        exact (apart_space hlevel).trans hb.symm
      | cons m r => rfl
    -- Both texts have the same spellings, with neighbours of the same kind.
    rw [operatorAt?_append fun p hp => dropSpelling?_gap hlevel hp (ms ++ [a])] at h
    rw [operatorAt?_append fun p hp =>
      dropSpelling?_append_of_or (not_mem_of_differ hlevel hdiffer hp)]
    rw [operatorIn?_congr fun p hp r hr => by rw [hsame p hp r hr]] at h
    obtain ⟨⟨op', r⟩, hfound, heq⟩ := Option.map_eq_some_iff.1 h
    obtain ⟨rfl, rfl⟩ := Prod.mk.inj heq
    refine .inl ⟨r, rfl, ?_⟩
    rw [hfound]
    rfl

end

/-! ## §3. The scan of a text without its gap -/

section
variable {level : Level} {before : Option Char} {depth d : Int} {ms front : List Marked} {a b : Marked}
  {behind : List Marked} {s : Split}

/-- The scan passes over the gap. -/
theorem splitLast_space (hlevel : level ∈ levels) :
    splitLast level before ((' ', false) :: ms) = (depth, none)
      ↔ splitLast level (some ' ') ms = (depth, none) := by
  have hnone : operatorAt? level before ((' ', false) :: ms) = none := by
    have hpassed := isPassed_of_isBlank (c := ' ') hlevel rfl
    exact operatorAt?_of_startsNone (Bool.and_eq_true_iff.1 hpassed).1 false
  have hdepth : depth + parenStep (' ', false) = depth := Int.add_zero depth
  rw [splitLast_cons_eq_none, hdepth]
  exact and_iff_left (.inr hnone)

/-- A scan that finds nothing behind a blank finds nothing behind another character. -/
theorem splitLast_of_space (hlevel : level ∈ levels) (h : splitLast level (some ' ') ms = (depth, none))
    (before : Option Char) : splitLast level before ms = (depth, none) := by
  have hnone : splitLast level before (ms ++ []) = (depth, none) :=
    splitLast_append_blank hlevel (fun _ _ heq => by cases heq) (.inr (apart_space hlevel)) h rfl
  rwa [List.append_nil] at hnone

/-- **Where the scan finds nothing, it finds nothing without the gap.** -/
theorem scan_none (hlevel : level ∈ levels) (hdiffer : isOperatorChar a.1 ≠ isOperatorChar b.1)
    (h : splitLast level before (ms ++ [a] ++ (' ', false) :: b :: behind) = (depth, none)) :
    splitLast level before (ms ++ [a] ++ b :: behind) = (depth, none) := by
  induction ms generalizing before depth with
  | nil =>
    rw [List.nil_append, List.singleton_append] at h ⊢
    rw [splitLast_cons_eq_none, splitLast_space hlevel] at h
    rw [splitLast_cons_eq_none]
    exact ⟨splitLast_of_space hlevel h.1 _,
      h.2.imp_right (operatorAt?_gap_none hlevel hdiffer [])⟩
  | cons m ms ih =>
    rw [List.cons_append, List.cons_append, splitLast_cons_eq_none] at h ⊢
    exact ⟨ih h.1, h.2.imp_right (operatorAt?_gap_none hlevel hdiffer (m :: ms))⟩

/-- The scan does not look at what stands before a text, if an operator is found
behind its first character, -/
theorem splitLast_of_left_ne_nil (h : splitLast level before ms = (depth, some s)) (hs : s.left ≠ [])
    (before' : Option Char) : splitLast level before' ms = (depth, some s) := by
  cases ms with
  | nil => cases h
  | cons m ms =>
    rcases hms : splitLast level (some m.1) ms with ⟨d, _ | s'⟩
    · rw [splitLast_cons_of_none hms] at h
      obtain ⟨-, hfound⟩ := Prod.mk.inj h
      split at hfound
      · cases hfound
      · obtain ⟨p, -, rfl⟩ := Option.map_eq_some_iff.1 hfound
        exact absurd rfl hs
    · rw [splitLast_cons_of_some hms] at h ⊢
      exact h

/-- and otherwise only at whether it leaves the operator apart. -/
theorem splitLast_congr {before' : Option Char} (h : level.apart before = level.apart before')
    (ms : List Marked) : splitLast level before ms = splitLast level before' ms := by
  cases ms with
  | nil => rfl
  | cons m ms =>
    have hoperator : operatorAt? level before (m :: ms) = operatorAt? level before' (m :: ms) := by
      unfold operatorAt?
      rw [h]
    rcases hms : splitLast level (some m.1) ms with ⟨d, _ | s⟩
    · rw [splitLast_cons_of_none hms, splitLast_cons_of_none hms, hoperator]
    · rw [splitLast_cons_of_some hms, splitLast_cons_of_some hms]

/-- A spelling begins with the first of the characters that it is read from. -/
theorem head_mem_of_dropSpelling? (hlevel : level ∈ levels) {w : List Char} {op : Operator}
    (hw : (w, op) ∈ level.spellings) {m : Marked} {rest : List Marked}
    (h : dropSpelling? w (m :: ms) = some rest) : m.1.toLower ∈ w := by
  have hne : ∀ l ∈ levels, ∀ p ∈ l.spellings, p.1 ≠ [] := by decide
  obtain ⟨ns, hns, hlower⟩ := eq_append_of_dropSpelling? h
  cases ns with
  | nil => exact absurd hlower.symm (hne level hlevel _ hw)
  | cons n ns =>
    rw [List.cons_append] at hns
    obtain ⟨rfl, -⟩ := List.cons.inj hns
    rw [← hlower]
    exact List.mem_cons_self

/-- **An operator behind the gap** is found without it, too, unless it begins where
the gap is and a symbol stands before. -/
theorem scan_behind (hlevel : level ∈ levels) (hdiffer : isOperatorChar a.1 ≠ isOperatorChar b.1)
    (h : splitLast level (some ' ') (b :: behind) = (depth, some s)) :
    splitLast level (some a.1) (b :: behind) = (depth, some s)
      ∨ s.left = [] ∧ isOperatorChar a.1 = true := by
  by_cases hleft : s.left = []
  · by_cases ha : isOperatorChar a.1 = true
    · exact .inr ⟨hleft, ha⟩
    refine .inl ?_
    rcases level_kinds hlevel with ⟨hkind, -⟩ | ⟨-, -, hall⟩
    · -- Neither the blank nor the other character joins a symbol.
      have hapart : level.apart (some a.1) = level.apart (some ' ') := by
        rw [hkind]
        simp [apartFromSymbols, Bool.eq_false_iff.2 ha]
        rfl
      rw [splitLast_congr hapart, h]
    · -- A word does not begin with the character of a symbol.
      obtain ⟨-, pre, c, suf, rest, hsplit, -, hop, hpre, -⟩ := splitLast_eq_some h
      obtain rfl : pre = [] := List.map_eq_nil_iff.1 (hpre.symm.trans hleft)
      obtain ⟨w, hw, hdrop, -, -⟩ := operatorAt?_eq_some hop
      have hb := hall _ hw _ (head_mem_of_dropSpelling? hlevel hw hdrop)
      obtain ⟨rfl, -⟩ := List.cons.inj hsplit
      rw [isOperatorChar_toLower] at hb
      exact absurd ((Bool.eq_false_iff.2 ha).trans hb.symm) hdiffer
  · exact .inl (splitLast_of_left_ne_nil h hleft _)

/-- The last character of a part is a symbol's if and only if `b` is none. -/
def Differ (front : List Marked) (b : Marked) : Prop :=
  ∀ ms a, front = ms ++ [a] → isOperatorChar a.1 ≠ isOperatorChar b.1

/-- An operator in front of a gap: where it stands, and what the scan finds
without the gap.  A word that ends where the gap is may not be found then. -/
inductive InFront (level : Level) (before : Option Char) (front : List Marked) (b : Marked)
    (behind : List Marked) (depth : Int) (s : Split) : Prop where
  | intro {pre t r : List Marked} {c : Char} {w : List Char}
      (hfront : front = pre ++ (c, false) :: t) (hw : (w, s.op) ∈ level.spellings)
      (hdrop : dropSpelling? w ((c, false) :: t) = some r) (hleft : s.left = unmarked pre)
      (hright : s.right = unmarked r ++ ' ' :: unmarked (b :: behind))
      (hclosed : Differ front b →
        splitLast level before (front ++ b :: behind)
            = (depth, some { s with right := unmarked r ++ unmarked (b :: behind) })
          ∨ r = [] ∧ isOperatorChar b.1 = true) :
      InFront level before front b behind depth s

/-- A longer part in front of the gap. -/
theorem InFront.cons {m : Marked} (h : InFront level (some m.1) front b behind depth s) :
    InFront level before (m :: front) b behind depth { s with left := m.1 :: s.left } := by
  obtain @⟨pre, t, r, c, w, rfl, hw, hdrop, hleft, hright, hclosed⟩ := h
  have hfront : m :: (pre ++ (c, false) :: t) = m :: pre ++ (c, false) :: t := rfl
  refine .intro hfront hw hdrop (congrArg (m.1 :: ·) hleft) hright fun hdiffer => ?_
  have hrest : Differ (pre ++ (c, false) :: t) b := by
    intro ms a heq
    apply hdiffer (m :: ms) a
    rw [heq]
    rfl
  rcases hclosed hrest with hfound | hbad
  · exact .inl (splitLast_cons_of_some hfound before)
  · exact .inr hbad

/-- Where nothing is found behind the first character, nothing is found there without the gap. -/
theorem scan_none_tail (hlevel : level ∈ levels) {m : Marked} (hdiffer : Differ (m :: front) b)
    (h : splitLast level (some m.1) (front ++ (' ', false) :: b :: behind) = (depth, none)) :
    splitLast level (some m.1) (front ++ b :: behind) = (depth, none) := by
  by_cases hnone : front = []
  · subst hnone
    exact splitLast_of_space hlevel ((splitLast_space hlevel).1 h) _
  · obtain ⟨ms, a, rfl⟩ := exists_concat hnone
    exact scan_none hlevel (hdiffer (m :: ms) a rfl) h

/-- **An operator in front of the gap.** -/
theorem scan_front (hlevel : level ∈ levels)
    (hback : splitLast level (some ' ') (b :: behind) = (d, none))
    (h : splitLast level before (front ++ (' ', false) :: b :: behind) = (depth, some s)) :
    InFront level before front b behind depth s := by
  induction front generalizing before depth s with
  | nil =>
    rw [List.nil_append, (splitLast_space hlevel).2 hback] at h
    cases h
  | cons m front ih =>
    rw [List.cons_append] at h
    rcases htail : splitLast level (some m.1) (front ++ (' ', false) :: b :: behind) with ⟨k, _ | s'⟩
    · -- The operator begins with the first character.
      rw [splitLast_cons_of_none htail] at h
      obtain ⟨hdepth, hfound⟩ := Prod.mk.inj h
      by_cases hskip : (m.2 || k - parenStep m != 0) = true
      · rw [if_pos hskip] at hfound
        cases hfound
      rw [if_neg hskip, Option.map_eq_some_iff] at hfound
      obtain ⟨⟨op, rest⟩, hop, rfl⟩ := hfound
      obtain ⟨c, q⟩ := m
      obtain rfl : q = false := (Bool.or_eq_false_iff.1 (Bool.eq_false_iff.2 hskip)).1
      obtain ⟨w, hw, hdrop, -, -⟩ := operatorAt?_eq_some hop
      rw [← List.cons_append, dropSpelling?_gap hlevel hw, Option.map_eq_some_iff] at hdrop
      obtain ⟨r, hr, rfl⟩ := hdrop
      refine .intro (List.nil_append _).symm hw hr rfl (by simp [unmarked]) fun hdiffer => ?_
      have hclosed := scan_none_tail hlevel hdiffer htail
      obtain ⟨ms, a, hconcat⟩ := exists_concat (List.cons_ne_nil ((c, false) : Marked) front)
      rw [← List.cons_append, hconcat] at hop
      rcases operatorAt?_gap hlevel (hdiffer ms a hconcat) hop with ⟨r', hr', hop'⟩ | ⟨hnil, hb⟩
      · obtain rfl := List.append_cancel_right hr'
        rw [← hconcat, List.cons_append] at hop'
        rw [List.cons_append, splitLast_cons_of_none hclosed, if_neg hskip, hop', hdepth]
        simp [unmarked]
      · exact .inr ⟨by simpa using hnil, hb⟩
    · rw [splitLast_cons_of_some htail] at h
      obtain ⟨rfl, hs⟩ := Prod.mk.inj h
      obtain rfl := Option.some.inj hs
      exact (ih htail).cons

end

end ContentGate.Direct
