/-
  ContentGate.Proofs.Notation.TightGaps — gaps in texts with operators.

  A reader CLOSES a gap if it accepts the text without it, whenever it accepts
  the text with it, and with the same condition.  Blanks at the ends of a text
  are trimmed away, so we may look at tight texts, with something on both
  sides of the gap and no blank at the ends.

  A tight text is split at its last operator of some level.  This operator
  stands in front of the gap or behind it, and the gap is in one of its
  sides, which is read one level down.

  Main statements:
    * `Closes`, `ClosesGaps` — readers that close gaps;
    * `closesGaps_of_tight` — tight texts are enough;
    * `closes_behind`, `closes_front` — where the operator stands;
    * `closes_expression_succ` — one level of a text with operators.
-/
import ContentGate.Proofs.Notation.Gaps
import ContentGate.Proofs.Notation.WrittenRows

namespace ContentGate.Direct

open Text Notation

/-! ## §1. Texts with a gap -/

/-- A text is read as it is split. -/
theorem expression_of_split {levels : Nat} {cs : List Char} {s : Split} {left right : Expression}
    (hne : trim cs ≠ [])
    (hsplit : split? (trim cs) = some s) (hleft : expression levels s.left = .ok left)
    (hright : expression levels s.right = .ok right) :
    expression (levels + 1) cs = .ok (.binary left s.op right) := by
  rw [expression_eq_of_split hne hsplit, expression_trim, expression_trim, hleft, hright]
  rfl

/-- A reader that accepts a text with a gap has a symbol on one side of it only,
and accepts the text without it, with the same condition. -/
def Closes (read : List Char → Except ParseError Expression) (front back : List Char) : Prop :=
  ∀ e, read (front ++ ' ' :: back) = .ok e → Apart front back ∧ read (front ++ back) = .ok e

/-- A reader does so wherever there is a gap. -/
def ClosesGaps (read : List Char → Except ParseError Expression) : Prop :=
  ∀ {front back : List Char} {ms ns : List Marked}, Gap front back → Marks front ms →
    Marks back ns → Closes read front back

/-- A reader accepts no blank text, and none with a symbol at an end of it, but for a sign. -/
def WellEnded (read : List Char → Except ParseError Expression) : Prop :=
  ∀ {cs : List Char} {e : Expression}, read cs = .ok e → trim cs ≠ [] ∧ Ends (trim cs)

theorem wellEnded_expression (levels : Nat) : WellEnded (expression levels) :=
  fun h => ⟨ne_nil_of_expression h, ends_of_expression h⟩

theorem wellEnded_operand (levels : Nat) : WellEnded (operand levels) :=
  fun h => ⟨ne_nil_of_operand h, ends_of_operand h⟩

theorem marks_ne_nil {cs : List Char} {ms : List Marked} (h : Marks cs ms) (hne : cs ≠ []) :
    ms ≠ [] := by
  rintro rfl
  exact hne h.unmarked.symm

theorem marks_space : Marks [' '] [(' ', false)] := marks_blank rfl

/-- The marks of a text with a gap. -/
theorem marks_gap {front back : List Char} {ms ns : List Marked} (hfront : Marks front ms)
    (hback : Marks back ns) : Marks (front ++ ' ' :: back) (ms ++ (' ', false) :: ns) :=
  hfront.append (marks_space.append hback)

/-- A text that cannot be trimmed, with a gap between two parts that are there. -/
structure TightGap (front back : List Char) (ms ns : List Marked) : Prop extends Gap front back where
  front_marks : Marks front ms
  back_marks : Marks back ns
  front_ne_nil : front ≠ []
  back_ne_nil : back ≠ []
  trim_with : trim (front ++ ' ' :: back) = front ++ ' ' :: back
  trim_without : trim (front ++ back) = front ++ back

section
variable {read : List Char → Except ParseError Expression} {front back front' back' : List Char}
  {ms ns : List Marked} {e : Expression}

/-- **A gap in a part that is read**: the sides are apart in the whole text, and the
part is read without it. -/
theorem ClosesGaps.part (hclose : ClosesGaps read) (hends : WellEnded read) (h : Gap front back)
    (hfront : front' <:+ front) (hback : back' <+: back) (hms : Marks front' ms) (hns : Marks back' ns)
    (hread : read (front' ++ ' ' :: back') = .ok e) :
    Apart front back ∧ read (front' ++ back') = .ok e := by
  obtain ⟨hsides, hclosed⟩ := hclose (h.part hfront hback) hms hns e hread
  obtain ⟨hne, hends⟩ := hends hread
  exact ⟨apart_of_part h.unsigned hfront hback hne hends hsides, hclosed⟩

/-- **What is trimmed away does not matter**, and a gap at an end of a text is trimmed away. -/
theorem closesGaps_of_tight (hread : ∀ cs, read (trim cs) = read cs)
    (hends : WellEnded read)
    (h : ∀ {front back ms ns}, TightGap front back ms ns → Closes read front back) :
    ClosesGaps read := by
  intro front back ms ns hgap hms hns e hok
  have hends := (hends hok).2
  by_cases hfront : front = []
  · subst hfront
    have htrim : trim ([' '] ++ back) = trim back := trim_blank_append rfl back
    refine ⟨rfl, ?_⟩
    rwa [← hread, List.nil_append, ← List.singleton_append, htrim, hread] at hok
  by_cases hback : back = []
  · subst hback
    have htrim : trim (front ++ [' ']) = trim front := trim_append_blank rfl front
    refine ⟨Bool.and_false _, ?_⟩
    rwa [← hread, htrim, hread, ← List.append_nil front] at hok
  by_cases hfront' : trim front = []
  · -- Then the second part begins with a symbol, and so does the text.
    have hblank := trim_eq_nil_iff.1 hfront'
    rw [trim_blank_append hblank] at hends
    rcases hgap.touched with hnil | hnil | hend | hstart
    · exact absurd hnil hfront
    · exact absurd hnil hback
    · rw [endsInSymbol_of_blank hblank] at hend
      cases hend
    · rw [startsInSymbol_of_ends hgap.unsigned hends] at hstart
      cases hstart
  by_cases hback' : trim back = []
  · -- Then the first part ends with a symbol, and so does the text.
    have hblank := trim_eq_nil_iff.1 hback'
    rw [List.append_cons, trim_append_blank hblank] at hends
    rcases hgap.touched with hnil | hnil | hend | hstart
    · exact absurd hnil hfront
    · exact absurd hnil hback
    · rw [endsInSymbol_of_ends hends] at hend
      cases hend
    · rw [startsInSymbol_of_blank hblank] at hstart
      cases hstart
  -- Both parts have something to stay, and the gap stays between them.
  obtain ⟨before, front', back', behind, rfl, rfl, hbefore, hbehind, hne, hne', htrim⟩ :=
    exists_trim_gap hfront' hback'
  obtain ⟨ms', -, hms'⟩ := hms.behind (marks_blank hbefore)
  obtain ⟨ns', -, hns'⟩ := marks_of_append_blank hbehind hns
  have hwith : trim (before ++ front' ++ ' ' :: (back' ++ behind)) = front' ++ ' ' :: back' :=
    htrim [' ']
  have hwithout : trim (before ++ front' ++ (back' ++ behind)) = front' ++ back' := htrim []
  have hpart := hgap.part (List.suffix_append before front') (List.prefix_append back' behind)
  have htight : TightGap front' back' ms' ns' :=
    ⟨hpart, hms', hns', hne, hne', by rw [← hwith, trim_trim], by rw [← hwithout, trim_trim]⟩
  rw [← hread, hwith] at hok
  obtain ⟨hapart, hclosed⟩ := h htight e hok
  refine ⟨?_, ?_⟩
  · unfold Apart at hapart ⊢
    rwa [endsInSymbol_append before hne, startsInSymbol_append hne' behind]
  · rw [← hread, hwithout, hclosed]

end

/-! ## §2. Texts with operators -/

section
variable {levels : Nat} {depth d : Int} {front back cs : List Char} {ms ns pre t r : List Marked}

theorem TightGap.marks_with (h : TightGap front back ms ns) :
    Marks (front ++ ' ' :: back) (ms ++ (' ', false) :: ns) :=
  marks_gap h.front_marks h.back_marks

theorem TightGap.marks_without (h : TightGap front back ms ns) : Marks (front ++ back) (ms ++ ns) :=
  h.front_marks.append h.back_marks

/-- The characters on both sides of a gap. -/
theorem TightGap.exists_sides (h : TightGap front back ms ns) :
    ∃ before a b behind, ms = before ++ [a] ∧ ns = b :: behind
      ∧ endsInSymbol front = isOperatorChar a.1 ∧ startsInSymbol back = isOperatorChar b.1 := by
  obtain ⟨before, a, rfl⟩ := exists_concat (marks_ne_nil h.front_marks h.front_ne_nil)
  obtain ⟨b, behind, rfl⟩ := List.exists_cons_of_ne_nil (marks_ne_nil h.back_marks h.back_ne_nil)
  refine ⟨before, a, b, behind, rfl, rfl, ?_, ?_⟩
  · have hlast : unmarked [a] ≠ [] := List.cons_ne_nil _ _
    rw [← h.front_marks.unmarked, unmarked_append, endsInSymbol_append _ hlast]
    rfl
  · rw [← h.back_marks.unmarked]
    rfl

/-- If the sides are apart, a symbol is on one side only. -/
theorem TightGap.differ (h : TightGap front back ms ns) (hapart : Apart front back)
    {before behind : List Marked} {a b : Marked} (hms : ms = before ++ [a]) (hns : ns = b :: behind) :
    isOperatorChar a.1 ≠ isOperatorChar b.1 := by
  obtain ⟨before', a', b', behind', hms', hns', hend, hstart⟩ := h.exists_sides
  obtain ⟨-, ha⟩ := List.append_inj' (hms.symm.trans hms') rfl
  obtain rfl : a = a' := (List.cons.inj ha).1
  obtain rfl : b = b' := (List.cons.inj (hns.symm.trans hns')).1
  have htouched := h.touched.resolve_left h.front_ne_nil |>.resolve_left h.back_ne_nil
  unfold Apart at hapart
  rw [hend, hstart] at htouched hapart
  intro heq
  rw [heq] at htouched hapart
  cases hb : isOperatorChar b.1 <;> simp [hb] at htouched hapart

/-- **Where no scan finds anything**, none does without the gap. -/
theorem TightGap.scan_none (h : TightGap front back ms ns) (hapart : Apart front back) {level : Level}
    (hlevel : level ∈ Direct.levels)
    (hscan : (splitLast level none (ms ++ (' ', false) :: ns)).2 = none) :
    (splitLast level none (ms ++ ns)).2 = none := by
  obtain ⟨before, a, b, behind, rfl, rfl, -, -⟩ := h.exists_sides
  have hnone := Direct.scan_none hlevel (h.differ hapart rfl rfl) (Prod.ext rfl hscan)
  rw [hnone]

theorem TightGap.split?_eq_none (h : TightGap front back ms ns) (hapart : Apart front back)
    (hsplit : split? (front ++ ' ' :: back) = none) : split? (front ++ back) = none := by
  rw [split?_eq_none_iff h.marks_with.marked?] at hsplit
  rw [split?_eq_none_iff h.marks_without.marked?]
  exact fun level hlevel => h.scan_none hapart hlevel (hsplit level hlevel)

/-- **A text is split at some level**, and so it is without the gap if the scan
of this level finds something. -/
theorem TightGap.exists_level (h : TightGap front back ms ns) {s : Split}
    (hsplit : split? (front ++ ' ' :: back) = some s) :
    ∃ level ∈ Direct.levels, ∃ depth, splitLast level none (ms ++ (' ', false) :: ns) = (depth, some s)
      ∧ ∀ {d s'}, Apart front back → splitLast level none (ms ++ ns) = (d, some s') →
          split? (front ++ back) = some s' := by
  unfold split? at hsplit ⊢
  rw [h.marks_with.marked?, Option.bind_eq_bind, Option.bind_some, List.findSome?_eq_some_iff] at hsplit
  rw [h.marks_without.marked?, Option.bind_eq_bind, Option.bind_some]
  obtain ⟨before, level, behind, hlevels, hfound, hnone⟩ := hsplit
  have hmem : ∀ l ∈ before ++ level :: behind, l ∈ Direct.levels := by
    rw [hlevels]
    exact fun l => id
  -- At the looser levels nothing is found, with or without the gap.
  refine ⟨level, hmem level (by simp), _, Prod.ext rfl hfound, fun hapart hscan => ?_⟩
  rw [List.findSome?_eq_some_iff]
  refine ⟨before, level, behind, hlevels, congrArg Prod.snd hscan, fun l hl => ?_⟩
  exact h.scan_none hapart (hmem l (List.mem_append_left _ hl)) (hnone l hl)

/-- What follows a spelling is a part of the text. -/
theorem marks_of_dropSpelling? {level : Level} (hlevel : level ∈ Direct.levels) {w : List Char}
    {op : Operator} (hw : (w, op) ∈ level.spellings) {c : Char} (h : Marks cs (pre ++ (c, false) :: t))
    (hdrop : dropSpelling? w ((c, false) :: t) = some r) :
    Marks (unmarked r) r ∧ unmarked r <:+ cs := by
  obtain ⟨hne, hquotes⟩ := spelling_proper hlevel hw
  have hmarked : marked? cs = some (pre ++ ((c, false) :: t ++ [])) := by
    rw [List.append_nil, h.marked?]
  obtain ⟨ds, hds, hlower⟩ := bare_of_dropSpelling? hmarked hne hquotes hdrop
  have hds' : ds ≠ [] := by
    rintro rfl
    exact hne hlower.symm
  -- The last character of the spelling is outside strings, so the text may be cut there.
  obtain ⟨ds, d, rfl⟩ := exists_concat hds'
  have hcut : Marks cs (pre ++ bare ds ++ (d, false) :: r) := by
    rw [hds] at h
    simpa [bare] using h
  refine ⟨(marks_cut hcut).2.2, unmarked (pre ++ bare ds ++ [(d, false)]), ?_⟩
  rw [← unmarked_append, ← h.unmarked, hds]
  simp [bare, unmarked]

variable {level : Level} {left right : Expression} {s : Split}

/-- **The operator stands behind the gap**: the gap is in its left side. -/
theorem closes_behind (hclose : ClosesGaps (expression levels)) (h : TightGap front back ms ns)
    (hlevel : level ∈ Direct.levels) (hback : splitLast level (some ' ') ns = (d, some s))
    (hleft : expression levels (front ++ ' ' :: s.left) = .ok left) :
    Apart front back ∧ expression levels (front ++ s.left) = .ok left
      ∧ splitLast level none (ms ++ ns) = (d, some { s with left := front ++ s.left }) := by
  obtain ⟨-, pre, c, suf, rest, hns, -, -, hpre, -⟩ := splitLast_eq_some hback
  have hmarks := h.back_marks
  rw [hns] at hmarks
  have hprefix : s.left <+: back := by
    rw [hpre, ← hmarks.unmarked, unmarked_append]
    exact List.prefix_append _ _
  have hleft_marks : Marks s.left pre := by
    rw [hpre]
    exact (marks_cut hmarks).1
  obtain ⟨hapart, hclosed⟩ := hclose.part (wellEnded_expression levels) h.toGap
    (List.suffix_refl front) hprefix h.front_marks hleft_marks hleft
  refine ⟨hapart, hclosed, ?_⟩
  obtain ⟨before, a, b, behind, hms, hbehind, hend, -⟩ := h.exists_sides
  rw [hbehind] at hback
  rcases scan_behind hlevel (h.differ hapart hms hbehind) hback with hscan | ⟨hnil, ha⟩
  · rw [← hbehind, ← lastOf_concat none before a, ← hms] at hscan
    rw [splitLast_append_of_some hscan, h.front_marks.unmarked]
  · -- Otherwise the left side ends with the symbol.
    rw [hnil] at hleft
    rw [← hend, endsInSymbol_of_ends (ends_of_expression hleft)] at ha
    cases ha

/-- **It stands in front of the gap**: the gap is in its right side. -/
theorem closes_front (hclose : ClosesGaps (expression levels)) (h : TightGap front back ms ns)
    (hlevel : level ∈ Direct.levels) (hback : splitLast level (some ' ') ns = (d, none))
    (hscan : splitLast level none (ms ++ (' ', false) :: ns) = (depth, some s))
    (hright : expression levels s.right = .ok right) :
    ∃ closed, Apart front back ∧ expression levels closed = .ok right
      ∧ splitLast level none (ms ++ ns) = (depth, some { s with right := closed }) := by
  obtain ⟨before, a, b, behind, hms, hns, -, hstart⟩ := h.exists_sides
  rw [hns] at hback hscan
  obtain @⟨pre, t, r, c, w, hfront, hw, hdrop, -, hgap, hfound⟩ := scan_front hlevel hback hscan
  have hmarks := h.front_marks
  rw [hfront] at hmarks
  obtain ⟨hr, hsuffix⟩ := marks_of_dropSpelling? hlevel hw hmarks hdrop
  rw [← hns, h.back_marks.unmarked] at hgap
  rw [hgap] at hright
  obtain ⟨hapart, hclosed⟩ := hclose.part (wellEnded_expression levels) h.toGap
    hsuffix (List.prefix_refl back) hr h.back_marks hright
  have hdiffer : Differ ms b := fun _ _ heq => h.differ hapart heq hns
  refine ⟨unmarked r ++ back, hapart, hclosed, ?_⟩
  rcases hfound hdiffer with hscan | ⟨rfl, hb⟩
  · rw [← hns, h.back_marks.unmarked] at hscan
    exact hscan
  · -- Otherwise the right side begins with the symbol.
    rw [← hstart, startsInSymbol_of_ends h.unsigned (ends_of_expression hright)] at hb
    cases hb

/-- **One level of a text with operators.** -/
theorem closes_expression_succ (hexpression : ClosesGaps (expression levels))
    (hoperand : ClosesGaps (operand levels)) (h : TightGap front back ms ns) :
    Closes (expression (levels + 1)) front back := by
  intro e hok
  have hne : trim (front ++ back) ≠ [] := by
    rw [h.trim_without]
    exact List.append_ne_nil_of_left_ne_nil h.front_ne_nil back
  cases hsplit : split? (front ++ ' ' :: back) with
  | none =>
    have hread := operand_of_expression hok (by rw [h.trim_with, hsplit])
    rw [h.trim_with] at hread
    obtain ⟨hapart, hclosed⟩ := hoperand h.toGap h.front_marks h.back_marks e hread
    have hunsplit : split? (trim (front ++ back)) = none := by
      rw [h.trim_without]
      exact h.split?_eq_none hapart hsplit
    refine ⟨hapart, ?_⟩
    rw [expression_eq_of_operand hne hunsplit, operand_trim, hclosed]
  | some s =>
    obtain ⟨left, right, hleft, hright, rfl⟩ :=
      sides_of_expression hok (by rw [h.trim_with, hsplit])
    rw [expression_trim] at hleft hright
    obtain ⟨level, hlevel, depth, hscan, hclosed⟩ := h.exists_level hsplit
    rcases hback : splitLast level (some ' ') ns with ⟨d, _ | s'⟩
    · -- Nothing stands behind the gap, so the operator stands in front of it.
      obtain ⟨closed, hapart, hright', hscan'⟩ := closes_front hexpression h hlevel hback hscan hright
      refine ⟨hapart, ?_⟩
      have hsplit' : split? (trim (front ++ back)) = some { s with right := closed } := by
        rw [h.trim_without]
        exact hclosed hapart hscan'
      have hwhole := expression_of_split hne hsplit' hleft hright'
      exact hwhole
    · -- The last operator is the one behind the gap.
      have hfound : splitLast level none (ms ++ [(' ', false)] ++ ns)
          = (d, some { s' with left := unmarked (ms ++ [(' ', false)]) ++ s'.left }) :=
        splitLast_append_of_some (by rw [lastOf_concat]; exact hback)
      rw [List.append_assoc, List.singleton_append, hscan, unmarked_append,
        h.front_marks.unmarked] at hfound
      obtain rfl := Option.some.inj (Prod.mk.inj hfound).2
      have hgap : front ++ unmarked [(' ', false)] ++ s'.left = front ++ ' ' :: s'.left := by
        simp [unmarked]
      simp only [hgap] at hleft
      obtain ⟨hapart, hleft', hscan'⟩ := closes_behind hexpression h hlevel hback hleft
      refine ⟨hapart, ?_⟩
      have hsplit' : split? (trim (front ++ back)) = some { s' with left := front ++ s'.left } := by
        rw [h.trim_without]
        exact hclosed hapart hscan'
      have hwhole := expression_of_split hne hsplit' hleft' hright
      exact hwhole

end

end ContentGate.Direct
