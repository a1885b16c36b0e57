/-
  ContentGate.Proofs.Notation.OperandGaps — gaps in operands.

  In an operand a gap is behind a sign, between parentheses, or in one of
  the arguments of a call; a literal has none.  What it is in is read one
  level down, and the operand stays of the same kind.  A gap in a name or
  beside it would touch no symbol.

  Main statements:
    * `closes_sign`, `enclosed?_gap`, `closes_written` — where the gap is;
    * `closes_operand_succ` — one level of an operand;
    * `closes_of_levels` — both readers close gaps, whatever the levels.
-/
import ContentGate.Proofs.Notation.TightGaps

namespace ContentGate.Direct

open Text Notation

/-! ## §1. Operands -/

section
variable {levels : Nat} {front back cs inner before rest : List Char} {ms ns : List Marked}
  {c : Char} {e : Expression}

/-- The first part of a text that is there begins the text. -/
theorem exists_front (hne : front ≠ []) (h : front ++ back = c :: cs) :
    ∃ front', front = c :: front' ∧ cs = front' ++ back := by
  cases front with
  | nil => exact absurd rfl hne
  | cons d front' =>
    obtain ⟨rfl, rfl⟩ := List.cons.inj h
    exact ⟨front', rfl, rfl⟩

theorem negated?_minus (cs : List Char) :
    negated? ('-' :: cs) = if (trimStart cs).head?.any Char.isDigit then none else some cs := by
  rw [negated?]
  cases trimStart cs <;> rfl

/-- A gap does not change what the first character is that is no blank. -/
theorem head?_trimStart_gap (front back : List Char) :
    (trimStart (front ++ ' ' :: back)).head? = (trimStart (front ++ back)).head? := by
  unfold trimStart
  induction front with
  | nil => rfl
  | cons c front ih =>
    rw [List.cons_append, List.cons_append]
    by_cases hc : isBlank c = true
    · rw [List.dropWhile_cons_of_pos hc, List.dropWhile_cons_of_pos hc, ih]
    · rw [List.dropWhile_cons_of_neg hc, List.dropWhile_cons_of_neg hc]
      rfl

/-- **A gap behind a sign.** -/
theorem closes_sign (hoperand : ClosesGaps (operand levels)) (hc : isNoQuote c = true)
    (h : TightGap (c :: front) back ms ns) (hread : operand levels (front ++ ' ' :: back) = .ok e) :
    Apart (c :: front) back ∧ operand levels (front ++ back) = .ok e := by
  have hsuffix : front <:+ c :: front := List.suffix_cons c front
  have hmarks : Marks ([c] ++ front) ms := h.front_marks
  have hsign : Marks [c] (bare [c]) := marks_bare (by simpa using hc)
  obtain ⟨ms', -, hms'⟩ := hmarks.behind hsign
  exact hoperand.part (wellEnded_operand levels) h.toGap hsuffix (List.prefix_refl back) hms'
    h.back_marks hread

/-- **A gap between parentheses.** -/
theorem enclosed?_gap (hms : Marks front ms) (hns : Marks back ns) (hfront : front ≠ [])
    (hback : back ≠ []) (h : enclosed? (front ++ ' ' :: back) = some inner) :
    ∃ f b ms' ns', front = '(' :: f ∧ back = b ++ [')'] ∧ inner = f ++ ' ' :: b
      ∧ Marks f ms' ∧ Marks b ns' ∧ enclosed? (front ++ back) = some (f ++ b) := by
  obtain ⟨qs, hqs, hbalance, rfl⟩ := enclosed?_eq_some h
  have heq : ms ++ (' ', false) :: ns = ('(', false) :: (qs ++ [(')', false)]) :=
    Option.some.inj ((marks_gap hms hns).marked?.symm.trans hqs)
  obtain ⟨m, ms, rfl⟩ := List.exists_cons_of_ne_nil (marks_ne_nil hms hfront)
  obtain ⟨ns, n, rfl⟩ := exists_concat (marks_ne_nil hns hback)
  obtain ⟨rfl, htail⟩ := List.cons.inj heq
  have hinner : ms ++ (' ', false) :: ns ++ [n] = qs ++ [(')', false)] := by
    rw [List.append_assoc]
    exact htail
  obtain ⟨rfl, hn⟩ := List.append_inj' hinner rfl
  obtain rfl : n = (')', false) := (List.cons.inj hn).1
  have hopen : Marks front ([] ++ ('(', false) :: ms) := hms
  have hf := (marks_cut hopen).2.2
  have hb := (marks_cut hns).1
  have hfront' : front = '(' :: unmarked ms := hms.unmarked.symm
  have hback' : back = unmarked ns ++ [')'] := by
    rw [← hns.unmarked, unmarked_append]
    rfl
  refine ⟨unmarked ms, unmarked ns, ms, ns, hfront', hback', ?_, hf, hb, ?_⟩
  · rw [unmarked_append]
    rfl
  · have hclosed := enclosed?_of_balanced (hf.append hb) (marksBalance_drop rfl hbalance)
    rw [hfront', hback']
    simpa using hclosed

/-- A literal has no gap. -/
theorem TightGap.literal?_eq_none (h : TightGap front back ms ns) :
    literal? (front ++ ' ' :: back) = none := by
  cases hliteral : literal? (front ++ ' ' :: back) with
  | none => rfl
  | some v =>
    exfalso
    rcases literal_cases hliteral with ⟨s, hstring⟩ | hall
    · -- All characters of a string belong to it, and the blank does not.
      have heq := h.marks_with.marked?.symm.trans (marks_of_string? hstring).1
      have hmem : (' ', false) ∈ inString (front ++ ' ' :: back) := by
        rw [← Option.some.inj heq]
        exact List.mem_append_right _ List.mem_cons_self
      obtain ⟨_, -, hmark⟩ := List.mem_map.1 hmem
      cases hmark
    · exact absurd (hall ' ' (List.mem_append_right _ List.mem_cons_self)) (by decide)

end

/-! ## §2. Calls -/

section
variable {levels : Nat} {front back front' back' cs inner before rest : List Char}
  {ms ns : List Marked} {c : Char} {e : Expression} {args : List Expression}

/-- A name and the blanks around it have no symbols and no quotes. -/
theorem name_chars (hname : isIdentifier (trim before) = true) (hc : c ∈ before) :
    isOperatorChar c = false ∧ isNoQuote c = true := by
  obtain ⟨front, back, hbefore, hfront, hback⟩ := exists_trim before
  rw [hbefore, List.mem_append, List.mem_append] at hc
  rcases hc with hc | hc | hc
  · have hblank := List.all_eq_true.1 hfront c hc
    exact ⟨isOperatorChar_of_isBlank hblank, isNoQuote_of_isBlank hblank⟩
  · have hchar := isNameChar_of_isIdentifier hname c hc
    have hplain := (isPlain_iff.1 (isPlain_of_isNameChar hchar)).1
    exact ⟨isOperatorChar_of_isNameChar hchar, (isOrdinary_iff.1 hplain).1⟩
  · have hblank := List.all_eq_true.1 hback c hc
    exact ⟨isOperatorChar_of_isBlank hblank, isNoQuote_of_isBlank hblank⟩

/-- **What begins with a name and has a parenthesis** is no operand of another kind. -/
theorem plain_of_name (hsolid : Solid (before ++ '(' :: rest))
    (hname : isIdentifier (trim before) = true) :
    dropWord? ['!'] (before ++ '(' :: rest) = none ∧ negated? (before ++ '(' :: rest) = none
      ∧ enclosed? (before ++ '(' :: rest) = none ∧ literal? (before ++ '(' :: rest) = none := by
  obtain ⟨c, name, htrim, hc, hdigit⟩ := exists_head_of_isIdentifier hname
  obtain ⟨behind, hbehind⟩ := trim_prefix_of_solid hsolid
  rw [htrim, List.cons_append] at hbehind
  have hmem : '(' ∈ c :: (name ++ behind) := by
    rw [hbehind]
    exact List.mem_append_right _ List.mem_cons_self
  have hparen : '(' ∈ name ++ behind :=
    (List.mem_cons.1 hmem).resolve_left (ne_of_isNameChar hc (by decide)).symm
  have hplain := startsPlain_of_isNameChar hc
  rw [← hbehind]
  exact ⟨dropWord?_of_startsPlain hplain _, negated?_of_startsPlain hplain _,
    enclosed?_of_startsPlain hplain _, literal?_of_paren hc hdigit hparen⟩

/-- **A gap in a call** is between its parentheses. -/
theorem TightGap.exists_call (h : TightGap front back ms ns)
    (hname : isIdentifier (trim before) = true)
    (heq : front ++ ' ' :: back = before ++ '(' :: (inner ++ [')']))
    (henclosed : enclosed? ('(' :: (inner ++ [')'])) = some inner) :
    ∃ f b ms' ns', front = before ++ '(' :: f ∧ back = b ++ [')'] ∧ inner = f ++ ' ' :: b
      ∧ Marks f ms' ∧ Marks b ns' ∧ enclosed? ('(' :: (f ++ b ++ [')'])) = some (f ++ b) := by
  rcases List.append_eq_append_iff.1 heq with ⟨name, hbefore, hback⟩ | ⟨args, hfront, hback⟩
  · -- A gap in the name or beside it would touch no symbol.
    exfalso
    have hend : endsInSymbol front = false := by
      refine (ends_of_forall fun c hc => ?_).stop
      exact (name_chars hname (by rw [hbefore]; exact List.mem_append_left _ hc)).1
    have hstart : startsInSymbol back = false := by
      cases name with
      | nil => cases hback
      | cons d name =>
        obtain ⟨-, rfl⟩ := List.cons.inj hback
        cases name with
        | nil => rfl
        | cons d' name =>
          exact (name_chars hname (by rw [hbefore]; simp)).1
    rcases h.touched with hnil | hnil | hsymbol | hsymbol
    · exact h.front_ne_nil hnil
    · exact h.back_ne_nil hnil
    · rw [hend] at hsymbol
      cases hsymbol
    · rw [hstart] at hsymbol
      cases hsymbol
  · cases args with
    | nil => cases hback
    | cons d f =>
      -- The name has no quotes, so the parenthesis behind it opens outside strings.
      rw [hback] at henclosed
      obtain rfl : '(' = d := (List.cons.inj hback).1
      have hmarks := h.front_marks
      rw [hfront] at hmarks
      have hbare : Marks before (bare before) :=
        marks_bare (List.all_eq_true.2 fun c hc => (name_chars hname hc).2)
      obtain ⟨ms', -, hms'⟩ := hmarks.behind hbare
      obtain ⟨f', b, ms', ns', hf, hb, hinner', hf', hb', hclosed⟩ :=
        enclosed?_gap hms' h.back_marks (List.cons_ne_nil _ _) h.back_ne_nil henclosed
      obtain rfl : f = f' := (List.cons.inj hf).2
      refine ⟨f, b, ms', ns', hfront, hb, hinner', hf', hb', ?_⟩
      rw [hb, List.cons_append, ← List.append_assoc] at hclosed
      exact hclosed

theorem arguments_of_marks (h : Marks inner ms) :
    arguments inner = .ok (if blank inner then [] else pieces 0 ms) := by
  unfold arguments
  rw [h.marked?]
  cases blank inner <;> rfl

/-- One of several texts may be replaced by another one with the same result. -/
theorem mapM_replace {α β : Type} {f : α → Except ParseError β} {xs ys : List α} {y : α} {vs : List β}
    (h : (xs ++ y :: ys).mapM f = .ok vs) :
    ∃ v, f y = .ok v ∧ ∀ y', f y' = .ok v → (xs ++ y' :: ys).mapM f = .ok vs := by
  induction xs generalizing vs with
  | nil =>
    rw [List.nil_append, List.mapM_cons] at h
    obtain ⟨v, hv, hrest⟩ := bind_eq_ok h
    refine ⟨v, hv, fun y' hy' => ?_⟩
    rw [List.nil_append, List.mapM_cons, hy']
    exact hrest
  | cons x xs ih =>
    rw [List.cons_append, List.mapM_cons] at h
    obtain ⟨w, hw, hrest⟩ := bind_eq_ok h
    obtain ⟨ws, hws, hall⟩ := bind_eq_ok hrest
    obtain ⟨v, hv, hreplace⟩ := ih hws
    refine ⟨v, hv, fun y' hy' => ?_⟩
    rw [List.cons_append, List.mapM_cons, hw, hreplace y' hy']
    exact hall

/-- **A gap in the arguments of a call** is in one of them. -/
theorem closes_arguments (hexpression : ClosesGaps (expression levels)) (h : Gap front back)
    (hfront : front' <:+ front) (hback : back' <+: back) (hms : Marks front' ms) (hns : Marks back' ns)
    (hargs : (pieces 0 (ms ++ (' ', false) :: ns)).mapM (expression levels) = .ok args) :
    Apart front back ∧ (pieces 0 (ms ++ ns)).mapM (expression levels) = .ok args := by
  obtain ⟨before, left, right, behind, hwith, hwithout, hleft, hright⟩ :=
    pieces_around (m := (' ', false)) (by decide) rfl 0 ms ns
  rw [hwith] at hargs
  obtain ⟨e, he, hreplace⟩ := mapM_replace hargs
  have hleft' : Marks (unmarked left) left ∧ unmarked left <:+ front := by
    rcases hleft with ⟨rfl, -⟩ | ⟨-, rest, rfl⟩
    · rw [hms.unmarked]
      exact ⟨hms, hfront⟩
    · refine ⟨(marks_cut hms).2.2, List.IsSuffix.trans ?_ hfront⟩
      rw [← hms.unmarked, unmarked_append]
      exact (List.suffix_cons ',' _).trans (List.suffix_append _ _)
  have hright' : Marks (unmarked right) right ∧ unmarked right <+: back := by
    rcases hright with rfl | ⟨rest, rfl⟩
    · rw [hns.unmarked]
      exact ⟨hns, hback⟩
    · refine ⟨(marks_cut hns).1, List.IsPrefix.trans ?_ hback⟩
      rw [← hns.unmarked, unmarked_append]
      exact List.prefix_append _ _
  obtain ⟨hapart, hclosed⟩ := hexpression.part (wellEnded_expression levels) h hleft'.2 hright'.2
    hleft'.1 hright'.1 he
  refine ⟨hapart, ?_⟩
  rw [hwithout]
  exact hreplace _ hclosed

theorem closes_written (hexpression : ClosesGaps (expression levels)) (h : Gap front back)
    (hfront : front' <:+ front) (hback : back = back' ++ [')']) (hms : Marks front' ms)
    (hns : Marks back' ns) {written : List (List Char)}
    (hwritten : arguments (front' ++ ' ' :: back') = .ok written)
    (hargs : written.mapM (expression levels) = .ok args) :
    Apart front back ∧ ∃ written', arguments (front' ++ back') = .ok written'
      ∧ written'.mapM (expression levels) = .ok args := by
  rw [arguments_of_marks (marks_gap hms hns)] at hwritten
  rw [arguments_of_marks (hms.append hns)]
  have hblank : blank (front' ++ ' ' :: back') = blank (front' ++ back') := by
    unfold blank
    rw [List.all_append, List.all_append]
    rfl
  rw [hblank] at hwritten
  by_cases hnone : blank (front' ++ back') = true
  · -- There are only blanks, and no symbol.
    rw [if_pos hnone] at hwritten ⊢
    obtain rfl := Except.ok.inj hwritten
    refine ⟨?_, [], rfl, hargs⟩
    have hstart : startsInSymbol back = false := by
      rw [hback]
      cases back' with
      | nil => rfl
      | cons c back' =>
        have hc := List.all_eq_true.1 hnone c (List.mem_append_right _ List.mem_cons_self)
        exact isOperatorChar_of_isBlank hc
    unfold Apart
    rw [hstart, Bool.and_false]
  · rw [if_neg hnone] at hwritten ⊢
    obtain rfl := Except.ok.inj hwritten
    have hprefix : back' <+: back := by
      rw [hback]
      exact List.prefix_append back' [')']
    obtain ⟨hapart, hclosed⟩ := closes_arguments hexpression h hfront hprefix hms hns hargs
    exact ⟨hapart, _, rfl, hclosed⟩

/-- **One level of an operand.** -/
theorem closes_operand_succ (hexpression : ClosesGaps (expression levels))
    (hoperand : ClosesGaps (operand levels)) (h : TightGap front back ms ns) :
    Closes (operand (levels + 1)) front back := by
  intro e hok
  rw [operand_succ_iff, h.trim_without]
  rw [operand_succ_iff, h.trim_with] at hok
  generalize hcs : front ++ ' ' :: back = cs at hok
  cases hok with
  | not hsign hread =>
    obtain rfl := eq_of_dropWord?_bang hsign
    obtain ⟨f, rfl, rfl⟩ := exists_front h.front_ne_nil hcs
    obtain ⟨hapart, hclosed⟩ := closes_sign hoperand rfl h hread
    exact ⟨hapart, .not rfl hclosed⟩
  | minus hnot hsign hread =>
    obtain rfl := eq_of_negated? hsign
    obtain ⟨f, rfl, rfl⟩ := exists_front h.front_ne_nil hcs
    obtain ⟨hapart, hclosed⟩ := closes_sign hoperand rfl h hread
    -- The minus negates in both texts, or in none: the same character decides.
    have hsign' : negated? ('-' :: (f ++ back)) = some (f ++ back) := by
      rw [negated?_minus, head?_trimStart_gap] at hsign
      rw [negated?_minus]
      split at hsign
      · cases hsign
      · rename_i hdigit
        rw [if_neg hdigit]
    exact ⟨hapart, .minus rfl hsign' hclosed⟩
  | enclosed hnot hminus henclosed hread =>
    rw [← hcs] at henclosed
    obtain ⟨f, b, ms', ns', hfront, hback, rfl, hms', hns', hclosed'⟩ :=
      enclosed?_gap h.front_marks h.back_marks h.front_ne_nil h.back_ne_nil henclosed
    have hsuffix : f <:+ front := by
      rw [hfront]
      exact List.suffix_cons '(' f
    have hprefix : b <+: back := by
      rw [hback]
      exact List.prefix_append b [')']
    obtain ⟨hapart, hclosed⟩ := hexpression.part (wellEnded_expression levels) h.toGap hsuffix hprefix
      hms' hns' hread
    refine ⟨hapart, .enclosed ?_ ?_ hclosed' hclosed⟩
    · rw [hfront]
      rfl
    · rw [hfront]
      rfl
  | literal _ _ _ hliteral =>
    rw [← hcs, h.literal?_eq_none] at hliteral
    cases hliteral
  | @call name inner written args _ _ _ _ hcall hpieces hargs =>
    obtain ⟨before, rfl, hparen, rfl, hname, henclosed⟩ := call?_eq_some hcall
    obtain ⟨f, b, ms', ns', hfront, hback, rfl, hms', hns', hclosed⟩ :=
      h.exists_call hname hcs henclosed
    have hsuffix : f <:+ front := by
      rw [hfront]
      exact (List.suffix_cons '(' f).trans (List.suffix_append before _)
    obtain ⟨hapart, written', hwritten', hargs'⟩ :=
      closes_written hexpression h.toGap hsuffix hback hms' hns' hpieces hargs
    have hwhole : front ++ back = before ++ '(' :: (f ++ b ++ [')']) := by
      rw [hfront, hback]
      simp
    have hsolid : Solid (front ++ back) := by
      rw [← h.trim_without]
      apply solid_trim
      rw [h.trim_without]
      exact List.append_ne_nil_of_left_ne_nil h.front_ne_nil back
    rw [hwhole] at hsolid ⊢
    obtain ⟨hnot, hminus, henclosed', hliteral⟩ := plain_of_name hsolid hname
    exact ⟨hapart, .call hnot hminus henclosed' hliteral (call?_of_enclosed hparen hname hclosed)
      hwritten' hargs'⟩

end

/-- **Gaps do not matter**, whatever the levels. -/
theorem closes_of_levels (levels : Nat) :
    ClosesGaps (expression levels) ∧ ClosesGaps (operand levels) := by
  -- Each of the two readers calls the other one level down.
  induction levels with
  | zero =>
    constructor
    · intro front back ms ns _ _ _ e h
      rw [expression_zero] at h
      cases h
    · intro front back ms ns _ _ _ e h
      rw [operand_zero] at h
      cases h
  | succ levels ih =>
    obtain ⟨hexpression, hoperand⟩ := ih
    exact ⟨closesGaps_of_tight (expression_trim _) (wellEnded_expression _)
        (closes_expression_succ hexpression hoperand),
      closesGaps_of_tight (operand_trim _) (wellEnded_operand _)
        (closes_operand_succ hexpression hoperand)⟩

end ContentGate.Direct
