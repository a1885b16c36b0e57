/-
  ContentGate.Proofs.Notation.DirectSlices — every text that is read is a slice of the whole.

  Open strings, unpaired parentheses and forbidden characters are looked for
  once, in the whole text.  The readers then hand parts of it to each other:
  the sides of an operator, what follows a sign, what is between parentheses,
  the arguments of a call.  Each of them marks its part anew.  This goes well
  because every part is cut out where no string is open and no parenthesis
  either: it is a SLICE, whose marks are those that it has in the whole, and
  whose own parentheses pair up.

  Main statements:
    * `Slice.trim`, `Slice.sign`, `Slice.group`, `Slice.arguments`, `Slice.argument`,
      `Slice.left`, `Slice.right` — where texts are cut;
    * `ofText?_of_split` — what a text is split at is an operator.
-/
import ContentGate.Proofs.Notation.DirectForms
import ContentGate.Proofs.Notation.Spacing
import ContentGate.Proofs.Notation.Strings

namespace ContentGate.Direct

open Text Notation

/-! ## §1. Slices -/

/-- A part of a text: what stands in front of it in the whole, and what it is.  It starts at
the byte offset that is the length of what stands in front. -/
structure Excerpt where
  before : List Char
  text : List Char

namespace Excerpt

/-- The text `cs` that stands `n` characters into an excerpt. -/
def sub (e : Excerpt) (n : Nat) (cs : List Char) : Excerpt := ⟨e.before ++ e.text.take n, cs⟩

/-- An excerpt without the blanks at its ends. -/
def trim (e : Excerpt) : Excerpt := e.sub (e.text.takeWhile isBlank).length (Text.trim e.text)

/-- Texts that stand one after another, with commas between them. -/
def separated (before : List Char) : List (List Char) → List Excerpt
  | [] => []
  | cs :: css => ⟨before, cs⟩ :: separated (before ++ (cs ++ [','])) css

end Excerpt

/-- An excerpt from a text with the marks `whole`: its marks are those that it has there, and
it may stand alone. -/
def Slice (whole : List Marked) (e : Excerpt) : Prop :=
  ∃ front ms back, whole = front ++ (ms ++ back) ∧ unmarked front = e.before ∧ Part e.text ms

section
variable {whole ms ns front back : List Marked} {cs ds rest inner name : List Char} {c : Char}
  {e : Excerpt}

/-- A part of a part. -/
theorem Slice.sub {n : Nat} (h : Slice whole e)
    (hsub : ∀ {ms}, Part e.text ms → Slice ms ⟨e.text.take n, ds⟩) : Slice whole (e.sub n ds) := by
  obtain ⟨front, ms, back, rfl, hfront, hpart⟩ := h
  obtain ⟨front', ns, back', rfl, hfront', hpart'⟩ := hsub hpart
  refine ⟨front ++ front', ns, back' ++ back, by simp, ?_, hpart'⟩
  rw [unmarked_append, hfront, hfront']
  rfl

theorem Part.slice (h : Part cs ms) : Slice ms ⟨[], cs⟩ := ⟨[], ms, [], by simp, rfl, h⟩

/-- What is permitted in a text is permitted in its parts. -/
theorem Part.part (h : Part cs ms) (hmarks : Marks ds ns) (hbalance : marksBalance 0 ns = true)
    (hsub : ns ⊆ ms) : Part ds ns :=
  ⟨hmarks, hbalance, fun m hm => h.permitted m (hsub hm)⟩

/-- The text without the blanks around it. -/
theorem Slice.trim (h : Slice whole e) : Slice whole e.trim := by
  refine h.sub fun {ms} hpart => ?_
  obtain ⟨ns, back, rfl, htrim⟩ := hpart.exists_trim
  refine ⟨bare (e.text.takeWhile isBlank), ns, back, rfl, ?_, htrim⟩
  rw [unmarked_bare]
  exact List.prefix_iff_eq_take.1 (List.takeWhile_prefix isBlank)

/-- What follows a character that is no quote and no parenthesis. -/
theorem Slice.sign (h : Slice whole e) (htext : e.text = c :: rest) (hc : isNoQuote c = true)
    (hparen : parenStep (c, false) = 0) : Slice whole (e.sub 1 rest) := by
  refine h.sub fun {ms} hpart => ?_
  have hsign : Marks [c] (bare [c]) := marks_bare (by simp [hc])
  have hmarks := hpart.marks
  rw [htext] at hmarks ⊢
  change Marks ([c] ++ rest) ms at hmarks
  obtain ⟨ns, rfl, hns⟩ := hmarks.behind hsign
  have hbalance := hpart.balanced
  change marksBalance 0 ((c, false) :: ns) = true at hbalance
  rw [marksBalance_other hparen] at hbalance
  exact ⟨[(c, false)], ns, [], by simp [bare], rfl, hpart.part hns hbalance (by simp)⟩

/-- What is between parentheses, behind other characters. -/
theorem Part.slice_enclosed (h : Part cs (front ++ Notation.enclosed ms))
    (hms : unmarked ms = inner) (hbalance : marksBalance 0 ms = true) :
    Slice (front ++ Notation.enclosed ms) ⟨unmarked front ++ ['('], inner⟩ := by
  obtain ⟨-, -, hbehind⟩ := marks_cut h.marks
  obtain ⟨hinner, -, -⟩ := marks_cut hbehind
  rw [hms] at hinner
  refine ⟨front ++ [('(', false)], ms, [(')', false)], by simp [Notation.enclosed], ?_, ?_⟩
  · exact unmarked_append
  · refine h.part hinner hbalance fun m hm => ?_
    simp [Notation.enclosed, hm]

/-- **The text of a group.** -/
theorem Slice.group (h : Slice whole e) (hform : operandForm e.text = .group inner) :
    Slice whole (e.sub 1 inner) := by
  refine h.sub fun {ms} hpart => ?_
  have henclosed := enclosed?_of_form_group hform
  obtain ⟨ns, hmarked, hbalance, hns⟩ := enclosed?_eq_some henclosed
  obtain rfl := Option.some.inj (hpart.marks.marked?.symm.trans hmarked)
  rw [eq_of_enclosed? henclosed] at hpart ⊢
  change Part _ ([] ++ Notation.enclosed ns) at hpart
  exact hpart.slice_enclosed hns hbalance

/-- **The written arguments of a call**, in front of its last character. -/
theorem Slice.arguments (h : Slice whole e) (hform : operandForm e.text = .call name inner) :
    Slice whole (e.sub (e.text.length - (inner.length + 1)) inner) := by
  refine h.sub fun {ms} hpart => ?_
  obtain ⟨before, htext, -, rfl, hname, henclosed⟩ := call?_eq_some (call?_of_form_call hform)
  obtain ⟨ns, hmarked, hbalance, hns⟩ := enclosed?_eq_some henclosed
  -- The name and the blanks around it have no quotes.
  have hbefore : Marks before (bare before) :=
    marks_bare (List.all_eq_true.2 fun c hc => (name_chars hname hc).2)
  rw [htext] at hpart ⊢
  obtain ⟨rest, rfl, hrest⟩ := hpart.marks.behind hbefore
  obtain rfl := Option.some.inj (hrest.marked?.symm.trans hmarked)
  have hslice := hpart.slice_enclosed hns hbalance
  have htake : (before ++ '(' :: (inner ++ [')'])).take
      ((before ++ '(' :: (inner ++ [')'])).length - (inner.length + 1)) = before ++ ['('] := by
    have hlength : (before ++ '(' :: (inner ++ [')'])).length - (inner.length + 1)
        = (before ++ ['(']).length := by
      simp only [List.length_append, List.length_cons, List.length_nil]
      omega
    rw [hlength, List.append_cons before '(' (inner ++ [')']), List.take_left]
  rw [htake]
  rwa [unmarked_bare] at hslice

/-! ## §2. Operators -/

/-- What is known of every spelling: it has no parentheses, and the table of operators has it. -/
theorem spelling_known {level : Level} (hlevel : level ∈ levels) {p : List Char × Operator}
    (hp : p ∈ level.spellings) :
    ('(' ∉ p.1 ∧ ')' ∉ p.1)
      ∧ (Operator.spellings.find? fun q => q.1.toList == p.1).map (·.2) = some p.2 := by
  have hall : ∀ l ∈ levels, ∀ p ∈ l.spellings, ('(' ∉ p.1 ∧ ')' ∉ p.1)
      ∧ (Operator.spellings.find? fun q => q.1.toList == p.1).map (·.2) = some p.2 := by decide
  exact hall level hlevel p hp

/-- A spelling in any case has no parentheses. -/
theorem parens_spelling {level : Level} (hlevel : level ∈ levels) {p : List Char × Operator}
    (hp : p ∈ level.spellings) (hds : lower ds = p.1) : parens (bare ds) = 0 := by
  have hchars : ∀ c ∈ ds, parenStep (c, false) = 0 := by
    intro c hc
    have hmem : c.toLower ∈ p.1 := by
      rw [← hds]
      exact List.mem_map_of_mem hc
    obtain ⟨hopen, hclose⟩ := (spelling_known hlevel hp).1
    rcases paren_cases (c, false) with heq | heq | hstep
    · obtain ⟨rfl, -⟩ := Prod.mk.inj heq
      exact absurd hmem hopen
    · obtain ⟨rfl, -⟩ := Prod.mk.inj heq
      exact absurd hmem hclose
    · exact hstep
  clear hds
  induction ds with
  | nil => rfl
  | cons c ds ih =>
    obtain ⟨hc, hrest⟩ := List.forall_mem_cons.1 hchars
    show parenStep (c, false) + parens (bare ds) = 0
    rw [hc, ih hrest]
    rfl

/-- **A text that is split** is its sides with the spelling between them, which stand
outside strings and outside parentheses. -/
theorem Part.exists_spelling {s : Split} (h : Part cs ms) (hsplit : split? cs = some s) :
    ∃ pre spelled suf, ms = pre ++ (bare spelled ++ suf) ∧ s.left = unmarked pre
      ∧ s.right = unmarked suf ∧ parens (bare spelled) = 0 ∧ parens suf = 0
      ∧ Marks s.left pre ∧ Marks s.right suf
      ∧ Operator.ofText? (String.ofList spelled) = some s.op := by
  obtain ⟨level, hlevel, depth, hscan⟩ := split?_eq_some h.marks.marked? hsplit
  obtain ⟨-, pre, c, behind, suf, rfl, hparens, hop, hleft, hright⟩ := splitLast_eq_some hscan
  obtain ⟨w, hw, hdrop, -, -⟩ := operatorAt?_eq_some hop
  obtain ⟨hne, hquotes⟩ := spelling_proper hlevel hw
  have hmarked : marked? cs = some (pre ++ ((c, false) :: behind ++ [])) := by
    rw [List.append_nil, h.marks.marked?]
  obtain ⟨spelled, hspelled, hlower⟩ := bare_of_dropSpelling? hmarked hne hquotes hdrop
  have hzero : parens (bare spelled) = 0 := parens_spelling hlevel hw hlower
  have hsuf : parens suf = 0 := by
    rw [hspelled, parens_append, hzero, Int.zero_add] at hparens
    exact hparens
  have hpre : Marks (unmarked pre) pre := (marks_cut h.marks).1
  obtain ⟨hbehind, -⟩ := marks_of_dropSpelling? hlevel hw h.marks hdrop
  rw [hspelled, hleft, hright]
  refine ⟨pre, spelled, suf, rfl, rfl, rfl, hzero, hsuf, hpre, hbehind, ?_⟩
  unfold Operator.ofText?
  rw [String.toList_ofList, hlower]
  exact (spelling_known hlevel hw).2

/-- **The sides of an operator.** -/
theorem Slice.left {s : Split} (h : Slice whole e) (hsplit : split? e.text = some s) :
    Slice whole (e.sub 0 s.left) := by
  refine h.sub fun {ms} hpart => ?_
  obtain ⟨pre, spelled, suf, rfl, -, -, hspelled, hsuf, hmarks, -, -⟩ :=
    hpart.exists_spelling hsplit
  have hbehind : parens (bare spelled ++ suf) = 0 := by
    rw [parens_append, hspelled, hsuf]
    rfl
  obtain ⟨hbalance, -⟩ := marksBalance_cut hpart.balanced hbehind
  exact ⟨[], pre, bare spelled ++ suf, rfl, rfl, hpart.part hmarks hbalance (by simp)⟩

theorem Slice.right {s : Split} (h : Slice whole e) (hsplit : split? e.text = some s) :
    Slice whole (e.sub (e.text.length - s.right.length) s.right) := by
  refine h.sub fun {ms} hpart => ?_
  obtain ⟨pre, spelled, suf, rfl, hleft, hright, -, hsuf, -, hmarks, -⟩ :=
    hpart.exists_spelling hsplit
  have hbalance := hpart.balanced
  rw [← List.append_assoc] at hbalance
  refine ⟨pre ++ bare spelled, suf, [], by simp, ?_,
    hpart.part hmarks (marksBalance_cut hbalance hsuf).2 (by simp)⟩
  have htext : e.text = unmarked (pre ++ bare spelled) ++ s.right := by
    rw [← hpart.marks.unmarked, ← List.append_assoc, unmarked_append, hright]
  rw [htext, List.length_append, Nat.add_sub_cancel, List.take_left]

/-- **What a text is split at is an operator**, between its sides. -/
theorem ofText?_of_split {s : Split} (h : Part cs ms) (hsplit : split? cs = some s) :
    ∃ spelled, cs = s.left ++ (spelled ++ s.right)
      ∧ Operator.ofText? (String.ofList spelled) = some s.op := by
  obtain ⟨pre, spelled, suf, rfl, hleft, hright, -, -, -, -, hop⟩ := h.exists_spelling hsplit
  refine ⟨spelled, ?_, hop⟩
  rw [← h.marks.unmarked, unmarked_append, unmarked_append, unmarked_bare, hleft, hright]

/-! ## §3. Arguments -/

/-- **The first piece** of a text goes to its end, or to a comma behind which the parentheses
pair up again. -/
theorem pieces_balanced {k : Nat} (h : Balanced k ms) :
    ∃ first more, pieces k ms = unmarked first :: more ∧ marksBalance k first = true
      ∧ (first = ms ∧ more = []
        ∨ ∃ rest, ms = first ++ (',', false) :: rest ∧ marksBalance 0 rest = true
          ∧ more = pieces 0 rest) := by
  induction ms generalizing k with
  | nil =>
    cases h
    exact ⟨[], [], rfl, rfl, .inl ⟨rfl, rfl⟩⟩
  | cons m ms ih =>
    by_cases hcomma : m = (',', false) ∧ (k : Int) = 0
    · obtain ⟨rfl, hk⟩ := hcomma
      obtain rfl : k = 0 := by omega
      refine ⟨[], pieces 0 ms, if_pos ⟨rfl, rfl⟩, rfl, .inr ⟨ms, rfl, ?_, rfl⟩⟩
      have hbalance := balanced_iff.2 h
      rwa [marksBalance_other rfl] at hbalance
    -- The character belongs to the first piece, behind which `j` are open.
    have hcons : ∀ j : Nat, (k : Int) + parenStep m = j → Balanced j ms →
        (∀ first, Balanced j first → Balanced k (m :: first)) →
        ∃ first more, pieces k (m :: ms) = unmarked first :: more ∧ marksBalance k first = true
          ∧ (first = m :: ms ∧ more = []
            ∨ ∃ rest, m :: ms = first ++ (',', false) :: rest ∧ marksBalance 0 rest = true
              ∧ more = pieces 0 rest) := by
      intro j hj hbalance hstep
      obtain ⟨first, more, hpieces, hfirst, hmore⟩ := ih hbalance
      refine ⟨m :: first, more, ?_, balanced_iff.2 (hstep first (balanced_iff.1 hfirst)), ?_⟩
      · rw [pieces_cons hcomma, hj, hpieces]
        rfl
      · rcases hmore with ⟨rfl, rfl⟩ | ⟨rest, rfl, hrest, rfl⟩
        · exact .inl ⟨rfl, rfl⟩
        · exact .inr ⟨rest, rfl, hrest, rfl⟩
    cases h with
    | opened h => exact hcons (k + 1) rfl h fun _ => .opened
    | @closed j ms h =>
      refine hcons j ?_ h fun _ => .closed
      show ((j + 1 : Nat) : Int) + -1 = j
      omega
    | other hm h => exact hcons k (by omega) h fun _ => .other hm

/-- **The pieces of a text between commas.** -/
theorem slice_of_mem_pieces {before : List Char} (hwhole : whole = front ++ (ms ++ back))
    (hfront : unmarked front = before) (h : Part cs ms)
    (he : e ∈ Excerpt.separated before (pieces 0 ms)) : Slice whole e := by
  induction hlength : ms.length using Nat.strongRecOn generalizing ms cs front before with
  | ind n ih =>
    subst hlength
    obtain ⟨first, more, hpieces, hfirst, hmore⟩ := pieces_balanced (balanced_iff.1 h.balanced)
    change pieces 0 ms = _ at hpieces
    rw [hpieces] at he
    rcases hmore with ⟨rfl, rfl⟩ | ⟨rest, rfl, hrest, rfl⟩
    · rw [List.mem_singleton.1 he]
      exact ⟨front, first, back, hwhole, hfront, h.marks.unmarked.symm ▸ h⟩
    · obtain ⟨hfirstmarks, -, hrestmarks⟩ := marks_cut h.marks
      rcases List.mem_cons.1 he with rfl | he
      · exact ⟨front, first, (',', false) :: (rest ++ back), by rw [hwhole]; simp, hfront,
          h.part hfirstmarks hfirst (by simp)⟩
      · have hpart : Part (unmarked rest) rest :=
          h.part hrestmarks hrest fun m hm => by simp [hm]
        have hshorter : rest.length < (first ++ (',', false) :: rest).length := by
          simp only [List.length_append, List.length_cons]
          omega
        have hbefore : unmarked (front ++ (first ++ [(',', false)]))
            = before ++ (unmarked first ++ [',']) := by
          rw [unmarked_append, unmarked_append, hfront]
          rfl
        exact ih rest.length hshorter (by rw [hwhole]; simp) hbefore hpart he rfl

/-- **The arguments of a call, one by one.** -/
theorem Slice.argument {args : List (List Char)} {e' : Excerpt} (h : Slice whole e)
    (hargs : Direct.arguments e.text = .ok args) (he : e' ∈ Excerpt.separated e.before args) :
    Slice whole e' := by
  obtain ⟨front, ms, back, hwhole, hfront, hpart⟩ := h
  rw [arguments_of_marks hpart.marks] at hargs
  obtain rfl := Except.ok.inj hargs
  by_cases hblank : blank e.text = true
  · rw [if_pos hblank] at he
    cases he
  · rw [if_neg hblank] at he
    exact slice_of_mem_pieces hwhole hfront hpart he

end

end ContentGate.Direct
