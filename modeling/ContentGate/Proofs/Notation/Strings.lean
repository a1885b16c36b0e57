/-
  ContentGate.Proofs.Notation.Strings — open strings and unpaired parentheses.

  The marks of a text come from an automaton, and whether its parentheses
  pair up from a count that goes along with the text.  Here both are said
  without either.  A text whose strings are closed is a row of strings and
  of other characters; a string goes from a quote to the next such quote
  that no backslash takes with it (`StringsClosed`).  A text leaves a string
  open if it goes on like a string behind such a row, and ends there
  (`LeavesStringOpen`).  The parentheses outside strings pair up if no
  beginning of the text closes more than it opens, and the whole text
  closes all of them (`ParensPair`).

  Main statements:
    * `marked?_eq_some_iff`, `marked?_eq_none_iff` — closed and open strings;
    * `marksBalance_iff` — paired parentheses;
    * `marksBalance_cut` — both parts of a text that is cut outside parentheses.
-/
import ContentGate.Proofs.Notation.Cutting

namespace ContentGate.Notation

/-! ## §1. Strings -/

/-- What may stand in a string: no quote of its kind, but for those behind a backslash. -/
inductive StringBody (quote : Char) : List Char → Prop where
  | nil : StringBody quote []
  | char {c : Char} {cs : List Char} (hquote : c ≠ quote) (hbackslash : c ≠ '\\')
      (h : StringBody quote cs) : StringBody quote (c :: cs)
  | escape {c : Char} {cs : List Char} (h : StringBody quote cs) :
      StringBody quote ('\\' :: c :: cs)

/-- A text whose strings are closed, with its marks. -/
inductive StringsClosed : List Char → List Marked → Prop where
  | nil : StringsClosed [] []
  | char {c : Char} {cs : List Char} {ms : List Marked} (hc : isNoQuote c = true)
      (h : StringsClosed cs ms) : StringsClosed (c :: cs) ((c, false) :: ms)
  | string {quote : Char} {body cs : List Char} {ms : List Marked}
      (hquote : isNoQuote quote = false) (hbody : StringBody quote body)
      (h : StringsClosed cs ms) :
      StringsClosed (quote :: (body ++ quote :: cs))
        (inString (quote :: (body ++ [quote])) ++ ms)

/-- What stands in a string that the end of the text leaves open; its last backslash may
have nothing to take with it. -/
def OpenBody (quote : Char) (cs : List Char) : Prop :=
  StringBody quote cs ∨ ∃ body, cs = body ++ ['\\'] ∧ StringBody quote body

/-- The end of the text leaves a string open. -/
def LeavesStringOpen (cs : List Char) : Prop :=
  ∃ front ms quote body, cs = front ++ quote :: body ∧ StringsClosed front ms
    ∧ isNoQuote quote = false ∧ OpenBody quote body

section
variable {quote : Char} {cs body rest : List Char} {ms : List Marked}

theorem ne_backslash (hquote : isNoQuote quote = false) : quote ≠ '\\' := by
  rintro rfl
  cases hquote

/-- **Behind a quote the string is closed or left open.** -/
theorem string_cases (quote : Char) (cs : List Char) :
    (∃ body rest, cs = body ++ quote :: rest ∧ StringBody quote body) ∨ OpenBody quote cs := by
  -- A backslash takes a character with it, so the induction is on the length.
  induction hlength : cs.length using Nat.strongRecOn generalizing cs with
  | ind n ih =>
    subst hlength
    cases cs with
    | nil => exact .inr (.inl .nil)
    | cons c cs =>
      by_cases hquote : c = quote
      · exact .inl ⟨[], cs, by rw [hquote]; rfl, .nil⟩
      by_cases hbackslash : c = '\\'
      · subst hbackslash
        cases cs with
        | nil => exact .inr (.inr ⟨[], rfl, .nil⟩)
        | cons d cs =>
          have hshorter : cs.length < ('\\' :: d :: cs).length := by
            simp only [List.length_cons]
            omega
          rcases ih cs.length hshorter cs rfl with
            ⟨body, rest, rfl, hbody⟩ | hopen | ⟨body, rfl, hbody⟩
          · exact .inl ⟨'\\' :: d :: body, rest, rfl, .escape hbody⟩
          · exact .inr (.inl (.escape hopen))
          · exact .inr (.inr ⟨'\\' :: d :: body, rfl, .escape hbody⟩)
      · rcases ih cs.length (by simp) cs rfl with
          ⟨body, rest, rfl, hbody⟩ | hopen | ⟨body, rfl, hbody⟩
        · exact .inl ⟨c :: body, rest, rfl, .char hquote hbackslash hbody⟩
        · exact .inr (.inl (.char hquote hbackslash hopen))
        · exact .inr (.inr ⟨c :: body, rfl, .char hquote hbackslash hbody⟩)

/-- **A text has its strings closed, or leaves one open.** -/
theorem closed_or_open (cs : List Char) : (∃ ms, StringsClosed cs ms) ∨ LeavesStringOpen cs := by
  induction hlength : cs.length using Nat.strongRecOn generalizing cs with
  | ind n ih =>
    subst hlength
    cases cs with
    | nil => exact .inl ⟨[], .nil⟩
    | cons c cs =>
      by_cases hc : isNoQuote c = true
      · rcases ih cs.length (by simp) cs rfl with
          ⟨ms, hms⟩ | ⟨front, ms, quote, body, rfl, hms, hquote, hopen⟩
        · exact .inl ⟨_, .char hc hms⟩
        · exact .inr ⟨c :: front, _, quote, body, rfl, .char hc hms, hquote, hopen⟩
      · have hquote : isNoQuote c = false := Bool.eq_false_iff.2 hc
        rcases string_cases c cs with ⟨body, rest, rfl, hbody⟩ | hopen
        · rcases ih rest.length (by simp; omega) rest rfl with
            ⟨ms, hms⟩ | ⟨front, ms, quote, tail, rfl, hms, hquote', hopen⟩
          · exact .inl ⟨_, .string hquote hbody hms⟩
          · refine .inr ⟨c :: (body ++ c :: front), _, quote, tail, ?_, .string hquote hbody hms,
              hquote', hopen⟩
            simp
        · exact .inr ⟨[], [], c, cs, rfl, .nil, hquote, hopen⟩

/-! ## §2. What the automaton finds -/

/-- A string is open behind its quote. -/
theorem markFrom_quote (hquote : isNoQuote quote = false) (cs : List Char) :
    markFrom .outside (quote :: cs) = (markFrom (.inside quote) cs).map ((quote, true) :: ·) := by
  have hcases : quote = '"' ∨ quote = '\'' := by
    by_contra h
    obtain ⟨hdouble, hsingle⟩ := not_or.1 h
    simp [isNoQuote, hdouble, hsingle] at hquote
  rcases hcases with rfl | rfl <;> rfl

theorem markFrom_char {c : Char} (hc : isNoQuote c = true) (cs : List Char) :
    markFrom .outside (c :: cs) = (markFrom .outside cs).map ((c, false) :: ·) := by
  have hmarks : Marks [c] (bare [c]) := marks_bare (by simpa using hc)
  exact hmarks cs

/-- What may stand in a string belongs to it, and leaves it open. -/
theorem StringBody.markFrom (h : StringBody quote body) (cs : List Char) :
    markFrom (.inside quote) (body ++ cs)
      = (markFrom (.inside quote) cs).map (inString body ++ ·) := by
  induction h with
  | nil => exact (Option.map_id' (x := Notation.markFrom (.inside quote) cs)).symm
  | @char c body hne hbackslash _ ih =>
    have hnext : (QuoteState.inside quote).next c = .inside quote := by
      show (if c = '\\' then _ else if c = quote then _ else _) = _
      rw [if_neg hbackslash, if_neg hne]
    rw [List.cons_append, markFrom_inside, hnext, ih, Option.map_map]
    rfl
  | @escape c body _ ih =>
    have hnext : (QuoteState.inside quote).next '\\' = .escaped quote := rfl
    rw [List.cons_append, markFrom_inside, hnext, List.cons_append, markFrom_escaped, ih,
      Option.map_map, Option.map_map]
    rfl

/-- The quote closes the string. -/
theorem markFrom_closing (hquote : quote ≠ '\\') (cs : List Char) :
    markFrom (.inside quote) (quote :: cs) = (markFrom .outside cs).map ((quote, true) :: ·) := by
  have hnext : (QuoteState.inside quote).next quote = .outside := by
    show (if quote = '\\' then _ else if quote = quote then _ else _) = _
    rw [if_neg hquote, if_pos rfl]
  rw [markFrom_inside, hnext]

theorem OpenBody.markFrom (h : OpenBody quote body) :
    markFrom (.inside quote) body = none := by
  rcases h with hbody | ⟨body, rfl, hbody⟩
  · have hend := hbody.markFrom []
    rw [List.append_nil] at hend
    rw [hend]
    rfl
  · rw [hbody.markFrom]
    rfl

/-- A text whose strings are closed has its marks in front of any other. -/
theorem StringsClosed.marks (h : StringsClosed cs ms) : Marks cs ms := by
  induction h with
  | nil => exact fun rest => (Option.map_id' (x := Notation.markFrom .outside rest)).symm
  | @char c cs ms hc _ ih =>
    intro rest
    rw [List.cons_append, markFrom_char hc, ih, Option.map_map]
    rfl
  | @string quote body cs ms hquote hbody _ ih =>
    intro rest
    have hne := ne_backslash hquote
    rw [List.cons_append, List.append_assoc, markFrom_quote hquote, hbody.markFrom,
      List.cons_append, markFrom_closing hne, ih]
    simp only [Option.map_map]
    congr 1
    funext rest
    simp [inString]

theorem LeavesStringOpen.marked? (h : LeavesStringOpen cs) : Notation.marked? cs = none := by
  obtain ⟨front, ms, quote, body, rfl, hms, hquote, hopen⟩ := h
  unfold Notation.marked?
  rw [hms.marks, markFrom_quote hquote, hopen.markFrom]
  rfl

/-- **The automaton marks a text if its strings are closed**, -/
theorem marked?_eq_some_iff : marked? cs = some ms ↔ StringsClosed cs ms := by
  constructor
  · intro h
    rcases closed_or_open cs with ⟨ns, hns⟩ | hopen
    · obtain rfl := Option.some.inj (hns.marks.marked?.symm.trans h)
      exact hns
    · rw [hopen.marked?] at h
      cases h
  · exact fun h => h.marks.marked?

/-- **and does not if the text leaves a string open.** -/
theorem marked?_eq_none_iff : marked? cs = none ↔ LeavesStringOpen cs := by
  constructor
  · intro h
    rcases closed_or_open cs with ⟨ns, hns⟩ | hopen
    · rw [hns.marks.marked?] at h
      cases h
    · exact hopen
  · exact LeavesStringOpen.marked?

end

/-! ## §3. Parentheses -/

/-- The parentheses outside strings pair up: no beginning closes more than it opens, and in
the end as many are closed as are opened. -/
structure ParensPair (ms : List Marked) : Prop where
  never_below : ∀ front, front <+: ms → 0 ≤ parens front
  settled : parens ms = 0

section
variable {k : Nat} {ms ns : List Marked}

/-- The count of open parentheses, when `k` are open. -/
theorem balanced_iff_parens :
    Balanced k ms ↔ (∀ front, front <+: ms → 0 ≤ k + parens front) ∧ k + parens ms = 0 := by
  induction ms generalizing k with
  | nil =>
    constructor
    · intro h
      cases h
      exact ⟨fun front hfront => by rw [List.prefix_nil.1 hfront]; decide, rfl⟩
    · rintro ⟨-, hsettled⟩
      obtain rfl : k = 0 := by simpa using hsettled
      exact .nil
  | cons m ms ih =>
    -- One character in front of the text, behind which `j` are open.
    have hcons : ∀ j : Nat, (k : Int) + parenStep m = j →
        (((∀ front, front <+: m :: ms → 0 ≤ k + parens front) ∧ k + parens (m :: ms) = 0)
          ↔ (∀ front, front <+: ms → 0 ≤ j + parens front) ∧ j + parens ms = 0) := by
      intro j hj
      rw [parens_cons, ← Int.add_assoc, hj]
      refine and_congr_left fun _ => ⟨fun h front hfront => ?_, fun h front hfront => ?_⟩
      · have hle := h (m :: front) ((List.prefix_cons_inj m).2 hfront)
        rwa [parens_cons, ← Int.add_assoc, hj] at hle
      · rcases List.prefix_cons_iff.1 hfront with rfl | ⟨behind, rfl, hbehind⟩
        · rw [parens_nil]
          omega
        · rw [parens_cons, ← Int.add_assoc, hj]
          exact h behind hbehind
    rcases paren_cases m with rfl | rfl | hm
    · rw [hcons (k + 1) rfl, ← ih]
      exact ⟨fun h => by
        cases h with
        | opened h => exact h
        | other hm _ => exact absurd hm (by decide), .opened⟩
    · cases k with
      | zero =>
        constructor
        · intro h
          cases h with
          | other hm _ => exact absurd hm (by decide)
        · rintro ⟨hbelow, -⟩
          -- The text closes a parenthesis that nothing opens.
          exact absurd (hbelow [(')', false)] ⟨ms, rfl⟩) (by decide)
      | succ k =>
        have hclose : ((k + 1 : Nat) : Int) + parenStep (')', false) = k := by
          show ((k + 1 : Nat) : Int) + -1 = k
          omega
        rw [hcons k hclose, ← ih]
        exact ⟨fun h => by
          cases h with
          | closed h => exact h
          | other hm _ => exact absurd hm (by decide), .closed⟩
    · rw [hcons k (by omega), ← ih]
      exact ⟨fun h => by
        cases h with
        | opened h => exact absurd hm (by decide)
        | closed h => exact absurd hm (by decide)
        | other _ h => exact h, .other hm⟩

/-- **The count tells whether the parentheses pair up.** -/
theorem marksBalance_iff : marksBalance 0 ms = true ↔ ParensPair ms := by
  rw [balanced_iff, balanced_iff_parens]
  simp only [Int.natCast_zero, Int.zero_add]
  exact ⟨fun h => ⟨h.1, h.2⟩, fun h => ⟨h.never_below, h.settled⟩⟩

/-- **Where a text is cut outside parentheses**, they pair up in both parts. -/
theorem ParensPair.cut (h : ParensPair (ms ++ ns)) (hns : parens ns = 0) :
    ParensPair ms ∧ ParensPair ns := by
  have hms : parens ms = 0 := by
    have hsettled := h.settled
    rw [parens_append] at hsettled
    omega
  refine ⟨⟨fun front hfront => h.never_below front (hfront.trans (List.prefix_append ms ns)), hms⟩,
    ⟨fun front hfront => ?_, hns⟩⟩
  have hle := h.never_below (ms ++ front) ((List.prefix_append_right_inj ms).2 hfront)
  rwa [parens_append, hms, Int.zero_add] at hle

theorem marksBalance_cut (h : marksBalance 0 (ms ++ ns) = true) (hns : parens ns = 0) :
    marksBalance 0 ms = true ∧ marksBalance 0 ns = true := by
  rw [marksBalance_iff] at h
  rw [marksBalance_iff, marksBalance_iff]
  exact h.cut hns

end

end ContentGate.Notation
