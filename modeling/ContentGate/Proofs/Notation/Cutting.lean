/-
  ContentGate.Proofs.Notation.Cutting — parts of a direct text.

  A text may be cut at any character outside strings: no string is open
  there, so the parts have the marks that they have in the whole.  The same
  is true of the blanks at the end of a text.

  A text may also be cut into its pieces between commas.  If something stands
  in the middle of it that is no comma and no parenthesis, then one of the
  pieces has it, and the others are what they would be without it.

  Main statements:
    * `Marks.behind`, `marks_cut`, `marks_of_append_blank` — the marks of parts;
    * `marksBalance_drop` — parentheses around a character that is none;
    * `pieces_around` — the piece that has such a character.
-/
import ContentGate.Proofs.Notation.Standing
import ContentGate.Proofs.Text.Blank

namespace ContentGate.Notation

open Text

/-! ## §1. Marks of parts -/

section
variable {q : QuoteState} {cs ds : List Char} {c : Char} {ms ns pre suf : List Marked}

/-- What is left of the marks of a text behind a part that leaves no string open. -/
theorem Marks.behind (h : Marks (cs ++ ds) ns) (hcs : Marks cs ms) :
    ∃ rest, ns = ms ++ rest ∧ Marks ds rest := by
  have hall := h.marked?
  unfold Notation.marked? at hall
  rw [hcs ds, Option.map_eq_some_iff] at hall
  obtain ⟨rest, hrest, rfl⟩ := hall
  exact ⟨rest, rfl, marks_of_marked? hrest⟩

theorem markFrom_cut (h : markFrom q cs = some (pre ++ (c, false) :: suf)) :
    markFrom q (unmarked pre) = some pre ∧ isNoQuote c = true
      ∧ markFrom .outside (unmarked suf) = some suf := by
  induction pre generalizing q cs with
  | nil =>
    cases cs with
    | nil => cases q <;> simp [markFrom] at h
    | cons d cs =>
      rw [markFrom, Option.map_eq_some_iff] at h
      obtain ⟨ns, hns, heq⟩ := h
      obtain ⟨hd, rfl⟩ := List.cons.inj heq
      obtain ⟨rfl, hquotes⟩ := Prod.mk.inj hd
      obtain ⟨rfl, hnoquote⟩ := outside_of_quotes hquotes
      have hnext : QuoteState.outside.next d = .outside :=
        if_neg (by simpa [isNoQuote] using hnoquote)
      rw [hnext] at hns
      refine ⟨rfl, hnoquote, ?_⟩
      rw [unmarked_of_markFrom hns, hns]
  | cons m pre ih =>
    cases cs with
    | nil => cases q <;> simp [markFrom] at h
    | cons d cs =>
      rw [markFrom, Option.map_eq_some_iff] at h
      obtain ⟨ns, hns, heq⟩ := h
      obtain ⟨rfl, rfl⟩ := List.cons.inj heq
      obtain ⟨hpre, hc, hsuf⟩ := ih hns
      refine ⟨?_, hc, hsuf⟩
      show markFrom q (d :: unmarked pre) = _
      rw [markFrom, hpre]
      rfl

/-- **A character outside strings cuts a text into parts that leave no string open.** -/
theorem marks_cut (h : Marks cs (pre ++ (c, false) :: suf)) :
    Marks (unmarked pre) pre ∧ isNoQuote c = true ∧ Marks (unmarked suf) suf := by
  obtain ⟨hpre, hc, hsuf⟩ := markFrom_cut h.marked?
  exact ⟨marks_of_marked? hpre, hc, marks_of_marked? hsuf⟩

/-- The quote that is open, if any, is one of the two quotes. -/
def QuoteState.Proper : QuoteState → Prop
  | .outside => True
  | .inside quote => isNoQuote quote = false
  | .escaped quote => isNoQuote quote = false

theorem QuoteState.Proper.next (h : q.Proper) (c : Char) : (q.next c).Proper := by
  cases q with
  | outside =>
    show (if c = '"' ∨ c = '\'' then QuoteState.inside c else .outside).Proper
    by_cases hc : c = '"' ∨ c = '\''
    · rw [if_pos hc]
      rcases hc with rfl | rfl
      · show isNoQuote '"' = false
        rfl
      · show isNoQuote '\'' = false
        rfl
    · rw [if_neg hc]
      trivial
  | inside quote =>
    show (if c = '\\' then QuoteState.escaped quote else if c = quote then .outside
      else .inside quote).Proper
    split
    · exact h
    split
    · trivial
    · exact h
  | escaped quote => exact h

/-- A last character that is no quote closes no string. -/
theorem markFrom_concat (hq : q.Proper) (hc : isNoQuote c = true)
    (h : markFrom q (cs ++ [c]) = some ns) :
    ∃ ms, markFrom q cs = some ms ∧ ns = ms ++ [(c, false)] := by
  induction cs generalizing q ns with
  | nil =>
    rw [List.nil_append, markFrom, Option.map_eq_some_iff] at h
    obtain ⟨rest, hrest, rfl⟩ := h
    cases q with
    | outside =>
      have hnext : QuoteState.outside.next c = .outside := if_neg (by simpa [isNoQuote] using hc)
      have hquotes : QuoteState.outside.quotes c = false := by
        simpa [QuoteState.quotes, isNoQuote] using hc
      rw [hnext] at hrest
      obtain rfl : [] = rest := by simpa [markFrom] using hrest
      rw [hquotes]
      exact ⟨[], rfl, rfl⟩
    | inside quote =>
      have hopen : (QuoteState.inside quote).next c = .escaped quote
          ∨ (QuoteState.inside quote).next c = .inside quote := by
        have hne : c ≠ quote := by
          rintro rfl
          change isNoQuote c = false at hq
          rw [hc] at hq
          cases hq
        unfold QuoteState.next
        by_cases hbackslash : c = '\\'
        · exact .inl (if_pos hbackslash)
        · exact .inr ((if_neg hbackslash).trans (if_neg hne))
      rcases hopen with hopen | hopen
      · rw [hopen] at hrest
        simp [markFrom] at hrest
      · rw [hopen] at hrest
        simp [markFrom] at hrest
    | escaped quote =>
      have hopen : (QuoteState.escaped quote).next c = .inside quote := rfl
      rw [hopen] at hrest
      simp [markFrom] at hrest
  | cons d cs ih =>
    rw [List.cons_append, markFrom, Option.map_eq_some_iff] at h
    obtain ⟨rest, hrest, rfl⟩ := h
    obtain ⟨ms, hms, rfl⟩ := ih (hq.next d) hrest
    refine ⟨(d, q.quotes d) :: ms, ?_, rfl⟩
    rw [markFrom, hms]
    rfl

/-- **Blanks at the end of a text** are outside strings. -/
theorem marks_of_append_blank (hds : blank ds = true) (h : Marks (cs ++ ds) ns) :
    ∃ ms, ns = ms ++ bare ds ∧ Marks cs ms := by
  induction ds using List.reverseRecOn generalizing ns with
  | nil =>
    rw [List.append_nil] at h
    exact ⟨ns, (List.append_nil ns).symm, h⟩
  | append_singleton ds d ih =>
    obtain ⟨hblank, hd⟩ := List.forall_mem_append.1 (List.all_eq_true.1 hds)
    have hall := h.marked?
    rw [← List.append_assoc] at hall
    obtain ⟨rest, hrest, rfl⟩ := markFrom_concat (q := .outside) trivial
      (isNoQuote_of_isBlank (hd d List.mem_cons_self)) hall
    obtain ⟨ms, rfl, hms⟩ := ih (List.all_eq_true.2 hblank) (marks_of_marked? hrest)
    refine ⟨ms, ?_, hms⟩
    simp [bare]

end

/-! ## §2. Parentheses and commas around a character -/

section
variable {k : Nat} {depth : Int} {m : Marked} {ms ns : List Marked}

/-- A character that is no parenthesis does not matter to the balance. -/
theorem marksBalance_drop (hm : parenStep m = 0) (h : marksBalance k (ms ++ m :: ns) = true) :
    marksBalance k (ms ++ ns) = true := by
  rw [balanced_iff] at h ⊢
  induction ms generalizing k with
  | nil =>
    rwa [List.nil_append, ← balanced_iff, marksBalance_other hm, balanced_iff] at h
  | cons n ms ih =>
    cases h with
    | opened h => exact .opened (ih h)
    | closed h => exact .closed (ih h)
    | other hn h => exact .other hn (ih h)

/-- The first piece is the whole text, or ends at a comma. -/
theorem pieces_first (depth : Int) (ms : List Marked) :
    ∃ first more, pieces depth ms = unmarked first :: more
      ∧ (first = ms ∨ ∃ rest, ms = first ++ (',', false) :: rest) := by
  induction ms generalizing depth with
  | nil => exact ⟨[], [], rfl, .inl rfl⟩
  | cons n ms ih =>
    by_cases hcomma : n = (',', false) ∧ depth = 0
    · obtain ⟨rfl, rfl⟩ := hcomma
      refine ⟨[], pieces 0 ms, ?_, .inr ⟨ms, rfl⟩⟩
      rw [pieces, if_pos ⟨rfl, rfl⟩]
      rfl
    · obtain ⟨first, more, hpieces, hfirst⟩ := ih (depth + parenStep n)
      refine ⟨n :: first, more, ?_, ?_⟩
      · rw [pieces_cons hcomma, hpieces]
        rfl
      · rcases hfirst with rfl | ⟨rest, rfl⟩
        · exact .inl rfl
        · exact .inr ⟨rest, rfl⟩

/-- **One piece has a character that is no comma and no parenthesis**, and the
others are what they would be without it. -/
theorem pieces_around (hcomma : m ≠ (',', false)) (hm : parenStep m = 0) (depth : Int)
    (ms ns : List Marked) :
    ∃ before left right behind,
      pieces depth (ms ++ m :: ns) = before ++ (unmarked left ++ m.1 :: unmarked right) :: behind
      ∧ pieces depth (ms ++ ns) = before ++ (unmarked left ++ unmarked right) :: behind
      ∧ (left = ms ∧ before = [] ∨ before ≠ [] ∧ ∃ rest, ms = rest ++ (',', false) :: left)
      ∧ (right = ns ∨ ∃ rest, ns = right ++ (',', false) :: rest) := by
  induction ms generalizing depth with
  | nil =>
    obtain ⟨first, more, hpieces, hfirst⟩ := pieces_first depth ns
    refine ⟨[], [], first, more, ?_, hpieces, .inl ⟨rfl, rfl⟩, hfirst⟩
    rw [List.nil_append, pieces_cons (fun h => hcomma h.1), hm, Int.add_zero, hpieces]
    rfl
  | cons n ms ih =>
    rw [List.cons_append, List.cons_append]
    by_cases hn : n = (',', false) ∧ depth = 0
    · -- The comma ends a piece in front.
      obtain ⟨rfl, rfl⟩ := hn
      obtain ⟨before, left, right, behind, hwith, hwithout, hleft, hright⟩ := ih 0
      refine ⟨[] :: before, left, right, behind, ?_, ?_, .inr ⟨List.cons_ne_nil _ _, ?_⟩, hright⟩
      · rw [pieces, if_pos ⟨rfl, rfl⟩, hwith]
        rfl
      · rw [pieces, if_pos ⟨rfl, rfl⟩, hwithout]
        rfl
      · rcases hleft with ⟨rfl, -⟩ | ⟨-, rest, rfl⟩
        · exact ⟨[], rfl⟩
        · exact ⟨(',', false) :: rest, rfl⟩
    · obtain ⟨before, left, right, behind, hwith, hwithout, hleft, hright⟩ := ih (depth + parenStep n)
      rw [pieces_cons hn, pieces_cons hn, hwith, hwithout]
      rcases hleft with ⟨rfl, rfl⟩ | ⟨hbefore, rest, rfl⟩
      · exact ⟨[], n :: left, right, behind, rfl, rfl, .inl ⟨rfl, rfl⟩, hright⟩
      · obtain ⟨piece, before, rfl⟩ := List.exists_cons_of_ne_nil hbefore
        exact ⟨(n.1 :: piece) :: before, left, right, behind, rfl, rfl,
          .inr ⟨List.cons_ne_nil _ _, n :: rest, rfl⟩, hright⟩

end

end ContentGate.Notation
