/-
  ContentGate.Proofs.Notation.WrittenRows — operands written one after another.

  An author writes operands with operators between them, and no
  parentheses around them.  Each operand is a text that the reader accepts
  by itself and in which no operator stands outside strings and
  parentheses.  Then it is a term of a row, without the blanks at its ends,
  and the whole text is read as a row is.

  Main statements:
    * `split?_of_operatorFree` — an accepted text without operators is not split;
    * `exists_row` — a text that is written in a row is the text of a row;
    * `parse_written` — it is read by precedence, or refused for want of levels.
-/
import ContentGate.Evaluation.Context
import ContentGate.Proofs.Notation.DirectNodes
import ContentGate.Proofs.Notation.DirectRows

namespace ContentGate

open Text Notation Direct Expression

/-- Operands in a row, with an operator between single spaces between neighbours. -/
def Row.written (row : Row Spelling String) : String :=
  row.rest.foldl (fun before x => before ++ " " ++ x.1.text ++ " " ++ x.2) row.first

namespace Direct

/-! ## §1. Texts without operators -/

/-- Every symbol of an operator starts with one of these. -/
def symbolHeads : List (List Char) :=
  ["==", "!=", "<", ">", "&&", "||"].map String.toList

/-- The words for operators. -/
def operatorWords : List (List Char) := ["and", "or"].map String.toList

/-- Outside strings and parentheses a text has no symbol of an operator, and
no word for one between blanks. -/
structure OperatorFree (text : String) : Prop where
  symbols : ∀ before w behind, marked? text.toList = some (before ++ (bare w ++ behind)) →
    parens before = 0 → w ∉ symbolHeads
  words : ∀ before a w b behind,
    marked? text.toList = some (before ++ a :: (bare w ++ b :: behind)) → parens before = 0 →
    isAsciiBlank a.1 = true → isAsciiBlank b.1 = true → lower w ∉ operatorWords

/-- Does a text have no blanks, and no operator characters but `!` outside strings? -/
def isCompact (cs : List Char) : Bool :=
  match marked? cs with
  | some ms => ms.all fun m => !isAsciiBlank m.1 && (m.2 || m.1 == '!' || !isOperatorChar m.1)
  | none => false

theorem operatorFree_of_isCompact {text : String} (h : isCompact text.toList = true) :
    OperatorFree text := by
  obtain ⟨ms, hms⟩ : ∃ ms, marked? text.toList = some ms := by
    refine Option.ne_none_iff_exists'.1 fun hnone => ?_
    rw [isCompact, hnone] at h
    cases h
  have hall : ms.all (fun m => !isAsciiBlank m.1 && (m.2 || m.1 == '!' || !isOperatorChar m.1))
      = true := by
    rwa [isCompact, hms] at h
  have hmark : ∀ m ∈ ms, isAsciiBlank m.1 = false
      ∧ (m.2 = true ∨ m.1 = '!' ∨ isOperatorChar m.1 = false) := by
    intro m hm
    simpa [and_assoc, or_assoc] using List.all_eq_true.1 hall m hm
  constructor
  · intro before w behind heq _ hw
    obtain rfl := Option.some.inj (hms.symm.trans heq)
    have hheads : ∀ w ∈ symbolHeads, (w.any fun c => c != '!' && isOperatorChar c) = true := by decide
    obtain ⟨c, hc, hkind⟩ := List.any_eq_true.1 (hheads w hw)
    obtain ⟨hne, hop⟩ : c ≠ '!' ∧ isOperatorChar c = true := by simpa using hkind
    have hmem : (c, false) ∈ before ++ (bare w ++ behind) :=
      List.mem_append_right _ (List.mem_append_left _ (List.mem_map_of_mem hc))
    rcases (hmark _ hmem).2 with hquoted | hbang | hnone
    · cases hquoted
    · exact hne hbang
    · rw [hnone] at hop
      cases hop
  · intro before a w b behind heq _ ha _ _
    obtain rfl := Option.some.inj (hms.symm.trans heq)
    rw [(hmark a (List.mem_append_right _ List.mem_cons_self)).1] at ha
    cases ha

theorem permitted_of_forbidden? {ms : List Marked} {position : Nat}
    (h : forbidden? position ms = none) : ∀ m ∈ ms, (!m.2 && isForbidden m.1) = false := by
  induction ms generalizing position with
  | nil => exact fun m hm => absurd hm List.not_mem_nil
  | cons m ms ih =>
    rw [forbidden?] at h
    by_cases hm : (!m.2 && isForbidden m.1) = true
    · rw [if_pos hm] at h
      cases h
    · rw [if_neg hm] at h
      exact List.forall_mem_cons.2 ⟨Bool.eq_false_iff.2 hm, ih h⟩

/-- A text that passes the check is a part. -/
theorem exists_part_of_check {cs : List Char} (h : check cs = .ok ()) : ∃ ms, Part cs ms := by
  unfold check at h
  split at h
  · cases h
  rename_i ms hms
  split at h
  · cases h
  rename_i hbalance
  split at h
  · cases h
  rename_i hforbidden
  exact ⟨ms, marks_of_marked? hms, by simpa using hbalance, permitted_of_forbidden? hforbidden⟩

/-- **A text that the reader accepts** is a part, and is not blank. -/
theorem part_of_parse {raw : String} {e : Expression} (h : parse raw = .ok e) :
    Solid (trim raw.toList) ∧ (∃ ms, Part (trim raw.toList) ms)
      ∧ expression maxNesting (trim raw.toList) = .ok e := by
  unfold parse at h
  by_cases hempty : (trim raw.toList).isEmpty = true
  · simp only [if_pos hempty] at h
    obtain ⟨_, hrefused, -⟩ := bind_eq_ok h
    cases hrefused
  · simp only [if_neg hempty] at h
    obtain ⟨_, hcheck, hread⟩ := bind_eq_ok h
    exact ⟨solid_trim fun hnil => hempty (List.isEmpty_iff.2 hnil), exists_part_of_check hcheck,
      hread⟩

/-! ## §2. Accepted texts without operators are not split -/

/-- The levels of symbols, and those of words. -/
theorem level_cases {level : Level} (h : level ∈ levels) :
    (∀ p ∈ level.spellings, ∃ w ∈ symbolHeads, ∃ v, p.1 = w ++ v)
      ∨ level.apart = apartFromWords ∧ ∀ p ∈ level.spellings, p.1 ∈ operatorWords := by
  have hsymbols : ∀ l ∈ [levels[0], levels[2], levels[4]], ∀ p ∈ l.spellings,
      ∃ w ∈ symbolHeads, w <+: p.1 := by decide
  have hwords : ∀ l ∈ [levels[1], levels[3]], ∀ p ∈ l.spellings, p.1 ∈ operatorWords := by decide
  have hheads' : level ∈ [levels[0], levels[2], levels[4]] →
      ∀ p ∈ level.spellings, ∃ w ∈ symbolHeads, ∃ v, p.1 = w ++ v := by
    intro hl p hp
    obtain ⟨w, hw, v, hv⟩ := hsymbols level hl p hp
    exact ⟨w, hw, v, hv.symm⟩
  simp only [levels, List.mem_cons, List.not_mem_nil, or_false] at h
  rcases h with rfl | rfl | rfl | rfl | rfl
  · exact .inl (hheads' (by simp [levels]))
  · exact .inr ⟨rfl, hwords _ (by simp [levels])⟩
  · exact .inl (hheads' (by simp [levels]))
  · exact .inr ⟨rfl, hwords _ (by simp [levels])⟩
  · exact .inl (hheads' (by simp [levels]))

/-- A spelling has characters, and no quotes. -/
theorem spelling_proper {level : Level} (h : level ∈ levels) {p : List Char × Operator}
    (hp : p ∈ level.spellings) : p.1 ≠ [] ∧ '"' ∉ p.1 ∧ '\'' ∉ p.1 := by
  have hall : ∀ l ∈ levels, ∀ p ∈ l.spellings, p.1 ≠ [] ∧ '"' ∉ p.1 ∧ '\'' ∉ p.1 := by decide
  exact hall level h p hp

/-- What follows a character outside strings and has no quote is outside strings. -/
theorem eq_bare {cs : List Char} {before ns behind : List Marked} {c : Char}
    (h : marked? cs = some (before ++ (c, false) :: (ns ++ behind)))
    (hns : ∀ m ∈ ns, isNoQuote m.1 = true) : ns = bare (unmarked ns) := by
  induction ns generalizing before c with
  | nil => rfl
  | cons m ns ih =>
    obtain ⟨hm, hrest⟩ := List.forall_mem_cons.1 hns
    obtain ⟨d, q⟩ := m
    obtain rfl : q = false := unquoted_behind h hm
    rw [List.append_cons] at h
    exact congrArg (List.cons (d, false)) (ih h hrest)

/-- A spelling that begins outside strings is outside strings. -/
theorem bare_of_dropSpelling? {cs w : List Char} {before suf rest behind : List Marked} {c : Char}
    (h : marked? cs = some (before ++ ((c, false) :: suf ++ behind))) (hw : w ≠ [])
    (hquotes : '"' ∉ w ∧ '\'' ∉ w) (hdrop : dropSpelling? w ((c, false) :: suf) = some rest) :
    ∃ ds, (c, false) :: suf = bare ds ++ rest ∧ lower ds = w := by
  obtain ⟨ns, heq, hlower⟩ := eq_append_of_dropSpelling? hdrop
  cases ns with
  | nil => exact absurd hlower.symm hw
  | cons m ns =>
    rw [List.cons_append] at heq
    obtain ⟨rfl, rfl⟩ := List.cons.inj heq
    have hnoquote : ∀ m ∈ ns, isNoQuote m.1 = true := by
      intro m hm
      have hmem : m.1.toLower ∈ w := by
        rw [← hlower]
        exact List.mem_map_of_mem (List.mem_map_of_mem (List.mem_cons_of_mem _ hm))
      have hdouble : m.1 ≠ '"' := fun hq => hquotes.1 (by rw [hq] at hmem; exact hmem)
      have hsingle : m.1 ≠ '\'' := fun hq => hquotes.2 (by rw [hq] at hmem; exact hmem)
      simpa [isNoQuote] using And.intro hdouble hsingle
    rw [List.cons_append, List.append_assoc] at h
    refine ⟨c :: unmarked ns, ?_, hlower⟩
    have hbare : bare (c :: unmarked ns) = (c, false) :: bare (unmarked ns) := rfl
    rw [hbare, ← eq_bare h hnoquote]
    rfl

/-- A symbol is spelled in one way. -/
theorem eq_of_lower {cs w : List Char} (hw : w ∈ symbolHeads) (h : lower cs = w) : cs = w := by
  have hall : ∀ w ∈ symbolHeads, ∀ cs ∈ variants w, cs = w := by decide
  exact hall w hw cs (mem_variants h)

theorem parenStep_of_isBlank {m : Marked} (h : isBlank m.1 = true) : parenStep m = 0 := by
  obtain ⟨c, q⟩ := m
  cases q with
  | true => exact parenStep_inString c
  | false => exact (isOrdinary_iff.1 (isOrdinary_of_isBlank h)).2.1

/-- Blanks are ordinary characters. -/
theorem part_blank {cs : List Char} (h : blank cs = true) : Part cs (bare cs) :=
  part_bare (List.all_eq_true.2 fun c hc => isOrdinary_of_isBlank (List.all_eq_true.1 h c hc))

theorem parens_bare_blank {cs : List Char} (h : blank cs = true) : parens (bare cs) = 0 :=
  parens_of_balance (part_blank h).balanced

theorem marks_blank {cs : List Char} (h : blank cs = true) : Marks cs (bare cs) :=
  (part_blank h).marks

/-- The last character of a part. -/
theorem lastOf_concat (before : Option Char) (ms : List Marked) (m : Marked) :
    lastOf before (ms ++ [m]) = some m.1 := by
  rw [lastOf_append]
  rfl

/-- **No operator stands inside an accepted text without operators.**  A
word for one may stand at its ends. -/
theorem operatorAt?_of_operatorFree {text : String} {front back : List Char}
    {pre suf rest : List Marked} {c : Char} {op : Operator} {level : Level}
    (hfree : OperatorFree text) (hfront : blank front = true)
    (hmarks : marked? text.toList
      = some (bare front ++ pre ++ ((c, false) :: suf ++ bare back)))
    (hparens : parens pre = 0) (hlevel : level ∈ levels)
    (hop : operatorAt? level (lastOf none pre) ((c, false) :: suf) = some (op, rest)) :
    pre = [] ∨ rest = [] := by
  obtain ⟨w, hw, hdrop, hbefore, hbehind⟩ := operatorAt?_eq_some hop
  obtain ⟨hne, hquotes⟩ := spelling_proper hlevel hw
  obtain ⟨ds, heq, hlower⟩ := bare_of_dropSpelling? hmarks hne hquotes hdrop
  rw [heq] at hmarks
  have hzero : parens (bare front ++ pre) = 0 := by
    rw [parens_append, parens_bare_blank hfront, hparens]
    rfl
  rcases level_cases hlevel with hsymbols | ⟨hapart, hwords⟩
  · -- A symbol starts with one of the heads, which the text does not have.
    obtain ⟨v, hv, u, hvu⟩ := hsymbols _ hw
    obtain ⟨ds₁, ds₂, rfl, hds₁, -⟩ := List.map_eq_append_iff.1 (hlower.trans hvu)
    obtain rfl := eq_of_lower hv hds₁
    refine absurd hv (hfree.symbols (bare front ++ pre) ds₁ (bare ds₂ ++ (rest ++ bare back)) ?_ hzero)
    rw [hmarks]
    simp [bare]
  · -- A word has blanks on both sides, unless it stands at an end.
    by_contra hends
    obtain ⟨hpre, hrest⟩ := not_or.1 hends
    obtain ⟨pre', a, rfl⟩ := exists_concat hpre
    obtain ⟨b, rest', rfl⟩ := List.exists_cons_of_ne_nil hrest
    rw [hapart, lastOf_concat] at hbefore
    rw [hapart] at hbehind
    have hblank : parenStep a = 0 := parenStep_of_isBlank (isBlank_of_isAsciiBlank hbefore)
    have hzero' : parens (bare front ++ pre') = 0 := by
      rw [← hzero]
      simp [hblank]
    refine hfree.words (bare front ++ pre') a ds b (rest' ++ bare back) ?_ hzero' hbefore hbehind ?_
    · rw [hmarks]
      simp
    · rw [hlower]
      exact hwords _ hw

/-- **An accepted text without operators is not split.** -/
theorem split?_of_operatorFree {text : String} {e : Expression} (h : parse text = .ok e)
    (hfree : OperatorFree text) : split? (trim text.toList) = none := by
  obtain ⟨hsolid, ⟨ms, hpart⟩, hread⟩ := part_of_parse h
  obtain ⟨k, hk⟩ : ∃ k, maxNesting = k + 1 := ⟨_, rfl⟩
  rw [hk] at hread
  obtain ⟨front, back, htext, hfront, hback⟩ := exists_trim text.toList
  have hmarks : marked? text.toList = some (bare front ++ (ms ++ bare back)) := by
    rw [htext]
    exact ((marks_blank hfront).append (hpart.marks.append (marks_blank hback))).marked?
  by_contra hnone
  obtain ⟨s, hsplit⟩ := Option.ne_none_iff_exists'.1 hnone
  obtain ⟨level, hlevel, depth, hscan⟩ := split?_eq_some hpart.marks.marked? hsplit
  obtain ⟨-, pre, c, suf, rest, rfl, hsuf, hop, hleft, hright⟩ := splitLast_eq_some hscan
  have hparens : parens pre = 0 := by
    have hbalance := parens_of_balance hpart.balanced
    rw [parens_append, hsuf] at hbalance
    simpa using hbalance
  -- Both sides of the operator are read, so neither is missing.
  rw [← hsolid.trim] at hsplit
  obtain ⟨left, right, hl, hr, -⟩ := sides_of_expression hread hsplit
  rw [List.append_assoc, ← List.append_assoc] at hmarks
  rcases operatorAt?_of_operatorFree hfree hfront hmarks hparens hlevel hop with rfl | rfl
  · rw [hleft] at hl
    exact ne_nil_of_expression hl rfl
  · rw [hright] at hr
    exact ne_nil_of_expression hr rfl

/-! ## §3. Rows of texts -/

/-- **An accepted text without operators is a term**, without the blanks at its ends. -/
theorem exists_term {text : String} {e : Expression} (h : parse text = .ok e)
    (hfree : OperatorFree text) : ∃ a : Term, a.text = trim text.toList ∧ a.tree = e := by
  obtain ⟨hsolid, ⟨ms, hpart⟩, hread⟩ := part_of_parse h
  obtain ⟨n, hreads⟩ := exists_reads hread
  have hunsplit := split?_of_operatorFree h hfree
  have hclear : ∀ level ∈ levels, Clear level ms := by
    intro level hlevel
    have hnone := (split?_eq_none_iff hpart.marks.marked?).1 hunsplit level hlevel
    have hcount : (splitLast level none ms).1 = -parens ms :=
      splitLast_eq_none (Prod.ext rfl hnone)
    have hdepth : (splitLast level none ms).1 = 0 := by
      rw [hcount, parens_of_balance hpart.balanced]
      rfl
    exact clear_of_splitLast hlevel (Prod.ext hdepth hnone)
  exact ⟨⟨_, ms, e, n, hpart, hsolid, hclear, hreads⟩, rfl, rfl⟩

theorem written_cons (A : String) (s : Spelling) (B : String) (xs : List (Spelling × String)) :
    Row.written ⟨A, (s, B) :: xs⟩ = A ++ " " ++ s.text ++ " " ++ Row.written ⟨B, xs⟩ := by
  have hshift : ∀ (t u : String), xs.foldl (fun before x => before ++ " " ++ x.1.text ++ " " ++ x.2) (t ++ u)
      = t ++ xs.foldl (fun before x => before ++ " " ++ x.1.text ++ " " ++ x.2) u := by
    intro t
    induction xs with
    | nil => exact fun u => rfl
    | cons x xs ih =>
      intro u
      rw [List.foldl_cons, List.foldl_cons, ← ih]
      simp only [String.append_assoc]
  exact hshift _ B

variable {tree : String → Expression}

/-- **Texts written in a row are the text of a row**, with blanks around it. -/
theorem exists_row (row : Row Spelling String)
    (h : ∀ A ∈ row.items, parse A = .ok (tree A) ∧ OperatorFree A) :
    ∃ (front : List Char) (r : Row Joint Term) (back : List Char), blank front = true ∧ blank back = true
      ∧ row.written.toList = front ++ (rowText r ++ back)
      ∧ r.map Joint.spelling Term.tree = row.map id tree := by
  obtain ⟨A, xs⟩ := row
  induction xs generalizing A with
  | nil =>
    obtain ⟨hparse, hfree⟩ := h A List.mem_cons_self
    obtain ⟨a, htext, htree⟩ := exists_term hparse hfree
    obtain ⟨front, back, heq, hfront, hback⟩ := exists_trim A.toList
    refine ⟨front, .single a, back, hfront, hback, ?_, ?_⟩
    · rw [(row_single a).1, htext]
      exact heq
    · simp [Row.map, Row.single, htree]
  | cons x xs ih =>
    obtain ⟨s, B⟩ := x
    obtain ⟨⟨hparse, hfree⟩, hrest⟩ := List.forall_mem_cons.1 h
    obtain ⟨a, htext, htree⟩ := exists_term hparse hfree
    obtain ⟨front, before, heq, hfront, hbefore⟩ := exists_trim A.toList
    obtain ⟨behind, r, back, hbehind, hback, hwritten, hr⟩ := ih B hrest
    -- The blanks at the end of the text and at the start of the rest belong to the joint.
    let j : Joint := ⟨before, s, behind, hbefore, hbehind⟩
    refine ⟨front, (Row.single a).join j r, back, hfront, hback, ?_, ?_⟩
    · have hjoin : rowText ((Row.single a).join j r)
          = trim A.toList ++ (before ++ ' ' :: (s.text.toList ++ ' ' :: behind) ++ rowText r) := by
        rw [rowText_join, (row_single a).1, htext]
        simp [j, Joint.text, Joint.before, Joint.behind, Spelling.chars]
      rw [written_cons, hjoin]
      simp only [String.toList_append, hwritten]
      conv => lhs; rw [heq]
      simp
    · rw [Row.map_join, hr]
      simp [Row.map, Row.single, Row.join, htree, j]

/-- **Operands written in a row are read by precedence.**  The text is
refused only for want of levels.  What comes out means the tree of the row:
in every context, and for every host, it has the same value or error after
the same questions in the same order.  It is that tree where no chain of a
connective mixes the symbol and the word. -/
theorem parse_written (row : Row Spelling String)
    (h : ∀ A ∈ row.items, parse A = .ok (tree A) ∧ OperatorFree A) :
    parse row.written = .error (.nestingTooDeep maxNesting)
    ∨ ∃ e, parse row.written = .ok e
        ∧ Alike e (row.map Spelling.op tree).tree
        ∧ (∀ (κ : Type) (c : Context κ), c.value e = c.value (row.map Spelling.op tree).tree)
        ∧ (row.Unmixed → e = (row.map Spelling.op tree).tree) := by
  obtain ⟨front, r, back, hfront, hback, hwritten, hr⟩ := exists_row row h
  obtain ⟨n, e, hreads, halike, hexact⟩ := row_reads r
  have hparse := parse_of_reads hwritten hfront hback (row_solid r) (row_part r) hreads
  have htree : rowTree r = (row.map Spelling.op tree).tree := by
    have hops : r.map Joint.op Term.tree = (r.map Joint.spelling Term.tree).map Spelling.op id := by
      rw [Row.map_map]
      rfl
    unfold rowTree
    rw [hops, hr, Row.map_map]
    rfl
  by_cases hn : n ≤ maxNesting
  · rw [if_pos hn] at hparse
    rw [htree] at halike hexact
    refine .inr ⟨e, hparse, halike, fun κ c => halike _ c.host, fun hunmixed => hexact ?_⟩
    have hspellings : (r.map Joint.spelling id).map id Term.tree = row.map id tree := by
      rw [Row.map_map]
      exact hr
    rw [← Row.unmixed_map Term.tree, hspellings, Row.unmixed_map]
    exact hunmixed
  · rw [if_neg hn] at hparse
    exact .inl hparse

/-- The condition of a text that is accepted. -/
def readOf (text : String) : Expression :=
  match parse text with
  | .ok e => e
  | .error _ => .literal .null

/-- A row in which `or` has both spellings, with a tighter chain inside it. -/
def mixedRow : Row Spelling String :=
  ⟨"is_user_logged_in()",
    [(⟨"||", .or, rfl⟩, "user_role()"), (⟨"===", .eq, rfl⟩, "'editor'"),
      (⟨"and", .and, rfl⟩, "!is_admin()"),
      (⟨"OR", .or, rfl⟩, "current_user_can('edit||posts')")]⟩

theorem parse_written_mixedRow :
    mixedRow.written = "is_user_logged_in() || user_role() === 'editor' and !is_admin() "
      ++ "OR current_user_can('edit||posts')"
    ∧ (∀ A ∈ mixedRow.items, parse A = .ok (readOf A) ∧ OperatorFree A)
    ∧ (parse mixedRow.written = .error (.nestingTooDeep maxNesting)
      ∨ ∃ e, parse mixedRow.written = .ok e ∧ Alike e (mixedRow.map Spelling.op readOf).tree
          ∧ (∀ (κ : Type) (c : Context κ),
              c.value e = c.value (mixedRow.map Spelling.op readOf).tree)
          ∧ (mixedRow.Unmixed → e = (mixedRow.map Spelling.op readOf).tree)) := by
  have hchecks : ∀ A ∈ mixedRow.items, (parse A).isOk = true ∧ isCompact A.toList = true := by
    decide +kernel
  have hitems : ∀ A ∈ mixedRow.items, parse A = .ok (readOf A) ∧ OperatorFree A := by
    intro A hA
    obtain ⟨hok, hcompact⟩ := hchecks A hA
    refine ⟨?_, operatorFree_of_isCompact hcompact⟩
    unfold readOf
    cases hparse : parse A with
    | ok e => rfl
    | error cause =>
      rw [hparse] at hok
      cases hok
  exact ⟨by decide +kernel, hitems, parse_written mixedRow hitems⟩

end Direct

end ContentGate
