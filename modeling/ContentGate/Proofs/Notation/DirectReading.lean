/-
  ContentGate.Proofs.Notation.DirectReading — how direct texts are read.

  The reader of direct texts goes down one level for every operator,
  sign, parenthesis and call, and refuses a text when no level is left.
  So a text that can be read TAKES a certain number of levels: with as
  many or more the reader gives its condition, with fewer it refuses for
  want of levels, and for no other reason.  There is one rule for each
  form of a text, which tells what the text takes from what its parts take.

  Main statements:
    * `Takes.bind`, `takes_mapM_cons` — readers one after another;
    * `reads_of_operand`, `reads_around` — texts without and with operators;
    * `readsOperand_not`, `readsOperand_minus`, `readsOperand_enclosed`,
      `readsOperand_literal`, `readsOperand_call` — operands;
    * `string?_quoted` — a quoted text is read back, whatever is in it.
-/
import ContentGate.Notation.Direct
import ContentGate.Proofs.Notation.Splitting
import ContentGate.Proofs.Text.Blank

namespace ContentGate.Direct

open Text Notation

/-! ## §1. Levels -/

/-- A reader gives `a` if it has `n` levels, and refuses for want of levels if not. -/
def Takes {α : Type} (n : Nat) (read : Nat → Except ParseError α) (a : α) : Prop :=
  ∀ levels, read levels = if n ≤ levels then .ok a else .error (.nestingTooDeep maxNesting)

section
variable {α β : Type} {n k : Nat} {a : α} {b : β}

theorem Takes.of_le {read : Nat → Except ParseError α} (h : Takes n read a) {levels : Nat}
    (hn : n ≤ levels) : read levels = .ok a := by
  rw [h levels, if_pos hn]

theorem Takes.of_lt {read : Nat → Except ParseError α} (h : Takes n read a) {levels : Nat}
    (hn : levels < n) : read levels = .error (.nestingTooDeep maxNesting) := by
  rw [h levels, if_neg (Nat.not_le.2 hn)]

theorem takes_ok (a : α) : Takes 0 (fun _ => .ok a) a :=
  fun levels => (if_pos (Nat.zero_le levels)).symm

/-- One reader after another takes what the more demanding of the two takes. -/
theorem Takes.bind {read : Nat → Except ParseError α} {f : Nat → α → Except ParseError β}
    (h : Takes n read a) (hf : Takes k (f · a) b) :
    Takes (max n k) (fun levels => read levels >>= f levels) b := by
  intro levels
  by_cases hn : n ≤ levels
  · have hmax : max n k ≤ levels ↔ k ≤ levels := by omega
    have hnow : (read levels >>= f levels) = f levels a := by
      rw [h.of_le hn]
      rfl
    simp only [hmax]
    exact hnow.trans (hf levels)
  · have hmax : ¬ max n k ≤ levels := by omega
    show (read levels >>= f levels) = _
    rw [h.of_lt (Nat.not_le.1 hn), if_neg hmax]
    rfl

theorem Takes.map {read : Nat → Except ParseError α} (h : Takes n read a) (f : α → β) :
    Takes n (fun levels => read levels >>= fun a => .ok (f a)) (f a) := by
  have hbind := h.bind (f := fun _ a => .ok (f a)) (takes_ok (f a))
  rwa [Nat.max_zero] at hbind

/-- A reader that has nothing without a level, and goes one level down. -/
theorem Takes.succ {read inner : Nat → Except ParseError α}
    (hzero : read 0 = .error (.nestingTooDeep maxNesting))
    (hsucc : ∀ levels, read (levels + 1) = inner levels) (h : Takes n inner a) :
    Takes (n + 1) read a := by
  intro levels
  cases levels with
  | zero => rw [hzero, if_neg (Nat.not_succ_le_zero n)]
  | succ levels =>
    rw [hsucc, h levels]
    simp only [Nat.add_le_add_iff_right]

/-- Texts that are read one after another. -/
theorem takes_mapM_cons {read : Nat → List Char → Except ParseError α} {cs : List Char}
    {css : List (List Char)} {as : List α} (h : Takes n (read · cs) a)
    (hs : Takes k (fun levels => css.mapM (read levels)) as) :
    Takes (max n k) (fun levels => (cs :: css).mapM (read levels)) (a :: as) := by
  have hboth := h.bind (f := fun levels a => css.mapM (read levels) >>= fun as => .ok (a :: as))
    (hs.map (a :: ·))
  intro levels
  show (cs :: css).mapM (read levels) = _
  rw [List.mapM_cons]
  exact hboth levels

end

/-! ## §2. Whole texts -/

/-- The reading of a text as a condition. -/
def Reads (n : Nat) (cs : List Char) (e : Expression) : Prop := Takes n (expression · cs) e

/-- The reading of a text as an operand. -/
def ReadsOperand (n : Nat) (cs : List Char) (e : Expression) : Prop := Takes n (operand · cs) e

section
variable {n k levels : Nat} {cs ds : List Char} {e left right : Expression}

theorem expression_zero (cs : List Char) :
    expression 0 cs = .error (.nestingTooDeep maxNesting) := by rw [expression]

theorem operand_zero (cs : List Char) :
    operand 0 cs = .error (.nestingTooDeep maxNesting) := by rw [operand]

/-- Both readers look at trimmed texts. -/
theorem expression_trim (levels : Nat) (cs : List Char) :
    expression levels (trim cs) = expression levels cs := by
  cases levels with
  | zero => rw [expression_zero, expression_zero]
  | succ levels => rw [expression, expression, trim_trim]

theorem operand_trim (levels : Nat) (cs : List Char) :
    operand levels (trim cs) = operand levels cs := by
  cases levels with
  | zero => rw [operand_zero, operand_zero]
  | succ levels => rw [operand, operand, trim_trim]

/-- A blank in front of a text does not matter. -/
theorem expression_cons_blank (levels : Nat) {c : Char} (hc : isBlank c = true) (cs : List Char) :
    expression levels (c :: cs) = expression levels cs := by
  have hblank : blank [c] = true := List.all_eq_true.2 fun d hd => by rwa [List.mem_singleton.1 hd]
  have htrim : trim (c :: cs) = trim cs := trim_blank_append hblank cs
  rw [← expression_trim, htrim, expression_trim]

theorem isEmpty_of_solid (h : Solid cs) : cs.isEmpty = false :=
  List.isEmpty_eq_false_iff.2 h.ne_nil

/-- The reading of a text that is split, -/
theorem expression_eq_of_split {s : Split} (hne : trim cs ≠ []) (hsplit : split? (trim cs) = some s) :
    expression (levels + 1) cs = (do
      let left ← expression levels (trim s.left)
      let right ← expression levels (trim s.right)
      .ok (.binary left s.op right)) := by
  have hempty : (trim cs).isEmpty = false := List.isEmpty_eq_false_iff.2 hne
  rw [expression]
  simp only [hempty, hsplit]
  rfl

/-- and that of a text that is not. -/
theorem expression_eq_of_operand (hne : trim cs ≠ []) (hsplit : split? (trim cs) = none) :
    expression (levels + 1) cs = operand levels (trim cs) := by
  have hempty : (trim cs).isEmpty = false := List.isEmpty_eq_false_iff.2 hne
  rw [expression]
  simp only [hempty, hsplit]
  rfl

/-- **A text that is not split is an operand.** -/
theorem reads_of_operand (hsolid : Solid cs) (hsplit : split? cs = none)
    (h : ReadsOperand n cs e) : Reads (n + 1) cs e := by
  refine Takes.succ (expression_zero cs) (fun levels => ?_) h
  have htrim := hsolid.trim
  have heq : expression (levels + 1) cs = operand levels (trim cs) :=
    expression_eq_of_operand (by rw [htrim]; exact hsolid.ne_nil) (by rw [htrim, hsplit])
  rw [heq, htrim]

/-- **A text that is split has the conditions of both sides.** -/
theorem reads_of_split {s : Split} (hsolid : Solid cs) (hsplit : split? cs = some s)
    (hleft : Reads n (trim s.left) left) (hright : Reads k (trim s.right) right) :
    Reads (max n k + 1) cs (.binary left s.op right) := by
  have hboth := hleft.bind
    (f := fun levels left =>
      expression levels (trim s.right) >>= fun right => .ok (left.binary s.op right))
    (hright.map (left.binary s.op))
  refine Takes.succ (expression_zero _) (fun levels => ?_) hboth
  apply expression_eq_of_split
  · rw [hsolid.trim]
    exact hsolid.ne_nil
  · rw [hsolid.trim, hsplit]

/-- **An operator between two texts.** -/
theorem reads_around {op : Operator} (hcs : Solid cs) (hds : Solid ds)
    (hsplit : split? (cs ++ (spaced op ++ ds)) = some ⟨cs ++ [' '], op, ' ' :: ds⟩)
    (hleft : Reads n cs left) (hright : Reads k ds right) :
    Reads (max n k + 1) (cs ++ (spaced op ++ ds)) (.binary left op right) := by
  have hfront : trim (cs ++ [' ']) = cs := (trim_append_blank rfl cs).trans hcs.trim
  have hback : trim ([' '] ++ ds) = ds := (trim_blank_append rfl ds).trans hds.trim
  refine reads_of_split (hcs.append hds (spaced op)) hsplit ?_ ?_
  · rw [hfront]
    exact hleft
  · show Reads k (trim ([' '] ++ ds)) right
    rw [hback]
    exact hright

/-! ## §3. Signs and parentheses -/

/-- **An exclamation mark.** -/
theorem readsOperand_not (hsolid : Solid cs) (h : ReadsOperand n cs e) :
    ReadsOperand (n + 1) ('!' :: cs) (.unary .not e) := by
  refine Takes.succ (operand_zero _) (fun levels => ?_) (h.map (Expression.unary .not))
  rw [operand]
  simp only [(hsolid.cons (c := '!') rfl).trim]
  rfl

/-- **A minus**, behind which no number stands. -/
theorem readsOperand_minus (hsolid : Solid cs)
    (hdigit : ∀ c rest, cs = c :: rest → c.isDigit = false) (h : ReadsOperand n cs e) :
    ReadsOperand (n + 1) ('-' :: cs) (.unary .negate e) := by
  have hnegated : negated? ('-' :: cs) = some cs := by
    obtain ⟨c, rest, rfl, -⟩ := hsolid.head
    rw [negated?, hsolid.trimStart]
    simp only [hdigit c rest rfl]
    rfl
  have hdrop : dropWord? ['!'] ('-' :: cs) = none := rfl
  refine Takes.succ (operand_zero _) (fun levels => ?_) (h.map (Expression.unary .negate))
  rw [operand]
  simp only [(hsolid.cons (c := '-') rfl).trim, hdrop, hnegated]

theorem enclosed?_of_balanced {ms : List Marked} (hmarks : Marks cs ms)
    (hbalance : marksBalance 0 ms = true) : enclosed? ('(' :: (cs ++ [')'])) = some cs := by
  have hclosing : closing? 0 (ms ++ [(')', false)]) = some (ms, []) :=
    closing?_of_balanced hbalance []
  unfold enclosed?
  rw [hmarks.enclosed.marked?]
  show (closing? 0 (ms ++ [(')', false)])).bind _ = _
  rw [hclosing]
  exact congrArg some hmarks.unmarked

/-- **A text between parentheses.** -/
theorem readsOperand_enclosed {ms : List Marked} (hmarks : Marks cs ms)
    (hbalance : marksBalance 0 ms = true) (h : Reads n cs e) :
    ReadsOperand (n + 1) ('(' :: (cs ++ [')'])) e := by
  have hsolid : Solid ('(' :: (cs ++ [')'])) := .enclose rfl rfl cs
  have hdrop : dropWord? ['!'] ('(' :: (cs ++ [')'])) = none := rfl
  have hnegated : negated? ('(' :: (cs ++ [')'])) = none := rfl
  refine Takes.succ (operand_zero _) (fun levels => ?_) h
  rw [operand]
  simp only [hsolid.trim, hdrop, hnegated, enclosed?_of_balanced hmarks hbalance]

end

/-! ## §4. Literals -/

/-- No sign and no parenthesis stands at the head of a text. -/
def startsPlain (c : Char) : Bool := c != '!' && c != '-' && c != '('

section
variable {n levels : Nat} {c : Char} {cs : List Char}

theorem enclosed?_of_startsPlain (h : startsPlain c = true) (cs : List Char) :
    enclosed? (c :: cs) = none := by
  unfold enclosed?
  cases hmarked : marked? (c :: cs) with
  | none => rfl
  | some ms =>
    have hms := unmarked_of_markFrom hmarked
    cases ms with
    | nil => rfl
    | cons m ms =>
      -- The first mark is that of the first character, which opens nothing.
      obtain ⟨hc, -⟩ := List.cons.inj hms
      rw [Option.bind_eq_bind, Option.bind_some]
      split
      · rename_i heq
        obtain ⟨rfl, -⟩ := List.cons.inj heq
        subst hc
        cases h
      · rfl

theorem dropWord?_of_startsPlain (h : startsPlain c = true) (cs : List Char) :
    dropWord? ['!'] (c :: cs) = none := by
  refine if_neg ?_
  rintro rfl
  cases h

theorem negated?_of_startsPlain (h : startsPlain c = true) (cs : List Char) :
    negated? (c :: cs) = none := by
  unfold negated?
  split
  · rename_i heq
    obtain ⟨rfl, -⟩ := List.cons.inj heq
    cases h
  · rfl

/-- **A literal.** -/
theorem readsOperand_literal {v : Value} (h : startsPlain c = true) (hsolid : Solid (c :: cs))
    (hliteral : literal? (c :: cs) = some v) : ReadsOperand 1 (c :: cs) (.literal v) := by
  refine Takes.succ (operand_zero _) (fun levels => ?_) (takes_ok (Expression.literal v))
  rw [operand]
  simp only [hsolid.trim, dropWord?_of_startsPlain h, negated?_of_startsPlain h,
    enclosed?_of_startsPlain h, hliteral]

/-- The reader of strings takes back what is written for a character. -/
theorem stringBody?_quotedChar (c : Char) (rest : List Char) :
    stringBody? '\'' (quotedChar c ++ rest) = (stringBody? '\'' rest).map (c :: ·) := by
  unfold quotedChar
  by_cases hc : c = '\\' ∨ c = '\''
  · rw [if_pos hc]
    show stringBody? '\'' ('\\' :: c :: rest) = _
    rw [stringBody?]
    simp only [if_pos hc.symm]
  · rw [if_neg hc]
    obtain ⟨hbackslash, hquote⟩ := not_or.1 hc
    show stringBody? '\'' (c :: rest) = _
    rw [stringBody?, if_neg hquote]
    · exact fun h => absurd h hbackslash
    · exact fun _ _ h => absurd h hbackslash

theorem stringBody?_quotedChars (cs : List Char) :
    stringBody? '\'' (cs.flatMap quotedChar ++ ['\'']) = some cs := by
  induction cs with
  | nil => rfl
  | cons c cs ih =>
    rw [List.flatMap_cons, List.append_assoc, stringBody?_quotedChar, ih]
    rfl

/-- **A quoted text is read back, whatever is in it.** -/
theorem string?_quoted (s : String) : string? (quoted s).toList = some s := by
  rw [toList_quoted]
  show (stringBody? '\'' (s.toList.flatMap quotedChar ++ ['\''])).map String.ofList = some s
  rw [stringBody?_quotedChars, Option.map_some, String.ofList_toList]

theorem readsOperand_string (s : String) :
    ReadsOperand 1 (quoted s).toList (.literal (.string s)) := by
  have hliteral : literal? (quoted s).toList = some (.string s) := by
    unfold literal?
    rw [string?_quoted]
  rw [toList_quoted] at hliteral ⊢
  exact readsOperand_literal rfl (.enclose rfl rfl _) hliteral

/-- The words of the truth values and of `null`. -/
theorem readsOperand_keyword {v : Value} (hv : v = .bool true ∨ v = .bool false ∨ v = .null) :
    ReadsOperand 1 v.text.toList (.literal v) := by
  have hword : ∀ c d between, startsPlain c = true → isBlank c = false → isBlank d = false →
      v.text.toList = c :: (between ++ [d]) → literal? (c :: (between ++ [d])) = some v →
      ReadsOperand 1 v.text.toList (.literal v) := by
    intro c d between hplain hc hd htext hliteral
    rw [htext]
    exact readsOperand_literal hplain (.enclose hc hd between) hliteral
  rcases hv with rfl | rfl | rfl
  · exact hword 't' 'e' ['r', 'u'] rfl rfl rfl (by rw [Value.text]; rfl) rfl
  · exact hword 'f' 'e' ['a', 'l', 's'] rfl rfl rfl (by rw [Value.text]; rfl) rfl
  · exact hword 'n' 'l' ['u', 'l'] rfl rfl rfl (by rw [Value.text]; rfl) rfl

/-! ## §5. Calls -/

/-- A text with a character that a word does not have is not that word. -/
theorem isWordAnyCase_of_mem {w cs : List Char} {c : Char} (hc : c ∈ cs) (hw : c.toLower ∉ w) :
    isWordAnyCase w cs = false := by
  unfold isWordAnyCase
  rw [beq_eq_false_iff_ne]
  rintro rfl
  exact hw (List.mem_map.2 ⟨c, hc, rfl⟩)

theorem isBlank_of_isNameChar {c : Char} (hc : isNameChar c = true) : isBlank c = false :=
  of_isNameChar (P := fun c => isBlank c = false) (by decide) hc

theorem isDigit_of_name_head {c : Char} (hc : isNameChar c = true)
    (hhead : (c.isAlpha || c == '_') = true) : c.isDigit = false :=
  of_isNameChar (P := fun c => (c.isAlpha || c == '_') = true → c.isDigit = false) (by decide) hc
    hhead

variable {name inner : List Char} {ms : List Marked}

/-- The head of a name is no digit. -/
theorem exists_head_of_isIdentifier (hname : isIdentifier name = true) :
    ∃ c rest, name = c :: rest ∧ isNameChar c = true ∧ c.isDigit = false := by
  cases name with
  | nil => cases hname
  | cons c rest =>
    have hc := isNameChar_of_isIdentifier hname c List.mem_cons_self
    rw [isIdentifier, Bool.and_eq_true] at hname
    exact ⟨c, rest, rfl, hc, isDigit_of_name_head hc hname.1⟩

theorem solid_of_isIdentifier (hname : isIdentifier name = true) : Solid name := by
  obtain ⟨c, rest, rfl, -⟩ := exists_head_of_isIdentifier hname
  exact .of_forall (List.cons_ne_nil c rest) fun d hd =>
    isBlank_of_isNameChar (isNameChar_of_isIdentifier hname d hd)

theorem startsPlain_of_isNameChar (hc : isNameChar c = true) : startsPlain c = true :=
  of_isNameChar (P := fun c => startsPlain c = true) (by decide) hc

/-- What starts like a name and has a parenthesis is no literal. -/
theorem literal?_of_paren (hc : isNameChar c = true) (hdigit : c.isDigit = false)
    (hparen : '(' ∈ cs) : literal? (c :: cs) = none := by
  have hstring : string? (c :: cs) = none := by
    refine if_neg (not_or.2 ⟨ne_of_isNameChar hc (by decide), ne_of_isNameChar hc (by decide)⟩)
  have hkeyword : keyword? (c :: cs) = none := by
    have hmem : '(' ∈ c :: cs := List.mem_cons_of_mem c hparen
    unfold keyword?
    rw [isWordAnyCase_of_mem hmem (by decide), isWordAnyCase_of_mem hmem (by decide),
      isWordAnyCase_of_mem hmem (by decide)]
    rfl
  have hnumber : number? (c :: cs) = none := by
    refine if_neg (not_or.2 ⟨?_, not_or.2
      ⟨ne_of_isNameChar hc (by decide), ne_of_isNameChar hc (by decide)⟩⟩)
    rw [hdigit]
    decide
  unfold literal?
  rw [hstring, hkeyword, hnumber]
  rfl

/-- A name, maybe with blanks around it, in front of parentheses. -/
theorem call?_of_enclosed {before : List Char} (hparen : '(' ∉ before)
    (hname : isIdentifier (trim before) = true)
    (h : enclosed? ('(' :: (inner ++ [')'])) = some inner) :
    call? (before ++ '(' :: (inner ++ [')'])) = some (trim before, inner) := by
  have htake : (before ++ '(' :: (inner ++ [')'])).takeWhile (· != '(') = before :=
    takeWhile_up_to hparen _
  unfold call?
  simp only [htake, if_pos hname, List.drop_left, h]
  rfl

theorem call?_of_balanced (hname : isIdentifier name = true) (hmarks : Marks inner ms)
    (hbalance : marksBalance 0 ms = true) :
    call? (name ++ '(' :: (inner ++ [')'])) = some (name, inner) := by
  have htrim := (solid_of_isIdentifier hname).trim
  have hparen : '(' ∉ name := fun hmem =>
    absurd (isNameChar_of_isIdentifier hname '(' hmem) (by decide)
  have hcall := call?_of_enclosed hparen (by rw [htrim, hname]) (enclosed?_of_balanced hmarks hbalance)
  rwa [htrim] at hcall

/-- **A call**, whose written arguments are read one by one. -/
theorem readsOperand_call {n : Nat} {pieces : List (List Char)} {es : List Expression}
    (hname : isIdentifier name = true) (hmarks : Marks inner ms)
    (hbalance : marksBalance 0 ms = true) (harguments : arguments inner = .ok pieces)
    (h : Takes n (fun levels => pieces.mapM (expression levels)) es) :
    ReadsOperand (n + 1) (name ++ '(' :: (inner ++ [')'])) (.call (String.ofList name) es) := by
  have hcall := call?_of_balanced hname hmarks hbalance
  obtain ⟨c, rest, rfl, hc, hdigit⟩ := exists_head_of_isIdentifier hname
  have hplain := startsPlain_of_isNameChar hc
  have hsolid : Solid (c :: rest ++ '(' :: (inner ++ [')'])) :=
    (solid_of_isIdentifier hname).append (.singleton (c := ')') rfl) ('(' :: inner)
  have hliteral : literal? (c :: rest ++ '(' :: (inner ++ [')'])) = none :=
    literal?_of_paren hc hdigit (List.mem_append_right rest List.mem_cons_self)
  refine Takes.succ (operand_zero _) (fun levels => ?_)
    (h.map (Expression.call (String.ofList (c :: rest))))
  rw [List.cons_append] at hcall hsolid hliteral ⊢
  rw [operand]
  simp only [hsolid.trim, dropWord?_of_startsPlain hplain, negated?_of_startsPlain hplain,
    enclosed?_of_startsPlain hplain, hliteral, hcall, harguments]
  rfl

/-- A blank in front of the first of several texts does not matter. -/
theorem mapM_ontoFirst_blank (levels : Nat) {css : List (List Char)} (h : css ≠ []) :
    (ontoFirst [' '] css).mapM (expression levels) = css.mapM (expression levels) := by
  cases css with
  | nil => exact absurd rfl h
  | cons cs css =>
    show ((' ' :: cs) :: css).mapM (expression levels) = _
    rw [List.mapM_cons, List.mapM_cons, expression_cons_blank levels rfl]

end

end ContentGate.Direct
