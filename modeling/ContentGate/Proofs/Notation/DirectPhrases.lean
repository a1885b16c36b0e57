/-
  ContentGate.Proofs.Notation.DirectPhrases — direct texts put together.

  The readers of the direct notation look at a text in several ways: its
  strings and parentheses, its operators, its commas, its ends.  Here all
  that they look at is kept together for three kinds of text:

    • a PHRASE is the whole text of a condition;
    • a CHAIN of an operator is a phrase that may be followed by the
      operator and one operand more: no looser operator splits it;
    • an ATOM is an operand: no operator splits it.

  Signs, parentheses, calls and operators make new ones of these from
  old ones, and tell how many levels the reading takes.

  Main statements:
    * `atom_enclosed`, `Atom.not`, `Atom.minus`, `Chain.link` — larger texts;
    * `atom_quoted`, `atom_keyword`, `atom_call` — operands;
    * `parse_of_reads`, `Phrase.parse` — what can be read is read if there
      are levels enough.
-/
import ContentGate.Proofs.Notation.DirectReading

namespace ContentGate.Direct

open Text Notation

/-! ## §1. Parts -/

/-- A text that may stand in a direct text: no string is left open, the
parentheses are paired, and nothing is forbidden. -/
structure Part (cs : List Char) (ms : List Marked) : Prop where
  marks : Marks cs ms
  balanced : marksBalance 0 ms = true
  permitted : ∀ m ∈ ms, (!m.2 && isForbidden m.1) = false

/-- A part that stands in one piece, and has no blank at its ends. -/
structure Piece (cs : List Char) (ms : List Marked) : Prop extends Part cs ms where
  unsplit : Unsplit ms
  solid : Solid cs

/-- A character that is no quote and no parenthesis, and that is not forbidden. -/
def isOrdinary (c : Char) : Bool :=
  isNoQuote c && parenStep (c, false) == 0 && !isForbidden c

/-- An ordinary character that does not part arguments either. -/
def isPlain (c : Char) : Bool := isOrdinary c && c != ','

theorem isOrdinary_iff {c : Char} :
    isOrdinary c = true
      ↔ isNoQuote c = true ∧ parenStep (c, false) = 0 ∧ isForbidden c = false := by
  simp [isOrdinary, and_assoc]

theorem isPlain_iff {c : Char} : isPlain c = true ↔ isOrdinary c = true ∧ c ≠ ',' := by
  simp [isPlain]

theorem isPlain_of_isNameChar {c : Char} (hc : isNameChar c = true) : isPlain c = true :=
  of_isNameChar (P := fun c => isPlain c = true) (by decide) hc

section
variable {cs ds : List Char} {ms ns : List Marked}

theorem Part.append (h : Part cs ms) (h' : Part ds ns) : Part (cs ++ ds) (ms ++ ns) where
  marks := h.marks.append h'.marks
  balanced := marksBalance_append_zero h.balanced h'.balanced
  permitted := List.forall_mem_append.2 ⟨h.permitted, h'.permitted⟩

/-- Characters outside strings that mean nothing to the check of a text. -/
theorem part_bare (h : cs.all isOrdinary = true) : Part cs (bare cs) where
  marks := marks_bare (List.all_eq_true.2 fun c hc =>
    (isOrdinary_iff.1 (List.all_eq_true.1 h c hc)).1)
  balanced := marksBalance_of_no_paren fun m hm => by
    obtain ⟨c, hc, rfl⟩ := List.mem_map.1 hm
    exact (isOrdinary_iff.1 (List.all_eq_true.1 h c hc)).2.1
  permitted := fun m hm => by
    obtain ⟨c, hc, rfl⟩ := List.mem_map.1 hm
    exact (isOrdinary_iff.1 (List.all_eq_true.1 h c hc)).2.2

theorem part_nil : Part [] [] := part_bare rfl

theorem Part.enclosed (h : Part cs ms) : Part ('(' :: (cs ++ [')'])) (enclosed ms) where
  marks := h.marks.enclosed
  balanced := marksBalance_enclosed h.balanced
  permitted := List.forall_mem_cons.2 ⟨rfl, List.forall_mem_append.2 ⟨h.permitted, by decide⟩⟩

theorem part_plain (h : cs.all isPlain = true) : Part cs (bare cs) :=
  part_bare (List.all_eq_true.2 fun c hc => (isPlain_iff.1 (List.all_eq_true.1 h c hc)).1)

/-- Plain characters stand in one piece. -/
theorem unsplit_plain (h : cs.all isPlain = true) : Unsplit (bare cs) := by
  refine unsplit_of_forall fun m hm => ?_
  obtain ⟨c, hc, rfl⟩ := List.mem_map.1 hm
  obtain ⟨hordinary, hcomma⟩ := isPlain_iff.1 (List.all_eq_true.1 h c hc)
  exact ⟨fun heq => hcomma (congrArg Prod.fst heq), (isOrdinary_iff.1 hordinary).2.1⟩

/-- Two pieces with plain characters between them. -/
theorem Piece.append (h : Piece cs ms) (h' : Piece ds ns) (between : List Char)
    (hbetween : between.all isPlain = true) :
    Piece (cs ++ (between ++ ds)) (ms ++ (bare between ++ ns)) where
  toPart := h.toPart.append ((part_plain hbetween).append h'.toPart)
  unsplit := h.unsplit.append ((unsplit_plain hbetween).append h'.unsplit)
  solid := h.solid.append h'.solid between

theorem Piece.join (h : Piece cs ms) (h' : Piece ds ns) : Piece (cs ++ ds) (ms ++ ns) :=
  h.append h' [] rfl

theorem piece_plain (h : cs.all isPlain = true) (hsolid : Solid cs) : Piece cs (bare cs) where
  toPart := part_plain h
  unsplit := unsplit_plain h
  solid := hsolid

theorem Piece.cons (h : Piece cs ms) {c : Char} (hc : isPlain c = true)
    (hblank : isBlank c = false) : Piece (c :: cs) ((c, false) :: ms) := by
  have hchar : Piece [c] (bare [c]) := piece_plain (by simp [hc]) (.singleton hblank)
  exact hchar.join h

theorem piece_enclosed (h : Part cs ms) : Piece ('(' :: (cs ++ [')'])) (enclosed ms) where
  toPart := h.enclosed
  unsplit := unsplit_enclosed h.balanced
  solid := .enclose rfl rfl cs

theorem piece_name (h : isIdentifier cs = true) : Piece cs (bare cs) := by
  refine piece_plain ?_ (solid_of_isIdentifier h)
  exact List.all_eq_true.2 fun c hc => isPlain_of_isNameChar (isNameChar_of_isIdentifier h c hc)

/-- A text that is one string. -/
theorem piece_quoted (s : String) : Piece (quoted s).toList (inString (quoted s).toList) where
  marks := marks_quoted s
  balanced := marksBalance_of_no_paren fun m hm => by
    obtain ⟨c, -, rfl⟩ := List.mem_map.1 hm
    exact parenStep_inString c
  permitted := fun m hm => by
    obtain ⟨c, -, rfl⟩ := List.mem_map.1 hm
    rfl
  unsplit := unsplit_of_forall fun m hm => by
    obtain ⟨c, -, rfl⟩ := List.mem_map.1 hm
    exact ⟨fun heq => Bool.noConfusion (congrArg Prod.snd heq), parenStep_inString c⟩
  solid := by
    rw [toList_quoted]
    exact .enclose rfl rfl _

end

/-! ## §2. Phrases, chains and atoms -/

/-- The text of a condition, which takes `n` levels to read. -/
structure Phrase (n : Nat) (cs : List Char) (ms : List Marked) (e : Expression) : Prop
    extends Piece cs ms where
  reads : Reads n cs e

/-- The text of a condition that no operator looser than `op` splits. -/
structure Chain (op : Operator) (n : Nat) (cs : List Char) (ms : List Marked) (e : Expression) :
    Prop extends Phrase n cs ms e where
  inert : ∀ level ∈ looserThan op, Inert level ms

/-- The text of an operand, which no operator splits.  Its head is no
`=`, which would join with a sign, and no digit. -/
structure Atom (n : Nat) (cs : List Char) (ms : List Marked) (e : Expression) : Prop
    extends Piece cs ms where
  inert : ∀ level ∈ levels, Inert level ms
  head : ∀ c rest, cs = c :: rest → c.toLower ≠ '=' ∧ c.isDigit = false
  reads : ReadsOperand n cs e

section
variable {n k : Nat} {cs ds : List Char} {ms ns : List Marked} {e left right : Expression}
  {op : Operator}

theorem Atom.phrase (h : Atom n cs ms e) : Phrase (n + 1) cs ms e :=
  { h.toPiece with reads := reads_of_operand h.solid (split?_of_inert h.marks h.inert) h.reads }

theorem Atom.chain (h : Atom n cs ms e) (op : Operator) : Chain op (n + 1) cs ms e :=
  { h.phrase with inert := fun level hlevel => h.inert level (mem_levels_of_looser hlevel) }

/-- **One operand more joins to the left.** -/
theorem Chain.link (h : Chain op n cs ms left) (h' : Atom k ds ns right) :
    Chain op (max n (k + 1) + 1) (cs ++ (spaced op ++ ds)) (ms ++ (bare (spaced op) ++ ns))
      (.binary left op right) where
  toPiece := h.toPiece.append h'.toPiece (spaced op) (by cases op <;> decide)
  reads := reads_around h.solid h'.solid (split?_around op h.marks h'.marks h.inert h'.inert)
    h.reads h'.phrase.reads
  inert := fun level hlevel => (h.inert level hlevel).append
    ((inert_spaced hlevel).append (h'.inert level (mem_levels_of_looser hlevel)))

/-- **Parentheses make an operand of a part that can be read.** -/
theorem atom_enclosed (h : Part cs ms) (hreads : Reads n cs e) :
    Atom (n + 1) ('(' :: (cs ++ [')'])) (enclosed ms) e where
  toPiece := piece_enclosed h
  inert := fun level hlevel => inert_enclosed (startsNone_paren hlevel) h.balanced
  head := fun c rest heq => by
    obtain ⟨rfl, -⟩ := List.cons.inj heq
    decide
  reads := readsOperand_enclosed h.marks h.balanced hreads

theorem Phrase.enclosed (h : Phrase n cs ms e) :
    Atom (n + 1) ('(' :: (cs ++ [')'])) (enclosed ms) e :=
  atom_enclosed h.toPart h.reads

/-- **A sign in front of an operand.** -/
theorem Atom.not (h : Atom n cs ms e) :
    Atom (n + 1) ('!' :: cs) (('!', false) :: ms) (.unary .not e) where
  toPiece := h.toPiece.cons rfl rfl
  inert := fun level hlevel => by
    cases ms with
    | nil => exact absurd h.marks.unmarked.symm h.solid.ne_nil
    | cons m ms =>
      exact inert_not hlevel (h.head _ _ h.marks.unmarked.symm).1 (h.inert level hlevel)
  head := fun c rest heq => by
    obtain ⟨rfl, -⟩ := List.cons.inj heq
    decide
  reads := readsOperand_not h.solid h.reads

theorem Atom.minus (h : Atom n cs ms e) :
    Atom (n + 1) ('-' :: cs) (('-', false) :: ms) (.unary .negate e) where
  toPiece := h.toPiece.cons rfl rfl
  inert := fun level hlevel => inert_minus hlevel (h.inert level hlevel)
  head := fun c rest heq => by
    obtain ⟨rfl, -⟩ := List.cons.inj heq
    decide
  reads := readsOperand_minus h.solid (fun c rest heq => (h.head c rest heq).2) h.reads

/-- What starts with a name starts neither with `=` nor with a digit. -/
theorem head_of_isIdentifier (hname : isIdentifier cs = true) (behind : List Char) :
    ∀ c rest, cs ++ behind = c :: rest → c.toLower ≠ '=' ∧ c.isDigit = false := by
  intro c rest heq
  obtain ⟨d, more, rfl, hd, hdigit⟩ := exists_head_of_isIdentifier hname
  obtain ⟨rfl, -⟩ := List.cons.inj heq
  exact ⟨ne_of_isNameChar (isNameChar_toLower hd) (by decide), hdigit⟩

/-- **A quoted text.** -/
theorem atom_quoted (s : String) :
    Atom 1 (quoted s).toList (inString (quoted s).toList) (.literal (.string s)) where
  toPiece := piece_quoted s
  inert := fun level _ => inert_inString _
  head := fun c rest heq => by
    rw [toList_quoted] at heq
    obtain ⟨rfl, -⟩ := List.cons.inj heq
    decide
  reads := readsOperand_string s

/-- **The word of a value.** -/
theorem atom_keyword {v : Value} (hv : v = .bool true ∨ v = .bool false ∨ v = .null) :
    Atom 1 v.text.toList (bare v.text.toList) (.literal v) := by
  have hword : v.text.toList ∈ valueWords := by
    rcases hv with rfl | rfl | rfl <;> (rw [Value.text]; decide)
  have hall : ∀ w ∈ valueWords, isIdentifier w = true := by decide
  have hname := hall _ hword
  have hhead := head_of_isIdentifier hname []
  rw [List.append_nil] at hhead
  exact {
    toPiece := piece_name hname
    inert := fun level hlevel => inert_valueWord hlevel hword
    head := hhead
    reads := readsOperand_keyword hv }

end

/-! ## §3. Calls -/

/-- The written arguments of a call, at least one, which take `n` levels to read. -/
structure Items (n : Nat) (cs : List Char) (ms : List Marked) (es : List Expression) : Prop
    extends Part cs ms where
  solid : Solid cs
  reads : Takes n (fun levels => (pieces 0 ms).mapM (expression levels)) es

section
variable {n k : Nat} {cs ds name inner : List Char} {ms ns : List Marked} {e : Expression}
  {es : List Expression}

/-- The last argument. -/
theorem Phrase.items (h : Phrase n cs ms e) : Items n cs ms [e] where
  toPart := h.toPart
  solid := h.solid
  reads := by
    have hnone : Takes 0 (fun levels => [].mapM (expression levels)) [] := takes_ok []
    have hone := takes_mapM_cons h.reads hnone
    rw [Nat.max_zero] at hone
    rw [h.unsplit.pieces_eq, h.marks.unmarked]
    exact hone

/-- One argument more, in front of others. -/
theorem Phrase.consItems (h : Phrase n cs ms e) (h' : Items k ds ns es) :
    Items (max n k) (cs ++ ([',', ' '] ++ ds)) (ms ++ (bare [',', ' '] ++ ns)) (e :: es) where
  toPart := h.toPart.append ((part_bare (by decide)).append h'.toPart)
  solid := h.solid.append h'.solid _
  reads := by
    have hcomma : pieces 0 (bare [',', ' '] ++ ns) = [] :: ontoFirst [' '] (pieces 0 ns) := by
      show pieces 0 ((',', false) :: (' ', false) :: ns) = _
      rw [pieces, if_pos ⟨rfl, rfl⟩, pieces_cons (by decide)]
      rfl
    have hpieces : pieces 0 (ms ++ (bare [',', ' '] ++ ns))
        = cs :: ontoFirst [' '] (pieces 0 ns) := by
      rw [h.unsplit, hcomma, h.marks.unmarked]
      exact congrArg (fun piece => piece :: ontoFirst [' '] (pieces 0 ns)) (List.append_nil cs)
    have hrest : Takes k
        (fun levels => (ontoFirst [' '] (pieces 0 ns)).mapM (expression levels)) es := by
      intro levels
      exact (mapM_ontoFirst_blank levels (pieces_ne_nil 0 ns)).trans (h'.reads levels)
    rw [hpieces]
    exact takes_mapM_cons h.reads hrest

theorem Items.arguments (h : Items n inner ms es) : arguments inner = .ok (pieces 0 ms) := by
  have hblank : ¬ blank inner = true := fun hblank => by
    rw [← trim_eq_nil_iff, h.solid.trim] at hblank
    exact h.solid.ne_nil hblank
  unfold Direct.arguments
  rw [if_neg hblank, h.marks.marked?]

/-- **A call**, from the reading of its arguments. -/
theorem atom_call {args : List (List Char)} (hname : isIdentifier name = true)
    (h : Part inner ms) (harguments : arguments inner = .ok args)
    (hargs : Takes n (fun levels => args.mapM (expression levels)) es) :
    Atom (n + 1) (name ++ '(' :: (inner ++ [')'])) (bare name ++ enclosed ms)
      (.call (String.ofList name) es) := by
  exact {
    toPiece := (piece_name hname).join (piece_enclosed h)
    inert := fun level hlevel => inert_call hlevel (isNameChar_of_isIdentifier hname) h.balanced
    head := head_of_isIdentifier hname _
    reads := readsOperand_call hname h.marks h.balanced harguments hargs }

end

/-! ## §4. Whole texts -/

theorem forbidden?_of_permitted {ms : List Marked}
    (h : ∀ m ∈ ms, (!m.2 && isForbidden m.1) = false) (position : Nat) :
    forbidden? position ms = none := by
  induction ms generalizing position with
  | nil => rfl
  | cons m ms ih =>
    obtain ⟨hm, hms⟩ := List.forall_mem_cons.1 h
    rw [forbidden?, hm]
    exact ih hms _

/-- A part passes the check. -/
theorem Part.check {cs : List Char} {ms : List Marked} (h : Part cs ms) : Direct.check cs = .ok () := by
  unfold Direct.check
  rw [h.marks.marked?]
  simp only [h.balanced, forbidden?_of_permitted h.permitted]
  rfl

/-- **A part that can be read is read if there are levels enough**, and is
refused only for want of levels; blanks around it do not matter. -/
theorem parse_of_reads {n : Nat} {raw : String} {front cs back : List Char} {ms : List Marked}
    {e : Expression} (hraw : raw.toList = front ++ (cs ++ back)) (hfront : blank front = true)
    (hback : blank back = true) (hsolid : Solid cs) (hpart : Part cs ms) (hreads : Reads n cs e) :
    Direct.parse raw = if n ≤ maxNesting then .ok e else .error (.nestingTooDeep maxNesting) := by
  unfold Direct.parse
  simp only [hraw, hsolid.trim_around hfront hback, isEmpty_of_solid hsolid, hpart.check]
  exact hreads maxNesting

/-- **A phrase is read if there are levels enough**, and is refused only for want of levels. -/
theorem Phrase.parse {n : Nat} {raw : String} {ms : List Marked} {e : Expression}
    (h : Phrase n raw.toList ms e) :
    Direct.parse raw = if n ≤ maxNesting then .ok e else .error (.nestingTooDeep maxNesting) := by
  have hraw : raw.toList = [] ++ (raw.toList ++ []) := by simp
  exact parse_of_reads hraw rfl rfl h.solid h.toPart h.reads

end ContentGate.Direct
