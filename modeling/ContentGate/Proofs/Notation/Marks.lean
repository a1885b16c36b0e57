/-
  ContentGate.Proofs.Notation.Marks — marks of texts that are put together.

  Readers of the direct notation look at a text through its marks: which
  characters are quoted, where the parentheses pair up, where the commas
  are.  Each of them walks over the whole text.  For texts that are put
  together from parts we want to know what a walk does on each part, in
  front of whatever follows.

  Main statements:
    * `Marks.append`, `marks_bare`, `marks_quoted` — the marks of a text;
    * `balanced_iff`, `marksBalance_append`, `closing?_of_balanced`,
      `balanced_of_closing?` — paired parentheses;
    * `Unsplit`, `unsplit_enclosed` — parts with no comma outside parentheses.
-/
import ContentGate.Notation.Quoting
import ContentGate.Text.Blank
import ContentGate.Text.Search

namespace ContentGate.Notation

/-! ## §1. Marks -/

/-- The marks of a text that leaves no string open, in front of any other. -/
def Marks (cs : List Char) (ms : List Marked) : Prop :=
  ∀ rest, markFrom .outside (cs ++ rest) = (markFrom .outside rest).map (ms ++ ·)

/-- Characters outside strings. -/
def bare (cs : List Char) : List Marked := cs.map (·, false)

/-- Characters of strings. -/
def inString (cs : List Char) : List Marked := cs.map (·, true)

section
variable {cs ds : List Char} {ms ns : List Marked}

theorem Marks.append (h : Marks cs ms) (h' : Marks ds ns) : Marks (cs ++ ds) (ms ++ ns) := by
  intro rest
  rw [List.append_assoc, h, h', Option.map_map]
  congr 1
  funext rest
  exact (List.append_assoc ms ns rest).symm

theorem Marks.marked? (h : Marks cs ms) : Notation.marked? cs = some ms := by
  have hend := h []
  rw [List.append_nil] at hend
  unfold Notation.marked?
  rw [hend, markFrom, Option.map_some, List.append_nil]

theorem Marks.unmarked (h : Marks cs ms) : Notation.unmarked ms = cs :=
  unmarked_of_markFrom h.marked?

theorem unmarked_append : unmarked (ms ++ ns) = unmarked ms ++ unmarked ns := List.map_append

theorem unmarked_bare (cs : List Char) : unmarked (bare cs) = cs := by
  unfold unmarked bare
  rw [List.map_map]
  exact List.map_id cs

/-- A character that is no quote. -/
def isNoQuote (c : Char) : Bool := c != '"' && c != '\''

theorem isNoQuote_of_isBlank {c : Char} (h : Text.isBlank c = true) : isNoQuote c = true := by
  have hdouble : c ≠ '"' := by
    rintro rfl
    cases h
  have hsingle : c ≠ '\'' := by
    rintro rfl
    cases h
  simpa [isNoQuote] using And.intro hdouble hsingle

/-- A text without quotes has no strings. -/
theorem marks_bare (h : cs.all isNoQuote = true) : Marks cs (bare cs) := by
  intro rest
  induction cs with
  | nil => exact (Option.map_id' (x := markFrom .outside rest)).symm
  | cons c cs ih =>
    rw [List.all_cons, Bool.and_eq_true] at h
    obtain ⟨hc, hcs⟩ := h
    simp only [isNoQuote, Bool.and_eq_true, bne_iff_ne, ne_eq] at hc
    have hnext : QuoteState.outside.next c = .outside := if_neg (not_or.2 hc)
    have hquotes : QuoteState.outside.quotes c = false := by
      simp [QuoteState.quotes, hc.1, hc.2]
    rw [List.cons_append, markFrom, hnext, hquotes, ih hcs, Option.map_map]
    rfl

/-- Inside a string, one step of the reader. -/
theorem markFrom_inside {q c : Char} (rest : List Char) :
    markFrom (.inside q) (c :: rest)
      = (markFrom ((QuoteState.inside q).next c) rest).map ((c, true) :: ·) := rfl

/-- Behind a backslash, one step of the reader. -/
theorem markFrom_escaped {q c : Char} (rest : List Char) :
    markFrom (.escaped q) (c :: rest) = (markFrom (.inside q) rest).map ((c, true) :: ·) := rfl

end

/-! ## §2. Quoted texts -/

/-- How a character is written between single quotes. -/
def quotedChar (c : Char) : List Char := if c = '\\' ∨ c = '\'' then ['\\', c] else [c]

theorem toList_quoted (s : String) :
    (Text.quoted s).toList = '\'' :: (s.toList.flatMap quotedChar ++ ['\'']) :=
  String.toList_ofList

/-- What is written for a character belongs to the string, and leaves it open. -/
theorem markFrom_quotedChar (c : Char) (rest : List Char) :
    markFrom (.inside '\'') (quotedChar c ++ rest)
      = (markFrom (.inside '\'') rest).map (inString (quotedChar c) ++ ·) := by
  unfold quotedChar
  by_cases hc : c = '\\' ∨ c = '\''
  · rw [if_pos hc]
    show markFrom (.inside '\'') ('\\' :: c :: rest) = _
    have hnext : (QuoteState.inside '\'').next '\\' = .escaped '\'' := rfl
    rw [markFrom_inside, hnext, markFrom_escaped, Option.map_map]
    rfl
  · rw [if_neg hc]
    obtain ⟨hbackslash, hquote⟩ := not_or.1 hc
    have hnext : (QuoteState.inside '\'').next c = .inside '\'' := by
      show (if c = '\\' then _ else if c = '\'' then _ else _) = _
      rw [if_neg hbackslash, if_neg hquote]
    show markFrom (.inside '\'') (c :: rest) = _
    rw [markFrom_inside, hnext]
    rfl

theorem markFrom_quotedChars (cs rest : List Char) :
    markFrom (.inside '\'') (cs.flatMap quotedChar ++ rest)
      = (markFrom (.inside '\'') rest).map (inString (cs.flatMap quotedChar) ++ ·) := by
  induction cs with
  | nil => exact (Option.map_id' (x := markFrom (.inside '\'') rest)).symm
  | cons c cs ih =>
    rw [List.flatMap_cons, List.append_assoc, markFrom_quotedChar, ih, Option.map_map]
    congr 1
    funext rest
    simp [inString]

/-- **Every character of a quoted text belongs to one string.** -/
theorem marks_quoted (s : String) :
    Marks (Text.quoted s).toList (inString (Text.quoted s).toList) := by
  intro rest
  rw [toList_quoted, List.cons_append, List.append_assoc]
  have hopen : markFrom .outside ('\'' :: (s.toList.flatMap quotedChar ++ (['\''] ++ rest)))
      = (markFrom (.inside '\'') (s.toList.flatMap quotedChar ++ (['\''] ++ rest))).map
          (('\'', true) :: ·) := rfl
  have hclose : markFrom (.inside '\'') ('\'' :: rest)
      = (markFrom .outside rest).map (('\'', true) :: ·) := markFrom_inside rest
  rw [hopen, markFrom_quotedChars, List.singleton_append, hclose, Option.map_map, Option.map_map]
  congr 1
  funext rest
  simp [inString]

/-! ## §3. Parentheses -/

section
variable {m : Marked} {ms ns : List Marked}

theorem marksBalance_open (depth : Nat) (ms : List Marked) :
    marksBalance depth (('(', false) :: ms) = marksBalance (depth + 1) ms := by
  cases depth <;> rfl

theorem marksBalance_close (depth : Nat) (ms : List Marked) :
    marksBalance (depth + 1) ((')', false) :: ms) = marksBalance depth ms := rfl

/-- A character is an opening parenthesis, a closing one, or none that counts. -/
theorem paren_cases (m : Marked) : m = ('(', false) ∨ m = (')', false) ∨ parenStep m = 0 := by
  unfold parenStep
  split
  · exact .inl rfl
  · exact .inr (.inl rfl)
  · exact .inr (.inr rfl)

theorem ne_open (h : parenStep m = 0) : m ≠ ('(', false) := by
  rintro rfl
  exact absurd h (by decide)

theorem ne_close (h : parenStep m = 0) : m ≠ (')', false) := by
  rintro rfl
  exact absurd h (by decide)

theorem marksBalance_other (h : parenStep m = 0) (depth : Nat) (ms : List Marked) :
    marksBalance depth (m :: ms) = marksBalance depth ms := by
  rw [marksBalance]
  · exact ne_open h
  · exact fun _ => ne_close h
  · exact fun _ _ => ne_close h

/-- The parentheses outside strings pair up, when `k` are open. -/
inductive Balanced : (k : Nat) → List Marked → Prop where
  | nil : Balanced 0 []
  | opened {k : Nat} {ms : List Marked} (h : Balanced (k + 1) ms) :
      Balanced k (('(', false) :: ms)
  | closed {k : Nat} {ms : List Marked} (h : Balanced k ms) :
      Balanced (k + 1) ((')', false) :: ms)
  | other {k : Nat} {m : Marked} {ms : List Marked} (hm : parenStep m = 0) (h : Balanced k ms) :
      Balanced k (m :: ms)

theorem balanced_iff {k : Nat} : marksBalance k ms = true ↔ Balanced k ms := by
  constructor
  · intro h
    induction ms generalizing k with
    | nil =>
      have hk : (k == 0) = true := h
      obtain rfl : k = 0 := beq_iff_eq.1 hk
      exact .nil
    | cons m ms ih =>
      rcases paren_cases m with rfl | rfl | hm
      · exact .opened (ih ((marksBalance_open k ms).symm.trans h))
      · cases k with
        | zero => exact absurd h Bool.false_ne_true
        | succ k => exact .closed (ih h)
      · exact .other hm (ih ((marksBalance_other hm k ms).symm.trans h))
  · intro h
    induction h with
    | nil => rfl
    | opened _ ih => rw [marksBalance_open, ih]
    | closed _ ih => rw [marksBalance_close, ih]
    | other hm _ ih => rw [marksBalance_other hm, ih]

/-- **Paired parentheses do not change the balance of what follows.** -/
theorem marksBalance_append {k : Nat} (h : marksBalance k ms = true) (j : Nat)
    (ns : List Marked) : marksBalance (k + j) (ms ++ ns) = marksBalance j ns := by
  replace h := balanced_iff.1 h
  induction h with
  | nil => rw [Nat.zero_add, List.nil_append]
  | opened _ ih => rw [List.cons_append, marksBalance_open, Nat.add_right_comm, ih]
  | closed _ ih => rw [List.cons_append, Nat.add_right_comm, marksBalance_close, ih]
  | other hm _ ih => rw [List.cons_append, marksBalance_other hm, ih]

/-- Parts with paired parentheses, one after the other. -/
theorem marksBalance_append_zero (h : marksBalance 0 ms = true) (h' : marksBalance 0 ns = true) :
    marksBalance 0 (ms ++ ns) = true := by
  have happend := marksBalance_append h 0 ns
  rw [Nat.zero_add] at happend
  rw [happend, h']

/-- Text between parentheses. -/
def enclosed (ms : List Marked) : List Marked := ('(', false) :: (ms ++ [(')', false)])

theorem Marks.enclosed {cs : List Char} (h : Marks cs ms) :
    Marks ('(' :: (cs ++ [')'])) (Notation.enclosed ms) := by
  have hopen : Marks ['('] (bare ['(']) := marks_bare (by decide)
  have hclose : Marks [')'] (bare [')']) := marks_bare (by decide)
  exact hopen.append (h.append hclose)

theorem marksBalance_enclosed (h : marksBalance 0 ms = true) :
    marksBalance 0 (enclosed ms) = true := by
  have happend := marksBalance_append h 1 [(')', false)]
  rw [Nat.zero_add] at happend
  unfold enclosed
  rw [marksBalance_open, happend]
  rfl

theorem marksBalance_of_no_paren (h : ∀ m ∈ ms, parenStep m = 0) : marksBalance 0 ms = true := by
  induction ms with
  | nil => rfl
  | cons m ms ih =>
    obtain ⟨hm, hms⟩ := List.forall_mem_cons.1 h
    rw [marksBalance_other hm, ih hms]

theorem closing?_open (depth : Nat) (ms : List Marked) :
    closing? depth (('(', false) :: ms)
      = (closing? (depth + 1) ms).map fun p => (('(', false) :: p.1, p.2) := by
  cases depth <;> rfl

theorem closing?_close (depth : Nat) (ms : List Marked) :
    closing? (depth + 1) ((')', false) :: ms)
      = (closing? depth ms).map fun p => ((')', false) :: p.1, p.2) := rfl

theorem closing?_other (h : parenStep m = 0) (depth : Nat) (ms : List Marked) :
    closing? depth (m :: ms) = (closing? depth ms).map fun p => (m :: p.1, p.2) := by
  rw [closing?]
  · exact ne_open h
  · exact fun _ => ne_close h
  · exact fun _ _ => ne_close h

/-- **A parenthesis closes behind a part with paired parentheses.** -/
theorem closing?_of_balanced {k : Nat} (h : marksBalance k ms = true) (behind : List Marked) :
    closing? k (ms ++ (')', false) :: behind) = some (ms, behind) := by
  replace h := balanced_iff.1 h
  induction h with
  | nil => rfl
  | opened _ ih =>
    rw [List.cons_append, closing?_open, ih]
    rfl
  | closed _ ih =>
    rw [List.cons_append, closing?_close, ih]
    rfl
  | other hm _ ih =>
    rw [List.cons_append, closing?_other hm, ih]
    rfl

end

section
variable {k : Nat} {ms before behind : List Marked}

/-- **What stands before a closing parenthesis has paired ones.** -/
theorem balanced_of_closing? (h : closing? k ms = some (before, behind)) :
    ms = before ++ (')', false) :: behind ∧ marksBalance k before = true := by
  rw [balanced_iff]
  induction ms generalizing k before with
  | nil => cases h
  | cons m ms ih =>
    -- Behind any other character the search goes on, with as many open as that leaves.
    have hcons : ∀ {j : Nat}, (∀ rest, Balanced j rest → Balanced k (m :: rest)) →
        (closing? j ms).map (fun p => (m :: p.1, p.2)) = some (before, behind) →
        m :: ms = before ++ (')', false) :: behind ∧ Balanced k before := by
      intro j hbalance hfound
      obtain ⟨⟨rest, _⟩, hrest, heq⟩ := Option.map_eq_some_iff.1 hfound
      obtain ⟨rfl, rfl⟩ := Prod.mk.inj heq
      obtain ⟨hms, hrest⟩ := ih hrest
      exact ⟨by rw [hms, List.cons_append], hbalance rest hrest⟩
    rcases paren_cases m with rfl | rfl | hm
    · rw [closing?_open] at h
      exact hcons (fun _ => .opened) h
    · cases k with
      | zero =>
        obtain ⟨rfl, rfl⟩ := Prod.mk.inj (Option.some.inj h)
        exact ⟨rfl, .nil⟩
      | succ k =>
        rw [closing?_close] at h
        exact hcons (fun _ => .closed) h
    · rw [closing?_other hm] at h
      exact hcons (fun _ => .other hm) h

end

/-! ## §4. Commas -/

/-- A text in front of the first of several pieces. -/
def ontoFirst (cs : List Char) : List (List Char) → List (List Char)
  | [] => [cs]
  | piece :: more => (cs ++ piece) :: more

theorem ontoFirst_ontoFirst (cs ds : List Char) (ps : List (List Char)) :
    ontoFirst cs (ontoFirst ds ps) = ontoFirst (cs ++ ds) ps := by
  cases ps with
  | nil => rfl
  | cons p ps =>
    show ((cs ++ (ds ++ p)) :: ps) = (cs ++ ds ++ p) :: ps
    rw [List.append_assoc]

section
variable {m : Marked} {ms ns : List Marked}

theorem pieces_cons {depth : Int} (h : ¬ (m = (',', false) ∧ depth = 0)) (ms : List Marked) :
    pieces depth (m :: ms) = ontoFirst [m.1] (pieces (depth + parenStep m) ms) := by
  rw [pieces, if_neg h]
  cases pieces (depth + parenStep m) ms <;> rfl

theorem pieces_ne_nil (depth : Int) (ms : List Marked) : pieces depth ms ≠ [] := by
  cases ms with
  | nil => exact List.cons_ne_nil _ _
  | cons m ms =>
    by_cases h : m = (',', false) ∧ depth = 0
    · rw [pieces, if_pos h]
      exact List.cons_ne_nil _ _
    · rw [pieces_cons h]
      cases pieces (depth + parenStep m) ms <;> exact List.cons_ne_nil _ _

/-- A part that stands in one piece: it has no comma outside strings and parentheses. -/
def Unsplit (ms : List Marked) : Prop :=
  ∀ behind, pieces 0 (ms ++ behind) = ontoFirst (unmarked ms) (pieces 0 behind)

theorem unsplit_nil : Unsplit [] := by
  intro behind
  rw [List.nil_append]
  cases hpieces : pieces 0 behind with
  | nil => exact absurd hpieces (pieces_ne_nil 0 behind)
  | cons p ps => rfl

theorem Unsplit.append (h : Unsplit ms) (h' : Unsplit ns) : Unsplit (ms ++ ns) := by
  intro behind
  rw [List.append_assoc, h, h', ontoFirst_ontoFirst, unmarked_append]

/-- Alone, it is the only piece. -/
theorem Unsplit.pieces_eq (h : Unsplit ms) : pieces 0 ms = [unmarked ms] := by
  have hend := h []
  rw [List.append_nil] at hend
  rw [hend]
  exact congrArg (fun piece => [piece]) (List.append_nil (unmarked ms))

theorem unsplit_singleton (hm : m ≠ (',', false)) (hparen : parenStep m = 0) : Unsplit [m] := by
  intro behind
  rw [List.singleton_append, pieces_cons (fun h => hm h.1), hparen, Int.zero_add]
  rfl

theorem unsplit_of_forall (h : ∀ m ∈ ms, m ≠ (',', false) ∧ parenStep m = 0) : Unsplit ms := by
  induction ms with
  | nil => exact unsplit_nil
  | cons m ms ih =>
    obtain ⟨hm, hms⟩ := List.forall_mem_cons.1 h
    exact (unsplit_singleton hm.1 hm.2).append (ih hms)

/-- Between parentheses, commas do not count. -/
theorem pieces_inside {k : Nat} (h : marksBalance k ms = true) {depth : Int}
    (hdepth : (k : Int) < depth) (behind : List Marked) :
    pieces depth (ms ++ behind) = ontoFirst (unmarked ms) (pieces (depth - k) behind) := by
  -- One character more, in front of a part that is read at the depth behind it.
  have hcons : ∀ {j k' : Nat} {depth : Int} {m : Marked} {ms : List Marked}, (j : Int) < depth →
      depth + parenStep m = depth - j + k' →
      pieces (depth + parenStep m) (ms ++ behind)
        = ontoFirst (unmarked ms) (pieces (depth + parenStep m - k') behind) →
      pieces depth (m :: ms ++ behind)
        = ontoFirst (unmarked (m :: ms)) (pieces (depth - j) behind) := by
    intro j k' depth m ms hlt hstep hrest
    have hdiff : depth + parenStep m - k' = depth - j := by omega
    rw [List.cons_append, pieces_cons (by omega), hrest, ontoFirst_ontoFirst, hdiff]
    rfl
  replace h := balanced_iff.1 h
  induction h generalizing depth with
  | nil =>
    rw [List.nil_append, Int.natCast_zero, Int.sub_zero]
    cases hpieces : pieces depth behind with
    | nil => exact absurd hpieces (pieces_ne_nil depth behind)
    | cons p ps => rfl
  | @opened k ms _ ih =>
    have hopen : parenStep ('(', false) = 1 := rfl
    exact hcons hdepth (by omega) (ih (by omega))
  | @closed k ms _ ih =>
    have hclose : parenStep (')', false) = -1 := rfl
    exact hcons hdepth (by omega) (ih (by omega))
  | other hm _ ih => exact hcons hdepth (by omega) (ih (by omega))

/-- **Text between parentheses stands in one piece.** -/
theorem unsplit_enclosed (h : marksBalance 0 ms = true) : Unsplit (enclosed ms) := by
  intro behind
  have hopen : ¬ ((('(', false) : Marked) = (',', false) ∧ (0 : Int) = 0) := by decide
  have hclose : ¬ (((')', false) : Marked) = (',', false) ∧ (1 : Int) = 0) := by decide
  have hdepth : ((0 : Nat) : Int) < 1 := by decide
  have hinside := pieces_inside h hdepth ((')', false) :: behind)
  have hend : pieces (1 - ((0 : Nat) : Int)) ((')', false) :: behind)
      = ontoFirst [')'] (pieces 0 behind) := pieces_cons hclose behind
  have hstart : pieces 0 (enclosed ms ++ behind)
      = ontoFirst ['('] (pieces 1 (ms ++ (')', false) :: behind)) := by
    unfold enclosed
    rw [List.cons_append, pieces_cons hopen, List.append_assoc]
    rfl
  rw [hstart, hinside, hend, ontoFirst_ontoFirst, ontoFirst_ontoFirst]
  simp [enclosed, unmarked]

end

end ContentGate.Notation
