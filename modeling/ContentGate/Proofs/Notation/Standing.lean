/-
  ContentGate.Proofs.Notation.Standing — where an operator stands in a text.

  The scan of a direct text stops at an operator if one STANDS somewhere:
  its spelling begins outside strings and parentheses, and its neighbours
  leave it apart.  Here the scan is read backwards: from what it gives we
  learn what is in the text.  A spelling matches nothing behind a character
  that it does not have, so what stands in a part of a text is known from
  that part and from its next neighbour.

  Main statements:
    * `marks_of_marked?`, `unquoted_behind` — marks of a given text;
    * `parens_of_balance` — a part with paired parentheses opens none;
    * `dropSpelling?_append` — a spelling in front of a character it has not;
    * `operatorAt?_eq_some`, `operatorAt?_eq_none_iff` — what an operator is;
    * `splitLast_eq_some`, `splitLast_eq_none` — what the scan has found;
    * `sides_of_expression`, `operand_of_expression` — what is read then;
    * `splitLast_append_cons` — what it finds does not depend on what follows
      a character that no spelling has.
-/
import ContentGate.Proofs.Notation.DirectNodes
import ContentGate.Proofs.Notation.DirectReading

namespace ContentGate.Notation

/-! ## §1. Marks of a given text -/

section
variable {q : QuoteState} {cs : List Char} {ms : List Marked}

theorem markFrom_append (h : markFrom q cs = some ms) (rest : List Char) :
    markFrom q (cs ++ rest) = (markFrom .outside rest).map (ms ++ ·) := by
  induction cs generalizing q ms with
  | nil =>
    -- Only outside strings the text may end.
    cases q with
    | outside =>
      obtain rfl : [] = ms := by simpa [markFrom] using h
      exact (Option.map_id' (x := markFrom .outside rest)).symm
    | inside _ => simp [markFrom] at h
    | escaped _ => simp [markFrom] at h
  | cons c cs ih =>
    rw [markFrom, Option.map_eq_some_iff] at h
    obtain ⟨ns, hns, rfl⟩ := h
    rw [List.cons_append, markFrom, ih hns, Option.map_map]
    rfl

/-- **A text that leaves no string open has its marks in front of any other.** -/
theorem marks_of_marked? (h : Notation.marked? cs = some ms) : Marks cs ms := markFrom_append h

/-- A character outside strings is met outside strings. -/
theorem outside_of_quotes {c : Char} (h : q.quotes c = false) :
    q = .outside ∧ isNoQuote c = true := by
  cases q with
  | outside => exact ⟨rfl, by simpa [QuoteState.quotes, isNoQuote] using h⟩
  | inside _ => cases h
  | escaped _ => cases h

/-- **Behind a character outside strings only a quote belongs to a string.** -/
theorem unquoted_behind {pre rest : List Marked} {c : Char} {m : Marked}
    (h : markFrom q cs = some (pre ++ (c, false) :: m :: rest)) (hm : isNoQuote m.1 = true) :
    m.2 = false := by
  induction pre generalizing q cs with
  | nil =>
    cases cs with
    | nil => cases q <;> simp [markFrom] at h
    | cons b cs =>
      rw [markFrom, Option.map_eq_some_iff] at h
      obtain ⟨ns, hns, heq⟩ := h
      obtain ⟨hb, rfl⟩ := List.cons.inj heq
      obtain ⟨rfl, hquotes⟩ := Prod.mk.inj hb
      obtain ⟨rfl, hnoquote⟩ := outside_of_quotes hquotes
      have hnext : QuoteState.outside.next b = .outside :=
        if_neg (by simpa [isNoQuote] using hnoquote)
      rw [hnext] at hns
      cases cs with
      | nil => simp [markFrom] at hns
      | cons d cs =>
        rw [markFrom, Option.map_eq_some_iff] at hns
        obtain ⟨_, -, heq⟩ := hns
        obtain ⟨rfl, -⟩ := List.cons.inj heq
        simpa [QuoteState.quotes, isNoQuote] using hm
  | cons b pre ih =>
    cases cs with
    | nil => cases q <;> simp [markFrom] at h
    | cons d cs =>
      rw [markFrom, Option.map_eq_some_iff] at h
      obtain ⟨ns, hns, heq⟩ := h
      obtain ⟨-, rfl⟩ := List.cons.inj heq
      exact ih hns

end

/-! ## §2. Parentheses of a part -/

/-- The parentheses that a part opens, less those that it closes. -/
def parens : List Marked → Int
  | [] => 0
  | m :: ms => parenStep m + parens ms

@[simp] theorem parens_nil : parens [] = 0 := rfl

@[simp] theorem parens_cons (m : Marked) (ms : List Marked) :
    parens (m :: ms) = parenStep m + parens ms := rfl

@[simp] theorem parens_append (ms ns : List Marked) :
    parens (ms ++ ns) = parens ms + parens ns := by
  induction ms with
  | nil => exact (Int.zero_add (parens ns)).symm
  | cons m ms ih => rw [List.cons_append, parens_cons, parens_cons, ih, Int.add_assoc]

/-- **A part with paired parentheses opens none**, and closes those that were open. -/
theorem parens_of_balance {k : Nat} {ms : List Marked} (h : marksBalance k ms = true) :
    parens ms = -k := by
  replace h := balanced_iff.1 h
  induction h with
  | nil => rfl
  | @opened k ms _ ih =>
    rw [parens_cons, ih]
    show (1 : Int) + -((k + 1 : Nat) : Int) = -k
    omega
  | @closed k ms _ ih =>
    rw [parens_cons, ih]
    show (-1 : Int) + -(k : Int) = -((k + 1 : Nat) : Int)
    omega
  | other hm _ ih => rw [parens_cons, ih, hm, Int.zero_add]

end ContentGate.Notation

namespace ContentGate.Direct

open Text Notation

/-! ## §3. Spellings -/

section
variable {w : List Char} {ms behind rest : List Marked}

/-- What is dropped spells the word. -/
theorem eq_append_of_dropSpelling? (h : dropSpelling? w ms = some rest) :
    ∃ ns, ms = ns ++ rest ∧ lower (unmarked ns) = w := by
  induction w generalizing ms with
  | nil =>
    obtain rfl : ms = rest := by simpa [dropSpelling?] using h
    exact ⟨[], rfl, rfl⟩
  | cons a w ih =>
    cases ms with
    | nil => simp [dropSpelling?] at h
    | cons m ms =>
      obtain ⟨c, q⟩ := m
      rw [dropSpelling?] at h
      by_cases ha : a = c.toLower
      · rw [if_pos ha] at h
        obtain ⟨ns, rfl, rfl⟩ := ih h
        refine ⟨(c, q) :: ns, rfl, ?_⟩
        rw [ha]
        rfl
      · rw [if_neg ha] at h
        cases h

/-- **A spelling goes no further than a character that it does not have.** -/
theorem dropSpelling?_append (h : ∀ m more, behind = m :: more → m.1.toLower ∉ w) :
    dropSpelling? w (ms ++ behind) = (dropSpelling? w ms).map (· ++ behind) := by
  induction w generalizing ms with
  | nil => rfl
  | cons a w ih =>
    cases ms with
    | nil =>
      -- The spelling would have to begin behind the part.
      cases behind with
      | nil => rfl
      | cons m more =>
        obtain ⟨c, q⟩ := m
        have hne : a ≠ c.toLower := fun heq => h (c, q) more rfl (heq ▸ List.mem_cons_self)
        have hnone : dropSpelling? (a :: w) ((c, q) :: more) = none := by
          rw [dropSpelling?, if_neg hne]
        rw [List.nil_append, hnone]
        rfl
    | cons m ms =>
      obtain ⟨c, q⟩ := m
      rw [List.cons_append, dropSpelling?, dropSpelling?]
      by_cases ha : a = c.toLower
      · rw [if_pos ha, if_pos ha]
        exact ih fun m more hmore hmem => h m more hmore (List.mem_cons_of_mem a hmem)
      · rw [if_neg ha, if_neg ha]
        rfl

end

/-! ## §4. Operators -/

section
variable {level : Level} {before : Option Char} {op : Operator} {ms behind rest : List Marked}

/-- The neighbour behind a part. -/
def headOf (ms : List Marked) : Option Char := ms.head?.map (·.1)

/-- **An operator is one of its spellings with neighbours that leave it apart.** -/
theorem operatorAt?_eq_some (h : operatorAt? level before ms = some (op, rest)) :
    ∃ w, (w, op) ∈ level.spellings ∧ dropSpelling? w ms = some rest
      ∧ level.apart before = true ∧ level.apart (headOf rest) = true := by
  unfold operatorAt? at h
  obtain ⟨⟨w, op'⟩, hmem, hp⟩ := List.exists_of_findSome?_eq_some h
  cases hdrop : dropSpelling? w ms with
  | none =>
    simp only [hdrop] at hp
    cases hp
  | some rest' =>
    simp only [hdrop] at hp
    change (if level.apart before && level.apart (headOf rest') then some (op', rest')
      else none) = some (op, rest) at hp
    by_cases hapart : (level.apart before && level.apart (headOf rest')) = true
    · rw [if_pos hapart] at hp
      obtain ⟨rfl, rfl⟩ := Prod.mk.inj (Option.some.inj hp)
      obtain ⟨hbefore, hbehind⟩ := Bool.and_eq_true_iff.1 hapart
      exact ⟨w, hmem, hdrop, hbefore, hbehind⟩
    · rw [if_neg hapart] at hp
      cases hp

/-- **There is none where every spelling that matches has a neighbour that joins it.** -/
theorem operatorAt?_eq_none_iff :
    operatorAt? level before ms = none
      ↔ ∀ p ∈ level.spellings, ∀ rest, dropSpelling? p.1 ms = some rest →
          (level.apart before && level.apart (headOf rest)) = false := by
  unfold operatorAt?
  rw [List.findSome?_eq_none_iff]
  refine forall₂_congr fun p _ => ?_
  obtain ⟨w, op⟩ := p
  cases hdrop : dropSpelling? w ms with
  | none => simp [hdrop]
  | some rest' =>
    simp only [hdrop, Option.some.injEq, forall_eq']
    show (if level.apart before && level.apart (headOf rest') then some (op, rest')
      else none) = none ↔ _
    cases level.apart before && level.apart (headOf rest') <;> simp

theorem findSome?_congr {α β : Type} {f g : α → Option β} {as : List α}
    (h : ∀ a ∈ as, f a = g a) : as.findSome? f = as.findSome? g := by
  induction as with
  | nil => rfl
  | cons a as ih =>
    obtain ⟨ha, has⟩ := List.forall_mem_cons.1 h
    rw [List.findSome?_cons, List.findSome?_cons, ha, ih has]

theorem headOf_append_cons (ms : List Marked) (m : Marked) (behind : List Marked) :
    headOf (ms ++ m :: behind) = headOf (ms ++ [m]) := by
  cases ms <;> rfl

/-- The operator of a level at the head of a part, where a test of what follows
the spelling in the part decides whether it counts. -/
def operatorIn? (level : Level) (test : List Marked → Bool) (ms : List Marked) :
    Option (Operator × List Marked) :=
  level.spellings.findSome? fun p =>
    (dropSpelling? p.1 ms).bind fun r => if test r then some (p.2, r) else none

theorem operatorIn?_congr {test test' : List Marked → Bool}
    (h : ∀ p ∈ level.spellings, ∀ r, dropSpelling? p.1 ms = some r → test r = test' r) :
    operatorIn? level test ms = operatorIn? level test' ms := by
  apply findSome?_congr
  intro p hp
  cases hdrop : dropSpelling? p.1 ms with
  | none => rfl
  | some r =>
    simp only [Option.bind_some]
    rw [h p hp r hdrop]

/-- If no spelling goes further than a part, the part decides. -/
theorem operatorAt?_append
    (h : ∀ p ∈ level.spellings,
      dropSpelling? p.1 (ms ++ behind) = (dropSpelling? p.1 ms).map (· ++ behind)) :
    operatorAt? level before (ms ++ behind)
      = (operatorIn? level (fun r => level.apart before && level.apart (headOf (r ++ behind))) ms).map
          fun p => (p.1, p.2 ++ behind) := by
  unfold operatorAt? operatorIn?
  rw [List.map_findSome?]
  apply findSome?_congr
  intro p hp
  obtain ⟨w, op⟩ := p
  simp only [h _ hp, Function.comp]
  cases dropSpelling? w ms with
  | none => rfl
  | some r =>
    show (if level.apart before && level.apart (headOf (r ++ behind)) then some (op, r ++ behind)
      else none) = Option.map _ (if _ then some (op, r) else none)
    by_cases hapart : (level.apart before && level.apart (headOf (r ++ behind))) = true
    · rw [if_pos hapart, if_pos hapart]
      rfl
    · rw [if_neg hapart, if_neg hapart]
      rfl

/-- **Behind a character that no spelling has, the text does not matter.** -/
theorem operatorAt?_append_cons {m : Marked} (hm : ∀ p ∈ level.spellings, m.1.toLower ∉ p.1)
    (ms behind : List Marked) :
    operatorAt? level before (ms ++ m :: behind)
      = (operatorAt? level before (ms ++ [m])).map fun p => (p.1, p.2 ++ behind) := by
  have hdrop : ∀ more, ∀ p ∈ level.spellings,
      dropSpelling? p.1 (ms ++ m :: more) = (dropSpelling? p.1 ms).map (· ++ m :: more) := by
    intro more p hp
    apply dropSpelling?_append
    intro m' more' heq
    obtain ⟨rfl, -⟩ := List.cons.inj heq
    exact hm p hp
  rw [operatorAt?_append (hdrop behind), operatorAt?_append (hdrop []), Option.map_map]
  rw [operatorIn?_congr fun p _ r _ => by rw [headOf_append_cons r m behind]]
  congr 1
  funext p
  simp

end

/-! ## §5. What the scan has found -/

section
variable {level : Level} {before : Option Char} {depth : Int} {ms : List Marked}

/-- **Nothing is found** when nothing is found behind the first character,
and the operator that may begin with it does not count. -/
theorem splitLast_cons_eq_none {m : Marked} :
    splitLast level before (m :: ms) = (depth, none)
      ↔ splitLast level (some m.1) ms = (depth + parenStep m, none)
        ∧ ((m.2 || depth != 0) = true ∨ operatorAt? level before (m :: ms) = none) := by
  rcases hms : splitLast level (some m.1) ms with ⟨d, _ | s⟩
  · rw [splitLast_cons_of_none hms, Prod.mk.injEq, Prod.mk.injEq]
    have hdepth : d - parenStep m = depth ↔ d = depth + parenStep m := by omega
    rw [hdepth, and_iff_left rfl]
    refine and_congr_right fun hd => ?_
    have hsub : d - parenStep m = depth := by omega
    rw [hsub]
    by_cases hskip : (m.2 || depth != 0) = true
    · rw [if_pos hskip]
      exact iff_of_true rfl (.inl hskip)
    · rw [if_neg hskip, or_iff_right hskip, Option.map_eq_none_iff]
  · rw [splitLast_cons_of_some hms]
    simp

/-- **A scan that finds nothing has counted the parentheses.** -/
theorem splitLast_eq_none (h : splitLast level before ms = (depth, none)) :
    depth = -parens ms := by
  induction ms generalizing before depth with
  | nil => exact (congrArg Prod.fst h).symm
  | cons m ms ih =>
    have hms := ih (splitLast_cons_eq_none.1 h).1
    rw [parens_cons]
    omega

/-- **A scan that finds something has found an operator that stands in the text.** -/
theorem splitLast_eq_some {s : Split} (h : splitLast level before ms = (depth, some s)) :
    depth = 0 ∧ ∃ pre c suf rest, ms = pre ++ (c, false) :: suf
      ∧ parens ((c, false) :: suf) = 0
      ∧ operatorAt? level (lastOf before pre) ((c, false) :: suf) = some (s.op, rest)
      ∧ s.left = unmarked pre ∧ s.right = unmarked rest := by
  induction ms generalizing before depth s with
  | nil => cases h
  | cons m ms ih =>
    rcases hms : splitLast level (some m.1) ms with ⟨d, _ | s'⟩
    · -- Nothing is found behind the first character, so the operator begins with it.
      rw [splitLast_cons_of_none hms] at h
      obtain ⟨hdepth, hfound⟩ := Prod.mk.inj h
      by_cases hskip : (m.2 || d - parenStep m != 0) = true
      · rw [if_pos hskip] at hfound
        cases hfound
      · rw [if_neg hskip, Option.map_eq_some_iff] at hfound
        obtain ⟨⟨op, rest⟩, hop, rfl⟩ := hfound
        obtain ⟨hquoted, hzero⟩ := Bool.or_eq_false_iff.1 (Bool.eq_false_iff.2 hskip)
        have hzero : d - parenStep m = 0 := by simpa using hzero
        obtain ⟨c, q⟩ := m
        obtain rfl : q = false := hquoted
        have hcount := splitLast_eq_none hms
        refine ⟨hdepth.symm.trans hzero, [], c, ms, rest, rfl, ?_, hop, rfl, rfl⟩
        rw [parens_cons]
        omega
    · rw [splitLast_cons_of_some hms] at h
      obtain ⟨rfl, hs⟩ := Prod.mk.inj h
      obtain rfl := Option.some.inj hs
      obtain ⟨hdepth, pre, c, suf, rest, rfl, hparens, hop, hleft, hright⟩ := ih hms
      refine ⟨hdepth, m :: pre, c, suf, rest, rfl, hparens, hop, ?_, hright⟩
      show m.1 :: s'.left = _
      rw [hleft]
      rfl

/-- One step of the scan with more text behind, in which nothing is found. -/
theorem splitLast_cons_append {m : Marked} {behind : List Marked}
    (hoperator : operatorAt? level before (m :: (ms ++ behind))
      = (operatorAt? level before (m :: ms)).map fun p => (p.1, p.2 ++ behind))
    (hms : splitLast level (some m.1) ms = (depth, none))
    (hbehind : splitLast level (some m.1) (ms ++ behind) = (depth, none)) :
    splitLast level before (m :: (ms ++ behind))
      = ((splitLast level before (m :: ms)).1,
          (splitLast level before (m :: ms)).2.map
            fun s => { s with right := s.right ++ unmarked behind }) := by
  rw [splitLast_cons_of_none hms, splitLast_cons_of_none hbehind, hoperator]
  by_cases hskip : (m.2 || depth - parenStep m != 0) = true
  · rw [if_pos hskip, if_pos hskip]
    rfl
  · rw [if_neg hskip, if_neg hskip, Option.map_map, Option.map_map]
    congr 2
    funext p
    simp [unmarked]

/-- **What is found in front of a character that no spelling has** is found
whatever follows, if nothing is found in that. -/
theorem splitLast_append_cons {m : Marked} (hm : ∀ p ∈ level.spellings, m.1.toLower ∉ p.1)
    {behind : List Marked} {found : Option Split}
    (h : splitLast level before (ms ++ [m]) = (depth, found))
    (hbehind : splitLast level (some m.1) behind = (0, none)) :
    splitLast level before (ms ++ m :: behind)
      = (depth, found.map fun s => { s with right := s.right ++ unmarked behind }) := by
  induction ms generalizing before depth found with
  | nil =>
    have hoperator : operatorAt? level before (m :: ([] ++ behind)) = _ :=
      operatorAt?_append_cons hm [] behind
    have hstep := splitLast_cons_append hoperator rfl hbehind
    rw [List.nil_append] at h
    rw [h] at hstep
    exact hstep
  | cons m' ms ih =>
    rcases hms : splitLast level (some m'.1) (ms ++ [m]) with ⟨d, _ | s⟩
    · have hlong := ih hms
      rw [Option.map_none, List.append_cons] at hlong
      have hoperator : operatorAt? level before (m' :: ms ++ m :: behind) = _ :=
        operatorAt?_append_cons hm (m' :: ms) behind
      rw [List.append_cons, List.cons_append, List.cons_append] at hoperator
      have hstep := splitLast_cons_append hoperator hms hlong
      rw [List.cons_append] at h
      rw [h] at hstep
      rw [List.append_cons]
      exact hstep
    · have hlong := ih hms
      rw [List.cons_append, splitLast_cons_of_some hms] at h
      obtain ⟨rfl, rfl⟩ := Prod.mk.inj h
      rw [List.cons_append, splitLast_cons_of_some hlong]
      rfl

end

/-! ## §6. What a whole text is read as -/

section
variable {cs : List Char} {ms : List Marked} {e : Expression} {s : Split} {k : Nat}

/-- A text is split where the scan of one of the levels has stopped. -/
theorem split?_eq_some (hms : marked? cs = some ms) (h : split? cs = some s) :
    ∃ level ∈ levels, ∃ depth, splitLast level none ms = (depth, some s) := by
  unfold split? at h
  rw [hms, Option.bind_eq_bind, Option.bind_some] at h
  obtain ⟨level, hlevel, hfound⟩ := List.exists_of_findSome?_eq_some h
  exact ⟨level, hlevel, _, Prod.ext rfl hfound⟩

/-- A text is not split where no scan has stopped. -/
theorem split?_eq_none_iff (hms : marked? cs = some ms) :
    split? cs = none ↔ ∀ level ∈ levels, (splitLast level none ms).2 = none := by
  unfold split?
  rw [hms, Option.bind_eq_bind, Option.bind_some, List.findSome?_eq_none_iff]

theorem ne_nil_of_expression (h : expression k cs = .ok e) : trim cs ≠ [] := by
  intro hnil
  cases k with
  | zero =>
    rw [expression] at h
    cases h
  | succ k =>
    rw [expression] at h
    simp [hnil] at h

/-- **Both sides of a text that is split are read.** -/
theorem sides_of_expression (h : expression (k + 1) cs = .ok e)
    (hsplit : split? (trim cs) = some s) :
    ∃ left right, expression k (trim s.left) = .ok left
      ∧ expression k (trim s.right) = .ok right ∧ e = .binary left s.op right := by
  rw [expression_eq_of_split (ne_nil_of_expression h) hsplit] at h
  obtain ⟨left, hleft, h⟩ := bind_eq_ok h
  obtain ⟨right, hright, h⟩ := bind_eq_ok h
  cases h
  exact ⟨left, right, hleft, hright, rfl⟩

/-- **A text that is not split is read as an operand.** -/
theorem operand_of_expression (h : expression (k + 1) cs = .ok e)
    (hsplit : split? (trim cs) = none) : operand k (trim cs) = .ok e := by
  rwa [expression_eq_of_operand (ne_nil_of_expression h) hsplit] at h

end

end ContentGate.Direct
