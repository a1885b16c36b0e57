/-
  ContentGate.Proofs.Notation.Splitting — where a direct text is split.

  A direct text is scanned from its end, once for each level of
  operators, and split at the first operator that is met outside strings
  and parentheses.  A part of a text is INERT at a level when the scan
  passes over it without meeting an operator, whatever stands before and
  behind it.  Parts put together from inert parts are inert; so a text is
  split at an operator when everything behind the operator is inert at its
  level, and the whole text at the looser levels.

  Main statements:
    * `Inert.append`, `inert_enclosed`, `inert_inString`, `inert_call` — inert
      parts;
    * `split?_of_inert` — texts that are not split;
    * `split?_around` — texts that are split at an operator between blanks.
-/
import ContentGate.Notation.Direct
import ContentGate.Proofs.Notation.Marks

namespace ContentGate.Direct

open Text Notation

/-! ## §1. The scan of a concatenation -/

/-- The last character before the end of a part. -/
def lastOf : Option Char → List Marked → Option Char
  | before, [] => before
  | _, m :: ms => lastOf (some m.1) ms

section
variable {level : Level} {before : Option Char} {m : Marked} {ms ns behind : List Marked}
  {depth : Int}

theorem lastOf_append (before : Option Char) (ms ns : List Marked) :
    lastOf before (ms ++ ns) = lastOf (lastOf before ms) ns := by
  induction ms generalizing before with
  | nil => rfl
  | cons m ms ih => exact ih (some m.1)

theorem splitLast_cons_of_some {s : Split}
    (h : splitLast level (some m.1) ms = (depth, some s)) (before : Option Char) :
    splitLast level before (m :: ms) = (depth, some { s with left := m.1 :: s.left }) := by
  rw [splitLast, h]

theorem splitLast_cons_of_none (h : splitLast level (some m.1) ms = (depth, none))
    (before : Option Char) :
    splitLast level before (m :: ms)
      = (depth - parenStep m,
          if m.2 || depth - parenStep m != 0 then none
          else (operatorAt? level before (m :: ms)).map fun p => ⟨[], p.1, unmarked p.2⟩) := by
  rw [splitLast, h]
  by_cases hskip : (m.2 || depth - parenStep m != 0) = true
  · simp only [if_pos hskip]
  · simp only [if_neg hskip]

/-- Once an operator has been met, the rest of the text is what stands before it. -/
theorem splitLast_append_of_some {s : Split}
    (h : splitLast level (lastOf before ms) ns = (depth, some s)) :
    splitLast level before (ms ++ ns)
      = (depth, some { s with left := unmarked ms ++ s.left }) := by
  induction ms generalizing before with
  | nil => exact h
  | cons m ms ih => exact splitLast_cons_of_some (ih h) before

/-! ## §2. Inert parts -/

/-- The scan passes over a part without meeting an operator of the level. -/
def Inert (level : Level) (ms : List Marked) : Prop :=
  ∀ before behind, splitLast level (lastOf before ms) behind = (0, none) →
    splitLast level before (ms ++ behind) = (0, none)

theorem inert_nil : Inert level [] := fun _ _ h => h

theorem Inert.append (h : Inert level ms) (h' : Inert level ns) : Inert level (ms ++ ns) := by
  intro before behind hbehind
  rw [lastOf_append] at hbehind
  rw [List.append_assoc]
  exact h _ _ (h' _ _ hbehind)

/-- A character that is no parenthesis and at which no operator stands. -/
theorem inert_cons {c : Char} (hparen : parenStep (c, false) = 0)
    (hnone : ∀ before behind, operatorAt? level before ((c, false) :: ms ++ behind) = none)
    (h : Inert level ms) : Inert level ((c, false) :: ms) := by
  intro before behind hbehind
  have hms := h (some c) behind hbehind
  have hoperator := hnone before behind
  rw [List.cons_append] at hoperator ⊢
  rw [splitLast_cons_of_none hms, hparen, hoperator]
  simp

theorem parenStep_inString (c : Char) : parenStep (c, true) = 0 := by
  unfold parenStep
  split <;> simp_all

/-- Strings are passed over. -/
theorem inert_inString (cs : List Char) : Inert level (inString cs) := by
  induction cs with
  | nil => exact inert_nil
  | cons c cs ih =>
    intro before behind hbehind
    have hcs := ih (some c) behind hbehind
    show splitLast level before ((c, true) :: (inString cs ++ behind)) = _
    rw [splitLast_cons_of_none hcs, parenStep_inString]
    rfl

/-- Between parentheses, operators do not count. -/
theorem splitLast_inside {k : Nat} (h : marksBalance k ms = true)
    (hbehind : splitLast level (lastOf before ms) behind = (depth, none)) (hdepth : 0 < depth) :
    splitLast level before (ms ++ behind) = (depth + k, none) := by
  -- One character more, in front of a part in which no operator counts.
  have hcons : ∀ {j k' : Nat} {before : Option Char} {m : Marked} {ms : List Marked},
      splitLast level (some m.1) (ms ++ behind) = (depth + k', none) →
      (k' : Int) - parenStep m = j →
      splitLast level before (m :: ms ++ behind) = (depth + j, none) := by
    intro j k' before m ms hrest hstep
    have hsum : depth + k' - parenStep m = depth + j := by omega
    have hne : (depth + (j : Int) != 0) = true := by
      rw [bne_iff_ne]
      omega
    rw [List.cons_append, splitLast_cons_of_none hrest, hsum, hne, Bool.or_true]
    rfl
  replace h := balanced_iff.1 h
  induction h generalizing before with
  | nil =>
    rw [List.nil_append, Int.natCast_zero, Int.add_zero]
    exact hbehind
  | @opened k ms _ ih =>
    have hopen : parenStep ('(', false) = 1 := rfl
    exact hcons (ih hbehind) (by omega)
  | @closed k ms _ ih =>
    have hclose : parenStep (')', false) = -1 := rfl
    exact hcons (ih hbehind) (by omega)
  | other hm _ ih => exact hcons (ih hbehind) (by omega)

/-- No operator of the level is spelled with this character at its head. -/
def startsNone (level : Level) (c : Char) : Bool :=
  level.spellings.all fun p => !p.1.isEmpty && p.1.head? != some c.toLower

theorem operatorAt?_of_startsNone {c : Char} (h : startsNone level c = true) (q : Bool) :
    operatorAt? level before ((c, q) :: ms) = none := by
  unfold operatorAt?
  rw [List.findSome?_eq_none_iff]
  intro p hp
  have hspelling := List.all_eq_true.1 h p hp
  obtain ⟨spelling, op⟩ := p
  cases spelling with
  | nil => simp at hspelling
  | cons a w =>
    have hne : a ≠ c.toLower := by simpa using hspelling
    have hdrop : dropSpelling? (a :: w) ((c, q) :: ms) = none := by
      rw [dropSpelling?, if_neg hne]
    simp only [hdrop]
    rfl

/-- No operator of the level is spelled with this character at its head,
and it is no parenthesis. -/
def isPassed (level : Level) (c : Char) : Bool :=
  startsNone level c && parenStep (c, false) == 0

theorem inert_char {c : Char} (h : isPassed level c = true) : Inert level [(c, false)] := by
  simp only [isPassed, Bool.and_eq_true, beq_iff_eq] at h
  exact inert_cons h.2 (fun _ _ => operatorAt?_of_startsNone h.1 false) inert_nil

theorem inert_bare {cs : List Char} (h : cs.all (isPassed level) = true) :
    Inert level (bare cs) := by
  induction cs with
  | nil => exact inert_nil
  | cons c cs ih =>
    rw [List.all_cons, Bool.and_eq_true] at h
    exact (inert_char h.1).append (ih h.2)

/-- **Text between parentheses is passed over.** -/
theorem inert_enclosed (hopen : startsNone level '(' = true) (h : marksBalance 0 ms = true) :
    Inert level (enclosed ms) := by
  intro before behind hbehind
  have hlast : lastOf before (enclosed ms) = some ')' := by
    unfold enclosed
    rw [lastOf, lastOf_append]
    rfl
  rw [hlast] at hbehind
  -- The scan meets the closing parenthesis first, and then stays inside.
  have hclose : splitLast level (lastOf (some '(') ms) ((')', false) :: behind) = (1, none) := by
    rw [splitLast_cons_of_none hbehind]
    rfl
  have hinside := splitLast_inside h hclose (by decide)
  show splitLast level before (('(', false) :: ((ms ++ [(')', false)]) ++ behind)) = _
  rw [List.append_assoc, List.singleton_append, splitLast_cons_of_none hinside,
    operatorAt?_of_startsNone hopen]
  rfl

end

/-! ## §3. Names and calls -/

/-- Characters of names. -/
def isNameChar (c : Char) : Bool := c.isAlphanum || c == '_'

theorem isNameChar_of_isIdentifier {cs : List Char} (h : isIdentifier cs = true) :
    ∀ c ∈ cs, isNameChar c = true := by
  cases cs with
  | nil => exact fun _ hc => absurd hc List.not_mem_nil
  | cons c cs =>
    simp only [isIdentifier, Bool.and_eq_true, List.all_eq_true] at h
    refine List.forall_mem_cons.2 ⟨?_, h.2⟩
    have hhead := h.1
    unfold isNameChar Char.isAlphanum
    rw [Bool.or_eq_true] at hhead
    rcases hhead with hc | hc <;> simp [hc]

theorem ne_of_isNameChar {c d : Char} (hc : isNameChar c = true) (hd : isNameChar d = false) :
    c ≠ d := by
  rintro rfl
  rw [hc] at hd
  cases hd

theorem toNat_lt_of_isNameChar {c : Char} (h : isNameChar c = true) : c.toNat < 128 := by
  have hle : ∀ d : Char, c.val ≤ d.val → c.toNat ≤ d.toNat :=
    fun d hd => UInt32.le_iff_toNat_le.1 hd
  have hkinds : (((c.isUpper || c.isLower) || c.isDigit) || c == '_') = true := h
  rw [Bool.or_eq_true, Bool.or_eq_true, Bool.or_eq_true] at hkinds
  rcases hkinds with ((hupper | hlower) | hdigit) | hunderscore
  · have hZ := hle 'Z' (of_decide_eq_true hupper).2
    exact Nat.lt_of_le_of_lt hZ (by decide)
  · have hz := hle 'z' (of_decide_eq_true (Bool.and_eq_true_iff.1 hlower).2)
    exact Nat.lt_of_le_of_lt hz (by decide)
  · have h9 := hle '9' (of_decide_eq_true (Bool.and_eq_true_iff.1 hdigit).2)
    exact Nat.lt_of_le_of_lt h9 (by decide)
  · rw [beq_iff_eq.1 hunderscore]
    decide

/-- Names are ASCII, so what holds of their characters can be checked code by code. -/
theorem of_isNameChar {P : Char → Prop}
    (h : ∀ n < 128, isNameChar (Char.ofNat n) = true → P (Char.ofNat n)) {c : Char}
    (hc : isNameChar c = true) : P c := by
  have hcode := toNat_lt_of_isNameChar hc
  rw [← Char.ofNat_toNat c] at hc ⊢
  exact h _ hcode hc

theorem isNameChar_toLower {c : Char} (hc : isNameChar c = true) :
    isNameChar c.toLower = true :=
  of_isNameChar (P := fun c => isNameChar c.toLower = true) (by decide) hc

theorem parenStep_of_isNameChar {c : Char} (hc : isNameChar c = true) :
    parenStep (c, false) = 0 := by
  have hopen : c ≠ '(' := ne_of_isNameChar hc (by decide)
  have hclose : c ≠ ')' := ne_of_isNameChar hc (by decide)
  unfold parenStep
  split <;> simp_all

theorem isAsciiBlank_of_isNameChar {c : Char} (hc : isNameChar c = true) :
    isAsciiBlank c = false := by
  rw [← Bool.not_eq_true]
  intro hblank
  simp only [isAsciiBlank, Bool.or_eq_true, beq_iff_eq] at hblank
  rcases hblank with (((rfl | rfl) | rfl) | rfl) | rfl <;> exact absurd hc (by decide)

section
variable {level : Level} {before : Option Char} {name : List Char} {rest inner : List Marked}

/-- Behind a word at the head of a call stands the rest of the name, or the parenthesis. -/
theorem dropSpelling?_name {spelling : List Char} {after : List Marked}
    (hspelling : '(' ∉ spelling) (hname : ∀ c ∈ name, isNameChar c = true)
    (h : dropSpelling? spelling (bare name ++ ('(', false) :: rest) = some after) :
    ∃ c, after.head?.map (·.1) = some c ∧ isAsciiBlank c = false := by
  induction spelling generalizing name with
  | nil =>
    rw [dropSpelling?] at h
    cases h
    cases name with
    | nil => exact ⟨'(', rfl, rfl⟩
    | cons c name => exact ⟨c, rfl, isAsciiBlank_of_isNameChar (hname c List.mem_cons_self)⟩
  | cons a spelling ih =>
    obtain ⟨ha, hspelling⟩ := not_or.1 (mt List.mem_cons.2 hspelling)
    cases name with
    | nil =>
      -- The spelling would have to go on with the parenthesis.
      rw [bare, List.map_nil, List.nil_append, dropSpelling?] at h
      split at h
      · rename_i heq
        exact absurd heq.symm ha
      · cases h
    | cons c name =>
      obtain ⟨-, hname⟩ := List.forall_mem_cons.1 hname
      have hcons : bare (c :: name) ++ ('(', false) :: rest
          = (c, false) :: (bare name ++ ('(', false) :: rest) := rfl
      rw [hcons, dropSpelling?] at h
      split at h
      · exact ih hspelling hname h
      · cases h

/-- No word operator stands in the name of a call. -/
theorem operatorAt?_word (happart : level.apart = apartFromWords)
    (hspelling : ∀ p ∈ level.spellings, '(' ∉ p.1) (hname : ∀ c ∈ name, isNameChar c = true) :
    operatorAt? level before (bare name ++ ('(', false) :: rest) = none := by
  unfold operatorAt?
  rw [List.findSome?_eq_none_iff]
  rintro ⟨spelling, op⟩ hp
  simp only
  cases hdrop : dropSpelling? spelling (bare name ++ ('(', false) :: rest) with
  | none => rfl
  | some after =>
    obtain ⟨c, hc, hblank⟩ := dropSpelling?_name (hspelling _ hp) hname hdrop
    show (if level.apart before && level.apart (after.head?.map (·.1)) then some (op, after)
      else none) = none
    have happart' : level.apart (after.head?.map (·.1)) = false := by
      rw [hc, happart]
      exact hblank
    rw [happart', Bool.and_false]
    rfl

/-- No symbol starts with a character of a name. -/
theorem startsNone_of_isNameChar
    (hspelling : ∀ p ∈ level.spellings, ∃ a w, p.1 = a :: w ∧ isNameChar a = false) {c : Char}
    (hc : isNameChar c = true) : startsNone level c = true := by
  unfold startsNone
  rw [List.all_eq_true]
  intro p hp
  obtain ⟨a, w, hw, ha⟩ := hspelling p hp
  have hne : c.toLower ≠ a := ne_of_isNameChar (isNameChar_toLower hc) ha
  rw [hw]
  simpa using hne.symm

/-- At every level, no operator stands in the name of a call. -/
theorem operatorAt?_name (hlevel : level ∈ levels) {c : Char} (hc : isNameChar c = true)
    (hname : ∀ c ∈ name, isNameChar c = true) :
    operatorAt? level before (bare (c :: name) ++ ('(', false) :: rest) = none := by
  have hall : ∀ d ∈ c :: name, isNameChar d = true := List.forall_mem_cons.2 ⟨hc, hname⟩
  have hsymbols : (∀ p ∈ level.spellings, ∃ a w, p.1 = a :: w ∧ isNameChar a = false) →
      operatorAt? level before (bare (c :: name) ++ ('(', false) :: rest) = none :=
    fun hspelling => operatorAt?_of_startsNone (startsNone_of_isNameChar hspelling hc) false
  simp only [levels, List.mem_cons, List.not_mem_nil, or_false] at hlevel
  rcases hlevel with rfl | rfl | rfl | rfl | rfl
  · refine hsymbols fun p hp => ?_
    obtain rfl := List.mem_singleton.1 hp
    exact ⟨'|', ['|'], rfl, rfl⟩
  · refine operatorAt?_word rfl (fun p hp => ?_) hall
    obtain rfl := List.mem_singleton.1 hp
    decide
  · refine hsymbols fun p hp => ?_
    obtain rfl := List.mem_singleton.1 hp
    exact ⟨'&', ['&'], rfl, rfl⟩
  · refine operatorAt?_word rfl (fun p hp => ?_) hall
    obtain rfl := List.mem_singleton.1 hp
    decide
  · refine hsymbols fun p hp => ?_
    simp only [List.mem_cons, List.not_mem_nil, or_false] at hp
    rcases hp with rfl | rfl | rfl | rfl | rfl | rfl | rfl | rfl <;> exact ⟨_, _, rfl, rfl⟩

theorem startsNone_paren (hlevel : level ∈ levels) : startsNone level '(' = true := by
  have hall : levels.all (startsNone · '(') = true := by decide
  exact List.all_eq_true.1 hall level hlevel

/-- **A call is passed over.** -/
theorem inert_call (hlevel : level ∈ levels) (hname : ∀ c ∈ name, isNameChar c = true)
    (hinner : marksBalance 0 inner = true) : Inert level (bare name ++ enclosed inner) := by
  induction name with
  | nil => exact inert_enclosed (startsNone_paren hlevel) hinner
  | cons c name ih =>
    obtain ⟨hc, hname⟩ := List.forall_mem_cons.1 hname
    refine inert_cons (parenStep_of_isNameChar hc) (fun before behind => ?_) (ih hname)
    have hmove : (c, false) :: (bare name ++ enclosed inner) ++ behind
        = bare (c :: name) ++ ('(', false) :: (inner ++ [(')', false)] ++ behind) := by
      simp [enclosed, bare]
    exact (congrArg _ hmove).trans (operatorAt?_name hlevel hc hname)

end

/-! ## §4. Words and signs -/

section
variable {level : Level} {ms : List Marked}

/-- The words that stand for values. -/
def valueWords : List (List Char) := ["true".toList, "false".toList, "null".toList]

/-- **The words for values are passed over**; only the `a` of `false` looks like an operator. -/
theorem inert_valueWord (hlevel : level ∈ levels) {word : List Char} (hword : word ∈ valueWords) :
    Inert level (bare word) := by
  have htrue : ∀ l ∈ levels, "true".toList.all (isPassed l) = true := by decide
  have hf : ∀ l ∈ levels, ['f'].all (isPassed l) = true := by decide
  have hlse : ∀ l ∈ levels, ['l', 's', 'e'].all (isPassed l) = true := by decide
  have hnull : ∀ l ∈ levels, "null".toList.all (isPassed l) = true := by decide
  simp only [valueWords, List.mem_cons, List.not_mem_nil, or_false] at hword
  rcases hword with rfl | rfl | rfl
  · exact inert_bare (htrue level hlevel)
  · have hend := inert_bare (hlse level hlevel)
    refine (inert_bare (hf level hlevel)).append (inert_cons rfl (fun before behind => ?_) hend)
    simp only [levels, List.mem_cons, List.not_mem_nil, or_false] at hlevel
    rcases hlevel with rfl | rfl | rfl | rfl | rfl <;> rfl
  · exact inert_bare (hnull level hlevel)

/-- A `!` in front of anything but `=` is passed over. -/
theorem inert_not (hlevel : level ∈ levels) {m : Marked} (hm : m.1.toLower ≠ '=')
    (h : Inert level (m :: ms)) : Inert level (('!', false) :: m :: ms) := by
  obtain ⟨c, q⟩ := m
  refine inert_cons rfl (fun before behind => ?_) h
  have hne : '=' ≠ c.toLower := fun heq => hm heq.symm
  simp only [levels, List.mem_cons, List.not_mem_nil, or_false] at hlevel
  rcases hlevel with rfl | rfl | rfl | rfl | rfl
  · exact operatorAt?_of_startsNone (by decide) false
  · exact operatorAt?_of_startsNone (by decide) false
  · exact operatorAt?_of_startsNone (by decide) false
  · exact operatorAt?_of_startsNone (by decide) false
  · -- Only `!=` and `!==` start with the sign, and both go on with `=`.
    simp [operatorAt?, dropSpelling?, hne]

/-- A minus is passed over. -/
theorem inert_minus (hlevel : level ∈ levels) (h : Inert level ms) :
    Inert level (('-', false) :: ms) := by
  have hminus : ∀ l ∈ levels, isPassed l '-' = true := by decide
  exact (inert_char (hminus level hlevel)).append h

end

/-! ## §5. Operators between blanks -/

/-- The level of an operator's symbol. -/
def levelOf : Operator → Level
  | .or => ⟨[("||".toList, .or)], apartFromSymbols⟩
  | .and => ⟨[("&&".toList, .and)], apartFromSymbols⟩
  | _ => ⟨[("===".toList, .eq), ("!==".toList, .ne), ("==".toList, .eq), ("!=".toList, .ne),
      ("<=".toList, .le), (">=".toList, .ge), ("<".toList, .lt), (">".toList, .gt)],
      apartFromSymbols⟩

/-- The levels that are looser than that of an operator. -/
def looserThan : Operator → List Level
  | .or => []
  | .and => levels.take 2
  | _ => levels.take 4

theorem levels_eq (op : Operator) : ∃ tighter, levels = looserThan op ++ levelOf op :: tighter := by
  cases op <;> exact ⟨_, rfl⟩

theorem levelOf_mem (op : Operator) : levelOf op ∈ levels := by
  obtain ⟨tighter, h⟩ := levels_eq op
  rw [h]
  exact List.mem_append_right _ List.mem_cons_self

theorem mem_levels_of_looser {op : Operator} {level : Level} (h : level ∈ looserThan op) :
    level ∈ levels := by
  obtain ⟨tighter, hlevels⟩ := levels_eq op
  rw [hlevels]
  exact List.mem_append_left _ h

/-- The symbol of an operator between blanks. -/
def spaced (op : Operator) : List Char := ' ' :: (op.symbol.toList ++ [' '])

/-- At a looser level, the symbol between blanks is passed over. -/
theorem inert_spaced {op : Operator} {level : Level} (h : level ∈ looserThan op) :
    Inert level (bare (spaced op)) := by
  have hpassed : ∀ l ∈ looserThan op, (spaced op).all (isPassed l) = true := by
    cases op <;> decide
  exact inert_bare (hpassed level h)

/-- The scan goes on where no operator stands, -/
theorem splitLast_pass {level : Level} {before : Option Char} {c : Char} {ms : List Marked}
    (hparen : parenStep (c, false) = 0)
    (hnone : operatorAt? level before ((c, false) :: ms) = none)
    (h : splitLast level (some c) ms = (0, none)) :
    splitLast level before ((c, false) :: ms) = (0, none) := by
  rw [splitLast_cons_of_none h, hparen, hnone]
  rfl

/-- and stops where one does. -/
theorem splitLast_meet {level : Level} {before : Option Char} {c : Char} {ms r : List Marked}
    {op : Operator} (hparen : parenStep (c, false) = 0)
    (hsome : operatorAt? level before ((c, false) :: ms) = some (op, r))
    (h : splitLast level (some c) ms = (0, none)) :
    splitLast level before ((c, false) :: ms) = (0, some ⟨[], op, unmarked r⟩) := by
  rw [splitLast_cons_of_none h, hparen, hsome]
  rfl

/-- **At its own level, a symbol between blanks is met**, if what is
behind it is passed over. -/
theorem splitLast_spaced {op : Operator} {ms : List Marked}
    (h : splitLast (levelOf op) (some ' ') ms = (0, none)) (before : Option Char) :
    splitLast (levelOf op) before (bare (spaced op) ++ ms)
      = (0, some ⟨[' '], op, ' ' :: unmarked ms⟩) := by
  have hblank : ∀ b, splitLast (levelOf op) b ((' ', false) :: ms) = (0, none) := by
    intro b
    have hspace : startsNone (levelOf op) ' ' = true := by cases op <;> decide
    exact splitLast_pass rfl (operatorAt?_of_startsNone hspace false) h
  have hsymbol : splitLast (levelOf op) (some ' ') (bare (op.symbol.toList ++ [' ']) ++ ms)
      = (0, some ⟨[], op, ' ' :: unmarked ms⟩) := by
    cases op with
    | gt | lt =>
      refine splitLast_meet (r := (' ', false) :: ms) ?_ ?_ (hblank _)
      · rfl
      · rfl
    | eq | ne | ge | le | and | or =>
      -- The second character of the symbol is no operator by itself.
      refine splitLast_meet (r := (' ', false) :: ms) ?_ ?_ (splitLast_pass ?_ ?_ (hblank _))
      · rfl
      · rfl
      · rfl
      · rfl
  exact splitLast_cons_of_some (m := (' ', false)) hsymbol before

/-! ## §6. Splits of whole texts -/

section
variable {cs ds : List Char} {ms ns : List Marked}

theorem Inert.splitLast {level : Level} (h : Inert level ms) (before : Option Char) :
    splitLast level before ms = (0, none) := by
  have hms := h before [] rfl
  rwa [List.append_nil] at hms

/-- **A text that is inert at every level is not split.** -/
theorem split?_of_inert (hmarks : Marks cs ms) (h : ∀ level ∈ levels, Inert level ms) :
    split? cs = none := by
  have hnone : (levels.findSome? fun level => (Direct.splitLast level none ms).2) = none := by
    rw [List.findSome?_eq_none_iff]
    intro level hlevel
    rw [(h level hlevel).splitLast]
  unfold split?
  rw [hmarks.marked?]
  exact hnone

/-- **A text is split around an operator between blanks**, if both sides
are inert at the looser levels and the right one also at its own. -/
theorem split?_around (op : Operator) (hleft : Marks cs ms) (hright : Marks ds ns)
    (hms : ∀ level ∈ looserThan op, Inert level ms)
    (hns : ∀ level ∈ levels, Inert level ns) :
    split? (cs ++ (spaced op ++ ds)) = some ⟨cs ++ [' '], op, ' ' :: ds⟩ := by
  have hspaced : Marks (spaced op) (bare (spaced op)) := marks_bare (by cases op <;> decide)
  have hmarks := hleft.append (hspaced.append hright)
  obtain ⟨tighter, hlevels⟩ := levels_eq op
  have hlooser : ((looserThan op).findSome? fun level =>
      (Direct.splitLast level none (ms ++ (bare (spaced op) ++ ns))).2) = none := by
    rw [List.findSome?_eq_none_iff]
    intro level hlevel
    have hall := (hms level hlevel).append
      ((inert_spaced hlevel).append (hns level (mem_levels_of_looser hlevel)))
    rw [hall.splitLast]
  have hmeet : (Direct.splitLast (levelOf op) none (ms ++ (bare (spaced op) ++ ns))).2
      = some ⟨cs ++ [' '], op, ' ' :: ds⟩ := by
    have hspot := splitLast_spaced ((hns _ (levelOf_mem op)).splitLast (some ' ')) (lastOf none ms)
    rw [splitLast_append_of_some hspot, hleft.unmarked, hright.unmarked]
  unfold split?
  rw [hmarks.marked?, Option.bind_eq_bind, Option.bind_some, hlevels, List.findSome?_append,
    hlooser, List.findSome?_cons, hmeet]
  rfl

end

end ContentGate.Direct
