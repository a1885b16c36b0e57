/-
  ContentGate.Proofs.Notation.UpFront — quoting and balance are settled once.

  Open strings, unpaired parentheses and forbidden characters are looked for
  in the whole text, before anything is read.  The readers hand parts of it
  to each other and mark each of them anew; they never find a string open in
  a part, or a parenthesis without its partner, for every part is a slice.

  To see the parts, the readers are run with a note of every text that they
  are given, and of where it stands (`expressionTraced`, `operandTraced`).
  The notes change nothing about the result.

  Main statements:
    * `check_quotes_iff`, `check_parentheses_iff`, `check_character_iff` — what
      the check refuses;
    * `Traces.bind`, `Traces.mapM` — readers with notes, step by step;
    * `readers_trace` — what the readers hand on, by induction on the levels;
    * `quoting_settled_up_front` — whole texts.
-/
import ContentGate.Proofs.Notation.DirectSlices

namespace ContentGate.Direct

open Text Notation

/-! ## §1. The check -/

/-- The first forbidden character outside strings, and how many bytes stand in front of it. -/
def FirstForbidden (ms : List Marked) (c : Char) (position : Nat) : Prop :=
  ∃ front back, ms = front ++ (c, false) :: back ∧ isForbidden c = true
    ∧ (∀ d, (d, false) ∈ front → isForbidden d = false) ∧ position = utf8Length (unmarked front)

/-- Nothing is wrong with a text up front: its strings are closed, its parentheses pair up, and
no character outside strings is forbidden. -/
structure Sound (cs : List Char) (ms : List Marked) : Prop where
  closed : StringsClosed cs ms
  pair : ParensPair ms
  permitted : ∀ c, (c, false) ∈ ms → isForbidden c = false

section
variable {cs : List Char} {ms : List Marked} {c : Char} {position : Nat} {text : String}

/-- **Such a text may stand**, and no other one. -/
theorem sound_iff_part : Sound cs ms ↔ Part cs ms := by
  constructor
  · intro h
    refine ⟨h.closed.marks, marksBalance_iff.2 h.pair, ?_⟩
    rintro ⟨c, quoted⟩ hm
    cases quoted with
    | true => rfl
    | false => exact h.permitted c hm
  · intro h
    exact ⟨marked?_eq_some_iff.1 h.marks.marked?, marksBalance_iff.1 h.balanced,
      fun c hc => h.permitted (c, false) hc⟩

/-- A character that is not forbidden, in front of the first one that is. -/
theorem FirstForbidden.cons {m : Marked} (hm : (!m.2 && isForbidden m.1) = false)
    (h : FirstForbidden ms c position) : FirstForbidden (m :: ms) c (m.1.utf8Size + position) := by
  obtain ⟨front, back, rfl, hc, hfront, rfl⟩ := h
  refine ⟨m :: front, back, rfl, hc, fun d hd => ?_, rfl⟩
  rcases List.mem_cons.1 hd with rfl | hd
  · exact hm
  · exact hfront d hd

/-- **What the search finds is the first one**, from any offset on, -/
theorem exists_first_of_forbidden? {start found : Nat} (h : forbidden? start ms = some (c, found)) :
    ∃ position, found = start + position ∧ FirstForbidden ms c position := by
  induction ms generalizing start with
  | nil => cases h
  | cons m ms ih =>
    rw [forbidden?] at h
    by_cases hm : (!m.2 && isForbidden m.1) = true
    · rw [if_pos hm] at h
      obtain ⟨rfl, rfl⟩ := Prod.mk.inj (Option.some.inj h)
      obtain ⟨hquoted, hc⟩ := Bool.and_eq_true_iff.1 hm
      have hunquoted : m = (m.1, false) := Prod.ext rfl (by simpa using hquoted)
      exact ⟨0, rfl, [], ms, congrArg (· :: ms) hunquoted, hc,
        fun _ hmem => absurd hmem List.not_mem_nil, rfl⟩
    · rw [if_neg hm] at h
      obtain ⟨position, rfl, hfirst⟩ := ih h
      exact ⟨m.1.utf8Size + position, Nat.add_assoc _ _ _, hfirst.cons (Bool.eq_false_iff.2 hm)⟩

/-- **and the first one is found.** -/
theorem FirstForbidden.forbidden? (h : FirstForbidden ms c position) (start : Nat) :
    Direct.forbidden? start ms = some (c, start + position) := by
  obtain ⟨front, back, rfl, hc, hfront, rfl⟩ := h
  induction front generalizing start with
  | nil => exact if_pos hc
  | cons m front ih =>
    have hm : ¬ (!m.2 && isForbidden m.1) = true := by
      obtain ⟨d, quoted⟩ := m
      cases quoted with
      | true => exact Bool.false_ne_true
      | false => exact Bool.eq_false_iff.1 (hfront d List.mem_cons_self)
    rw [List.cons_append, Direct.forbidden?, if_neg hm,
      ih _ (fun d hd => hfront d (List.mem_cons_of_mem _ hd)), Nat.add_assoc]
    rfl

/-- **Open strings.** -/
theorem check_quotes_iff :
    check cs = .error (.unbalancedQuotes text) ↔ LeavesStringOpen cs ∧ text = String.ofList cs := by
  rw [← marked?_eq_none_iff]
  unfold check
  cases hmarked : marked? cs with
  | none => simp [eq_comm (a := text)]
  | some ms =>
    cases hbalance : marksBalance 0 ms with
    | false => simp [hbalance]
    | true => cases hfound : forbidden? 0 ms <;> simp [hbalance, hfound]

/-- **Unpaired parentheses**, where no string is open. -/
theorem check_parentheses_iff :
    check cs = .error (.unbalancedParentheses text)
      ↔ (∃ ms, StringsClosed cs ms ∧ ¬ ParensPair ms) ∧ text = String.ofList cs := by
  simp only [← marked?_eq_some_iff, ← marksBalance_iff]
  unfold check
  cases hmarked : marked? cs with
  | none => simp
  | some ms =>
    cases hbalance : marksBalance 0 ms with
    | false => simp [hbalance, eq_comm (a := text)]
    | true => cases hfound : forbidden? 0 ms <;> simp [hbalance, hfound]

/-- **Forbidden characters**, where nothing else is wrong. -/
theorem check_character_iff :
    check cs = .error (.invalidCharacter c position)
      ↔ ∃ ms, StringsClosed cs ms ∧ ParensPair ms ∧ FirstForbidden ms c position := by
  simp only [← marked?_eq_some_iff, ← marksBalance_iff]
  unfold check
  cases hmarked : marked? cs with
  | none => simp
  | some ms =>
    cases hbalance : marksBalance 0 ms with
    | false => simp [hbalance]
    | true =>
      have hiff : forbidden? 0 ms = some (c, position) ↔ FirstForbidden ms c position := by
        constructor
        · intro h
          obtain ⟨found, hfound, hfirst⟩ := exists_first_of_forbidden? h
          rw [Nat.zero_add] at hfound
          rwa [hfound]
        · intro h
          have hfound := h.forbidden? 0
          rwa [Nat.zero_add] at hfound
      cases hfound : forbidden? 0 ms with
      | none => simp [hbalance, ← hiff, hfound]
      | some found => simp [hbalance, ← hiff, hfound, Prod.ext_iff]

example : check "'a;' é;".toList = .error (.invalidCharacter ';' 7) := by decide +kernel

/-- The check has no other causes. -/
theorem check_ne_empty : check cs ≠ .error .emptyExpression := by
  intro h
  unfold check at h
  split at h
  · cases h
  split at h
  · cases h
  split at h
  · cases h
  · cases h

end

/-! ## §2. Readers with notes -/

/-- What a text is read as. -/
inductive Role where
  | condition
  | operand
  | arguments

/-- A text that is handed to a reader. -/
structure Handed where
  role : Role
  excerpt : Excerpt

/-- Readers that note what they are given. -/
abbrev Tracing := ExceptT ParseError (StateM (List Handed))

/-- Notes a text. -/
def note (role : Role) (e : Excerpt) : Tracing Unit := modify (· ++ [⟨role, e⟩])

mutual

/-- The condition of an excerpt, with notes. -/
def expressionTraced : (levels : Nat) → Excerpt → Tracing Expression
  | 0, e => do
    note .condition e
    throw (.nestingTooDeep maxNesting)
  | levels + 1, e => do
    note .condition e
    let e := e.trim
    if e.text.isEmpty then throw .unexpectedEnd
    else
      match split? e.text with
      | some s => do
        let left ← expressionTraced levels (e.sub 0 s.left).trim
        let right ← expressionTraced levels
          (e.sub (e.text.length - s.right.length) s.right).trim
        pure (.binary left s.op right)
      | none => operandTraced levels e

/-- The condition of an excerpt without operators, with notes. -/
def operandTraced : (levels : Nat) → Excerpt → Tracing Expression
  | 0, e => do
    note .operand e
    throw (.nestingTooDeep maxNesting)
  | levels + 1, e => do
    note .operand e
    let e := e.trim
    match operandForm e.text with
    | .not rest => do
      let operand ← operandTraced levels (e.sub 1 rest)
      pure (.unary .not operand)
    | .minus rest => do
      let operand ← operandTraced levels (e.sub 1 rest)
      pure (.unary .negate operand)
    | .group inner => expressionTraced levels (e.sub 1 inner)
    | .literal v => pure (.literal v)
    | .call name inner => do
      let written := e.sub (e.text.length - (inner.length + 1)) inner
      note .arguments written
      let args ← arguments written.text
      let args ← (Excerpt.separated written.before args).mapM (expressionTraced levels)
      pure (.call (String.ofList name) args)
    | .unknown => throw (.invalidExpression ("Cannot parse: " ++ String.ofList e.text))

end

/-- The condition of a direct text, with notes. -/
def parseTraced (raw : String) : Tracing Expression := do
  let cs := trim raw.toList
  if cs.isEmpty then throw .emptyExpression
  check cs
  expressionTraced maxNesting ⟨[], cs⟩

/-- The causes for which the readers refuse a part of a text that passes the check. -/
inductive Late : ParseError → Prop where
  | unexpectedEnd : Late .unexpectedEnd
  | nestingTooDeep : Late (.nestingTooDeep maxNesting)
  | invalidExpression (detail : String) : Late (.invalidExpression detail)

section
variable {α β : Type} {P : Handed → Prop} {x : Tracing α} {r : Except ParseError α}

/-- The reader `x` gives `r`, notes only texts with `P`, and refuses only late. -/
structure Traces (P : Handed → Prop) (x : Tracing α) (r : Except ParseError α) : Prop where
  run : ∀ calls, ∃ more, x.run.run calls = (r, calls ++ more) ∧ ∀ call ∈ more, P call
  late : ∀ cause, r = .error cause → Late cause

theorem Traces.pure (a : α) : Traces P (Pure.pure a) (.ok a) where
  run calls := ⟨[], by rw [List.append_nil]; rfl, fun _ h => absurd h List.not_mem_nil⟩
  late _ h := by cases h

theorem Traces.throw {cause : ParseError} (h : Late cause) :
    Traces P (MonadExcept.throw cause : Tracing α) (.error cause) where
  run calls := ⟨[], by rw [List.append_nil]; rfl, fun _ h => absurd h List.not_mem_nil⟩
  late _ heq := by
    cases heq
    exact h

theorem Traces.note (role : Role) {e : Excerpt} (h : P ⟨role, e⟩) :
    Traces P (note role e) (.ok ()) where
  run calls := ⟨[⟨role, e⟩], rfl, fun call hcall => by rwa [List.mem_singleton.1 hcall]⟩
  late _ h := by cases h

/-- One reader after another. -/
theorem Traces.bind {f : α → Tracing β} {g : α → Except ParseError β} (h : Traces P x r)
    (hf : ∀ a, r = .ok a → Traces P (f a) (g a)) : Traces P (x >>= f) (r >>= g) := by
  cases r with
  | error cause =>
    refine ⟨fun calls => ?_, fun cause' heq => h.late cause' (by cases heq; rfl)⟩
    obtain ⟨more, hrun, hmore⟩ := h.run calls
    refine ⟨more, ?_, hmore⟩
    rw [ExceptT.run_bind, StateT.run_bind, hrun]
    rfl
  | ok a =>
    have hnext := hf a rfl
    refine ⟨fun calls => ?_, hnext.late⟩
    obtain ⟨more, hrun, hmore⟩ := h.run calls
    obtain ⟨more', hrun', hmore'⟩ := hnext.run (calls ++ more)
    refine ⟨more ++ more', ?_, List.forall_mem_append.2 ⟨hmore, hmore'⟩⟩
    rw [ExceptT.run_bind, StateT.run_bind, hrun]
    show (f a).run.run (calls ++ more) = _
    rw [hrun', List.append_assoc]
    rfl

/-- A note in front of a reader. -/
theorem Traces.noted (role : Role) {e : Excerpt} (h : P ⟨role, e⟩) (hx : Traces P x r) :
    Traces P (Direct.note role e >>= fun _ => x) r :=
  (Traces.note role h).bind fun _ _ => hx

/-- A reader whose result is used. -/
theorem Traces.map (h : Traces P x r) (f : α → β) :
    Traces P (x >>= fun a => Pure.pure (f a)) (r >>= fun a => .ok (f a)) :=
  h.bind fun a _ => Traces.pure (f a)

/-- Texts one after another. -/
theorem Traces.mapM {read : Excerpt → Tracing β} {read' : List Char → Except ParseError β}
    {before : List Char} {css : List (List Char)}
    (h : ∀ e ∈ Excerpt.separated before css, Traces P (read e) (read' e.text)) :
    Traces P ((Excerpt.separated before css).mapM read) (css.mapM read') := by
  induction css generalizing before with
  | nil => exact Traces.pure []
  | cons cs css ih =>
    obtain ⟨hfirst, hrest⟩ := List.forall_mem_cons.1 h
    rw [Excerpt.separated, List.mapM_cons, List.mapM_cons]
    refine hfirst.bind fun b _ => ?_
    refine (ih hrest).bind fun bs _ => ?_
    exact Traces.pure (b :: bs)

end

/-! ## §3. What the readers hand on -/

section
variable {whole : List Marked} {levels : Nat}

/-- A reader hands on slices of the text, if it is given one. -/
def HandsOnSlices (whole : List Marked) (traced : Excerpt → Tracing Expression)
    (read : List Char → Except ParseError Expression) : Prop :=
  ∀ {e}, Slice whole e → Traces (Slice whole ·.excerpt) (traced e) (read e.text)

/-- One level of a text with operators. -/
theorem expression_hands_on
    (hexpression : HandsOnSlices whole (expressionTraced levels) (expression levels))
    (hoperand : HandsOnSlices whole (operandTraced levels) (operand levels)) :
    HandsOnSlices whole (expressionTraced (levels + 1)) (expression (levels + 1)) := by
  intro e h
  have htrim : Slice whole e.trim := h.trim
  rw [expressionTraced]
  refine Traces.noted .condition h ?_
  by_cases hempty : e.trim.text.isEmpty = true
  · have hread : expression (levels + 1) e.text = .error .unexpectedEnd := by
      rw [expression]
      exact if_pos hempty
    simp only [if_pos hempty]
    rw [hread]
    exact Traces.throw .unexpectedEnd
  · have hne : trim e.text ≠ [] := fun hnil => hempty (List.isEmpty_iff.2 hnil)
    simp only [if_neg hempty]
    cases hsplit : split? e.trim.text with
    | some s =>
      rw [expression_eq_of_split hne hsplit]
      refine (hexpression (htrim.left hsplit).trim).bind fun left _ => ?_
      exact (hexpression (htrim.right hsplit).trim).map _
    | none =>
      rw [expression_eq_of_operand hne hsplit]
      exact hoperand htrim

/-- One level of an operand. -/
theorem operand_hands_on
    (hexpression : HandsOnSlices whole (expressionTraced levels) (expression levels))
    (hoperand : HandsOnSlices whole (operandTraced levels) (operand levels)) :
    HandsOnSlices whole (operandTraced (levels + 1)) (operand (levels + 1)) := by
  intro e h
  have htrim : Slice whole e.trim := h.trim
  rw [operandTraced, operand_succ]
  refine Traces.noted .operand h ?_
  show Traces _ _ (OperandForm.read levels e.trim.text (operandForm e.trim.text))
  cases hform : operandForm e.trim.text with
  | not rest =>
    simp only [hform]
    exact (hoperand (htrim.sign (eq_of_form_not hform) rfl rfl)).map _
  | minus rest =>
    simp only [hform]
    exact (hoperand (htrim.sign (eq_of_form_minus hform) rfl rfl)).map _
  | group inner =>
    simp only [hform]
    exact hexpression (htrim.group hform)
  | literal v =>
    simp only [hform]
    exact Traces.pure _
  | unknown =>
    simp only [hform]
    exact Traces.throw (.invalidExpression _)
  | call name inner =>
    simp only [hform]
    have hwritten := htrim.arguments hform
    -- No string is open in what is written between the parentheses.
    obtain ⟨args, hargs⟩ : ∃ args, arguments inner = .ok args := by
      obtain ⟨_, ms, _, -, -, hpart⟩ := hwritten
      exact ⟨_, arguments_of_marks hpart.marks⟩
    have hread : OperandForm.read levels e.trim.text (.call name inner)
        = args.mapM (expression levels) >>= fun args => .ok (.call (String.ofList name) args) := by
      show (arguments inner >>= fun args => args.mapM (expression levels)) >>= _ = _
      rw [hargs]
      rfl
    rw [hread]
    refine Traces.noted .arguments hwritten ?_
    show Traces _ (liftM (arguments inner) >>= _) _
    rw [hargs]
    refine (Traces.mapM (fun e' he' => ?_)).map _
    exact hexpression (hwritten.argument hargs he')

/-- **The readers hand on slices of the text that they are given.** -/
theorem readers_trace (whole : List Marked) (levels : Nat) :
    HandsOnSlices whole (expressionTraced levels) (expression levels)
      ∧ HandsOnSlices whole (operandTraced levels) (operand levels) := by
  -- Each of the two readers calls both one level down.
  induction levels with
  | zero =>
    constructor
    · intro e h
      rw [expressionTraced, expression_zero]
      exact Traces.noted .condition h (Traces.throw .nestingTooDeep)
    · intro e h
      rw [operandTraced, operand_zero]
      exact Traces.noted .operand h (Traces.throw .nestingTooDeep)
  | succ levels ih =>
    obtain ⟨hexpression, hoperand⟩ := ih
    exact ⟨expression_hands_on hexpression hoperand, operand_hands_on hexpression hoperand⟩

end

/-! ## §4. Whole texts -/

/-- An excerpt that starts and ends at characters of the text, where the text has the marks
that the excerpt has alone.  Nothing is wrong with it either. -/
def InPlace (cs : List Char) (ms : List Marked) (e : Excerpt) : Prop :=
  ∃ front own back, cs = e.before ++ (e.text ++ unmarked back) ∧ ms = front ++ (own ++ back)
    ∧ unmarked front = e.before ∧ Sound e.text own

/-- What is settled about a trimmed text before it is read, and what is known of the texts
that are handed on then, if the result is `r`. -/
structure SettledUpFront (cs : List Char) (calls : List Handed) (r : Except ParseError Expression) :
    Prop where
  /-- An empty text is refused first of all. -/
  empty : r = .error .emptyExpression ↔ cs = []
  quotes : ∀ text, r = .error (.unbalancedQuotes text)
    ↔ cs ≠ [] ∧ LeavesStringOpen cs ∧ text = String.ofList cs
  parentheses : ∀ text, r = .error (.unbalancedParentheses text)
    ↔ cs ≠ [] ∧ (∃ ms, StringsClosed cs ms ∧ ¬ ParensPair ms) ∧ text = String.ofList cs
  character : ∀ c position, r = .error (.invalidCharacter c position)
    ↔ ∃ ms, StringsClosed cs ms ∧ ParensPair ms ∧ FirstForbidden ms c position
  /-- Every text that is handed on is where it was in the whole. -/
  handed : ∀ ms, Sound cs ms → ∀ call ∈ calls, InPlace cs ms call.excerpt
  /-- What a text is split at is one of the operators. -/
  operators : ∀ ms, Sound cs ms →
    ∀ call ∈ calls, ∀ s, split? (trim call.excerpt.text) = some s →
      ∃ spelled, trim call.excerpt.text = s.left ++ (spelled ++ s.right)
        ∧ Operator.ofText? (String.ofList spelled) = some s.op
  /-- Nothing else is refused but what ends early, is nested too deep or has no form. -/
  late : cs ≠ [] → ∀ ms, Sound cs ms → ∀ cause, r = .error cause → Late cause

section
variable {raw : String} {cause : ParseError} {whole : List Marked} {e : Excerpt}

theorem Slice.inPlace {cs : List Char} (hcs : unmarked whole = cs) (h : Slice whole e) :
    InPlace cs whole e := by
  obtain ⟨front, own, back, rfl, hfront, hpart⟩ := h
  refine ⟨front, own, back, ?_, rfl, hfront, sound_iff_part.2 hpart⟩
  rw [← hcs, unmarked_append, unmarked_append, hfront, hpart.marks.unmarked]

/-- What is read of a text that may stand is refused late, if at all. -/
theorem late_of_part {cs : List Char} {ms : List Marked} {levels : Nat} (h : Part cs ms)
    (hread : expression levels cs = .error cause) : Late cause :=
  ((readers_trace ms levels).1 h.slice).late cause hread

/-- **Refusals that are not late are those of the check.** -/
theorem parse_eq_error_iff (hlate : ¬ Late cause) (hempty : cause ≠ .emptyExpression) :
    parse raw = .error cause
      ↔ trim raw.toList ≠ [] ∧ check (trim raw.toList) = .error cause := by
  by_cases hne : trim raw.toList = []
  · rw [parse_of_empty hne]
    constructor
    · intro h
      cases h
      exact absurd rfl hempty
    · exact fun h => absurd hne h.1
  · rw [and_iff_right hne]
    cases hcheck : check (trim raw.toList) with
    | error cause' =>
      rw [parse_of_refused hne hcheck, Except.error.injEq, Except.error.injEq]
    | ok _ =>
      obtain ⟨ms, hpart⟩ := exists_part_of_check hcheck
      rw [parse_eq_expression hne hcheck]
      constructor
      · exact fun h => absurd (late_of_part hpart h) hlate
      · intro h
        cases h

/-- The notes of a whole text, which are about slices if it may stand. -/
theorem parseTraced_run (raw : String) :
    ∃ calls, (parseTraced raw).run.run [] = (parse raw, calls)
      ∧ ∀ ms, Part (trim raw.toList) ms → ∀ call ∈ calls, Slice ms call.excerpt := by
  by_cases hne : trim raw.toList = []
  · refine ⟨[], ?_, fun _ _ _ h => absurd h List.not_mem_nil⟩
    unfold parseTraced
    rw [parse_of_empty hne]
    simp only [hne]
    rfl
  have hempty : (trim raw.toList).isEmpty = false := List.isEmpty_eq_false_iff.2 hne
  cases hcheck : check (trim raw.toList) with
  | error cause =>
    refine ⟨[], ?_, fun _ _ _ h => absurd h List.not_mem_nil⟩
    unfold parseTraced
    rw [parse_of_refused hne hcheck]
    simp only [hempty, hcheck]
    rfl
  | ok _ =>
    obtain ⟨ms, hpart⟩ := exists_part_of_check hcheck
    obtain ⟨calls, hrun, hcalls⟩ := ((readers_trace ms maxNesting).1 hpart.slice).run []
    refine ⟨calls, ?_, fun ms' hpart' => ?_⟩
    · unfold parseTraced
      rw [parse_eq_expression hne hcheck]
      simp only [hempty, hcheck]
      exact hrun
    · obtain rfl := Option.some.inj (hpart.marks.marked?.symm.trans hpart'.marks.marked?)
      exact hcalls

/-- **Quoting and balance are settled up front.**  What a direct text is refused for says of
the whole text that a string is left open, or that its parentheses do not pair up, or which
character has no place in it.  If there is nothing of that kind, every text that the readers
hand on is an excerpt with the marks that it has in the whole, and they refuse it only late. -/
theorem quoting_settled_up_front (raw : String) :
    ∃ calls, (parseTraced raw).run.run [] = (parse raw, calls)
      ∧ SettledUpFront (trim raw.toList) calls (parse raw) := by
  obtain ⟨calls, hrun, hcalls⟩ := parseTraced_run raw
  refine ⟨calls, hrun, ?_, fun text => ?_, fun text => ?_, fun c position => ?_,
    fun ms hsound call hcall => ?_, fun ms hsound call hcall s hsplit => ?_,
    fun hne ms hsound cause hcause => ?_⟩
  · constructor
    · intro hrefused
      by_contra hne
      cases hcheck : check (trim raw.toList) with
      | error cause =>
        rw [parse_of_refused hne hcheck] at hrefused
        cases hrefused
        exact check_ne_empty hcheck
      | ok _ =>
        obtain ⟨ms, hpart⟩ := exists_part_of_check hcheck
        rw [parse_eq_expression hne hcheck] at hrefused
        cases late_of_part hpart hrefused
    · exact parse_of_empty
  · rw [parse_eq_error_iff (by rintro ⟨⟩) (by rintro ⟨⟩), check_quotes_iff]
  · rw [parse_eq_error_iff (by rintro ⟨⟩) (by rintro ⟨⟩), check_parentheses_iff]
  · rw [parse_eq_error_iff (by rintro ⟨⟩) (by rintro ⟨⟩), check_character_iff]
    refine and_iff_right_of_imp ?_
    rintro ⟨ms, hclosed, -, front, back, rfl, -⟩ hnil
    have hunmarked := hclosed.marks.unmarked
    rw [hnil, unmarked_append] at hunmarked
    exact absurd hunmarked (List.append_ne_nil_of_right_ne_nil _ (List.cons_ne_nil _ _))
  · exact (hcalls ms (sound_iff_part.1 hsound) call hcall).inPlace hsound.closed.marks.unmarked
  · obtain ⟨_, own, _, -, -, hpart⟩ := hcalls ms (sound_iff_part.1 hsound) call hcall
    obtain ⟨_, _, -, htrim⟩ := hpart.exists_trim
    exact ofText?_of_split htrim hsplit
  · have hpart := sound_iff_part.1 hsound
    rw [parse_eq_expression hne hpart.check] at hcause
    exact late_of_part hpart hcause

/-- Nothing is wrong with the empty text up front, and it is not refused late. -/
theorem empty_text_refused_first :
    Sound (trim "".toList) [] ∧ parse "" = .error .emptyExpression ∧ ¬ Late .emptyExpression := by
  have hsound : Sound (trim "".toList) [] := sound_iff_part.2 part_nil
  refine ⟨hsound, parse_of_empty rfl, ?_⟩
  rintro ⟨⟩

end

end ContentGate.Direct
