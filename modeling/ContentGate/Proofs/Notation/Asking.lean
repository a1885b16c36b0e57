/-
  ContentGate.Proofs.Notation.Asking — when operands are asked for their meaning.

  The reader of formulas asks for the meaning of an operand as soon as it has
  read it, and may fail before, between and behind such questions.  So we look
  at all the questions of one reading, with their answers.  A meaning that
  keeps a log (`logged`) answers as before, and the log has every question
  that was asked of it.

  What should be asked is known from the tokens alone: the operands of a text
  are its runs of items with commas between them (`operandRuns`).  A reader
  that gives a tree has asked for the runs in front of the tokens that it
  leaves, and the answers are joined in the tree in the same order (`Joins`).
  One that fails has asked for the first of these runs, and if an answer was a
  refusal, nothing was asked after it.

  Main statements:
    * `Records.bind`, `records_ask` — computations with a log, step by step;
    * `operandRuns_operand`, `operandRuns_skip` — the runs in front of a place;
    * `chain_asks`, `unary_asks` — what the readers ask;
    * `operands_asked_in_turn` — what is asked of a whole formula.
-/
import ContentGate.Proofs.Notation.Refusals

namespace ContentGate.Formula

open Notation

/-! ## §1. Logs -/

/-- A question for the meaning of an operand, and the answer. -/
structure Call where
  operand : Operand
  answer : Except ParseError Expression

section
variable {σ α β : Type}

/-- A meaning that keeps a log of its calls. -/
def logged (meaning : Operand → ExceptT ParseError (StateM σ) Expression) (o : Operand) :
    ExceptT ParseError (StateM (σ × List Call)) Expression :=
  ExceptT.mk fun (s, log) =>
    let (answer, s') := (meaning o).run.run s
    (answer, (s', log ++ [⟨o, answer⟩]))

/-- With a log, the computation `x` does what `y` does, and adds to the log: either its calls fit
the cause of its failure, or they fit its result. -/
def Records (x : ExceptT ParseError (StateM (σ × List Call)) α)
    (y : ExceptT ParseError (StateM σ) α) (fails : List Call → ParseError → Prop)
    (gives : List Call → α → Prop) : Prop :=
  ∀ s log, ∃ calls,
    x.run.run (s, log) = ((y.run.run s).1, ((y.run.run s).2, log ++ calls))
      ∧ (∀ cause, (y.run.run s).1 = .error cause → fails calls cause)
      ∧ ∀ a, (y.run.run s).1 = .ok a → gives calls a

variable {fails fails' : List Call → ParseError → Prop} {gives gives' : List Call → α → Prop}

theorem Records.pure {a : α} (h : gives [] a) :
    Records (σ := σ) (Pure.pure a) (Pure.pure a) fails gives := by
  intro s log
  refine ⟨[], ?_, ?_, ?_⟩
  · rw [List.append_nil]
    rfl
  · intro cause hrun
    cases hrun
  · intro b hrun
    cases hrun
    exact h

theorem Records.throw {cause : ParseError} (h : fails [] cause) :
    Records (σ := σ) (MonadExcept.throw cause) (MonadExcept.throw cause) fails gives := by
  intro s log
  refine ⟨[], ?_, ?_, ?_⟩
  · rw [List.append_nil]
    rfl
  · intro cause' hrun
    cases hrun
    exact h
  · intro a hrun
    cases hrun

/-- A step that asks nothing. -/
theorem Records.lift {r : Except ParseError α} (hfails : ∀ cause, r = .error cause → fails [] cause)
    (hgives : ∀ a, r = .ok a → gives [] a) :
    Records (σ := σ) (liftM r) (liftM r) fails gives := by
  cases r with
  | ok a => exact Records.pure (hgives a rfl)
  | error cause => exact Records.throw (hfails cause rfl)

/-- **One computation after the other**: the calls of the second follow those of the first. -/
theorem Records.bind {x : ExceptT ParseError (StateM (σ × List Call)) α}
    {y : ExceptT ParseError (StateM σ) α} {f : α → ExceptT ParseError (StateM (σ × List Call)) β}
    {g : α → ExceptT ParseError (StateM σ) β} {ends : List Call → β → Prop}
    (hx : Records x y fails gives)
    (hf : ∀ calls a, gives calls a → Records (f a) (g a) (fun more => fails (calls ++ more))
      fun more => ends (calls ++ more)) :
    Records (x >>= f) (y >>= g) fails ends := by
  intro s log
  obtain ⟨calls, hrun, hfails, hgives⟩ := hx s log
  rw [ExceptT.run_bind, StateT.run_bind, hrun, ExceptT.run_bind, StateT.run_bind]
  cases hy : y.run.run s with
  | mk r s' =>
    rw [hy] at hfails hgives
    cases r with
    | error cause =>
      refine ⟨calls, rfl, ?_, ?_⟩
      · intro cause' h
        cases h
        exact hfails cause rfl
      · intro b h
        cases h
    | ok a =>
      obtain ⟨more, hrun', hfails', hends⟩ := hf calls a (hgives a rfl) s' (log ++ calls)
      refine ⟨calls ++ more, ?_, hfails', hends⟩
      rw [List.append_assoc] at hrun'
      exact hrun'

theorem Records.mono {x : ExceptT ParseError (StateM (σ × List Call)) α}
    {y : ExceptT ParseError (StateM σ) α} (h : Records x y fails gives)
    (hfails : ∀ calls cause, fails calls cause → fails' calls cause)
    (hgives : ∀ calls a, gives calls a → gives' calls a) : Records x y fails' gives' := by
  intro s log
  obtain ⟨calls, hrun, hcause, hresult⟩ := h s log
  exact ⟨calls, hrun, fun cause hy => hfails _ _ (hcause cause hy),
    fun a hy => hgives _ _ (hresult a hy)⟩

/-- A question is one call. -/
theorem records_ask (meaning : Operand → ExceptT ParseError (StateM σ) Expression) (o : Operand) :
    Records (logged meaning o) (meaning o) (fun calls cause => calls = [⟨o, .error cause⟩])
      fun calls e => calls = [⟨o, .ok e⟩] := by
  intro s log
  refine ⟨[⟨o, ((meaning o).run.run s).1⟩], rfl, ?_, ?_⟩
  · intro cause hrun
    rw [hrun]
  · intro e hrun
    rw [hrun]

end

/-! ## §2. Runs of items -/

/-- The operands of a text, from its tokens: the runs of items with commas between them. -/
def operandRuns : List TokenKind → List Operand
  | [] => []
  | .item s :: .comma :: .item t :: kinds =>
    match operandRuns (.item t :: kinds) with
    | [] => [[s]]
    | run :: more => (s :: run) :: more
  | .item s :: kinds => [s] :: operandRuns kinds
  | _ :: kinds => operandRuns kinds

/-- Two runs, the first one of two items. -/
example : operandRuns [.not, .item "a", .comma, .item "b", .and, .comma, .item "c"]
    = [["a", "b"], ["c"]] := rfl

/-- A token that is no item belongs to no run. -/
theorem operandRuns_skip {kind : TokenKind} (h : ∀ s, kind ≠ .item s) (kinds : List TokenKind) :
    operandRuns (kind :: kinds) = operandRuns kinds := by
  cases kind with
  | item s => exact absurd rfl (h s)
  | _ => rfl

/-- **A run ends where no comma follows.** -/
theorem operandRuns_operand (first : String) (more : List String) {rest : List TokenKind}
    (h : rest.head? ≠ some .comma) :
    operandRuns (.item first :: (Derivation.itemTokens more ++ rest))
      = (first :: more) :: operandRuns rest := by
  induction more generalizing first with
  | nil =>
    show operandRuns (.item first :: rest) = _
    cases rest with
    | nil => rfl
    | cons kind rest =>
      cases kind with
      | comma => exact absurd rfl h
      | _ => rfl
  | cons s more ih =>
    show operandRuns (.item first :: .comma :: .item s :: (Derivation.itemTokens more ++ rest)) = _
    rw [operandRuns, ih s]

/-! ## §3. What is asked and answered -/

/-- The tree joins these conditions, each of them once and in this order, by `!` and connectives. -/
inductive Joins : List Expression → Expression → Prop where
  | one (e : Expression) : Joins [e] e
  | not {es : List Expression} {e : Expression} (h : Joins es e) : Joins es e.not
  | both {es fs : List Expression} {e f : Expression} {op : Operator}
      (hop : op.isLogical = true) (he : Joins es e) (hf : Joins fs f) :
      Joins (es ++ fs) (.binary e op f)

/-- The operands that were asked for. -/
def operandsOf (calls : List Call) : List Operand := calls.map Call.operand

/-- All answers were conditions. -/
def Answered (calls : List Call) (es : List Expression) : Prop :=
  calls.map Call.answer = es.map .ok

/-- No operand with a blank item was asked for. -/
def AskedMatter (calls : List Call) : Prop :=
  ∀ o ∈ operandsOf calls, ∀ item ∈ o, Text.trim item.toList ≠ []

/-- From these tokens to the rest of them, the calls are for the runs in between, and answered. -/
structure Passed (ts : List Token) (calls : List Call) (es : List Expression) (rest : List Token) :
    Prop where
  asked : operandRuns (ts.map Token.kind)
    = operandsOf calls ++ operandRuns (rest.map Token.kind)
  matter : AskedMatter calls
  answered : Answered calls es

/-- A reader that fails has asked for the first runs.  An answer that was no condition was the
last one, and is the cause. -/
structure Failing (ts : List Token) (calls : List Call) (cause : ParseError) : Prop where
  asked : operandsOf calls <+: operandRuns (ts.map Token.kind)
  matter : AskedMatter calls
  answers : (∃ es, Answered calls es)
    ∨ ∃ before o es, calls = before ++ [⟨o, .error cause⟩] ∧ Answered before es

/-- A reader that gives a tree has passed to the rest, and the tree joins the conditions that were
there before and the answers. -/
def Giving (es : List Expression) (ts : List Token) (calls : List Call)
    (found : Expression × List Token) : Prop :=
  ∃ fs, Passed ts calls fs found.2 ∧ Joins (es ++ fs) found.1

section
variable {ts mid rest : List Token} {calls more : List Call} {es fs : List Expression}
  {cause : ParseError}

theorem AskedMatter.append (h : AskedMatter calls) (h' : AskedMatter more) :
    AskedMatter (calls ++ more) := by
  intro o ho
  unfold operandsOf at ho
  rw [List.map_append] at ho
  rcases List.mem_append.1 ho with ho | ho
  · exact h o ho
  · exact h' o ho

theorem Answered.append (h : Answered calls es) (h' : Answered more fs) :
    Answered (calls ++ more) (es ++ fs) := by
  unfold Answered at *
  rw [List.map_append, List.map_append, h, h']

theorem askedMatter_nil : AskedMatter [] := by
  intro o ho
  cases ho

theorem Passed.refl (ts : List Token) : Passed ts [] [] ts := ⟨rfl, askedMatter_nil, rfl⟩

theorem Passed.trans (h : Passed ts calls es mid) (h' : Passed mid more fs rest) :
    Passed ts (calls ++ more) (es ++ fs) rest where
  asked := by
    rw [h.asked, h'.asked, ← List.append_assoc]
    unfold operandsOf
    rw [List.map_append]
  matter := h.matter.append h'.matter
  answered := h.answered.append h'.answered

/-- **A failure further on.** -/
theorem Passed.failing (h : Passed ts calls es mid) (h' : Failing mid more cause) :
    Failing ts (calls ++ more) cause where
  asked := by
    have hmore : operandsOf (calls ++ more) = operandsOf calls ++ operandsOf more := List.map_append
    rw [hmore, h.asked]
    exact (List.prefix_append_right_inj _).2 h'.asked
  matter := h.matter.append h'.matter
  answers := by
    rcases h'.answers with ⟨fs, hfs⟩ | ⟨before, o, fs, rfl, hfs⟩
    · exact .inl ⟨es ++ fs, h.answered.append hfs⟩
    · exact .inr ⟨calls ++ before, o, es ++ fs, (List.append_assoc _ _ _).symm,
        h.answered.append hfs⟩

/-- A token that is no item is passed in silence. -/
theorem Passed.step {t : Token} (h : Passed ts calls es (t :: rest)) (ht : ∀ s, t.kind ≠ .item s) :
    Passed ts calls es rest := by
  refine ⟨?_, h.matter, h.answered⟩
  rw [h.asked, List.map_cons, operandRuns_skip ht]

/-- So is the end of a computation. -/
theorem Passed.last (h : Passed ts calls es rest) : Passed ts (calls ++ []) es rest := by
  rwa [List.append_nil]

theorem failing_unasked (ts : List Token) (cause : ParseError) : Failing ts [] cause :=
  ⟨List.nil_prefix, askedMatter_nil, .inl ⟨[], rfl⟩⟩

/-- A failure right behind what was passed. -/
theorem Passed.failing_here (h : Passed ts calls es mid) (cause : ParseError) :
    Failing ts (calls ++ []) cause :=
  h.failing (failing_unasked mid cause)

end

/-! ## §4. Readers -/

section
variable {σ : Type} {read unit : Reader (StateM (σ × List Call))}
  {read' unit' : Reader (StateM σ)} {ts : List Token}

/-- What a reader asks for, with a log and without one. -/
def Asks (read : Reader (StateM (σ × List Call))) (read' : Reader (StateM σ)) : Prop :=
  ∀ ts, Records (read ts) (read' ts) (Failing ts) (Giving [] ts)

/-- Behind a token that is no item. -/
theorem Asks.behind (h : Asks read read') {t : Token} (ht : ∀ s, t.kind ≠ .item s)
    (ts : List Token) :
    Records (read ts) (read' ts) (Failing (t :: ts)) (Giving [] (t :: ts)) := by
  have hskip := (Passed.refl (t :: ts)).step ht
  apply (h ts).mono
  · intro calls cause hfailing
    exact hskip.failing hfailing
  · rintro calls found ⟨fs, hpassed, hjoins⟩
    exact ⟨fs, hskip.trans hpassed, hjoins⟩

/-- To refuse a tree for its height is to ask nothing. -/
theorem bounded_records (e : Expression) {fails : List Call → ParseError → Prop}
    (h : ∀ cause, fails [] cause) :
    Records (σ := σ) (liftM (bounded e)) (liftM (bounded e)) fails
      fun calls e' => calls = [] ∧ e' = e := by
  apply Records.lift
  · intro cause _
    exact h cause
  · intro e' he'
    unfold bounded at he'
    split at he'
    · exact ⟨rfl, (Except.ok.inj he').symm⟩
    · cases he'

/-- **Each link of a chain asks what its unit asks**, and joins the answers to those before. -/
theorem chain_asks (h : Asks unit unit') {kind : TokenKind} (hkind : ∀ s, kind ≠ .item s)
    {op : Operator} (hop : op.isLogical = true) (fuel : Nat) {es : List Expression}
    {left : Expression} (hleft : Joins es left) (ts : List Token) :
    Records (chain kind op unit fuel left ts) (chain kind op unit' fuel left ts) (Failing ts)
      (Giving es ts) := by
  have hdone (ts : List Token) : Giving es ts [] (left, ts) :=
    ⟨[], Passed.refl ts, by rw [List.append_nil]; exact hleft⟩
  induction fuel generalizing es left ts with
  | zero => exact Records.pure (hdone ts)
  | succ fuel ih =>
    cases ts with
    | nil => exact Records.pure (hdone [])
    | cons t ts =>
      rw [chain, chain]
      by_cases ht : t.kind = kind
      · rw [if_pos ht, if_pos ht]
        apply (h.behind (ht ▸ hkind) ts).bind
        rintro calls ⟨right, rest⟩ ⟨fs, hpassed, hright⟩
        apply (bounded_records _ fun cause => ?_).bind
        · rintro _ joined ⟨rfl, rfl⟩
          have hjoined : Joins (es ++ fs) (.binary left op right) := .both hop hleft hright
          apply (ih hjoined rest fun ts => ⟨[], Passed.refl ts, by
            rw [List.append_nil]; exact hjoined⟩).mono
          · intro more cause hfailing
            exact hpassed.failing hfailing
          · rintro more found ⟨gs, hrest, hfound⟩
            exact ⟨fs ++ gs, hpassed.trans hrest, by rw [← List.append_assoc]; exact hfound⟩
        · exact hpassed.failing_here cause
      · rw [if_neg ht, if_neg ht]
        exact Records.pure (hdone (t :: ts))

theorem chainReader_asks (h : Asks unit unit') {kind : TokenKind} (hkind : ∀ s, kind ≠ .item s)
    {op : Operator} (hop : op.isLogical = true) :
    Asks (fun ts => unit ts >>= fun found => chain kind op unit found.2.length found.1 found.2)
      fun ts => unit' ts >>= fun found => chain kind op unit' found.2.length found.1 found.2 := by
  intro ts
  apply (h ts).bind
  rintro calls ⟨left, rest⟩ ⟨fs, hpassed, hleft⟩
  apply (chain_asks h hkind hop rest.length hleft rest).mono
  · intro more cause hfailing
    exact hpassed.failing hfailing
  · rintro more found ⟨gs, hrest, hfound⟩
    exact ⟨fs ++ gs, hpassed.trans hrest, hfound⟩

theorem orChain_asks (h : Asks unit unit') : Asks (orChain unit) (orChain unit') := by
  have hand_item : ∀ s, TokenKind.and ≠ .item s := by
    intro s hs
    cases hs
  have hor_item : ∀ s, TokenKind.or ≠ .item s := by
    intro s hs
    cases hs
  have hand : Asks (andChain unit) (andChain unit') := chainReader_asks h hand_item rfl
  exact chainReader_asks hand hor_item rfl

/-- Behind the further items of an operand there is no comma. -/
theorem head?_ne_comma_of_moreItems {items : List String} {rest : List Token}
    (h : moreItems ts = .ok (items, rest)) : (rest.map Token.kind).head? ≠ some .comma := by
  fun_induction moreItems ts generalizing items with
  | case1 p s q ts ih =>
    cases hmore : moreItems ts with
    | error cause =>
      rw [hmore] at h
      cases h
    | ok found =>
      rw [hmore] at h
      cases h
      exact ih hmore
  | case2 => cases h
  | case3 => cases h
  | case4 ts hitem hother hlast =>
    cases h
    intro hcomma
    cases rest with
    | nil => cases hcomma
    | cons t rest =>
      obtain ⟨kind, position⟩ := t
      obtain rfl : kind = .comma := Option.some.inj hcomma
      cases rest with
      | nil => exact hlast position rfl
      | cons t rest => exact hother position t rest rfl

/-- The run in front of what an operand leaves. -/
theorem operandRuns_of_operand {first : String} {o : Operand} {rest : List Token}
    (h : operand first ts = .ok (o, rest)) (position : Nat) :
    operandRuns ((⟨.item first, position⟩ :: ts).map Token.kind)
      = o :: operandRuns (rest.map Token.kind) := by
  obtain ⟨more, rfl, htokens, -⟩ := operand_tokens h
  have hcomma : (rest.map Token.kind).head? ≠ some .comma := by
    unfold operand at h
    cases hmore : moreItems ts with
    | error cause =>
      rw [hmore] at h
      cases h
    | ok found =>
      obtain ⟨items, rest'⟩ := found
      simp only [hmore, bind, Except.bind] at h
      split at h
      · cases h
      · cases h
        exact head?_ne_comma_of_moreItems hmore
  rw [List.map_cons, htokens]
  exact operandRuns_operand first more hcomma

variable (meaning : Operand → ExceptT ParseError (StateM σ) Expression)

/-- **An operand is asked for when it has been read.** -/
theorem item_asks (levels : Nat) (first : String) (position : Nat) (ts : List Token) :
    Records (unary (logged meaning) levels (⟨.item first, position⟩ :: ts))
      (unary meaning levels (⟨.item first, position⟩ :: ts))
      (Failing (⟨.item first, position⟩ :: ts)) (Giving [] (⟨.item first, position⟩ :: ts)) := by
  have hlogged : unary (logged meaning) levels (⟨.item first, position⟩ :: ts) = (do
      let found ← (liftM (operand first ts) : ExceptT ParseError (StateM _) _)
      let e ← logged meaning found.1
      pure (e, found.2)) := by
    cases levels <;> rfl
  have hplain : unary meaning levels (⟨.item first, position⟩ :: ts) = (do
      let found ← (liftM (operand first ts) : ExceptT ParseError (StateM σ) _)
      let e ← meaning found.1
      pure (e, found.2)) := by
    cases levels <;> rfl
  have hread : Records (σ := σ) (liftM (operand first ts)) (liftM (operand first ts))
      (Failing (⟨.item first, position⟩ :: ts))
      fun calls found => calls = [] ∧ operand first ts = .ok found := by
    apply Records.lift
    · intro cause _
      exact failing_unasked _ cause
    · intro found hfound
      exact ⟨rfl, hfound⟩
  rw [hlogged, hplain]
  apply hread.bind
  rintro _ ⟨o, rest⟩ ⟨rfl, ho⟩
  have hrun := operandRuns_of_operand ho position
  obtain ⟨more, hmore, -, hitems⟩ := operand_tokens ho
  have hmatter (answer : Except ParseError Expression) : AskedMatter [⟨o, answer⟩] := by
    intro o' ho'
    rw [List.mem_singleton.1 ho']
    exact hitems
  have hasked : Records (logged meaning o) (meaning o) (Failing (⟨.item first, position⟩ :: ts))
      fun calls e => calls = [⟨o, .ok e⟩] := by
    apply (records_ask meaning o).mono
    · rintro _ cause rfl
      refine ⟨?_, hmatter _, .inr ⟨[], o, [], rfl, rfl⟩⟩
      rw [hrun]
      exact ⟨_, rfl⟩
    · intro calls e hcalls
      exact hcalls
  apply hasked.bind
  rintro _ e rfl
  refine Records.pure ⟨[e], ⟨?_, hmatter _, rfl⟩, .one e⟩
  rw [hrun]
  rfl

/-- **What stands behind a connective or in parentheses**, by the levels that are allowed. -/
theorem unary_asks (levels : Nat) :
    Asks (unary (logged meaning) levels) (unary meaning levels) := by
  induction levels with
  | zero =>
    intro ts
    rcases ts with _ | ⟨⟨kind, position⟩, ts⟩
    · exact Records.throw (failing_unasked _ _)
    · cases kind with
      | item first => exact item_asks meaning 0 first position ts
      | _ => exact Records.throw (failing_unasked _ _)
  | succ levels ih =>
    intro ts
    rcases ts with _ | ⟨⟨kind, position⟩, ts⟩
    · exact Records.throw (failing_unasked _ _)
    · cases kind with
      | item first => exact item_asks meaning (levels + 1) first position ts
      | not =>
        rw [unary, unary]
        apply (ih.behind (t := ⟨.not, position⟩) (by intro s hs; cases hs) ts).bind
        rintro calls ⟨e, rest⟩ ⟨fs, hpassed, hjoins⟩
        apply (bounded_records _ fun cause => ?_).bind
        · rintro _ e' ⟨rfl, rfl⟩
          exact Records.pure ⟨fs, hpassed.last, .not hjoins⟩
        · exact hpassed.failing_here cause
      | openParen =>
        rw [unary, unary]
        have hinner := (orChain_asks ih).behind (t := ⟨.openParen, position⟩)
          (by intro s hs; cases hs) ts
        apply hinner.bind
        rintro calls ⟨e, rest⟩ ⟨fs, hpassed, hjoins⟩
        rcases rest with _ | ⟨⟨kind, position'⟩, rest⟩
        · exact Records.throw (hpassed.failing_here _)
        · cases kind with
          | closeParen =>
            have hbehind := hpassed.step (by intro s hs; cases hs)
            exact Records.pure ⟨fs, hbehind.last, hjoins⟩
          | _ => exact Records.throw (hpassed.failing_here _)
      | _ => exact Records.throw (failing_unasked _ _)

end

/-! ## §5. Whole formulas -/

/-- The questions of one reading of a text, which came to this end. -/
structure AskedInTurn (cs : List Char) (calls : List Call) (r : Except ParseError Expression) :
    Prop where
  /-- The first operands of the text are asked for, each of them once, as they are written. -/
  asked : ∀ kinds, Lexes cs kinds → operandsOf calls <+: operandRuns kinds
  /-- No operand of a text without tokens is asked for, -/
  unread : (¬ ∃ kinds, Lexes cs kinds) → calls = []
  /-- and none with a blank item. -/
  matter : AskedMatter calls
  /-- A tree joins the answers for all operands of the text. -/
  tree : ∀ e, r = .ok e → ∃ kinds es, Lexes cs kinds ∧ operandsOf calls = operandRuns kinds
    ∧ Answered calls es ∧ Joins es e
  /-- A refusal is the last answer, and is passed on. -/
  refusal : ∀ before o cause behind, calls = before ++ ⟨o, .error cause⟩ :: behind →
    behind = [] ∧ r = .error cause

section
variable {cs : List Char} {ts : List Token} {calls : List Call} {es : List Expression} {o : Operand}
  {cause : ParseError} {e : Expression}

theorem not_mem_of_answered (h : Answered calls es) : ⟨o, .error cause⟩ ∉ calls := by
  intro hmem
  have hanswer : .error cause ∈ calls.map Call.answer := List.mem_map.2 ⟨_, hmem, rfl⟩
  rw [h] at hanswer
  obtain ⟨e, -, he⟩ := List.mem_map.1 hanswer
  cases he

/-- Nothing was asked. -/
theorem askedInTurn_nil (cause : ParseError) : AskedInTurn cs [] (.error cause) where
  asked _ _ := List.nil_prefix
  unread _ := rfl
  matter := askedMatter_nil
  tree e he := by cases he
  refusal before o cause' behind h := by simp at h

theorem askedInTurn_of_failing (h : tokens cs = .ok ts) (hfailing : Failing ts calls cause) :
    AskedInTurn cs calls (.error cause) where
  asked kinds hkinds := by
    rw [hkinds.unique (lexes_of_tokensFrom h)]
    exact hfailing.asked
  unread hnone := absurd ⟨_, lexes_of_tokensFrom h⟩ hnone
  matter := hfailing.matter
  tree e he := by cases he
  refusal before o cause' behind hcalls := by
    rcases hfailing.answers with ⟨es, hes⟩ | ⟨front, o', es, hfront, hes⟩
    · rw [hcalls] at hes
      exact absurd (List.mem_append_right before List.mem_cons_self) (not_mem_of_answered hes)
    · by_cases hbehind : behind = []
      · subst hbehind
        obtain ⟨-, hlast⟩ := List.append_inj' (hcalls.symm.trans hfront) rfl
        obtain ⟨-, hcause⟩ := Call.mk.inj (List.singleton_inj.1 hlast)
        exact ⟨rfl, hcause.symm⟩
      · -- Before the last call there were only conditions.
        obtain ⟨inner, last, rfl⟩ := Text.exists_concat hbehind
        have hsame : before ++ ⟨o, .error cause'⟩ :: inner ++ [last]
            = front ++ [⟨o', .error cause⟩] := by
          rw [← hfront, hcalls]
          simp
        obtain ⟨hfront', -⟩ := List.append_inj' hsame rfl
        rw [← hfront'] at hes
        exact absurd (List.mem_append_right before List.mem_cons_self) (not_mem_of_answered hes)

theorem askedInTurn_of_passed (h : tokens cs = .ok ts) (hpassed : Passed ts calls es [])
    (hjoins : Joins es e) : AskedInTurn cs calls (.ok e) := by
  have hall : operandsOf calls = operandRuns (ts.map Token.kind) := by
    rw [hpassed.asked]
    exact (List.append_nil _).symm
  refine ⟨?_, ?_, hpassed.matter, ?_, ?_⟩
  · intro kinds hkinds
    refine ⟨[], ?_⟩
    rw [List.append_nil, hkinds.unique (lexes_of_tokensFrom h), hall]
  · intro hnone
    exact absurd ⟨_, lexes_of_tokensFrom h⟩ hnone
  · intro e' he'
    cases he'
    exact ⟨_, es, lexes_of_tokensFrom h, hall, hpassed.answered, hjoins⟩
  · intro before o cause behind hcalls
    have hnone : ⟨o, .error cause⟩ ∉ calls := not_mem_of_answered hpassed.answered
    rw [hcalls] at hnone
    exact absurd (List.mem_append_right before List.mem_cons_self) hnone

end

section
variable {σ : Type} (raw : String) (meaning : Operand → ExceptT ParseError (StateM σ) Expression)

/-- A formula that is refused before its tokens are read. -/
theorem records_of_unasked {cause : ParseError} (h : RefusedUnasked raw cause) :
    Records (compile raw (logged meaning)) (compile raw meaning)
      (fun calls cause => AskedInTurn (Text.trim raw.toList) calls (.error cause))
      fun calls e => AskedInTurn (Text.trim raw.toList) calls (.ok e) := by
  rw [h (StateM (σ × List Call)) (logged meaning), h (StateM σ) meaning]
  exact Records.throw (askedInTurn_nil cause)

theorem compile_records :
    Records (compile raw (logged meaning)) (compile raw meaning)
      (fun calls cause => AskedInTurn (Text.trim raw.toList) calls (.error cause))
      fun calls e => AskedInTurn (Text.trim raw.toList) calls (.ok e) := by
  by_cases hne : Text.trim raw.toList = []
  · exact records_of_unasked raw meaning fun m _ _ _ => compile_of_empty hne
  cases htokens : tokens (Text.trim raw.toList) with
  | error cause => exact records_of_unasked raw meaning fun m _ _ _ => compile_of_stuck hne htokens
  | ok ts =>
    cases hbalance : parensBalance 0 ts with
    | false =>
      exact records_of_unasked raw meaning fun m _ _ _ => compile_of_unpaired hne htokens hbalance
    | true =>
      rw [compile_of_paired hne htokens hbalance, compile_of_paired hne htokens hbalance]
      have hchain : Records (orChain (unary (logged meaning) maxNesting) ts)
          (orChain (unary meaning maxNesting) ts)
          (fun calls cause => AskedInTurn (Text.trim raw.toList) calls (.error cause))
          (Giving [] ts) := by
        apply (orChain_asks (unary_asks meaning maxNesting) ts).mono
        · intro calls cause hfailing
          exact askedInTurn_of_failing htokens hfailing
        · intro calls found hgiving
          exact hgiving
      apply hchain.bind
      rintro calls ⟨e, rest⟩ ⟨es, hpassed, hjoins⟩
      cases rest with
      | nil => exact Records.pure (askedInTurn_of_passed htokens hpassed.last hjoins)
      | cons t rest =>
        exact Records.throw (askedInTurn_of_failing htokens (hpassed.failing_here _))

/-- **Operands are asked for once, in order and intact.**  A meaning that keeps a log makes a
formula come to the same end, with the same state; and the log says that the operands were asked
for in turn, as far as the reading came, that the tree joins the answers in turn, and that a
refusal of an operand was the end. -/
theorem operands_asked_in_turn (s : σ) :
    ∃ r s' calls, (compile raw meaning).run.run s = (r, s')
      ∧ (compile raw (logged meaning)).run.run (s, []) = (r, (s', calls))
      ∧ AskedInTurn (Text.trim raw.toList) calls r := by
  obtain ⟨calls, hrun, hfails, hgives⟩ := compile_records raw meaning s []
  refine ⟨((compile raw meaning).run.run s).1, ((compile raw meaning).run.run s).2, calls, rfl,
    hrun, ?_⟩
  cases hresult : ((compile raw meaning).run.run s).1 with
  | error cause => exact hfails cause hresult
  | ok e => exact hgives e hresult

end

/-- Two operands, the first one of two items. -/
example :
    operandsOf ((compile "x, 'y  z' or !(v)" (logged (σ := Unit) fun o =>
        pure (.literal (.bool o.isEmpty)))).run.run ((), [])).2.2
      = [["x", "y  z"], ["v"]] := by decide +kernel

end ContentGate.Formula
