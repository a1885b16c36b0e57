/-
  ContentGate.Proofs.Notation.Refusals — why formulas are refused, and where.

  A formula passes three checks before any operand is asked for its meaning:
  it is not blank, it lexes, and its parentheses pair up.  Only then are the
  tokens read.  There are four ways for the reading to fail (`Fault`): at a
  token that does not belong there; at the end, although the last token asks
  for more; at a limit; and at an operand.

  That the end comes too early only behind a connective, a `!` or a comma, and
  never in open parentheses, is due to the second check: a reader that starts
  where the parentheses pair up comes to a place where they still do
  (`Careful`), and inside a group this is not the end.  We show this for each
  part of the grammar, by what the part reads, for operands whose meaning may
  depend on a state and change it.

  Main statements:
    * `careful_unary`, `careful_orChain` — how the readers fail, and where they come to;
    * `compile_of_empty`, `compile_of_stuck`, `compile_of_unpaired` — what is refused
      before any operand is asked;
    * `refusals_explained` — every refusal, and what it tells about the text.
-/
import ContentGate.Proofs.Notation.Reading
import ContentGate.Proofs.Notation.TokenPlaces

namespace ContentGate

open Notation

/-! ## §1. Faults of tokens -/

namespace Notation

/-- The tokens behind which a formula does not end. -/
def TokenKind.awaitsMore : TokenKind → Bool
  | .not | .and | .or | .comma => true
  | .openParen | .closeParen | .item _ => false

/-- Why tokens are no formula. -/
inductive Fault (ts : List Token) : ParseError → Prop where
  /-- One of them does not belong where it stands. -/
  | unexpected {t : Token} (ht : t ∈ ts) : Fault ts t.unexpected
  /-- More should follow the last of them, if there is any. -/
  | ended (h : ∀ t ∈ ts.getLast?, t.kind.awaitsMore = true) : Fault ts .unexpectedEnd
  | tooDeep : Fault ts (.nestingTooDeep maxNesting)
  /-- An operand is refused. -/
  | refused (detail : String) : Fault ts (.invalidOperand detail)

variable {ts rest : List Token} {cause : ParseError}

/-- A fault behind a token, unless the fault is that nothing follows it. -/
theorem Fault.cons {t : Token} (h : Fault ts cause) (hlast : ts = [] → t.kind.awaitsMore = true) :
    Fault (t :: ts) cause := by
  cases h with
  | unexpected ht => exact .unexpected (List.mem_cons_of_mem _ ht)
  | ended h =>
    apply Fault.ended
    cases ts with
    | nil =>
      intro u hu
      obtain rfl : t = u := Option.some.inj hu
      exact hlast rfl
    | cons u ts =>
      rw [List.getLast?_cons_cons]
      exact h
  | tooDeep => exact .tooDeep
  | refused detail => exact .refused detail

/-- A fault further on, where there still are tokens. -/
theorem Fault.of_suffix (h : Fault rest cause) (hne : rest ≠ []) (hsuffix : rest <:+ ts) :
    Fault ts cause := by
  obtain ⟨used, rfl⟩ := hsuffix
  induction used with
  | nil => exact h
  | cons t used ih => exact ih.cons fun hnil => absurd (List.append_eq_nil_iff.1 hnil).2 hne

end Notation

/-! ## §2. How computations end -/

section
variable {σ α β : Type}

/-- From any state, the computation fails for such a cause or gives such a result. -/
def Outcomes (fails : ParseError → Prop) (gives : α → Prop) (x : ExceptT ParseError (StateM σ) α) :
    Prop :=
  ∀ s, (∀ cause, (x.run.run s).1 = .error cause → fails cause)
    ∧ ∀ a, (x.run.run s).1 = .ok a → gives a

namespace Outcomes

variable {fails fails' : ParseError → Prop} {gives : α → Prop} {gives' : β → Prop}

theorem pure {a : α} (h : gives a) :
    Outcomes fails gives (Pure.pure a : ExceptT ParseError (StateM σ) α) := by
  intro s
  refine ⟨?_, ?_⟩
  · intro cause hrun
    cases hrun
  · intro b hrun
    cases hrun
    exact h

theorem throw {cause : ParseError} (h : fails cause) :
    Outcomes fails gives (MonadExcept.throw cause : ExceptT ParseError (StateM σ) α) := by
  intro s
  refine ⟨?_, ?_⟩
  · intro cause' hrun
    cases hrun
    exact h
  · intro a hrun
    cases hrun

theorem lift {r : Except ParseError α} (hfails : ∀ cause, r = .error cause → fails cause)
    (hgives : ∀ a, r = .ok a → gives a) :
    Outcomes fails gives (liftM r : ExceptT ParseError (StateM σ) α) := by
  cases r with
  | ok a => exact Outcomes.pure (hgives a rfl)
  | error cause => exact Outcomes.throw (hfails cause rfl)

/-- **One computation after the other.** -/
theorem bind {x : ExceptT ParseError (StateM σ) α} {f : α → ExceptT ParseError (StateM σ) β}
    (hx : Outcomes fails gives x) (hf : ∀ a, gives a → Outcomes fails gives' (f a)) :
    Outcomes fails gives' (x >>= f) := by
  intro s
  rw [ExceptT.run_bind, StateT.run_bind]
  have hfirst := hx s
  cases hrun : x.run.run s with
  | mk r s' =>
    rw [hrun] at hfirst
    cases r with
    | error cause =>
      refine ⟨?_, ?_⟩
      · intro cause' h
        cases h
        exact hfirst.1 cause rfl
      · intro b h
        cases h
    | ok a => exact hf a (hfirst.2 a rfl) s'

theorem mono {x : ExceptT ParseError (StateM σ) α} {gives₁ : α → Prop} (h : Outcomes fails gives x)
    (hfails : ∀ cause, fails cause → fails' cause) (hgives : ∀ a, gives a → gives₁ a) :
    Outcomes fails' gives₁ x := by
  intro s
  refine ⟨?_, ?_⟩
  · intro cause hrun
    exact hfails cause ((h s).1 cause hrun)
  · intro a hrun
    exact hgives a ((h s).2 a hrun)

/-- The causes may be described in another way. -/
theorem blaming {x : ExceptT ParseError (StateM σ) α} (h : Outcomes fails gives x)
    (hfails : ∀ cause, fails cause → fails' cause) : Outcomes fails' gives x :=
  h.mono hfails fun _ ha => ha

end Outcomes

end

namespace Formula

/-! ## §3. Operands -/

section
variable {ts rest : List Token} {items : List String} {cause : ParseError}

/-- After a comma comes an item. -/
theorem fault_of_moreItems (h : moreItems ts = .error cause) : ts ≠ [] ∧ Fault ts cause := by
  fun_induction moreItems ts with
  | case1 p s q ts ih =>
    cases hmore : moreItems ts with
    | ok found =>
      rw [hmore] at h
      cases h
    | error cause' =>
      rw [hmore] at h
      cases h
      obtain ⟨hne, hfault⟩ := ih hmore
      exact ⟨List.cons_ne_nil _ _, hfault.of_suffix hne ⟨[⟨.comma, p⟩, ⟨.item s, q⟩], rfl⟩⟩
  | case2 p t ts _ =>
    cases h
    exact ⟨List.cons_ne_nil _ _, .unexpected (List.mem_cons_of_mem _ List.mem_cons_self)⟩
  | case3 p =>
    cases h
    refine ⟨List.cons_ne_nil _ _, .ended ?_⟩
    intro t ht
    cases ht
    rfl
  | case4 => cases h

/-- Behind the further items the parentheses pair up as before. -/
theorem suffix_of_moreItems (h : moreItems ts = .ok (items, rest)) :
    rest <:+ ts ∧ ∀ depth, parensBalance depth rest = parensBalance depth ts := by
  fun_induction moreItems ts generalizing items with
  | case1 p s q ts ih =>
    cases hmore : moreItems ts with
    | error cause =>
      rw [hmore] at h
      cases h
    | ok found =>
      rw [hmore] at h
      cases h
      obtain ⟨hsuffix, hbalance⟩ := ih hmore
      exact ⟨hsuffix.trans ⟨[⟨.comma, p⟩, ⟨.item s, q⟩], rfl⟩, hbalance⟩
  | case2 => cases h
  | case3 => cases h
  | case4 ts =>
    cases h
    exact ⟨List.suffix_rfl, fun _ => rfl⟩

/-- Behind its first item, an operand is refused for an item or for a fault. -/
theorem fault_of_operand {first : String} (h : operand first ts = .error cause) (t : Token) :
    Fault (t :: ts) cause := by
  unfold operand at h
  cases hmore : moreItems ts with
  | error cause' =>
    rw [hmore] at h
    cases h
    obtain ⟨hne, hfault⟩ := fault_of_moreItems hmore
    exact hfault.cons fun hnil => absurd hnil hne
  | ok found =>
    obtain ⟨more, rest⟩ := found
    simp only [hmore, bind, Except.bind] at h
    cases hblank : (first :: more).find? (Text.blank ·.toList) with
    | none =>
      rw [hblank] at h
      cases h
    | some item =>
      rw [hblank] at h
      cases h
      exact .refused _

theorem suffix_of_operand {first : String} {o : Operand} (h : operand first ts = .ok (o, rest)) :
    rest <:+ ts ∧ ∀ depth, parensBalance depth rest = parensBalance depth ts := by
  unfold operand at h
  cases hmore : moreItems ts with
  | error cause =>
    rw [hmore] at h
    cases h
  | ok found =>
    obtain ⟨more, rest'⟩ := found
    simp only [hmore, bind, Except.bind] at h
    cases hblank : (first :: more).find? (Text.blank ·.toList) with
    | some item =>
      rw [hblank] at h
      cases h
    | none =>
      rw [hblank] at h
      cases h
      exact suffix_of_moreItems hmore

end

/-! ## §4. Readers -/

section
variable {σ : Type}

/-- Where a reader comes to, from tokens whose parentheses pair up behind `depth` open ones:
to some of these tokens, and there the parentheses still do. -/
def Arrives (depth : Nat) (ts : List Token) (found : Expression × List Token) : Prop :=
  found.2 <:+ ts ∧ parensBalance depth found.2 = true

theorem Arrives.trans {depth : Nat} {ts : List Token} {found found' : Expression × List Token}
    (h : Arrives depth ts found) (h' : Arrives depth found.2 found') : Arrives depth ts found' :=
  ⟨h'.1.trans h.1, h'.2⟩

/-- A reader that fails only for faults of the tokens, and keeps track of the parentheses. -/
def Careful (read : Reader (StateM σ)) : Prop :=
  ∀ depth ts, parensBalance depth ts = true → Outcomes (Fault ts) (Arrives depth ts) (read ts)

/-- A tree is refused for its height only. -/
theorem bounded_outcomes {fails : ParseError → Prop} (h : fails (.nestingTooDeep maxNesting))
    (e : Expression) :
    Outcomes (σ := σ) fails (fun _ => True) (liftM (bounded e)) := by
  apply Outcomes.lift
  · intro cause hcause
    unfold bounded at hcause
    split at hcause
    · cases hcause
    · cases hcause
      exact h
  · intro _ _
    trivial

variable {read unit : Reader (StateM σ)}

/-- A reader behind a token that leaves the parentheses alone and asks for more. -/
theorem Careful.behind (h : Careful read) {depth : Nat} {t : Token} {ts : List Token}
    (ht : t.kind.awaitsMore = true) (hbalance : parensBalance depth (t :: ts) = true) :
    Outcomes (Fault (t :: ts)) (Arrives depth (t :: ts)) (read ts) := by
  have hts : parensBalance depth ts = true := by
    obtain ⟨kind, position⟩ := t
    cases kind with
    | not | and | or | comma => exact hbalance
    | openParen | closeParen | item s => cases ht
  apply (h depth ts hts).mono
  · intro cause hfault
    exact hfault.cons fun _ => ht
  · intro found harrives
    exact ⟨harrives.1.trans (List.suffix_cons t ts), harrives.2⟩

/-- What is done further on, where it fails only if there still are tokens. -/
theorem Arrives.further {depth : Nat} {ts : List Token} {found : Expression × List Token}
    {x : ExceptT ParseError (StateM σ) (Expression × List Token)} (h : Arrives depth ts found)
    (hx : Outcomes (fun cause => found.2 ≠ [] ∧ Fault found.2 cause) (Arrives depth found.2) x) :
    Outcomes (Fault ts) (Arrives depth ts) x := by
  apply hx.mono
  · intro cause hfault
    exact hfault.2.of_suffix hfault.1 h.1
  · intro found' h'
    exact h.trans h'

/-- **One link after the other.**  If a chain fails, it does so at a link, so there are tokens. -/
theorem chain_outcomes (hunit : Careful unit) {kind : TokenKind} (hkind : kind.awaitsMore = true)
    (op : Operator) (fuel : Nat) (left : Expression) {depth : Nat} {ts : List Token}
    (hbalance : parensBalance depth ts = true) :
    Outcomes (fun cause => ts ≠ [] ∧ Fault ts cause) (Arrives depth ts)
      (chain kind op unit fuel left ts) := by
  induction fuel generalizing left ts with
  | zero => exact Outcomes.pure ⟨List.suffix_rfl, hbalance⟩
  | succ fuel ih =>
    cases ts with
    | nil => exact Outcomes.pure ⟨List.suffix_rfl, hbalance⟩
    | cons t ts =>
      rw [chain]
      by_cases ht : t.kind = kind
      · rw [if_pos ht]
        have hright := hunit.behind (by rw [ht]; exact hkind) hbalance
        have hlinks : Outcomes (Fault (t :: ts)) (Arrives depth (t :: ts))
            (unit ts >>= fun found => bounded (.binary left op found.1) >>= fun joined =>
              chain kind op unit fuel joined found.2) := by
          apply hright.bind
          intro found harrives
          apply (bounded_outcomes .tooDeep _).bind
          intro joined _
          exact harrives.further (ih joined harrives.2)
        apply hlinks.blaming
        intro cause hfault
        exact ⟨List.cons_ne_nil _ _, hfault⟩
      · rw [if_neg ht]
        exact Outcomes.pure ⟨List.suffix_rfl, hbalance⟩

/-- A unit, and then a chain of further ones. -/
theorem careful_chain (hunit : Careful unit) {kind : TokenKind} (hkind : kind.awaitsMore = true)
    (op : Operator) :
    Careful fun ts => unit ts >>= fun found =>
      chain kind op unit found.2.length found.1 found.2 := by
  intro depth ts hbalance
  apply (hunit depth ts hbalance).bind
  intro found harrives
  exact harrives.further (chain_outcomes hunit hkind op _ found.1 harrives.2)

theorem careful_orChain (hunit : Careful unit) : Careful (orChain unit) :=
  careful_chain (careful_chain hunit rfl .and) rfl .or

variable {meaning : Operand → ExceptT ParseError (StateM σ) Expression}

/-- The meanings fail, if at all, as operands do. -/
def OnlyRefuses (meaning : Operand → ExceptT ParseError (StateM σ) Expression) : Prop :=
  ∀ o, Outcomes (fun cause => ∃ detail, cause = .invalidOperand detail) (fun _ => True) (meaning o)

/-- An operand from its first item on. -/
theorem item_outcomes (hmeaning : OnlyRefuses meaning) (levels : Nat) {first : String}
    {position depth : Nat} {ts : List Token}
    (hbalance : parensBalance depth (⟨.item first, position⟩ :: ts) = true) :
    Outcomes (Fault (⟨.item first, position⟩ :: ts)) (Arrives depth (⟨.item first, position⟩ :: ts))
      (unary meaning levels (⟨.item first, position⟩ :: ts)) := by
  have hread : unary meaning levels (⟨.item first, position⟩ :: ts)
      = (liftM (operand first ts) >>= fun found => do
          let e ← meaning found.1
          pure (e, found.2)) := by
    cases levels <;> rfl
  have hitems : Outcomes (σ := σ) (Fault (⟨.item first, position⟩ :: ts))
      (fun found : Operand × List Token => found.2 <:+ ⟨.item first, position⟩ :: ts
        ∧ parensBalance depth found.2 = true) (liftM (operand first ts)) := by
    apply Outcomes.lift
    · intro cause hcause
      exact fault_of_operand hcause _
    · intro found hfound
      obtain ⟨hsuffix, hkept⟩ := suffix_of_operand hfound
      exact ⟨hsuffix.trans (List.suffix_cons _ _), (hkept depth).trans hbalance⟩
  rw [hread]
  apply hitems.bind
  intro found harrives
  have hasked : Outcomes (Fault (⟨.item first, position⟩ :: ts)) (fun _ => True)
      (meaning found.1) := by
    apply (hmeaning found.1).blaming
    rintro cause ⟨detail, rfl⟩
    exact .refused detail
  apply hasked.bind
  intro e _
  exact Outcomes.pure harrives

/-- A group.  Inside it a parenthesis is open, so the tokens are never at their end. -/
theorem group_outcomes {levels : Nat} (h : Careful (unary meaning levels)) {position depth : Nat}
    {ts : List Token} (hbalance : parensBalance depth (⟨.openParen, position⟩ :: ts) = true) :
    Outcomes (Fault (⟨.openParen, position⟩ :: ts)) (Arrives depth (⟨.openParen, position⟩ :: ts))
      (unary meaning (levels + 1) (⟨.openParen, position⟩ :: ts)) := by
  have hinside : parensBalance (depth + 1) ts = true := hbalance
  have hne : ∀ {us : List Token}, parensBalance (depth + 1) us = true → us ≠ [] := by
    rintro us hus rfl
    cases hus
  have hinner : Outcomes (Fault (⟨.openParen, position⟩ :: ts)) (Arrives (depth + 1) ts)
      (orChain (unary meaning levels) ts) := by
    apply (careful_orChain h (depth + 1) ts hinside).blaming
    intro cause hfault
    exact hfault.cons fun hnil => absurd hnil (hne hinside)
  rw [unary]
  apply hinner.bind
  rintro ⟨e, rest⟩ ⟨hsuffix, hrest⟩
  have hsuffix' := hsuffix.trans (List.suffix_cons ⟨.openParen, position⟩ ts)
  cases rest with
  | nil => exact absurd rfl (hne hrest)
  | cons u rest =>
    obtain ⟨kind, position'⟩ := u
    cases kind with
    | closeParen => exact Outcomes.pure ⟨(List.suffix_cons _ rest).trans hsuffix', hrest⟩
    | openParen | not | and | or | comma | item s =>
      exact Outcomes.throw (.unexpected (hsuffix'.subset List.mem_cons_self))

/-- **What stands behind a connective or in parentheses**, by the levels that are allowed. -/
theorem careful_unary (hmeaning : OnlyRefuses meaning) (levels : Nat) :
    Careful (unary meaning levels) := by
  induction levels with
  | zero =>
    intro depth ts hbalance
    cases ts with
    | nil =>
      rw [unary]
      exact Outcomes.throw (.ended (by simp))
    | cons t ts =>
      obtain ⟨kind, position⟩ := t
      cases kind with
      | not | openParen => exact Outcomes.throw .tooDeep
      | item first => exact item_outcomes hmeaning 0 hbalance
      | closeParen | and | or | comma => exact Outcomes.throw (.unexpected List.mem_cons_self)
  | succ levels ih =>
    intro depth ts hbalance
    cases ts with
    | nil =>
      rw [unary]
      exact Outcomes.throw (.ended (by simp))
    | cons t ts =>
      obtain ⟨kind, position⟩ := t
      cases kind with
      | not =>
        rw [unary]
        apply (ih.behind rfl hbalance).bind
        intro found harrives
        apply (bounded_outcomes .tooDeep _).bind
        intro e _
        exact Outcomes.pure harrives
      | openParen => exact group_outcomes ih hbalance
      | item first => exact item_outcomes hmeaning (levels + 1) hbalance
      | closeParen | and | or | comma => exact Outcomes.throw (.unexpected List.mem_cons_self)

end

/-! ## §5. Whole formulas -/

section
variable {m : Type → Type} [Monad m] [LawfulMonad m] {α β : Type}

theorem throw_bind (cause : ParseError) (f : α → ExceptT ParseError m β) :
    ((throw cause : ExceptT ParseError m α) >>= f) = throw cause := by
  apply ExceptT.ext
  rw [ExceptT.run_bind, ExceptT.run_throw, pure_bind]
  rfl

variable {meaning : Operand → ExceptT ParseError m Expression} {raw : String} {ts : List Token}
  {cause : ParseError}

/-- A blank text is refused at once; -/
theorem compile_of_empty (h : Text.trim raw.toList = []) :
    compile raw meaning = throw .emptyExpression := by
  unfold compile
  simp only [h, List.isEmpty_nil, if_true]
  exact throw_bind _ _

/-- then one that does not lex, -/
theorem compile_of_stuck (hne : Text.trim raw.toList ≠ [])
    (h : tokens (Text.trim raw.toList) = .error cause) : compile raw meaning = throw cause := by
  unfold compile
  simp only [List.isEmpty_iff, hne, if_false, h]
  exact throw_bind _ _

/-- and one whose parentheses do not pair up. -/
theorem compile_of_unpaired (hne : Text.trim raw.toList ≠ [])
    (h : tokens (Text.trim raw.toList) = .ok ts) (hbalance : parensBalance 0 ts = false) :
    compile raw meaning
      = throw (.unbalancedParentheses (String.ofList (Text.trim raw.toList))) := by
  unfold compile
  simp only [List.isEmpty_iff, hne, if_false, h]
  show (pure ts >>= fun ts => _) = _
  rw [pure_bind, hbalance]
  exact throw_bind _ _

/-- What is not refused then is read, and nothing may be left. -/
theorem compile_of_paired (hne : Text.trim raw.toList ≠ [])
    (h : tokens (Text.trim raw.toList) = .ok ts) (hbalance : parensBalance 0 ts = true) :
    compile raw meaning = orChain (unary meaning maxNesting) ts >>= fun found =>
      match found.2 with
      | t :: _ => throw t.unexpected
      | [] => pure found.1 := by
  unfold compile
  simp only [List.isEmpty_iff, hne, if_false, h]
  show (pure ts >>= fun ts => _) = _
  rw [pure_bind, hbalance]
  rfl

end

/-! ## §6. Refusals and the text -/

/-- The refusals that come before any operand is asked for its meaning. -/
def isEarly : ParseError → Bool
  | .emptyExpression | .invalidCharacter _ _ => true
  | .unbalancedQuotes _ | .unbalancedParentheses _ => true
  | _ => false

/-- What a refusal tells about a trimmed text. -/
def Explained (cs : List Char) : ParseError → Prop
  | .emptyExpression => cs = []
  | .invalidCharacter c position =>
    ∃ before behind, cs = before ++ c :: behind ∧ Text.utf8Length before = position
      ∧ (∃ kinds, Lexes before kinds) ∧ ¬ LeavesQuoteOpen before
  | .unbalancedQuotes text => text = String.ofList cs ∧ LeavesQuoteOpen cs
  | .unbalancedParentheses text =>
    text = String.ofList cs ∧ cs ≠ [] ∧ ∃ kinds, Lexes cs kinds ∧ ¬ Paired kinds
  | .unexpectedToken found position => ∃ kind, found = kind.description ∧ StandsAt cs kind position
  | .unexpectedEnd => ∃ kinds kind, Lexes cs (kinds ++ [kind]) ∧ kind.awaitsMore = true
  | .nestingTooDeep limit => limit = maxNesting
  | .invalidOperand _ => True
  | .invalidOperator _ | .invalidExpression _ => False

section
variable {cs : List Char} {ts : List Token} {cause : ParseError}

/-- A text without tokens is blank. -/
theorem blank_of_lexes_nil {kinds : List TokenKind} (h : Lexes cs kinds) (hnil : kinds = []) :
    Text.blank cs = true := by
  induction h with
  | nil => rfl
  | blank hc _ ih => exact Bool.and_eq_true_iff.2 ⟨hc, ih hnil⟩
  | lexeme _ _ _ => cases hnil

/-- A trimmed text that is not empty has tokens. -/
theorem tokens_ne_nil {raw : List Char} (hne : Text.trim raw ≠ [])
    (h : tokens (Text.trim raw) = .ok ts) : ts ≠ [] := by
  rintro rfl
  have hblank := blank_of_lexes_nil (lexes_of_tokensFrom h) rfl
  rw [← Text.trim_eq_nil_iff, Text.trim_trim] at hblank
  exact hne hblank

theorem explained_of_stuck (h : tokens cs = .error cause) :
    isEarly cause = true ∧ Explained cs cause := by
  rcases tokens_error_cases h with ⟨before, c, behind, hcs, ⟨kinds, hlex⟩, rfl⟩ | ⟨rfl, hopen⟩
  · exact ⟨rfl, before, behind, hcs, rfl, ⟨kinds, hlex⟩, hlex.not_leavesQuoteOpen⟩
  · exact ⟨rfl, rfl, hopen⟩

theorem explained_of_fault (h : tokens cs = .ok ts) (hne : ts ≠ []) (hfault : Fault ts cause) :
    isEarly cause = false ∧ Explained cs cause := by
  cases hfault with
  | @unexpected t ht => exact ⟨rfl, t.kind, rfl, standsAt_of_mem_tokens h ht⟩
  | ended hlast =>
    obtain ⟨before, t, rfl⟩ := Text.exists_concat hne
    refine ⟨rfl, before.map Token.kind, t.kind, ?_, hlast t List.getLast?_concat⟩
    have hlex := lexes_of_tokensFrom h
    rwa [List.map_append] at hlex
  | tooDeep => exact ⟨rfl, rfl⟩
  | refused detail => exact ⟨rfl, trivial⟩

end

section
variable {σ : Type} {meaning : Operand → ExceptT ParseError (StateM σ) Expression} {raw : String}

/-- Started in this state, the formula is refused for this cause. -/
def Refuses (raw : String) (meaning : Operand → ExceptT ParseError (StateM σ) Expression) (s : σ)
    (cause : ParseError) : Prop :=
  ((compile raw meaning).run.run s).1 = .error cause

/-- The formula is refused for this cause in every monad, whatever the operands would mean. -/
def RefusedUnasked (raw : String) (cause : ParseError) : Prop :=
  ∀ (m : Type → Type) [Monad m] [LawfulMonad m]
    (meaning : Operand → ExceptT ParseError m Expression), compile raw meaning = throw cause

theorem RefusedUnasked.refuses {cause : ParseError} (h : RefusedUnasked raw cause) (s : σ) :
    Refuses raw meaning s cause := by
  unfold Refuses
  rw [h (StateM σ) meaning]
  rfl

/-- **A formula is refused unasked, or its tokens are read.** -/
theorem refusedUnasked_or_read (hmeaning : OnlyRefuses meaning) (raw : String) :
    (∃ cause, RefusedUnasked raw cause ∧ Explained (Text.trim raw.toList) cause)
      ∨ Outcomes (fun cause => isEarly cause = false ∧ Explained (Text.trim raw.toList) cause)
          (fun _ => True) (compile raw meaning) := by
  by_cases hne : Text.trim raw.toList = []
  · exact .inl ⟨.emptyExpression, fun m _ _ _ => compile_of_empty hne, hne⟩
  cases htokens : tokens (Text.trim raw.toList) with
  | error cause =>
    exact .inl ⟨cause, fun m _ _ _ => compile_of_stuck hne htokens, (explained_of_stuck htokens).2⟩
  | ok ts =>
    cases hbalance : parensBalance 0 ts with
    | false =>
      refine .inl ⟨_, fun m _ _ _ => compile_of_unpaired hne htokens hbalance, rfl, hne, ?_⟩
      refine ⟨ts.map Token.kind, lexes_of_tokensFrom htokens, ?_⟩
      rw [← parensBalance_iff, hbalance]
      decide
    | true =>
      have hread : Outcomes (Fault ts) (fun _ => True) (compile raw meaning) := by
        rw [compile_of_paired hne htokens hbalance]
        apply (careful_orChain (careful_unary hmeaning maxNesting) 0 ts hbalance).bind
        rintro ⟨e, rest⟩ ⟨hsuffix, -⟩
        cases rest with
        | nil => exact Outcomes.pure trivial
        | cons t rest => exact Outcomes.throw (.unexpected (hsuffix.subset List.mem_cons_self))
      refine .inr (hread.blaming ?_)
      intro cause hfault
      exact explained_of_fault htokens (tokens_ne_nil hne htokens) hfault

variable (raw) in
/-- **Refusals are classified and located correctly.**  Each cause tells the truth about the
trimmed text.  A formula is refused as empty exactly if its text is, for its quotes exactly if one
is left open, and for its parentheses exactly if the text lexes and they do not pair up.  The
refusals before the reading come without any operand having been asked for its meaning. -/
theorem refusals_explained (hmeaning : OnlyRefuses meaning) (s : σ) :
    (∀ cause, Refuses raw meaning s cause → Explained (Text.trim raw.toList) cause)
      ∧ (Refuses raw meaning s .emptyExpression ↔ Text.trim raw.toList = [])
      ∧ ((∃ text, Refuses raw meaning s (.unbalancedQuotes text))
          ↔ LeavesQuoteOpen (Text.trim raw.toList))
      ∧ ((∃ text, Refuses raw meaning s (.unbalancedParentheses text))
          ↔ Text.trim raw.toList ≠ []
            ∧ ∃ kinds, Lexes (Text.trim raw.toList) kinds ∧ ¬ Paired kinds)
      ∧ ∀ cause, isEarly cause = true → Refuses raw meaning s cause → RefusedUnasked raw cause := by
  have hexplained (cause : ParseError) (hrefuses : Refuses raw meaning s cause) :
      Explained (Text.trim raw.toList) cause := by
    rcases refusedUnasked_or_read hmeaning raw with ⟨cause', hunasked, h⟩ | hread
    · obtain rfl : cause' = cause := Except.error.inj ((hunasked.refuses s).symm.trans hrefuses)
      exact h
    · exact ((hread s).1 cause hrefuses).2
  refine ⟨hexplained, ⟨hexplained _, ?_⟩, ⟨?_, ?_⟩, ⟨?_, ?_⟩, ?_⟩
  · intro hempty
    have hunasked : RefusedUnasked raw .emptyExpression := fun m _ _ _ => compile_of_empty hempty
    exact hunasked.refuses s
  · rintro ⟨text, hrefuses⟩
    exact (hexplained _ hrefuses).2
  · intro hopen
    have hne : Text.trim raw.toList ≠ [] := by
      obtain ⟨before, quote, behind, hcs, -⟩ := hopen
      rw [hcs]
      exact List.append_ne_nil_of_right_ne_nil _ (List.cons_ne_nil _ _)
    have hunasked : RefusedUnasked raw (.unbalancedQuotes (String.ofList (Text.trim raw.toList))) :=
      fun m _ _ _ => compile_of_stuck hne (tokens_of_leavesQuoteOpen hopen)
    exact ⟨_, hunasked.refuses s⟩
  · rintro ⟨text, hrefuses⟩
    exact (hexplained _ hrefuses).2
  · rintro ⟨hne, kinds, hlex, hunpaired⟩
    obtain ⟨ts, hts, rfl⟩ := lexes_iff.1 hlex
    rw [← parensBalance_iff, Bool.not_eq_true] at hunpaired
    have hunasked :
        RefusedUnasked raw (.unbalancedParentheses (String.ofList (Text.trim raw.toList))) :=
      fun m _ _ _ => compile_of_unpaired hne hts hunpaired
    exact ⟨_, hunasked.refuses s⟩
  · intro cause hearly hrefuses
    rcases refusedUnasked_or_read hmeaning raw with ⟨cause', hunasked, -⟩ | hread
    · obtain rfl : cause' = cause := Except.error.inj ((hunasked.refuses s).symm.trans hrefuses)
      exact hunasked
    · -- What is refused later is not refused early.
      have hlate := ((hread s).1 cause hrefuses).1
      rw [hearly] at hlate
      cases hlate

/-- A meaning that notes what it is asked, and takes every operand for true. -/
def noted (o : Operand) : ExceptT ParseError (StateM (List Operand)) Expression := do
  modify (· ++ [o])
  pure (.literal (.bool true))

/-- The second operand of two stands where a connective belongs: at byte 5, because the letter
in quotes before it takes two bytes. -/
theorem refusals_explained_neighbours :
    OnlyRefuses noted ∧ Refuses "'é' b" noted [] (.unexpectedToken "token 'b'" 5)
      ∧ ∃ kind, "token 'b'" = kind.description ∧ StandsAt (Text.trim "'é' b".toList) kind 5 := by
  have hnoted : OnlyRefuses noted := by
    intro o s
    refine ⟨?_, fun _ _ => trivial⟩
    intro cause hrun
    cases hrun
  have hrefuses : Refuses "'é' b" noted [] (.unexpectedToken "token 'b'" 5) := by
    have htokens : tokens (Text.trim "'é' b".toList) = .ok [⟨.item "é", 0⟩, ⟨.item "b", 5⟩] := by
      decide +kernel
    unfold Refuses
    rw [compile_of_paired (by decide +kernel) htokens rfl]
    rfl
  exact ⟨hnoted, hrefuses, (refusals_explained "'é' b" hnoted []).1 _ hrefuses⟩

end

end Formula

end ContentGate
