/-
  ContentGate.Proofs.Notation.DirectEnds — how texts that are accepted begin and end.

  A condition has operands on both sides of every operator, so a text that
  the reader accepts does not end in a symbol, and begins with none but the
  sign `!`.  To see this we say what the reader has found when it accepts
  an operand: a sign, a parenthesis, a literal or a call, each tried only
  where the ones before it have failed.

  Main statements:
    * `operand_succ_iff` — what an operand is;
    * `enclosed?_eq_some`, `call?_eq_some` — texts with parentheses;
    * `literal_cases`, `marks_of_string?` — the characters of literals;
    * `ends_of_expression`, `ends_of_operand` — the ends of accepted texts.
-/
import ContentGate.Proofs.Decimal.Digits
import ContentGate.Proofs.Notation.DirectReading
import ContentGate.Proofs.Notation.Standing

namespace ContentGate.Direct

open Text Notation

/-! ## §1. What an operand is -/

/-- What the reader finds in a trimmed text that it accepts as an operand. -/
inductive IsOperand (levels : Nat) (cs : List Char) : Expression → Prop where
  | not {rest : List Char} {e : Expression} (hsign : dropWord? ['!'] cs = some rest)
      (h : operand levels rest = .ok e) : IsOperand levels cs (.unary .not e)
  | minus {rest : List Char} {e : Expression} (hnot : dropWord? ['!'] cs = none)
      (hsign : negated? cs = some rest) (h : operand levels rest = .ok e) :
      IsOperand levels cs (.unary .negate e)
  | enclosed {inner : List Char} {e : Expression} (hnot : dropWord? ['!'] cs = none)
      (hminus : negated? cs = none) (henclosed : enclosed? cs = some inner)
      (h : expression levels inner = .ok e) : IsOperand levels cs e
  | literal {v : Value} (hnot : dropWord? ['!'] cs = none) (hminus : negated? cs = none)
      (henclosed : enclosed? cs = none) (h : literal? cs = some v) :
      IsOperand levels cs (.literal v)
  | call {name inner : List Char} {pieces : List (List Char)} {args : List Expression}
      (hnot : dropWord? ['!'] cs = none) (hminus : negated? cs = none)
      (henclosed : enclosed? cs = none) (hliteral : literal? cs = none)
      (hcall : call? cs = some (name, inner)) (hpieces : arguments inner = .ok pieces)
      (h : pieces.mapM (expression levels) = .ok args) :
      IsOperand levels cs (.call (String.ofList name) args)

section
variable {levels : Nat} {cs inner name : List Char} {e : Expression}

/-- **The reader accepts an operand when it finds one of these.** -/
theorem operand_succ_iff : operand (levels + 1) cs = .ok e ↔ IsOperand levels (trim cs) e := by
  constructor
  · intro h
    rw [operand] at h
    cases hnot : dropWord? ['!'] (trim cs) with
    | some rest =>
      simp only [hnot] at h
      obtain ⟨e', he', h⟩ := bind_eq_ok h
      cases h
      exact .not hnot he'
    | none =>
      simp only [hnot] at h
      cases hminus : negated? (trim cs) with
      | some rest =>
        simp only [hminus] at h
        obtain ⟨e', he', h⟩ := bind_eq_ok h
        cases h
        exact .minus hnot hminus he'
      | none =>
        simp only [hminus] at h
        cases henclosed : enclosed? (trim cs) with
        | some inner =>
          simp only [henclosed] at h
          exact .enclosed hnot hminus henclosed h
        | none =>
          simp only [henclosed] at h
          cases hliteral : literal? (trim cs) with
          | some v =>
            simp only [hliteral] at h
            cases h
            exact .literal hnot hminus henclosed hliteral
          | none =>
            simp only [hliteral] at h
            cases hcall : call? (trim cs) with
            | none =>
              simp only [hcall] at h
              cases h
            | some found =>
              obtain ⟨name, inner⟩ := found
              simp only [hcall] at h
              obtain ⟨pieces, hpieces, h⟩ := bind_eq_ok h
              obtain ⟨args, hargs, h⟩ := bind_eq_ok h
              cases h
              exact .call hnot hminus henclosed hliteral hcall hpieces hargs
  · intro h
    rw [operand]
    cases h with
    | not hsign h =>
      simp only [hsign, h]
      rfl
    | minus hnot hsign h =>
      simp only [hnot, hsign, h]
      rfl
    | enclosed hnot hminus henclosed h => simp only [hnot, hminus, henclosed, h]
    | literal hnot hminus henclosed h => simp only [hnot, hminus, henclosed, h]
    | @call name inner pieces args hnot hminus henclosed hliteral hcall hpieces h =>
      simp only [hnot, hminus, henclosed, hliteral, hcall, hpieces]
      show (pieces.mapM (expression levels) >>= fun args =>
        Except.ok (Expression.call (String.ofList name) args)) = _
      rw [h]
      rfl

/-! ## §2. Texts with parentheses -/

/-- **A text between parentheses** that pair up. -/
theorem enclosed?_eq_some (h : enclosed? cs = some inner) :
    ∃ ms, marked? cs = some (Notation.enclosed ms) ∧ marksBalance 0 ms = true
      ∧ unmarked ms = inner := by
  unfold enclosed? at h
  obtain ⟨ms, hms, h⟩ := Option.bind_eq_some_iff.1 h
  split at h
  · rename_i rest
    obtain ⟨⟨before, behind⟩, hclosing, hbefore⟩ := Option.bind_eq_some_iff.1 h
    cases behind with
    | nil =>
      obtain ⟨rfl, hbalance⟩ := balanced_of_closing? hclosing
      exact ⟨before, hms, hbalance, Option.some.inj hbefore⟩
    | cons _ _ => cases hbefore
  · cases h

/-- Its characters. -/
theorem eq_of_enclosed? (h : enclosed? cs = some inner) : cs = '(' :: (inner ++ [')']) := by
  obtain ⟨ms, hms, -, rfl⟩ := enclosed?_eq_some h
  rw [← unmarked_of_markFrom hms]
  simp [Notation.enclosed, unmarked]

/-- **A call** is a name and what is between parentheses. -/
theorem call?_eq_some (h : call? cs = some (name, inner)) :
    ∃ before, cs = before ++ '(' :: (inner ++ [')']) ∧ '(' ∉ before ∧ trim before = name
      ∧ isIdentifier name = true ∧ enclosed? ('(' :: (inner ++ [')'])) = some inner := by
  have hname := isIdentifier_of_call? h
  unfold call? at h
  simp only at h
  split at h
  · obtain ⟨inner', henclosed, h⟩ := Option.bind_eq_some_iff.1 h
    obtain ⟨rfl, rfl⟩ := Prod.mk.inj (Option.some.inj h)
    have hdrop := eq_of_enclosed? henclosed
    refine ⟨cs.takeWhile (· != '('), ?_, ?_, rfl, hname, ?_⟩
    · rw [← hdrop]
      exact (List.prefix_iff_eq_append.1 (List.takeWhile_prefix _)).symm
    · intro hmem
      have hne := List.all_eq_true.1 List.all_takeWhile _ hmem
      simp at hne
    · rw [← hdrop]
      exact henclosed
  · cases h

end

/-! ## §3. The characters of literals -/

section
variable {cs : List Char}

/-- Behind its opening quote a string is a string to its end, which is a quote. -/
theorem markFrom_of_stringBody? {q : Char} (hq : q ≠ '\\') {body : List Char}
    (h : stringBody? q cs = some body) :
    markFrom (.inside q) cs = some (inString cs) ∧ cs.getLast? = some q := by
  have hlonger : ∀ {c : Char} {ds : List Char}, ds.getLast? = some q → (c :: ds).getLast? = some q := by
    intro c ds hds
    rw [List.getLast?_cons, hds]
    rfl
  fun_induction stringBody? q cs generalizing body with
  | case1 => cases h
  | case2 => cases h
  | case3 c cs ih =>
    -- What stands behind a backslash does not close the string.
    obtain ⟨rest, hrest, -⟩ := Option.map_eq_some_iff.1 h
    obtain ⟨hmarks, hlast⟩ := ih hrest
    have hnext : (QuoteState.inside q).next '\\' = .escaped q := rfl
    refine ⟨?_, hlonger (hlonger hlast)⟩
    rw [markFrom_inside, hnext, markFrom_escaped, hmarks]
    rfl
  | case4 cs hempty =>
    obtain rfl := List.isEmpty_iff.1 hempty
    have hnext : (QuoteState.inside q).next q = .outside := by
      show (if q = '\\' then _ else if q = q then _ else _) = _
      rw [if_neg hq, if_pos rfl]
    refine ⟨?_, rfl⟩
    rw [markFrom_inside, hnext]
    rfl
  | case5 => cases h
  | case6 c cs hend hescape hc ih =>
    have hbackslash : c ≠ '\\' := by
      intro heq
      cases cs with
      | nil => exact hend heq rfl
      | cons d cs => exact hescape d cs heq rfl
    have hnext : (QuoteState.inside q).next c = .inside q := by
      show (if c = '\\' then _ else if c = q then _ else _) = _
      rw [if_neg hbackslash, if_neg hc]
    obtain ⟨rest, hrest, -⟩ := Option.map_eq_some_iff.1 h
    obtain ⟨hmarks, hlast⟩ := ih hrest
    refine ⟨?_, hlonger hlast⟩
    rw [markFrom_inside, hnext, hmarks]
    rfl

/-- **A string literal** is a string from its first character to its last. -/
theorem marks_of_string? {s : String} (h : string? cs = some s) :
    marked? cs = some (inString cs)
      ∧ ∃ q body, cs = q :: body ∧ isNoQuote q = false ∧ body.getLast? = some q := by
  cases cs with
  | nil => cases h
  | cons q body =>
    rw [string?] at h
    by_cases hq : q = '"' ∨ q = '\''
    · rw [if_pos hq] at h
      obtain ⟨content, hcontent, -⟩ := Option.map_eq_some_iff.1 h
      have hne : q ≠ '\\' := by rcases hq with rfl | rfl <;> decide
      obtain ⟨hmarks, hlast⟩ := markFrom_of_stringBody? hne hcontent
      have hopen : QuoteState.outside.next q = .inside q := if_pos hq
      have hquotes : QuoteState.outside.quotes q = true := by
        rcases hq with rfl | rfl <;> rfl
      refine ⟨?_, q, body, rfl, by rcases hq with rfl | rfl <;> rfl, hlast⟩
      unfold marked?
      rw [markFrom, hopen, hquotes, hmarks]
      rfl
    · rw [if_neg hq] at h
      cases h

/-- **A literal** is a string, or a word or number. -/
theorem literal_cases {v : Value} (h : literal? cs = some v) :
    (∃ s, string? cs = some s) ∨ ∀ c ∈ cs, Decimal.isNumberChar c = true := by
  have hwords : ∀ w ∈ valueWords, w.all Char.isAlpha = true := by decide
  unfold literal? at h
  cases hstring : string? cs with
  | some s => exact .inl ⟨s, rfl⟩
  | none =>
    simp only [hstring] at h
    refine .inr ?_
    cases hkeyword : keyword? cs with
    | some v' =>
      unfold keyword? at hkeyword
      split at hkeyword
      · rename_i hword
        exact Decimal.isNumberChar_of_isWordAnyCase (hwords _ (by simp [valueWords])) hword
      split at hkeyword
      · rename_i hword
        exact Decimal.isNumberChar_of_isWordAnyCase (hwords _ (by simp [valueWords])) hword
      split at hkeyword
      · rename_i hword
        exact Decimal.isNumberChar_of_isWordAnyCase (hwords _ (by simp [valueWords])) hword
      · cases hkeyword
    | none =>
      simp only [hkeyword] at h
      obtain ⟨x, hx, -⟩ := Option.map_eq_some_iff.1 h
      cases cs with
      | nil => cases hx
      | cons c cs =>
        rw [number?] at hx
        split at hx
        · exact Decimal.isNumberChar_of_float? hx
        · cases hx

end

/-! ## §4. Ends -/

/-- Does a text begin with the character of a symbol? -/
def startsInSymbol (cs : List Char) : Bool := cs.head?.any isOperatorChar

/-- Does a text end with one? -/
def endsInSymbol (cs : List Char) : Bool := cs.getLast?.any isOperatorChar

/-- A text that begins with the sign `!`, not with `!=`. -/
def Signed (cs : List Char) : Prop := ∃ c rest, cs = '!' :: c :: rest ∧ c ≠ '='

/-- A text that does not end in a symbol, and begins with none but a sign. -/
structure Ends (cs : List Char) : Prop where
  start : startsInSymbol cs = true → Signed cs
  stop : endsInSymbol cs = false

section
variable {cs ds front back : List Char} {c : Char}

theorem startsInSymbol_append (h : cs ≠ []) (ds : List Char) :
    startsInSymbol (cs ++ ds) = startsInSymbol cs := by
  cases cs with
  | nil => exact absurd rfl h
  | cons c cs => rfl

theorem endsInSymbol_append (cs : List Char) (h : ds ≠ []) :
    endsInSymbol (cs ++ ds) = endsInSymbol ds := by
  obtain ⟨before, c, rfl⟩ := exists_concat h
  unfold endsInSymbol
  rw [← List.append_assoc, List.getLast?_concat, List.getLast?_concat]

theorem Signed.append (h : Signed cs) (ds : List Char) : Signed (cs ++ ds) := by
  obtain ⟨c, rest, rfl, hc⟩ := h
  exact ⟨c, rest ++ ds, rfl, hc⟩

/-- **A text ends as the parts at its ends do.** -/
theorem Ends.around (hfront : Ends front) (hback : Ends back) (hfront' : front ≠ [])
    (hback' : back ≠ []) (hstart : front <+: cs) (hstop : back <:+ cs) : Ends cs := by
  constructor
  · obtain ⟨rest, rfl⟩ := hstart
    intro hsymbol
    rw [startsInSymbol_append hfront'] at hsymbol
    exact (hfront.start hsymbol).append rest
  · obtain ⟨rest, rfl⟩ := hstop
    rw [endsInSymbol_append rest hback', hback.stop]

theorem isOperatorChar_of_all {P : Char → Bool}
    (hall : (['=', '!', '<', '>', '&', '|'].all fun d => !P d) = true) (h : P c = true) :
    isOperatorChar c = false := by
  rw [Bool.eq_false_iff]
  intro hc
  have hmem : c ∈ ['=', '!', '<', '>', '&', '|'] := by simpa [isOperatorChar] using hc
  have hnone := List.all_eq_true.1 hall c hmem
  rw [h] at hnone
  cases hnone

theorem isOperatorChar_of_isBlank (h : isBlank c = true) : isOperatorChar c = false :=
  isOperatorChar_of_all (by decide) h

theorem isOperatorChar_of_isNameChar (h : isNameChar c = true) : isOperatorChar c = false :=
  isOperatorChar_of_all (by decide) h

theorem isOperatorChar_of_isNumberChar (h : Decimal.isNumberChar c = true) :
    isOperatorChar c = false :=
  isOperatorChar_of_all (by decide) h

/-- A text without the characters of symbols. -/
theorem ends_of_forall (h : ∀ c ∈ cs, isOperatorChar c = false) : Ends cs := by
  constructor
  · cases cs with
    | nil => exact fun hstart => by cases hstart
    | cons c cs =>
      intro hstart
      rw [startsInSymbol, List.head?_cons, Option.any_some, h c List.mem_cons_self] at hstart
      cases hstart
  · unfold endsInSymbol
    cases hlast : cs.getLast? with
    | none => rfl
    | some c => exact h c (List.mem_of_getLast? hlast)

/-- A text that has no blank at its start begins with the trimmed form of its first part, -/
theorem trim_prefix_of_solid (h : Solid (cs ++ ds)) : trim cs <+: cs ++ ds := by
  obtain ⟨front, back, hcs, hfront, -⟩ := exists_trim cs
  obtain ⟨c, rest, hhead, hc⟩ := h.head
  cases front with
  | nil =>
    refine ⟨back ++ ds, ?_⟩
    rw [← List.append_assoc, ← List.nil_append (trim cs ++ back), ← hcs]
  | cons d front =>
    rw [hcs] at hhead
    obtain ⟨rfl, -⟩ := List.cons.inj hhead
    rw [List.all_eq_true.1 hfront d List.mem_cons_self] at hc
    cases hc

/-- and one that has none at its end ends with that of its last part. -/
theorem trim_suffix_of_solid (h : Solid (cs ++ ds)) : trim ds <:+ cs ++ ds := by
  obtain ⟨front, back, hds, -, hback⟩ := exists_trim ds
  obtain ⟨before, c, hlast, hc⟩ := h.last
  by_cases hnone : back = []
  · subst hnone
    refine ⟨cs ++ front, ?_⟩
    rw [List.append_assoc, ← List.append_nil (trim ds), ← hds]
  · obtain ⟨back', d, rfl⟩ := exists_concat hnone
    rw [hds, ← List.append_assoc, ← List.append_assoc, ← List.append_assoc] at hlast
    obtain ⟨-, hd⟩ := List.append_inj' hlast rfl
    obtain rfl : d = c := by simpa using hd
    rw [List.all_eq_true.1 hback d (List.mem_append_right _ List.mem_cons_self)] at hc
    cases hc

/-- Both sides of a split, and what is between them. -/
theorem exists_between {s : Split} (h : split? cs = some s) :
    ∃ between, cs = s.left ++ (between ++ s.right) := by
  obtain ⟨ms, hms⟩ : ∃ ms, marked? cs = some ms := by
    cases hmarked : marked? cs with
    | some ms => exact ⟨ms, rfl⟩
    | none =>
      rw [split?, hmarked] at h
      cases h
  obtain ⟨level, -, depth, hscan⟩ := split?_eq_some hms h
  obtain ⟨-, pre, c, suf, rest, rfl, -, hop, hleft, hright⟩ := splitLast_eq_some hscan
  obtain ⟨w, -, hdrop, -, -⟩ := operatorAt?_eq_some hop
  obtain ⟨ns, hsuf, -⟩ := eq_append_of_dropSpelling? hdrop
  refine ⟨unmarked ns, ?_⟩
  rw [hleft, hright, ← unmarked_of_markFrom hms, hsuf, unmarked_append, unmarked_append]

/-- A text that begins and ends with other characters. -/
theorem ends_of_not_symbol (hstart : startsInSymbol cs = false) (hstop : endsInSymbol cs = false) :
    Ends cs := by
  refine ⟨fun hsymbol => ?_, hstop⟩
  rw [hstart] at hsymbol
  cases hsymbol

/-- The first character of a text is not trimmed away if it is no blank. -/
theorem exists_trim_cons (hc : isBlank c = false) (cs : List Char) :
    ∃ rest, trim (c :: cs) = c :: rest ∧ c :: rest <+: c :: cs := by
  have hstart : trimStart (c :: cs) = c :: cs := List.dropWhile_cons_of_neg (by simp [hc])
  have hback := dropEndWhile_prefix isBlank (c :: cs)
  unfold trim trimEnd
  rw [hstart]
  cases hdrop : dropEndWhile isBlank (c :: cs) with
  | nil =>
    rw [dropEndWhile_eq_nil_iff.1 hdrop c List.mem_cons_self] at hc
    cases hc
  | cons d rest =>
    rw [hdrop] at hback
    obtain rfl : d = c := (List.cons_prefix_cons.1 hback).1
    exact ⟨rest, rfl, hback⟩

end

/-! ## §5. The ends of accepted texts -/

section
variable {levels : Nat} {cs : List Char} {e : Expression}

theorem ne_nil_of_isOperand (h : IsOperand levels cs e) : cs ≠ [] := by
  rintro rfl
  cases h with
  | not hsign => cases hsign
  | minus _ hsign => cases hsign
  | enclosed _ _ henclosed => cases henclosed
  | literal _ _ _ hliteral => cases hliteral
  | call _ _ _ _ hcall => cases hcall

theorem ne_nil_of_operand (h : operand levels cs = .ok e) : trim cs ≠ [] := by
  cases levels with
  | zero =>
    rw [operand_zero] at h
    cases h
  | succ levels => exact ne_nil_of_isOperand (operand_succ_iff.1 h)

theorem eq_of_dropWord?_bang {rest : List Char} (h : dropWord? ['!'] cs = some rest) :
    cs = '!' :: rest := eq_append_of_dropWord? h

theorem eq_of_negated? {rest : List Char} (h : negated? cs = some rest) : cs = '-' :: rest := by
  unfold negated? at h
  split at h
  · rename_i ds
    split at h
    · split at h
      · cases h
      · rw [Option.some.inj h]
    · rw [Option.some.inj h]
  · cases h

/-- One level of a text with operators. -/
theorem ends_expression_succ
    (hexpression : ∀ {cs e}, expression levels cs = .ok e → Ends (trim cs))
    (hoperand : ∀ {cs e}, operand levels cs = .ok e → Ends (trim cs))
    (h : expression (levels + 1) cs = .ok e) : Ends (trim cs) := by
  cases hsplit : split? (trim cs) with
  | none =>
    have hcs := hoperand (operand_of_expression h hsplit)
    rwa [trim_trim] at hcs
  | some s =>
    obtain ⟨left, right, hleft, hright, -⟩ := sides_of_expression h hsplit
    have hl := hexpression hleft
    have hr := hexpression hright
    have hl' := ne_nil_of_expression hleft
    have hr' := ne_nil_of_expression hright
    rw [trim_trim] at hl hr hl' hr'
    obtain ⟨between, hbetween⟩ := exists_between hsplit
    have hsolid := solid_trim (ne_nil_of_expression h)
    rw [hbetween] at hsolid ⊢
    have hstop : trim s.right <:+ s.left ++ (between ++ s.right) := by
      rw [← List.append_assoc] at hsolid ⊢
      exact trim_suffix_of_solid hsolid
    exact hl.around hr hl' hr' (trim_prefix_of_solid hsolid) hstop

/-- A sign in front of an operand. -/
theorem endsInSymbol_sign {c : Char} {rest : List Char} (hsolid : Solid (c :: rest))
    (hne : trim rest ≠ []) (hrest : Ends (trim rest)) : endsInSymbol (c :: rest) = false := by
  obtain ⟨before, hbefore⟩ : trim rest <:+ [c] ++ rest := trim_suffix_of_solid hsolid
  rw [List.singleton_append] at hbefore
  rw [← hbefore, endsInSymbol_append before hne, hrest.stop]

/-- One level of an operand. -/
theorem ends_operand_succ
    (hoperand : ∀ {cs e}, operand levels cs = .ok e → Ends (trim cs))
    (h : operand (levels + 1) cs = .ok e) : Ends (trim cs) := by
  have hsolid := solid_trim (ne_nil_of_operand h)
  have hcases := operand_succ_iff.1 h
  generalize trim cs = ds at hsolid hcases
  cases hcases with
  | @not rest e hsign hread =>
    obtain rfl := eq_of_dropWord?_bang hsign
    have hrest := hoperand hread
    refine ⟨fun _ => ?_, endsInSymbol_sign hsolid (ne_nil_of_operand hread) hrest⟩
    cases rest with
    | nil => exact absurd rfl (ne_nil_of_operand hread)
    | cons c rest =>
      refine ⟨c, rest, rfl, ?_⟩
      rintro rfl
      -- An operand does not begin with `=`.
      obtain ⟨rest', htrim, -⟩ := exists_trim_cons (c := '=') rfl rest
      rw [htrim] at hrest
      obtain ⟨_, _, heq, -⟩ := hrest.start rfl
      cases heq
  | minus _ hsign hread =>
    obtain rfl := eq_of_negated? hsign
    exact ends_of_not_symbol rfl
      (endsInSymbol_sign hsolid (ne_nil_of_operand hread) (hoperand hread))
  | @enclosed inner _ _ _ henclosed _ =>
    obtain rfl := eq_of_enclosed? henclosed
    exact ends_of_not_symbol rfl (endsInSymbol_append ('(' :: inner) (List.cons_ne_nil ')' []))
  | literal _ _ _ hliteral =>
    rcases literal_cases hliteral with ⟨s, hstring⟩ | hall
    · obtain ⟨-, q, body, rfl, hq, hlast⟩ := marks_of_string? hstring
      have hop : isOperatorChar q = false :=
        isOperatorChar_of_all (P := fun c => !isNoQuote c) (by decide) (by rw [hq]; rfl)
      refine ends_of_not_symbol hop ?_
      unfold endsInSymbol
      rw [List.getLast?_cons, hlast]
      exact hop
    · exact ends_of_forall fun c hc => isOperatorChar_of_isNumberChar (hall c hc)
  | @call name inner _ _ _ _ _ _ hcall _ _ =>
    obtain ⟨before, rfl, -, rfl, hname, -⟩ := call?_eq_some hcall
    have hlast : before ++ '(' :: (inner ++ [')']) = before ++ '(' :: inner ++ [')'] := by simp
    refine ends_of_not_symbol ?_ (by rw [hlast]; exact endsInSymbol_append _ (List.cons_ne_nil ')' []))
    -- The name begins the text.
    obtain ⟨c, rest, htrim, hc, -⟩ := exists_head_of_isIdentifier hname
    obtain ⟨behind, hbehind⟩ := trim_prefix_of_solid hsolid
    rw [← hbehind, htrim]
    exact isOperatorChar_of_isNameChar hc

theorem ends_of_levels (levels : Nat) :
    (∀ {cs e}, expression levels cs = .ok e → Ends (trim cs))
      ∧ ∀ {cs e}, operand levels cs = .ok e → Ends (trim cs) := by
  -- Each of the two readers calls the other one level down.
  induction levels with
  | zero =>
    constructor
    · intro cs e h
      rw [expression_zero] at h
      cases h
    · intro cs e h
      rw [operand_zero] at h
      cases h
  | succ levels ih =>
    obtain ⟨hexpression, hoperand⟩ := ih
    exact ⟨ends_expression_succ hexpression hoperand, ends_operand_succ hoperand⟩

/-- **An accepted text does not end in a symbol, and begins with none but a sign.** -/
theorem ends_of_expression (h : expression levels cs = .ok e) : Ends (trim cs) :=
  (ends_of_levels levels).1 h

theorem ends_of_operand (h : operand levels cs = .ok e) : Ends (trim cs) :=
  (ends_of_levels levels).2 h

end

end ContentGate.Direct
