/-
  ContentGate.Proofs.Notation.TokenPlaces — where tokens stand, and where a text stops to lex.

  A position in a message is the byte offset of a character.  A token stands
  at an offset if its spelling starts there, and the text before it lexes into
  the tokens before it (`StandsAt`).  The positions of the tokens that the
  reader finds are offsets in this sense (`standsAt_of_mem_tokens`).

  A text that does not lex has a first character at which no token can
  start, and what is before it lexes.  The reader stops exactly there
  (`tokens_eq_error_iff`).  This is at a quote without a matching one behind
  it (`LeavesQuoteOpen`), or at a character that the notation does not have.

  Whether the parentheses pair up is asked of the tokens, with a count of
  those that are open.  The count is right for every beginning of the text,
  which is how pairing up is defined here (`Paired`).

  Main statements:
    * `standsAt_of_mem_tokens` — positions are offsets of tokens;
    * `tokens_eq_error_iff`, `unbalancedQuotes_iff` — where the reader stops, and why;
    * `parensBalance_iff` — the count of open parentheses.
-/
import ContentGate.Proofs.Notation.Lexing

namespace ContentGate.Notation

open ContentGate.Text

/-! ## §1. What follows a spelling -/

section
variable {w behind rest : List Char} {kind : TokenKind}

/-- A spelling does not need all that follows it. -/
theorem Lexeme.of_append (h : Lexeme w (behind ++ rest) kind) : Lexeme w behind kind := by
  cases h with
  | openParen => exact .openParen behind
  | closeParen => exact .closeParen behind
  | comma => exact .comma behind
  | not => exact .not behind
  | and => exact .and behind
  | or => exact .or behind
  | quoted _ hquote hbody => exact .quoted behind hquote hbody
  | word hne hw hend =>
    refine .word hne hw ?_
    cases behind with
    | nil => simp
    | cons c behind => exact hend

/-- More may follow a spelling, if no word goes on there. -/
theorem Lexeme.append (h : Lexeme w behind kind) (hrest : ∀ c ∈ rest.head?, isBareChar c = false) :
    Lexeme w (behind ++ rest) kind := by
  cases h with
  | openParen => exact .openParen _
  | closeParen => exact .closeParen _
  | comma => exact .comma _
  | not => exact .not _
  | and => exact .and _
  | or => exact .or _
  | quoted _ hquote hbody => exact .quoted _ hquote hbody
  | word hne hw hend =>
    refine .word hne hw ?_
    cases behind with
    | nil => exact hrest
    | cons c behind => exact hend

end

/-! ## §2. Places of tokens -/

/-- At this byte offset a token of a text starts: the text before it lexes into the first
tokens of the text, and this one is the next. -/
def StandsAt (cs : List Char) (kind : TokenKind) (offset : Nat) : Prop :=
  ∃ before w behind kinds kinds', cs = before ++ (w ++ behind) ∧ utf8Length before = offset
    ∧ Lexes before kinds ∧ Lexeme w behind kind ∧ Lexes cs (kinds ++ kind :: kinds')

section
variable {cs w behind : List Char} {kind kind' : TokenKind} {kinds : List TokenKind} {offset : Nat}

/-- A token that starts the text. -/
theorem Lexeme.standsAt (h : Lexeme w behind kind) (hbehind : Lexes behind kinds) :
    StandsAt (w ++ behind) kind 0 :=
  ⟨[], w, behind, [], kinds, rfl, rfl, .nil, h, .lexeme h hbehind⟩

/-- Behind a blank, -/
theorem StandsAt.blank {c : Char} (hc : isBlank c = true) (h : StandsAt cs kind offset) :
    StandsAt (c :: cs) kind (c.utf8Size + offset) := by
  obtain ⟨before, w, behind, kinds, kinds', rfl, rfl, hbefore, hk, hlex⟩ := h
  exact ⟨c :: before, w, behind, kinds, kinds', rfl, rfl, .blank hc hbefore, hk, .blank hc hlex⟩

/-- and behind a token. -/
theorem StandsAt.lexeme (hw : Lexeme w behind kind') (h : StandsAt behind kind offset) :
    StandsAt (w ++ behind) kind (utf8Length w + offset) := by
  obtain ⟨before, v, rest, kinds, kinds', rfl, rfl, hbefore, hk, hlex⟩ := h
  refine ⟨w ++ before, v, rest, kind' :: kinds, kinds', (List.append_assoc _ _ _).symm,
    utf8Length_append _ _, ?_, hk, ?_⟩
  · exact .lexeme hw.of_append hbefore
  · exact .lexeme hw hlex

end

section
variable {whole cs : List Char} {kinds : List TokenKind} {position : Nat} {ts : List Token}

theorem standsAt_of_tokensFrom (hlex : Lexes cs kinds)
    (h : tokensFrom whole position 0 cs = .ok ts) {t : Token} (ht : t ∈ ts) :
    ∃ offset, t.position = position + offset ∧ StandsAt cs t.kind offset := by
  induction hlex generalizing position ts with
  | nil =>
    rw [tokensFrom] at h
    cases h
    cases ht
  | @blank c cs kinds hc _ ih =>
    rw [tokensFrom_blank hc] at h
    obtain ⟨offset, hposition, hstands⟩ := ih h ht
    exact ⟨c.utf8Size + offset, by omega, hstands.blank hc⟩
  | @lexeme w behind kind kinds hk hbehind ih =>
    obtain ⟨rest, hrest, rfl⟩ := exists_of_tokensFrom_lexeme hk h
    rcases List.mem_cons.1 ht with rfl | ht
    · exact ⟨0, rfl, hk.standsAt hbehind⟩
    · obtain ⟨offset, hposition, hstands⟩ := ih hrest ht
      exact ⟨utf8Length w + offset, by omega, hstands.lexeme hk⟩

/-- **The position of a token is the byte offset at which it stands.** -/
theorem standsAt_of_mem_tokens (h : tokens cs = .ok ts) {t : Token} (ht : t ∈ ts) :
    StandsAt cs t.kind t.position := by
  obtain ⟨offset, hposition, hstands⟩ := standsAt_of_tokensFrom (lexes_of_tokensFrom h) h ht
  rw [hposition, Nat.zero_add]
  exact hstands

end

/-! ## §3. Where a text stops to lex -/

section
variable {whole cs behind : List Char} {c : Char} {position : Nat} {cause : ParseError}

/-- If no token starts behind a text that lexes, the reader stops there. -/
theorem tokensFrom_of_stuck {before : List Char} {kinds : List TokenKind}
    (hlex : Lexes before kinds) (hc : isBlank c = false)
    (hstart : startToken whole (position + utf8Length before) c behind = .error cause) :
    tokensFrom whole position 0 (before ++ c :: behind) = .error cause := by
  induction hlex generalizing position with
  | nil =>
    change startToken whole position c behind = .error cause at hstart
    rw [List.nil_append, tokensFrom, if_neg (by simp [hc]), hstart]
    rfl
  | @blank d before kinds hd _ ih =>
    rw [List.cons_append, tokensFrom_blank hd]
    apply ih
    rwa [Nat.add_assoc, ← utf8Length_cons]
  | @lexeme w rest kind kinds hk _ ih =>
    have hbare : ∀ d ∈ (c :: behind).head?, isBareChar d = false := by
      intro d hd
      obtain rfl : c = d := Option.some.inj hd
      exact (startToken_eq_error hstart).1
    rw [List.append_assoc, tokensFrom_lexeme_eq_error_iff (hk.append hbare)]
    apply ih
    rwa [Nat.add_assoc, ← utf8Length_append]

theorem exists_stuck (h : tokensFrom whole position 0 cs = .error cause) :
    ∃ before c behind, cs = before ++ c :: behind ∧ (∃ kinds, Lexes before kinds)
      ∧ isBlank c = false
      ∧ startToken whole (position + utf8Length before) c behind = .error cause := by
  induction cs using reading_induction generalizing position with
  | nil =>
    rw [tokensFrom] at h
    cases h
  | @blank d cs hd ih =>
    rw [tokensFrom_blank hd] at h
    obtain ⟨before, c, behind, rfl, ⟨kinds, hlex⟩, hc, hstart⟩ := ih h
    refine ⟨d :: before, c, behind, rfl, ⟨kinds, .blank hd hlex⟩, hc, ?_⟩
    rwa [utf8Length_cons, ← Nat.add_assoc]
  | @lexeme w rest kind hk ih =>
    obtain ⟨before, c, behind, rfl, ⟨kinds, hlex⟩, hc, hstart⟩ :=
      ih ((tokensFrom_lexeme_eq_error_iff hk).1 h)
    refine ⟨w ++ before, c, behind, by simp, ⟨kind :: kinds, ?_⟩, hc, ?_⟩
    · exact .lexeme hk.of_append hlex
    · rwa [utf8Length_append, ← Nat.add_assoc]
  | @stuck d cs hd hfirst =>
    obtain ⟨cause', hcause⟩ := hfirst whole position
    rw [tokensFrom, if_neg (by simp [hd]), hcause] at h
    cases h
    exact ⟨[], d, cs, rfl, ⟨[], .nil⟩, hd, hcause⟩

/-- **The reader stops exactly behind a text that lexes, where no token starts.** -/
theorem tokens_eq_error_iff :
    tokens cs = .error cause ↔
      ∃ before c behind, cs = before ++ c :: behind ∧ (∃ kinds, Lexes before kinds)
        ∧ isBlank c = false ∧ startToken cs (utf8Length before) c behind = .error cause := by
  constructor
  · intro h
    obtain ⟨before, c, behind, hcs, hlex, hc, hstart⟩ := exists_stuck h
    rw [Nat.zero_add] at hstart
    exact ⟨before, c, behind, hcs, hlex, hc, hstart⟩
  · rintro ⟨before, c, behind, hcs, ⟨kinds, hlex⟩, hc, hstart⟩
    rw [← Nat.zero_add (utf8Length before)] at hstart
    unfold tokens
    nth_rewrite 2 [hcs]
    exact tokensFrom_of_stuck hlex hc hstart

end

/-! ## §4. Open quotes -/

/-- Lexing reaches a quote that no matching quote follows. -/
def LeavesQuoteOpen (cs : List Char) : Prop :=
  ∃ before quote behind, cs = before ++ quote :: behind ∧ (∃ kinds, Lexes before kinds)
    ∧ (quote = '"' ∨ quote = '\'') ∧ quote ∉ behind

section
variable {cs : List Char} {cause : ParseError}

/-- The reader says so of the text. -/
theorem tokens_of_leavesQuoteOpen (h : LeavesQuoteOpen cs) :
    tokens cs = .error (.unbalancedQuotes (String.ofList cs)) := by
  obtain ⟨before, quote, behind, hcs, hlex, hquote, hopen⟩ := h
  refine tokens_eq_error_iff.2 ⟨before, quote, behind, hcs, hlex, ?_, ?_⟩
  · rcases hquote with rfl | rfl <;> decide
  · exact startToken_of_open_quote hquote hopen

/-- A text that lexes leaves no quote open. -/
theorem Lexes.not_leavesQuoteOpen {kinds : List TokenKind} (h : Lexes cs kinds) :
    ¬ LeavesQuoteOpen cs := by
  intro hopen
  obtain ⟨ts, hts, -⟩ := lexes_iff.1 h
  rw [tokens_of_leavesQuoteOpen hopen] at hts
  cases hts

/-- **Why a text does not lex**: at an offset behind a text that lexes, and so in no
quotes, there is a character that starts no token; or a quote is left open. -/
theorem tokens_error_cases (h : tokens cs = .error cause) :
    (∃ before c behind, cs = before ++ c :: behind ∧ (∃ kinds, Lexes before kinds)
        ∧ cause = .invalidCharacter c (utf8Length before))
      ∨ cause = .unbalancedQuotes (String.ofList cs) ∧ LeavesQuoteOpen cs := by
  obtain ⟨before, c, behind, hcs, hlex, -, hstart⟩ := tokens_eq_error_iff.1 h
  rcases (startToken_eq_error hstart).2 with hcause | ⟨hcause, hquote, hopen⟩
  · exact .inl ⟨before, c, behind, hcs, hlex, hcause⟩
  · exact .inr ⟨hcause, before, c, behind, hcs, hlex, hquote, hopen⟩

theorem unbalancedQuotes_iff :
    (∃ text, tokens cs = .error (.unbalancedQuotes text)) ↔ LeavesQuoteOpen cs := by
  constructor
  · rintro ⟨text, h⟩
    rcases tokens_error_cases h with ⟨_, _, _, _, _, hcause⟩ | ⟨-, hopen⟩
    · cases hcause
    · exact hopen
  · intro h
    exact ⟨_, tokens_of_leavesQuoteOpen h⟩

end

/-! ## §5. Parentheses -/

/-- The parentheses pair up: there are as many that close as that open, and never more so far. -/
structure Paired (kinds : List TokenKind) : Prop where
  never_below : ∀ front, front <+: kinds → front.count .closeParen ≤ front.count .openParen
  settled : kinds.count .closeParen = kinds.count .openParen

/-- The same, behind `depth` parentheses that are open. -/
structure PairedFrom (depth : Nat) (kinds : List TokenKind) : Prop where
  never_below : ∀ front, front <+: kinds → front.count .closeParen ≤ depth + front.count .openParen
  settled : kinds.count .closeParen = depth + kinds.count .openParen

theorem pairedFrom_zero_iff {kinds : List TokenKind} : PairedFrom 0 kinds ↔ Paired kinds := by
  constructor <;> intro h <;> exact ⟨by simpa using h.never_below, by simpa using h.settled⟩

/-- What a token does to the count. -/
theorem pairedFrom_cons_iff {depth depth' : Nat} {kind : TokenKind} {kinds : List TokenKind}
    (h : depth + [kind].count .openParen = depth' + [kind].count .closeParen) :
    PairedFrom depth (kind :: kinds) ↔ PairedFrom depth' kinds := by
  have hcount (k : TokenKind) (front : List TokenKind) :
      (kind :: front).count k = [kind].count k + front.count k := by
    rw [← List.count_append]
    rfl
  constructor
  · intro hp
    refine ⟨?_, ?_⟩
    · intro front hfront
      have hle := hp.never_below (kind :: front) ((List.prefix_cons_inj kind).2 hfront)
      rw [hcount _ front, hcount _ front] at hle
      omega
    · have heq := hp.settled
      rw [hcount _ kinds, hcount _ kinds] at heq
      omega
  · intro hp
    refine ⟨?_, ?_⟩
    · intro front hfront
      rcases List.prefix_cons_iff.1 hfront with rfl | ⟨behind, rfl, hbehind⟩
      · simp
      · have hle := hp.never_below behind hbehind
        rw [hcount _ behind, hcount _ behind]
        omega
    · have heq := hp.settled
      rw [hcount _ kinds, hcount _ kinds]
      omega

theorem parensBalance_iff_pairedFrom (depth : Nat) (ts : List Token) :
    parensBalance depth ts = true ↔ PairedFrom depth (ts.map Token.kind) := by
  induction ts generalizing depth with
  | nil =>
    constructor
    · intro h
      obtain rfl : depth = 0 := by simpa [parensBalance] using h
      exact ⟨by simp, rfl⟩
    · intro h
      have heq := h.settled
      simp at heq
      simp [parensBalance, heq]
  | cons t ts ih =>
    obtain ⟨kind, position⟩ := t
    cases kind with
    | openParen => exact (ih (depth + 1)).trans (pairedFrom_cons_iff rfl).symm
    | closeParen =>
      cases depth with
      | zero =>
        -- Closed without being open.
        constructor
        · intro h
          cases h
        · intro h
          have hle := h.never_below [.closeParen] ⟨_, rfl⟩
          simp at hle
      | succ depth => exact (ih depth).trans (pairedFrom_cons_iff rfl).symm
    | not | and | or | comma | item s => exact (ih depth).trans (pairedFrom_cons_iff rfl).symm

/-- **The count of open parentheses tells whether they pair up.** -/
theorem parensBalance_iff (ts : List Token) :
    parensBalance 0 ts = true ↔ Paired (ts.map Token.kind) :=
  (parensBalance_iff_pairedFrom 0 ts).trans pairedFrom_zero_iff

end ContentGate.Notation
