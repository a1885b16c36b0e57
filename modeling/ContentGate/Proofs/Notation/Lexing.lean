/-
  ContentGate.Proofs.Notation.Lexing — the spelling of tokens, apart from their reader.

  A token is spelled by one of the characters `( ) , !`, by `&&` or
  `||`, by a text between two quotes of one kind, or by a run of bare
  characters that no bare character follows (`Lexeme`).  A text lexes
  into tokens when it consists of such spellings and of blanks between
  them (`Lexes`).  Neither relation mentions an offset or a reader.

  Main statements:
    * `startToken_of_lexeme` — one step of the reader finds a spelling;
    * `startToken_cases`, `reading_induction` — what can stand at the start
      of a text, and induction by it;
    * `lexes_iff` — the reader accepts exactly the texts that lex, and
      finds their tokens;
    * `Lexes.unique` — a text lexes in one way at most.
-/
import ContentGate.Notation.Token
import ContentGate.Proofs.Text.Blank

namespace ContentGate.Notation

open ContentGate.Text

/-! ## §1. Spellings -/

/-- The characters of a token, where `behind` follows them. -/
inductive Lexeme : (before behind : List Char) → TokenKind → Prop where
  | openParen (behind : List Char) : Lexeme ['('] behind .openParen
  | closeParen (behind : List Char) : Lexeme [')'] behind .closeParen
  | comma (behind : List Char) : Lexeme [','] behind .comma
  | not (behind : List Char) : Lexeme ['!'] behind .not
  | and (behind : List Char) : Lexeme ['&', '&'] behind .and
  | or (behind : List Char) : Lexeme ['|', '|'] behind .or
  | quoted {quote : Char} {body : List Char} (behind : List Char)
      (hquote : quote = '"' ∨ quote = '\'') (hbody : quote ∉ body) :
      Lexeme (quote :: (body ++ [quote])) behind (.item (String.ofList body))
  | word {w behind : List Char} (hne : w ≠ []) (hw : ∀ c ∈ w, isBareChar c = true)
      (hend : ∀ c ∈ behind.head?, isBareChar c = false) : Lexeme w behind (.ofWord w)

/-- A text is made of the spellings of these tokens, and of blanks between them. -/
inductive Lexes : List Char → List TokenKind → Prop where
  | nil : Lexes [] []
  | blank {c : Char} {cs : List Char} {kinds : List TokenKind} (hc : isBlank c = true)
      (h : Lexes cs kinds) : Lexes (c :: cs) kinds
  | lexeme {before behind : List Char} {kind : TokenKind} {kinds : List TokenKind}
      (hk : Lexeme before behind kind) (h : Lexes behind kinds) :
      Lexes (before ++ behind) (kind :: kinds)

/-! ## §2. Bare characters -/

/-- A blank is no part of a word. -/
theorem isBareChar_of_isBlank {c : Char} (h : isBlank c = true) : isBareChar c = false := by
  have hpunct : (['_', '-', '.', ':', '@', '/', '+'].all fun m => !isBlank m) = true := by decide
  unfold isBareChar
  rw [isAlphanumeric_of_isBlank h, Bool.false_or, ← Bool.not_eq_true, List.contains_iff_mem]
  intro hmem
  have hc := List.all_eq_true.1 hpunct c hmem
  rw [h] at hc
  cases hc

/-- The characters that are tokens of their own, or start other tokens than words. -/
def marks : List Char := ['(', ')', ',', '!', '&', '|', '"', '\'']

theorem isBareChar_marks : (marks.all fun c => !isBareChar c) = true := by decide +kernel

theorem isBareChar_of_mem_marks {c : Char} (hc : c ∈ marks) : isBareChar c = false := by
  simpa using List.all_eq_true.1 isBareChar_marks c hc

/-- A bare character is none of the marks. -/
theorem ne_of_isBareChar {c m : Char} (h : isBareChar c = true) (hm : m ∈ marks) : c ≠ m := by
  rintro rfl
  rw [isBareChar_of_mem_marks hm] at h
  cases h

/-! ## §3. One step of the reader -/

section
variable {whole : List Char} {position : Nat}

/-- The reader finds a token where its spelling stands. -/
theorem startToken_of_lexeme {c : Char} {before behind : List Char} {kind : TokenKind}
    (h : Lexeme (c :: before) behind kind) :
    startToken whole position c (before ++ behind) = .ok (kind, before.length) := by
  -- The cases of a spelling fix its characters, so they are kept behind an equation.
  obtain ⟨cs, hcs⟩ : ∃ cs, c :: before = cs := ⟨_, rfl⟩
  rw [hcs] at h
  cases h with
  | openParen | closeParen | comma | not =>
    cases hcs
    rfl
  | and | or =>
    cases hcs
    rfl
  | @quoted _ body _ hquote hbody =>
    cases hcs
    unfold startToken
    rcases hquote with rfl | rfl <;> simp [takeWhile_up_to hbody]
  | word _ hw hend =>
    subst hcs
    have hc : isBareChar c = true := hw c List.mem_cons_self
    -- A bare character passes all tests before its own.
    have hne : ∀ m ∈ marks, c ≠ m := fun m hm => ne_of_isBareChar hc hm
    simp only [marks, List.forall_mem_cons] at hne
    obtain ⟨h₁, h₂, h₃, h₄, h₅, h₆, h₇, h₈, -⟩ := hne
    unfold startToken
    rw [if_neg h₁, if_neg h₂, if_neg h₃, if_neg h₄, if_neg (not_or.2 ⟨h₅, h₆⟩),
      if_neg (not_or.2 ⟨h₇, h₈⟩), if_pos hc,
      takeWhile_run (fun x hx => hw x (List.mem_cons_of_mem _ hx)) hend]

/-- A quote without a matching one starts no token, -/
theorem startToken_of_open_quote {c : Char} {cs : List Char} (hquote : c = '"' ∨ c = '\'')
    (hopen : c ∉ cs) :
    startToken whole position c cs = .error (.unbalancedQuotes (String.ofList whole)) := by
  unfold startToken
  rcases hquote with rfl | rfl <;> simp [hopen]

end

/-- and neither does a character that the notation does not have: this, a quote left open
and the spelling of a token are all that can stand at the start of a text. -/
theorem startToken_cases (c : Char) (cs : List Char) :
    (∃ before behind kind, cs = before ++ behind ∧ Lexeme (c :: before) behind kind)
      ∨ (c = '"' ∨ c = '\'') ∧ c ∉ cs
      ∨ isBareChar c = false ∧ ∀ whole position,
          startToken whole position c cs = .error (.invalidCharacter c position) := by
  by_cases h₁ : c = '('
  · exact .inl ⟨[], cs, .openParen, rfl, h₁ ▸ .openParen cs⟩
  by_cases h₂ : c = ')'
  · exact .inl ⟨[], cs, .closeParen, rfl, h₂ ▸ .closeParen cs⟩
  by_cases h₃ : c = ','
  · exact .inl ⟨[], cs, .comma, rfl, h₃ ▸ .comma cs⟩
  by_cases h₄ : c = '!'
  · exact .inl ⟨[], cs, .not, rfl, h₄ ▸ .not cs⟩
  by_cases h₅ : c = '&' ∨ c = '|'
  · by_cases hdouble : cs.head? = some c
    · obtain ⟨behind, rfl⟩ := List.head?_eq_some_iff.1 hdouble
      rcases h₅ with rfl | rfl
      · exact .inl ⟨['&'], behind, _, rfl, .and behind⟩
      · exact .inl ⟨['|'], behind, _, rfl, .or behind⟩
    · -- A connective that is not written twice.
      refine .inr (.inr ⟨?_, ?_⟩)
      · rcases h₅ with rfl | rfl <;> exact isBareChar_of_mem_marks (by decide)
      · intro whole position
        unfold startToken
        rw [if_neg h₁, if_neg h₂, if_neg h₃, if_neg h₄, if_pos h₅, if_neg hdouble]
  by_cases h₆ : c = '"' ∨ c = '\''
  · by_cases hclosed : c ∈ cs
    · obtain ⟨body, behind, rfl, hbody⟩ := List.eq_append_cons_of_mem hclosed
      exact .inl ⟨body ++ [c], behind, _, by simp, .quoted behind h₆ hbody⟩
    · exact .inr (.inl ⟨h₆, hclosed⟩)
  cases h₇ : isBareChar c with
  | true =>
    refine .inl ⟨cs.takeWhile isBareChar, cs.dropWhile isBareChar, _,
      List.takeWhile_append_dropWhile.symm, .word (List.cons_ne_nil _ _) ?_ ?_⟩
    · rw [List.forall_mem_cons]
      exact ⟨h₇, List.all_eq_true.1 List.all_takeWhile⟩
    · intro d hd
      have hstop := List.head?_dropWhile_not isBareChar cs
      rw [hd] at hstop
      simpa using hstop
  | false =>
    refine .inr (.inr ⟨rfl, ?_⟩)
    intro whole position
    unfold startToken
    rw [if_neg h₁, if_neg h₂, if_neg h₃, if_neg h₄, if_neg h₅, if_neg h₆, if_neg (by simp [h₇])]

section
variable {whole cs : List Char} {position : Nat} {c : Char}

/-- No token starts at a character for one of two reasons. -/
theorem startToken_eq_error {cause : ParseError}
    (h : startToken whole position c cs = .error cause) :
    isBareChar c = false
      ∧ (cause = .invalidCharacter c position
        ∨ cause = .unbalancedQuotes (String.ofList whole) ∧ (c = '"' ∨ c = '\'') ∧ c ∉ cs) := by
  rcases startToken_cases c cs with ⟨before, behind, kind, rfl, hk⟩ | ⟨hquote, hopen⟩ | ⟨hc, hnone⟩
  · rw [startToken_of_lexeme hk] at h
    cases h
  · rw [startToken_of_open_quote hquote hopen] at h
    cases h
    refine ⟨?_, .inr ⟨rfl, hquote, hopen⟩⟩
    rcases hquote with rfl | rfl <;> exact isBareChar_of_mem_marks (by decide)
  · rw [hnone] at h
    cases h
    exact ⟨hc, .inl rfl⟩

end

/-! ## §4. The whole text -/

/-- A spelling starts with a character that is no blank. -/
theorem Lexeme.exists_cons {before behind : List Char} {kind : TokenKind}
    (h : Lexeme before behind kind) : ∃ c cs, before = c :: cs ∧ isBlank c = false := by
  cases h with
  | openParen | closeParen | comma | not => exact ⟨_, _, rfl, by decide⟩
  | and | or => exact ⟨_, _, rfl, by decide⟩
  | quoted _ hquote _ => exact ⟨_, _, rfl, by rcases hquote with rfl | rfl <;> decide⟩
  | word hne hw _ =>
    obtain ⟨c, cs, rfl⟩ := List.exists_cons_of_ne_nil hne
    refine ⟨c, cs, rfl, ?_⟩
    rw [← Bool.not_eq_true]
    intro hblank
    have hbare := hw c List.mem_cons_self
    rw [isBareChar_of_isBlank hblank] at hbare
    cases hbare

variable {whole : List Char}

variable (whole) in
/-- The reader steps over the rest of a token. -/
theorem tokensFrom_append (before behind : List Char) (position : Nat) :
    tokensFrom whole position before.length (before ++ behind)
      = tokensFrom whole (position + utf8Length before) 0 behind := by
  induction before generalizing position with
  | nil => rfl
  | cons c cs ih =>
    rw [utf8Length_cons, ← Nat.add_assoc]
    exact ih (position + c.utf8Size)

theorem tokensFrom_blank {c : Char} (hc : isBlank c = true) (position : Nat) (cs : List Char) :
    tokensFrom whole position 0 (c :: cs)
      = tokensFrom whole (position + c.utf8Size) 0 cs := by
  rw [tokensFrom, if_pos hc]

/-- **Where a token is spelled, the reader finds it and goes on behind it.** -/
theorem tokensFrom_lexeme {before behind : List Char} {kind : TokenKind}
    (h : Lexeme before behind kind) (position : Nat) :
    tokensFrom whole position 0 (before ++ behind)
      = (tokensFrom whole (position + utf8Length before) 0 behind).map (⟨kind, position⟩ :: ·) := by
  obtain ⟨c, before, rfl, hc⟩ := h.exists_cons
  rw [List.cons_append, tokensFrom, if_neg (by simp [hc]), startToken_of_lexeme h]
  show (tokensFrom whole _ before.length (before ++ behind) >>= fun rest => _) = _
  rw [tokensFrom_append, utf8Length_cons, ← Nat.add_assoc]
  cases tokensFrom whole (position + c.utf8Size + utf8Length before) 0 behind <;> rfl

/-- So the tokens behind it are those that are found behind it, -/
theorem exists_of_tokensFrom_lexeme {before behind : List Char} {kind : TokenKind}
    (hk : Lexeme before behind kind) {position : Nat} {ts : List Token}
    (h : tokensFrom whole position 0 (before ++ behind) = .ok ts) :
    ∃ rest, tokensFrom whole (position + utf8Length before) 0 behind = .ok rest
      ∧ ts = ⟨kind, position⟩ :: rest := by
  rw [tokensFrom_lexeme hk] at h
  cases hrest : tokensFrom whole (position + utf8Length before) 0 behind with
  | error cause =>
    rw [hrest] at h
    cases h
  | ok rest =>
    rw [hrest] at h
    cases h
    exact ⟨rest, rfl, rfl⟩

/-- and the reader fails if it fails behind it. -/
theorem tokensFrom_lexeme_eq_error_iff {before behind : List Char} {kind : TokenKind}
    (hk : Lexeme before behind kind) {position : Nat} {cause : ParseError} :
    tokensFrom whole position 0 (before ++ behind) = .error cause
      ↔ tokensFrom whole (position + utf8Length before) 0 behind = .error cause := by
  rw [tokensFrom_lexeme hk]
  cases tokensFrom whole (position + utf8Length before) 0 behind with
  | error cause' => rfl
  | ok rest => constructor <;> intro h <;> cases h

/-- A text that lexes is read, token by token. -/
theorem tokensFrom_of_lexes {cs : List Char} {kinds : List TokenKind} (h : Lexes cs kinds)
    (position : Nat) :
    ∃ ts, tokensFrom whole position 0 cs = .ok ts ∧ ts.map Token.kind = kinds := by
  induction h generalizing position with
  | nil => exact ⟨[], by rw [tokensFrom], rfl⟩
  | blank hc _ ih =>
    rw [tokensFrom_blank hc]
    exact ih _
  | @lexeme before behind kind kinds hk _ ih =>
    obtain ⟨ts, hts, hkinds⟩ := ih (position + utf8Length before)
    refine ⟨⟨kind, position⟩ :: ts, ?_, by rw [List.map_cons, hkinds]⟩
    rw [tokensFrom_lexeme hk, hts]
    rfl

/-- **Induction over a text the way it is read.**  The text is empty, or it starts with a
blank, or with a token, or with a character at which no token starts. -/
theorem reading_induction {motive : List Char → Prop} (nil : motive [])
    (blank : ∀ {c cs}, isBlank c = true → motive cs → motive (c :: cs))
    (lexeme : ∀ {before behind kind}, Lexeme before behind kind → motive behind →
      motive (before ++ behind))
    (stuck : ∀ {c cs}, isBlank c = false →
      (∀ whole position, ∃ cause, startToken whole position c cs = .error cause) → motive (c :: cs))
    (cs : List Char) : motive cs := by
  -- A token takes several characters at once, so the induction is on the length.
  induction hn : cs.length using Nat.strongRecOn generalizing cs with
  | ind n ih =>
    subst hn
    cases cs with
    | nil => exact nil
    | cons c cs =>
      cases hc : isBlank c with
      | true => exact blank hc (ih cs.length (Nat.lt_succ_self _) cs rfl)
      | false =>
        rcases startToken_cases c cs with
          ⟨before, behind, kind, rfl, hk⟩ | ⟨hquote, hopen⟩ | ⟨-, hnone⟩
        · apply lexeme hk
          apply ih behind.length _ behind rfl
          simp only [List.length_cons, List.length_append]
          omega
        · exact stuck hc fun whole position => ⟨_, startToken_of_open_quote hquote hopen⟩
        · exact stuck hc fun whole position => ⟨_, hnone whole position⟩

/-- What is read is spelled in the text, and nothing else but blanks is. -/
theorem lexes_of_tokensFrom {cs : List Char} {position : Nat} {ts : List Token}
    (h : tokensFrom whole position 0 cs = .ok ts) : Lexes cs (ts.map Token.kind) := by
  induction cs using reading_induction generalizing position ts with
  | nil =>
    rw [tokensFrom] at h
    cases h
    exact .nil
  | blank hc ih =>
    rw [tokensFrom_blank hc] at h
    exact .blank hc (ih h)
  | @lexeme before behind kind hk ih =>
    obtain ⟨rest, hrest, rfl⟩ := exists_of_tokensFrom_lexeme hk h
    exact .lexeme hk (ih hrest)
  | stuck hc hstart =>
    obtain ⟨cause, hcause⟩ := hstart whole position
    rw [tokensFrom, if_neg (by simp [hc]), hcause] at h
    cases h

/-- **The reader accepts exactly the texts that lex, and finds their tokens.** -/
theorem lexes_iff {cs : List Char} {kinds : List TokenKind} :
    Lexes cs kinds ↔ ∃ ts, tokens cs = .ok ts ∧ ts.map Token.kind = kinds := by
  constructor
  · intro h
    exact tokensFrom_of_lexes h 0
  · rintro ⟨ts, hts, rfl⟩
    exact lexes_of_tokensFrom hts

/-- **A text lexes in one way at most.** -/
theorem Lexes.unique {cs : List Char} {kinds kinds' : List TokenKind} (h : Lexes cs kinds)
    (h' : Lexes cs kinds') : kinds = kinds' := by
  obtain ⟨ts, hts, rfl⟩ := lexes_iff.1 h
  obtain ⟨ts', hts', rfl⟩ := lexes_iff.1 h'
  rw [hts] at hts'
  cases hts'
  rfl

end ContentGate.Notation
