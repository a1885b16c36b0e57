/-
  ContentGate.Proofs.Notation.Spacing — spaces around symbols do not matter.

  A symbol between spaces has a gap on each side, and closing both takes
  `a == b` to `a==b`.  The reader accepts it and reads the same condition.

  Two things are asked.  The symbol must not stand in a string, where spaces
  belong to the text.  And the text behind it must not begin with the sign
  `!`, whose character is one of symbols: `a==!b` is not split.

  Main statements:
    * `parse_eq_ok_iff` — when a whole text is accepted;
    * `Accepts.close` — gaps in whole texts;
    * `parse_close` — spaces around a symbol.
-/
import ContentGate.Proofs.Notation.OperandGaps

namespace ContentGate.Direct

open Text Notation

/-! ## §1. Whole texts -/

section
variable {k : Nat} {cs front back : List Char} {ms ns mid : List Marked} {e : Expression}

/-- Characters without parentheses do not matter to the balance. -/
theorem marksBalance_drop_of_forall (hmid : ∀ m ∈ mid, parenStep m = 0)
    (h : marksBalance k (ms ++ (mid ++ ns)) = true) : marksBalance k (ms ++ ns) = true := by
  induction mid with
  | nil => exact h
  | cons m mid ih =>
    obtain ⟨hm, hrest⟩ := List.forall_mem_cons.1 hmid
    exact ih hrest (marksBalance_drop hm h)

theorem parenStep_of_mem_blank (h : blank cs = true) : ∀ m ∈ bare cs, parenStep m = 0 := by
  intro m hm
  obtain ⟨c, hc, rfl⟩ := List.mem_map.1 hm
  exact parenStep_of_isBlank (List.all_eq_true.1 h c hc)

/-- A text that may stand, with the blanks around it trimmed away. -/
theorem Part.exists_trim (h : Part cs ns) :
    ∃ ms back, ns = bare (cs.takeWhile isBlank) ++ (ms ++ back) ∧ Part (trim cs) ms := by
  obtain ⟨back, hcs, hback⟩ := exists_behind_trim cs
  have hfront : blank (cs.takeWhile isBlank) = true := List.all_takeWhile
  have hmarks := h.marks
  generalize cs.takeWhile isBlank = front at hcs hfront ⊢
  rw [hcs] at hmarks
  -- No string is open at the blanks in front, nor behind a last character that is no quote.
  obtain ⟨rest, rfl, hrest⟩ := hmarks.behind (marks_blank hfront)
  obtain ⟨ms, rfl, hms⟩ := marks_of_append_blank hback hrest
  refine ⟨ms, bare back, rfl, hms, ?_, fun m hm => h.permitted m (by simp [hm])⟩
  have hstart : marksBalance 0 ([] ++ (ms ++ bare back)) = true :=
    marksBalance_drop_of_forall (parenStep_of_mem_blank hfront) h.balanced
  rw [List.nil_append, ← List.append_nil (bare back)] at hstart
  have hboth := marksBalance_drop_of_forall (parenStep_of_mem_blank hback) hstart
  rwa [List.append_nil] at hboth

/-- **Blanks around a text do not matter to the check of it.** -/
theorem part_trim : (∃ ms, Part (trim cs) ms) ↔ ∃ ms, Part cs ms := by
  constructor
  · rintro ⟨ms, h⟩
    obtain ⟨front, back, hcs, hfront, hback⟩ := exists_trim cs
    rw [hcs]
    exact ⟨_, (part_blank hfront).append (h.append (part_blank hback))⟩
  · rintro ⟨ns, h⟩
    obtain ⟨ms, _, -, hms⟩ := h.exists_trim
    exact ⟨ms, hms⟩

/-- A text that passes the check passes it without a gap. -/
theorem part_close (h : ∃ ns, Part (front ++ ' ' :: back) ns) (hms : Marks front ms) :
    ∃ ns, Part (front ++ back) ns ∧ ∃ rest, Marks back rest := by
  obtain ⟨ns, h⟩ := h
  obtain ⟨behind, rfl, hbehind⟩ := h.marks.behind hms
  obtain ⟨rest, rfl, hrest⟩ : ∃ rest, behind = [(' ', false)] ++ rest ∧ Marks back rest :=
    Marks.behind hbehind marks_space
  refine ⟨ms ++ rest, ⟨hms.append hrest, ?_, fun m hm => h.permitted m ?_⟩, rest, hrest⟩
  · exact marksBalance_drop rfl h.balanced
  · rcases List.mem_append.1 hm with hm | hm
    · exact List.mem_append_left _ hm
    · exact List.mem_append_right _ (List.mem_cons_of_mem _ hm)

/-- A text that passes the check and is read. -/
structure Accepts (cs : List Char) (e : Expression) : Prop where
  part : ∃ ms, Part cs ms
  reads : expression maxNesting cs = .ok e

/-- **The reader accepts a text when it passes the check and is read.** -/
theorem parse_eq_ok_iff {raw : String} : parse raw = .ok e ↔ Accepts raw.toList e := by
  constructor
  · intro h
    obtain ⟨-, hpart, hread⟩ := part_of_parse h
    exact ⟨part_trim.1 hpart, by rwa [expression_trim] at hread⟩
  · rintro ⟨hpart, hread⟩
    obtain ⟨ms, hpart⟩ := part_trim.2 hpart
    have hempty : (trim raw.toList).isEmpty = false :=
      List.isEmpty_eq_false_iff.2 (ne_nil_of_expression hread)
    unfold parse
    simp only [hempty, hpart.check, expression_trim, hread]
    rfl

/-- **Gaps do not matter** to whole texts. -/
theorem Accepts.close (h : Accepts (front ++ ' ' :: back) e) (hgap : Gap front back)
    (hms : Marks front ms) : Accepts (front ++ back) e := by
  obtain ⟨ns, hpart, rest, hrest⟩ := part_close h.part hms
  obtain ⟨-, hclosed⟩ := (closes_of_levels maxNesting).1 hgap hms hrest e h.reads
  exact ⟨⟨ns, hpart⟩, hclosed⟩

end

/-! ## §2. Symbols between spaces -/

/-- The symbols of operators. -/
def symbols : List String := ["==", "===", "!=", "!==", "<", "<=", ">", ">=", "&&", "||"]

/-- A symbol has only its characters, -/
theorem symbols_chars {op : String} (hop : op ∈ symbols) :
    endsInSymbol op.toList = true ∧ startsInSymbol op.toList = true ∧ op.toList ≠ []
      ∧ op.toList.all isNoQuote = true := by
  have hall : ∀ op ∈ symbols, endsInSymbol op.toList = true ∧ startsInSymbol op.toList = true
      ∧ op.toList ≠ [] ∧ op.toList.all isNoQuote = true := by decide
  exact hall op hop

/-- and is no sign: it may begin with `!=`. -/
theorem not_signed_symbol {op : String} (hop : op ∈ symbols) (rest : List Char) :
    ¬ Signed (op.toList ++ rest) := by
  have hall : ∀ op ∈ symbols, ∃ a w, op.toList = a :: w
      ∧ (a ≠ '!' ∨ ∃ v, w = '=' :: v) := by
    simp [symbols]
  obtain ⟨a, w, heq, hkind⟩ := hall op hop
  rintro ⟨c, more, hsigned, hc⟩
  rw [heq, List.cons_append] at hsigned
  obtain ⟨rfl, htail⟩ := List.cons.inj hsigned
  rcases hkind with hne | ⟨v, rfl⟩
  · exact hne rfl
  · exact hc (List.cons.inj htail).1.symm

/-- **Spaces around a symbol do not matter**, where no string is open in front
of it and no sign `!` follows it. -/
theorem parse_close {L R op : String} {e : Expression} (hop : op ∈ symbols)
    (hopen : marked? L.toList ≠ none) (hsign : R.toList.head? ≠ some '!')
    (h : parse (L ++ " " ++ op ++ " " ++ R) = .ok e) : parse (L ++ op ++ R) = .ok e := by
  obtain ⟨hend, hstart, hne, hnoquote⟩ := symbols_chars hop
  obtain ⟨ms, hms⟩ := Option.ne_none_iff_exists'.1 hopen
  have hleft := marks_of_marked? hms
  have hfront : Marks (L.toList ++ ' ' :: op.toList) _ := marks_gap hleft (marks_bare hnoquote)
  rw [parse_eq_ok_iff] at h ⊢
  have hspaced : (L ++ " " ++ op ++ " " ++ R).toList
      = L.toList ++ ' ' :: op.toList ++ ' ' :: R.toList := by
    simp
  rw [hspaced] at h
  have hunsigned' : ¬ Signed R.toList := by
    rintro ⟨c, rest, heq, -⟩
    rw [heq] at hsign
    exact hsign rfl
  -- First the gap behind the symbol is closed, and then the one in front of it.
  have hbehind : Gap (L.toList ++ ' ' :: op.toList) R.toList := by
    refine ⟨.inr (.inr (.inl ?_)), hunsigned'⟩
    rw [List.append_cons, endsInSymbol_append _ hne, hend]
  have hbefore : Gap L.toList (op.toList ++ R.toList) := by
    refine ⟨.inr (.inr (.inr ?_)), not_signed_symbol hop _⟩
    rw [startsInSymbol_append hne, hstart]
  have hone := h.close hbehind hfront
  rw [List.append_assoc, List.cons_append] at hone
  have hboth := hone.close hbefore hleft
  rw [String.toList_append, String.toList_append, List.append_assoc]
  exact hboth

/-- What is read where a symbol stands deep inside a call, with a string before it. -/
def nestedCondition : Expression :=
  .binary
    (.call "count" [.literal (.string "a && b"),
      .unary .not (.binary (.binary (.call "user_role" []) .eq (.literal (.string "editor"))) .or
        (.call "is_admin" []))])
    .or (.call "is_guest" [])

theorem parse_close_nested :
    "||" ∈ symbols ∧ marked? "count('a && b', !(user_role() === 'editor'".toList ≠ none
    ∧ "is_admin())) or is_guest()".toList.head? ≠ some '!'
    ∧ parse ("count('a && b', !(user_role() === 'editor'" ++ " " ++ "||" ++ " "
        ++ "is_admin())) or is_guest()") = .ok nestedCondition
    ∧ parse ("count('a && b', !(user_role() === 'editor'" ++ "||" ++ "is_admin())) or is_guest()")
      = .ok nestedCondition := by
  have hspaced : parse ("count('a && b', !(user_role() === 'editor'" ++ " " ++ "||" ++ " "
      ++ "is_admin())) or is_guest()") = .ok nestedCondition := by rfl
  have hclosed := parse_close (by decide) (by decide) (by decide) hspaced
  exact ⟨by decide, by decide, by decide, hspaced, hclosed⟩

/-- **Both conditions are needed.**  The spaces of a string belong to it, and a
symbol is not found in front of the character of a sign. -/
theorem spaces_matter_in_string_and_before_sign :
    (marked? "'a".toList = none
      ∧ parse ("'a" ++ " " ++ "==" ++ " " ++ "b'") = .ok (.literal (.string "a == b"))
      ∧ parse ("'a" ++ "==" ++ "b'") ≠ .ok (.literal (.string "a == b")))
    ∧ parse ("true" ++ " " ++ "==" ++ " " ++ "!false")
        = .ok (.binary (.literal (.bool true)) .eq (.unary .not (.literal (.bool false))))
      ∧ parse ("true" ++ "==" ++ "!false")
        ≠ .ok (.binary (.literal (.bool true)) .eq (.unary .not (.literal (.bool false)))) := by
  have hquoted : parse ("'a" ++ "==" ++ "b'") = .ok (.literal (.string "a==b")) := by rfl
  have hsign : (parse ("true" ++ "==" ++ "!false")).isOk = false := by rfl
  refine ⟨⟨rfl, rfl, ?_⟩, rfl, fun hok => ?_⟩
  · rw [hquoted]
    simp
  · rw [hok] at hsign
    cases hsign

end ContentGate.Direct
