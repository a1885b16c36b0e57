/-
  ContentGate.Proofs.Text.Blank — blanks, trimming and letters.

  Readers skip blanks before they look for words, so it matters that no
  blank is a letter or a number.  The tables of Letters are compared
  with the ranges of the blanks, range by range.

  Main statements:
    * `takeWhile_run`, `dropWhile_run` — a run of characters of a kind, and what is behind it;
    * `isAlphanumeric_of_isBlank`, `isWordChar_of_isBlank` — no blank is alphanumeric, or a
      character of a name;
    * `trim_eq_nil_iff` — a text is trimmed away when it is blank;
    * `Solid.trim` — a text without blanks at its ends is left alone;
    * `exists_trim`, `Solid.trim_around`, `trim_blank_append`, `trim_append_blank` — what
      trimming takes away.
-/
import Mathlib.Data.List.Induction
import ContentGate.Text.Blank
import ContentGate.Text.Letters

namespace ContentGate.Text

/-- A list that is not empty has a last member. -/
theorem exists_concat {α : Type} {as : List α} (h : as ≠ []) : ∃ before a, as = before ++ [a] :=
  ⟨_, _, (List.dropLast_concat_getLast h).symm⟩

/-! ## §1. Runs of characters -/

section
variable {p : Char → Bool} {run rest : List Char}

/-- A run of characters of a kind ends where none of this kind follows; -/
theorem takeWhile_run (hrun : ∀ c ∈ run, p c = true) (hrest : ∀ c ∈ rest.head?, p c = false) :
    (run ++ rest).takeWhile p = run := by
  rw [List.takeWhile_append_of_pos hrun]
  cases rest with
  | nil => exact List.append_nil run
  | cons c rest => rw [List.takeWhile_cons_of_neg (by simp [hrest c rfl]), List.append_nil]

/-- there the rest begins. -/
theorem dropWhile_run (hrun : ∀ c ∈ run, p c = true) (hrest : ∀ c ∈ rest.head?, p c = false) :
    (run ++ rest).dropWhile p = rest := by
  rw [List.dropWhile_append_of_pos hrun]
  cases rest with
  | nil => rfl
  | cons c rest => rw [List.dropWhile_cons_of_neg (by simp [hrest c rfl])]

/-- Everything up to the first character of a kind. -/
theorem takeWhile_up_to {stop : Char} (h : stop ∉ run) (rest : List Char) :
    (run ++ stop :: rest).takeWhile (· != stop) = run := by
  refine takeWhile_run (fun c hc => ?_) fun c hc => ?_
  · rw [bne_iff_ne]
    rintro rfl
    exact h hc
  · obtain rfl := Option.some.inj hc
    exact bne_self_eq_false stop

end

/-! ## §2. Blanks are no letters -/

theorem isAlpha_of_isUpper {c : Char} (h : c.isUpper = true) : c.isAlpha = true := by
  show (c.isUpper || c.isLower) = true
  rw [h, Bool.true_or]

/-- The code points of the blanks, as closed ranges. -/
def blankRanges : List (Nat × Nat) :=
  [(9, 13), (0x20, 0x20), (0x85, 0x85), (0xA0, 0xA0), (0x1680, 0x1680), (0x2000, 0x200A),
    (0x2028, 0x2029), (0x202F, 0x202F), (0x205F, 0x205F), (0x3000, 0x3000)]

theorem exists_blankRange {c : Char} (h : isBlank c = true) :
    ∃ q ∈ blankRanges, q.1 ≤ c.toNat ∧ c.toNat ≤ q.2 := by
  simp only [isBlank, Bool.or_eq_true, Bool.and_eq_true, decide_eq_true_eq, beq_iff_eq] at h
  simp only [blankRanges, List.mem_cons, List.not_mem_nil, or_false, exists_eq_or_imp,
    exists_eq_left]
  omega

/-- No range of the first list meets one of the second. -/
def rangesApart (rs qs : List (Nat × Nat)) : Bool :=
  rs.all fun r => qs.all fun q => r.2.blt q.1 || q.2.blt r.1

/-- The tables of letters, of numbers and of what else a name may have. -/
def letterTables : List (Array (Nat × Nat)) :=
  [alphabeticRanges, recentAlphabeticRanges, numberRanges, wordJoinRanges]

theorem letterTables_apart :
    (letterTables.all fun table => rangesApart table.toList blankRanges) = true := by
  decide +kernel

/-- No blank stands in one of the tables. -/
theorem not_inRanges_of_isBlank {c : Char} (h : isBlank c = true) :
    ∀ table ∈ letterTables, inRanges table c.toNat = false := by
  intro table htable
  obtain ⟨q, hq, hc⟩ := exists_blankRange h
  have htables := List.all_eq_true.1 letterTables_apart table htable
  unfold inRanges
  rw [← Array.any_toList, List.any_eq_false]
  rintro ⟨lo, hi⟩ hr hmem
  have hapart := List.all_eq_true.1 (List.all_eq_true.1 htables _ hr) q hq
  simp only [Bool.or_eq_true, Nat.blt_eq, Bool.and_eq_true, decide_eq_true_eq] at hapart hmem
  omega

/-- **No blank is alphanumeric.** -/
theorem isAlphanumeric_of_isBlank {c : Char} (h : isBlank c = true) :
    isAlphanumeric c = false := by
  unfold isAlphanumeric
  split
  · -- In ASCII only the six characters from tab to space are blank.
    rename_i hascii
    rw [← Char.ofNat_toNat c]
    have hcode : c.toNat ∈ [9, 10, 11, 12, 13, 32] := by
      simp only [isBlank, Bool.or_eq_true, Bool.and_eq_true, decide_eq_true_eq, beq_iff_eq] at h
      simp only [List.mem_cons, List.not_mem_nil]
      omega
    have hall : ∀ n ∈ [9, 10, 11, 12, 13, 32], isAsciiAlphanumeric (Char.ofNat n) = false := by
      decide
    exact hall _ hcode
  · have hnone := not_inRanges_of_isBlank h
    rw [hnone alphabeticRanges (by simp [letterTables]),
      hnone recentAlphabeticRanges (by simp [letterTables]),
      hnone numberRanges (by simp [letterTables])]
    rfl

/-- No blank is a character of a name. -/
theorem isWordChar_of_isBlank {c : Char} (h : isBlank c = true) : isWordChar c = false := by
  have halphanumeric := isAlphanumeric_of_isBlank h
  unfold isAlphanumeric at halphanumeric
  unfold isWordChar
  split
  · rename_i hascii
    rw [if_pos hascii] at halphanumeric
    rw [halphanumeric, Bool.false_or, beq_eq_false_iff_ne]
    rintro rfl
    exact absurd h (by decide)
  · have hnone := not_inRanges_of_isBlank h
    rw [hnone alphabeticRanges (by simp [letterTables]),
      hnone wordJoinRanges (by simp [letterTables])]
    rfl

/-! ## §3. Trimming -/

theorem dropEndWhile_eq_nil_iff {p : Char → Bool} {cs : List Char} :
    dropEndWhile p cs = [] ↔ ∀ c ∈ cs, p c = true := by
  induction cs with
  | nil => simp [dropEndWhile]
  | cons c cs ih =>
    unfold dropEndWhile
    cases hcs : dropEndWhile p cs with
    | nil =>
      rw [List.forall_mem_cons, and_iff_left (ih.1 hcs)]
      cases p c <;> simp
    | cons d ds =>
      have hsome : ¬ ∀ c ∈ cs, p c = true := fun hall => by
        rw [ih.2 hall] at hcs
        cases hcs
      simp only [List.cons_ne_nil, false_iff]
      intro hall
      exact hsome fun c hc => hall c (List.mem_cons_of_mem _ hc)

/-- **A text is trimmed away when it is blank.** -/
theorem trim_eq_nil_iff {cs : List Char} : trim cs = [] ↔ blank cs = true := by
  unfold trim trimEnd trimStart blank
  rw [dropEndWhile_eq_nil_iff, List.all_eq_true]
  constructor
  · intro h c hc
    rw [← List.takeWhile_append_dropWhile (p := isBlank) (l := cs)] at hc
    rcases List.mem_append.1 hc with htake | hdrop
    · exact List.all_eq_true.1 List.all_takeWhile c htake
    · exact h c hdrop
  · intro h c hc
    exact h c ((List.dropWhile_suffix isBlank).subset hc)

theorem dropEndWhile_append_of_pos {p : Char → Bool} {c : Char} (h : p c = true)
    (cs : List Char) : dropEndWhile p (cs ++ [c]) = dropEndWhile p cs := by
  induction cs with
  | nil => simp [dropEndWhile, h]
  | cons d cs ih => rw [List.cons_append, dropEndWhile, ih, dropEndWhile]

theorem dropEndWhile_append_of_forall {p : Char → Bool} {back : List Char}
    (h : ∀ c ∈ back, p c = true) (cs : List Char) :
    dropEndWhile p (cs ++ back) = dropEndWhile p cs := by
  induction back using List.reverseRecOn with
  | nil => rw [List.append_nil]
  | append_singleton back c ih =>
    obtain ⟨hback, hc⟩ := List.forall_mem_append.1 h
    rw [← List.append_assoc, dropEndWhile_append_of_pos (hc c List.mem_cons_self), ih hback]

/-- A character that stays keeps what stands in front of it. -/
theorem dropEndWhile_append_cons {p : Char → Bool} {c : Char} (h : p c = false)
    (front back : List Char) :
    dropEndWhile p (front ++ c :: back) = front ++ c :: dropEndWhile p back := by
  induction front with
  | nil =>
    show dropEndWhile p (c :: back) = c :: dropEndWhile p back
    rw [dropEndWhile]
    cases dropEndWhile p back with
    | nil => simp [h]
    | cons d ds => rfl
  | cons d front ih =>
    rw [List.cons_append, dropEndWhile, ih]
    cases front <;> rfl

theorem dropEndWhile_append_of_neg {p : Char → Bool} {c : Char} (h : p c = false)
    (cs : List Char) : dropEndWhile p (cs ++ [c]) = cs ++ [c] :=
  dropEndWhile_append_cons h cs []

/-- Blanks in front of a text are trimmed away, -/
theorem trim_blank_append {front : List Char} (h : blank front = true) (cs : List Char) :
    trim (front ++ cs) = trim cs := by
  have hstart : trimStart (front ++ cs) = trimStart cs :=
    List.dropWhile_append_of_pos (List.all_eq_true.1 h)
  unfold trim
  rw [hstart]

/-- and so are those behind it. -/
theorem trim_append_blank {back : List Char} (h : blank back = true) (cs : List Char) :
    trim (cs ++ back) = trim cs := by
  have hend : trimEnd (trimStart cs ++ back) = trimEnd (trimStart cs) :=
    dropEndWhile_append_of_forall (List.all_eq_true.1 h) (trimStart cs)
  unfold trim trimStart
  rw [List.dropWhile_append]
  cases hcs : (cs.dropWhile isBlank).isEmpty with
  | false =>
    simp only [Bool.false_eq_true, if_false]
    exact hend
  | true =>
    -- Then the text is all blank.
    have hback : back.dropWhile isBlank = [] := by
      have hall : (back ++ []).dropWhile isBlank = [].dropWhile isBlank :=
        List.dropWhile_append_of_pos (List.all_eq_true.1 h)
      rwa [List.append_nil] at hall
    rw [if_pos rfl, hback, List.isEmpty_iff.1 hcs]

/-! ## §4. What trimming leaves alone -/

/-- A text that has no blank at its two ends, and is not empty. -/
structure Solid (cs : List Char) : Prop where
  head : ∃ c rest, cs = c :: rest ∧ isBlank c = false
  last : ∃ before c, cs = before ++ [c] ∧ isBlank c = false

namespace Solid

variable {cs ds : List Char}

theorem ne_nil (h : Solid cs) : cs ≠ [] := by
  obtain ⟨c, rest, rfl, -⟩ := h.head
  exact List.cons_ne_nil _ _

theorem singleton {c : Char} (h : isBlank c = false) : Solid [c] :=
  ⟨⟨c, [], rfl, h⟩, ⟨[], c, rfl, h⟩⟩

/-- A text without any blank. -/
theorem of_forall (hne : cs ≠ []) (h : ∀ c ∈ cs, isBlank c = false) : Solid cs := by
  refine ⟨?_, cs.dropLast, cs.getLast hne, (List.dropLast_concat_getLast hne).symm,
    h _ (List.getLast_mem hne)⟩
  cases cs with
  | nil => exact absurd rfl hne
  | cons c cs => exact ⟨c, cs, rfl, h c List.mem_cons_self⟩

/-- Only the two ends matter. -/
theorem append (hcs : Solid cs) (hds : Solid ds) (between : List Char) :
    Solid (cs ++ (between ++ ds)) := by
  obtain ⟨c, rest, rfl, hc⟩ := hcs.head
  obtain ⟨before, d, rfl, hd⟩ := hds.last
  refine ⟨⟨c, rest ++ (between ++ (before ++ [d])), rfl, hc⟩,
    ⟨c :: (rest ++ (between ++ before)), d, ?_, hd⟩⟩
  simp

theorem cons (h : Solid cs) {c : Char} (hc : isBlank c = false) : Solid (c :: cs) :=
  (singleton hc).append h []

/-- A text between two characters that are not blank. -/
theorem enclose {c d : Char} (hc : isBlank c = false) (hd : isBlank d = false) (cs : List Char) :
    Solid (c :: (cs ++ [d])) :=
  (singleton hc).append (singleton hd) cs

theorem trimStart (h : Solid cs) : Text.trimStart cs = cs := by
  obtain ⟨c, rest, rfl, hc⟩ := h.head
  exact List.dropWhile_cons_of_neg (by simp [hc])

theorem trimEnd (h : Solid cs) : Text.trimEnd cs = cs := by
  obtain ⟨before, c, rfl, hc⟩ := h.last
  exact dropEndWhile_append_of_neg hc before

/-- **A solid text is left alone.** -/
theorem trim (h : Solid cs) : Text.trim cs = cs := by
  unfold Text.trim
  rw [h.trimStart, h.trimEnd]

/-- **Blanks around a solid text are trimmed away.** -/
theorem trim_around (h : Solid cs) {front back : List Char} (hfront : blank front = true)
    (hback : blank back = true) : Text.trim (front ++ (cs ++ back)) = cs := by
  rw [trim_blank_append hfront, trim_append_blank hback, h.trim]

end Solid

/-! ## §5. What trimming takes away -/

theorem exists_dropEndWhile (p : Char → Bool) (cs : List Char) :
    ∃ back, cs = dropEndWhile p cs ++ back ∧ (∀ c ∈ back, p c = true)
      ∧ ∀ before c, dropEndWhile p cs = before ++ [c] → p c = false := by
  induction cs using List.reverseRecOn with
  | nil => exact ⟨[], rfl, by simp, by simp [dropEndWhile]⟩
  | append_singleton cs c ih =>
    by_cases hc : p c = true
    · obtain ⟨back, heq, hback, hlast⟩ := ih
      rw [dropEndWhile_append_of_pos hc]
      refine ⟨back ++ [c], ?_, ?_, hlast⟩
      · rw [← List.append_assoc, ← heq]
      · exact List.forall_mem_append.2 ⟨hback, by simpa using hc⟩
    · rw [dropEndWhile_append_of_neg (Bool.eq_false_iff.2 hc)]
      refine ⟨[], by simp, by simp, fun before d heq => ?_⟩
      obtain ⟨-, hd⟩ := List.append_inj' heq rfl
      obtain rfl : c = d := by simpa using hd
      exact Bool.eq_false_iff.2 hc

/-- Trimming takes the first blanks away, and blanks at the end. -/
theorem exists_behind_trim (cs : List Char) :
    ∃ back, cs = cs.takeWhile isBlank ++ (trim cs ++ back) ∧ blank back = true := by
  obtain ⟨back, heq, hback, -⟩ := exists_dropEndWhile isBlank (trimStart cs)
  refine ⟨back, ?_, List.all_eq_true.2 hback⟩
  show cs = cs.takeWhile isBlank ++ (dropEndWhile isBlank (trimStart cs) ++ back)
  rw [← heq]
  exact List.takeWhile_append_dropWhile.symm

/-- **Trimming takes blanks away, at both ends.** -/
theorem exists_trim (cs : List Char) :
    ∃ front back, cs = front ++ (trim cs ++ back) ∧ blank front = true ∧ blank back = true := by
  obtain ⟨back, heq, hback⟩ := exists_behind_trim cs
  exact ⟨_, back, heq, List.all_takeWhile, hback⟩

/-- What is left has no blank at its ends. -/
theorem solid_trim {cs : List Char} (h : trim cs ≠ []) : Solid (trim cs) := by
  obtain ⟨back, heq, -, hlast⟩ := exists_dropEndWhile isBlank (trimStart cs)
  change trimStart cs = trim cs ++ back at heq
  have hend := List.dropLast_concat_getLast h
  refine ⟨?_, (trim cs).dropLast, (trim cs).getLast h, hend.symm, hlast _ _ hend.symm⟩
  cases htrim : trim cs with
  | nil => exact absurd htrim h
  | cons c rest =>
    refine ⟨c, rest, rfl, ?_⟩
    rw [htrim, List.cons_append] at heq
    have hhead := List.head?_dropWhile_not isBlank cs
    unfold trimStart at heq
    rw [heq] at hhead
    exact hhead

theorem trim_trim (cs : List Char) : trim (trim cs) = trim cs := by
  by_cases hne : trim cs = []
  · rw [hne]
    rfl
  · exact (solid_trim hne).trim

end ContentGate.Text
