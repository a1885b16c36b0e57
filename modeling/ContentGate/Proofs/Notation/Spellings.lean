/-
  ContentGate.Proofs.Notation.Spellings — how operators are written.

  An operator is written with a symbol or with a word, and a word in any
  case.  At its own level a spelling between blanks is met by the scan; at
  the four other levels the scan passes over it, character by character.
  There are finitely many spellings, so both are checked for all of them.

  The second half is about what stands between operators.  A part in which
  no operator of a level stands is CLEAR at that level: the scan passes
  over it in front of the end of the text and in front of blanks, which is
  less than `Inert` asks, since a word at its end may be left unfinished.

  Main statements:
    * `Spelling.passed`, `Spelling.met` — a spelling between blanks;
    * `clear_of_splitLast` — a part in which no operator stands;
    * `Clear.around` — clear parts around a joint that is passed over.
-/
import ContentGate.Proofs.Notation.DirectPhrases
import ContentGate.Proofs.Notation.Standing

namespace ContentGate

open Text Notation

/-- A way to write an operator. -/
structure Spelling where
  text : String
  op : Operator
  reads : Operator.ofText? text = some op

namespace Direct

/-! ## §1. All spellings -/

theorem toLower_of_not_isUpper {c : Char} (h : c.isUpper = false) : c.toLower = c :=
  dif_neg (of_decide_eq_false h)

theorem isNameChar_of_isUpper {c : Char} (h : c.isUpper = true) : isNameChar c = true := by
  have halphanum : c.isAlphanum = true := by
    show (c.isAlpha || c.isDigit) = true
    rw [isAlpha_of_isUpper h, Bool.true_or]
  unfold isNameChar
  rw [halphanum, Bool.true_or]

/-- Only a capital has another small form, and it is the capital of that. -/
theorem eq_or_eq_toUpper {c d : Char} (h : c.toLower = d) : c = d ∨ c = d.toUpper := by
  cases hc : c.isUpper with
  | false => exact .inl ((toLower_of_not_isUpper hc).symm.trans h)
  | true =>
    refine .inr ?_
    rw [← h]
    exact of_isNameChar (P := fun c => c.isUpper = true → c = c.toLower.toUpper) (by decide)
      (isNameChar_of_isUpper hc) hc

/-- The texts with a given small form. -/
def variants : List Char → List (List Char)
  | [] => [[]]
  | d :: w => (variants w).flatMap fun cs => [d :: cs, d.toUpper :: cs]

theorem mem_variants {cs w : List Char} (h : lower cs = w) : cs ∈ variants w := by
  induction w generalizing cs with
  | nil =>
    obtain rfl : cs = [] := List.map_eq_nil_iff.1 h
    exact List.mem_singleton_self []
  | cons d w ih =>
    obtain ⟨c, cs, rfl, hc, hcs⟩ := List.map_eq_cons_iff.1 h
    rw [variants, List.mem_flatMap]
    refine ⟨cs, ih hcs, ?_⟩
    rcases eq_or_eq_toUpper hc with rfl | rfl <;> simp

/-- All spellings, with their operators. -/
def allSpellings : List (List Char × Operator) :=
  Operator.spellings.flatMap fun p => (variants p.1.toList).map fun cs => (cs, p.2)

/-- The place of a level among the levels, from loose to tight. -/
def placeOf : (op : Operator) → (word : Bool) → Nat
  | .or, false => 0
  | .or, true => 1
  | .and, false => 2
  | .and, true => 3
  | _, _ => 4

/-- Is a spelling a word? -/
def isWord (cs : List Char) : Bool := cs.all Char.isAlpha

deriving instance DecidableEq for Split

theorem allSpellings_ordinary : ∀ p ∈ allSpellings, p.1.all isOrdinary = true := by
  decide +kernel

theorem allSpellings_place : ∀ p ∈ allSpellings, (levels[placeOf p.2 (isWord p.1)]?).isSome = true := by
  decide +kernel

/-- At all levels but its own, every character of a spelling is passed over. -/
theorem allSpellings_passed : ∀ p ∈ allSpellings, ∀ x ∈ levels.zipIdx,
    x.2 ≠ placeOf p.2 (isWord p.1) → p.1.all (isPassed x.1) = true := by
  decide +kernel

/-- At its own level, a spelling between blanks is met. -/
theorem allSpellings_met : ∀ p ∈ allSpellings, ∀ x ∈ levels.zipIdx,
    x.2 = placeOf p.2 (isWord p.1) →
      splitLast x.1 (some ' ') (bare p.1 ++ [(' ', false)]) = (0, some ⟨[], p.2, [' ']⟩) := by
  decide +kernel

end Direct

namespace Spelling

open Direct

/-- The spelling, character by character. -/
def chars (s : Spelling) : List Char := s.text.toList

/-- The place of its level among the levels, from loose to tight. -/
def rank (s : Spelling) : Nat := placeOf s.op (isWord s.chars)

theorem mem_allSpellings (s : Spelling) : (s.chars, s.op) ∈ allSpellings := by
  have hreads := s.reads
  unfold Operator.ofText? at hreads
  obtain ⟨⟨t, op⟩, hfind, hop⟩ := Option.map_eq_some_iff.1 hreads
  have hsmall : t.toList = lower s.text.toList := by simpa using List.find?_some hfind
  refine List.mem_flatMap.2 ⟨(t, op), List.mem_of_find?_eq_some hfind, ?_⟩
  exact List.mem_map.2 ⟨s.chars, mem_variants hsmall.symm, by rw [← hop]⟩

theorem isOrdinary_chars (s : Spelling) : s.chars.all isOrdinary = true :=
  allSpellings_ordinary _ s.mem_allSpellings

/-- A spelling has a level, at its rank. -/
theorem exists_level (s : Spelling) : ∃ level, levels[s.rank]? = some level :=
  Option.isSome_iff_exists.1 (allSpellings_place _ s.mem_allSpellings)

/-- **At all levels but its own a spelling is passed over.** -/
theorem passed (s : Spelling) {level : Level} {k : Nat} (hlevel : levels[k]? = some level)
    (hk : k ≠ s.rank) : s.chars.all (isPassed level) = true :=
  allSpellings_passed _ s.mem_allSpellings (level, k) (List.mk_mem_zipIdx_iff_getElem?.2 hlevel) hk

/-- **At its own level it is met**, between blanks. -/
theorem met (s : Spelling) {level : Level} (hlevel : levels[s.rank]? = some level) :
    splitLast level (some ' ') (bare s.chars ++ [(' ', false)]) = (0, some ⟨[], s.op, [' ']⟩) :=
  allSpellings_met _ s.mem_allSpellings (level, s.rank)
    (List.mk_mem_zipIdx_iff_getElem?.2 hlevel) rfl

end Spelling

namespace Direct

/-! ## §2. Blanks -/

section
variable {level : Level} {c : Char}

theorem toLower_of_isBlank (h : isBlank c = true) : c.toLower = c := by
  refine toLower_of_not_isUpper (Bool.eq_false_iff.2 fun hupper => ?_)
  rw [isBlank_of_isNameChar (isNameChar_of_isUpper hupper)] at h
  cases h

/-- No operator is spelled with a blank. -/
theorem not_mem_spelling_of_isBlank (hlevel : level ∈ levels) (h : isBlank c = true)
    {p : List Char × Operator} (hp : p ∈ level.spellings) : c.toLower ∉ p.1 := by
  have hall : ∀ l ∈ levels, ∀ p ∈ l.spellings, (p.1.all fun d => !isBlank d) = true := by decide
  intro hmem
  rw [toLower_of_isBlank h] at hmem
  have hsolid := List.all_eq_true.1 (hall level hlevel p hp) c hmem
  rw [h] at hsolid
  cases hsolid

theorem isPassed_of_isBlank (hlevel : level ∈ levels) (h : isBlank c = true) :
    isPassed level c = true := by
  have hne : ∀ l ∈ levels, ∀ p ∈ l.spellings, p.1.isEmpty = false := by decide
  have hopen : c ≠ '(' := by rintro rfl; cases h
  have hclose : c ≠ ')' := by rintro rfl; cases h
  have hparen : parenStep (c, false) = 0 := by
    unfold parenStep
    split <;> simp_all
  unfold isPassed startsNone
  rw [hparen, Bool.and_eq_true, List.all_eq_true]
  refine ⟨fun p hp => ?_, rfl⟩
  have hhead : p.1.head? ≠ some c.toLower := fun hhead =>
    not_mem_spelling_of_isBlank hlevel h hp (List.mem_of_mem_head? hhead)
  simp [hne level hlevel p hp, hhead]

theorem inert_blank {cs : List Char} (hlevel : level ∈ levels) (h : blank cs = true) :
    Inert level (bare cs) :=
  inert_bare (List.all_eq_true.2 fun c hc => isPassed_of_isBlank hlevel (List.all_eq_true.1 h c hc))

end

/-! ## §3. Clear parts -/

/-- The end of the text, or a blank. -/
def StartsBlank (ms : List Marked) : Prop := ∀ m more, ms = m :: more → isBlank m.1 = true

/-- The scan passes over a part in front of the end of the text and of blanks. -/
def Clear (level : Level) (ms : List Marked) : Prop :=
  ∀ before behind, StartsBlank behind →
    splitLast level (lastOf before ms) behind = (0, none) →
    splitLast level before (ms ++ behind) = (0, none)

section
variable {level : Level} {before before' : Option Char} {ms ns behind : List Marked}

theorem Inert.clear (h : Inert level ms) : Clear level ms := fun before behind _ => h before behind

/-- Where no operator stands at the end of a text, none stands in front of a blank. -/
theorem operatorAt?_append_blank (hlevel : level ∈ levels) (hbehind : StartsBlank behind)
    (hbefore : before' = before ∨ level.apart before = true)
    (h : operatorAt? level before ms = none) : operatorAt? level before' (ms ++ behind) = none := by
  have hend : ∀ l ∈ levels, l.apart none = true := by decide
  rw [operatorAt?_eq_none_iff] at h ⊢
  intro p hp rest hrest
  have happend : dropSpelling? p.1 (ms ++ behind) = (dropSpelling? p.1 ms).map (· ++ behind) :=
    dropSpelling?_append fun m more hmore =>
      not_mem_spelling_of_isBlank hlevel (hbehind m more hmore) hp
  rw [happend, Option.map_eq_some_iff] at hrest
  obtain ⟨r, hr, rfl⟩ := hrest
  rcases Bool.and_eq_false_iff.1 (h p hp r hr) with hjoined | hjoined
  · -- The neighbour before joins the spelling, and it is the same.
    rcases hbefore with rfl | hapart
    · rw [hjoined]
      rfl
    · rw [hjoined] at hapart
      cases hapart
  · -- The neighbour behind does; then it is not the end of the part.
    cases r with
    | nil =>
      exact absurd (hend level hlevel) (Bool.eq_false_iff.1 hjoined)
    | cons m r =>
      show (level.apart before' && level.apart (headOf (m :: r))) = false
      rw [hjoined, Bool.and_false]

theorem splitLast_append_blank (hlevel : level ∈ levels) (hbehind : StartsBlank behind)
    {depth : Int} (hbefore : before' = before ∨ level.apart before = true)
    (h : splitLast level before ms = (depth, none))
    (hnone : splitLast level (lastOf before' ms) behind = (0, none)) :
    splitLast level before' (ms ++ behind) = (depth, none) := by
  induction ms generalizing before before' depth with
  | nil =>
    cases h
    exact hnone
  | cons m ms ih =>
    rw [splitLast_cons_eq_none] at h
    rw [List.cons_append, splitLast_cons_eq_none]
    obtain ⟨hms, hskip | hoperator⟩ := h
    · exact ⟨ih (.inl rfl) hms hnone, .inl hskip⟩
    · exact ⟨ih (.inl rfl) hms hnone,
        .inr (operatorAt?_append_blank hlevel hbehind hbefore hoperator)⟩

/-- **A text in which no operator of the level stands is clear.** -/
theorem clear_of_splitLast (hlevel : level ∈ levels) (h : splitLast level none ms = (0, none)) :
    Clear level ms := by
  have hend : ∀ l ∈ levels, l.apart none = true := by decide
  intro before behind hbehind hnone
  exact splitLast_append_blank hlevel hbehind (.inr (hend level hlevel)) h hnone

/-- **Two clear parts around a joint that is passed over**, if the joint begins with a blank. -/
theorem Clear.around {joint : List Marked} (h : Clear level ms) (hjoint : Inert level joint)
    (hblank : ∃ m more, joint = m :: more ∧ isBlank m.1 = true) (h' : Clear level ns) :
    Clear level (ms ++ (joint ++ ns)) := by
  intro before behind hbehind hnone
  rw [lastOf_append, lastOf_append] at hnone
  rw [List.append_assoc, List.append_assoc]
  refine h _ _ ?_ (hjoint _ _ (h' _ _ hbehind hnone))
  obtain ⟨m, more, rfl, hm⟩ := hblank
  rintro m' more' heq
  obtain ⟨rfl, -⟩ := List.cons.inj heq
  exact hm

/-- At the end of a text. -/
theorem Clear.splitLast (h : Clear level ms) (before : Option Char) :
    splitLast level before ms = (0, none) := by
  have hms := h before [] (fun _ _ heq => by cases heq) rfl
  rwa [List.append_nil] at hms

end

end Direct

end ContentGate
