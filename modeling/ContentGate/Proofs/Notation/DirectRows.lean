/-
  ContentGate.Proofs.Notation.DirectRows — operands in a row are read by precedence.

  The reader of direct texts takes a row of operands apart at the last of
  its loosest operators, and does the same on both sides.  It looks for the
  symbol of a connective before it looks for the word, so a chain in which
  both occur is not always taken apart from its end.  But a connective is
  associative, and what comes out has the meaning of the tree that
  precedence gives (`Row.tree`); it is that tree where no chain has both
  spellings.

  Main statements:
    * `row_clear`, `split?_join` — where a row is split;
    * `row_reads` — how a row is read.
-/
import ContentGate.Proofs.Notation.DirectLevels
import ContentGate.Proofs.Notation.Precedence
import ContentGate.Proofs.Notation.Spellings

namespace ContentGate

open Text Notation Direct Expression

/-! ## §1. Rows without mixed spellings -/

namespace Row

variable {α : Type}

/-- A connective is written with its symbol everywhere, or with its word everywhere. -/
def Uniform (op : GroupOp) (row : Row Spelling α) : Prop :=
  ∀ i ∈ row.joints, ∀ j ∈ row.joints, i.op = op.operator → j.op = op.operator →
    isWord i.chars = isWord j.chars

/-- Does the spelling stand for `or`? -/
def isOr (s : Spelling) : Bool := s.op == .or

/-- No chain of a connective mixes the symbol and the word. -/
structure Unmixed (row : Row Spelling α) : Prop where
  any : Uniform .any row
  all : ∀ part ∈ row.parts isOr, Uniform .all part

section
variable {op : GroupOp} {row row' : Row Spelling α} {i : Spelling}

theorem Uniform.of_join_left (h : Uniform op (row.join i row')) : Uniform op row := by
  intro j hj k hk
  rw [Uniform, joints_join] at h
  exact h j (List.mem_append_left _ hj) k (List.mem_append_left _ hk)

theorem Uniform.of_join_right (h : Uniform op (row.join i row')) : Uniform op row' := by
  intro j hj k hk
  rw [Uniform, joints_join] at h
  exact h j (List.mem_append_right _ (List.mem_cons_of_mem _ hj)) k
    (List.mem_append_right _ (List.mem_cons_of_mem _ hk))

/-- The operands do not matter. -/
theorem unmixed_map {β : Type} (g : α → β) : (row.map id g).Unmixed ↔ row.Unmixed := by
  have huniform : ∀ (op : GroupOp) (r : Row Spelling α), Uniform op (r.map id g) ↔ Uniform op r := by
    intro op r
    unfold Uniform
    rw [joints_map, List.map_id]
  have hparts : (row.map id g).parts isOr = (row.parts isOr).map (map id g) := parts_map isOr id g row
  constructor
  · intro h
    refine ⟨(huniform .any row).1 h.any, fun part hpart => (huniform .all part).1 ?_⟩
    exact h.all _ (hparts ▸ List.mem_map_of_mem hpart)
  · intro h
    refine ⟨(huniform .any row).2 h.any, fun part hpart => ?_⟩
    rw [hparts] at hpart
    obtain ⟨part', hpart', rfl⟩ := List.mem_map.1 hpart
    exact (huniform .all part').2 (h.all part' hpart')

/-- Where no `or` occurs, there is one chain of `and`. -/
theorem unmixed_iff_of_none (h : ∀ j ∈ row.joints, j.op ≠ .or) :
    row.Unmixed ↔ Uniform .all row := by
  have hparts : row.parts isOr = [row] :=
    parts_of_none fun j hj => beq_eq_false_iff_ne.2 (h j hj)
  constructor
  · intro hrow
    exact hrow.all row (by rw [hparts]; exact List.mem_cons_self)
  · intro hrow
    refine ⟨fun j hj _ _ hop => absurd hop (h j hj), fun part hpart => ?_⟩
    rw [hparts] at hpart
    rw [List.mem_singleton.1 hpart]
    exact hrow

/-- **Both sides of a joint are unmixed** if the row is, and the joint is an `or` or there is none. -/
theorem Unmixed.sides (h : (row.join i row').Unmixed)
    (hloosest : i.op = .or ∨ ∀ j ∈ (row.join i row').joints, j.op ≠ .or) :
    row.Unmixed ∧ row'.Unmixed := by
  rcases hloosest with hor | hnone
  · -- The parts of both sides are those of the row.
    have hparts := parts_join (p := isOr) (beq_iff_eq.2 hor) row row'
    refine ⟨⟨h.any.of_join_left, fun part hpart => h.all part ?_⟩,
      ⟨h.any.of_join_right, fun part hpart => h.all part ?_⟩⟩
    · rw [hparts]
      exact List.mem_append_left _ hpart
    · rw [hparts]
      exact List.mem_append_right _ hpart
  · have hall := (unmixed_iff_of_none hnone).1 h
    rw [joints_join] at hnone
    obtain ⟨hleft, hright⟩ := List.forall_mem_append.1 hnone
    exact ⟨(unmixed_iff_of_none hleft).2 hall.of_join_left,
      (unmixed_iff_of_none (List.forall_mem_cons.1 hright).2).2 hall.of_join_right⟩

end

end Row

namespace Direct

/-! ## §2. Operands and joints -/

/-- An operand of a row: a text in which no operator stands, and its reading. -/
structure Term where
  text : List Char
  marks : List Marked
  tree : Expression
  levels : Nat
  part : Part text marks
  solid : Solid text
  clear : ∀ level ∈ Direct.levels, Clear level marks
  reads : Reads levels text tree

/-- What stands between two operands: an operator between single spaces,
and maybe more blanks. -/
structure Joint where
  front : List Char
  spelling : Spelling
  back : List Char
  front_blank : blank front = true
  back_blank : blank back = true

theorem isOrdinary_of_isBlank {c : Char} (h : isBlank c = true) : isOrdinary c = true := by
  rw [isOrdinary_iff]
  refine ⟨isNoQuote_of_isBlank h, ?_, ?_⟩
  · rcases paren_cases (c, false) with hopen | hclose | hnone
    · obtain rfl : c = '(' := (Prod.mk.inj hopen).1
      cases h
    · obtain rfl : c = ')' := (Prod.mk.inj hclose).1
      cases h
    · exact hnone
  · rw [Bool.eq_false_iff]
    intro hforbidden
    have hall : ([';', '$', '\x60', '\x7b', '\x7d', '[', ']'].all fun d => !isBlank d) = true := by decide
    have hmem : c ∈ [';', '$', '\x60', '\x7b', '\x7d', '[', ']'] := by
      simpa [isForbidden] using hforbidden
    have hsolid := List.all_eq_true.1 hall c hmem
    rw [h] at hsolid
    cases hsolid

namespace Joint

/-- The operator of a joint. -/
def op (j : Joint) : Operator := j.spelling.op

/-- The place of its level. -/
def rank (j : Joint) : Nat := j.spelling.rank

/-- What stands in front of the spelling. -/
def before (j : Joint) : List Char := j.front ++ [' ']

/-- What stands behind the spelling. -/
def behind (j : Joint) : List Char := ' ' :: j.back

/-- The text of a joint. -/
def text (j : Joint) : List Char := j.before ++ (j.spelling.chars ++ j.behind)

variable (j : Joint) {level : Level} {k : Nat}

theorem before_blank : blank j.before = true := by
  unfold before blank
  rw [List.all_append, ← blank, j.front_blank]
  rfl

theorem behind_blank : blank j.behind = true := by
  unfold behind blank
  rw [List.all_cons, ← blank, j.back_blank]
  rfl

theorem part : Part j.text (bare j.text) := by
  have hblank : ∀ {cs : List Char}, blank cs = true → cs.all isOrdinary = true := fun h =>
    List.all_eq_true.2 fun c hc => isOrdinary_of_isBlank (List.all_eq_true.1 h c hc)
  refine part_bare ?_
  rw [text, List.all_append, List.all_append, hblank j.before_blank, hblank j.behind_blank,
    j.spelling.isOrdinary_chars]
  rfl

/-- At all levels but its own a joint is passed over. -/
theorem inert (hlevel : levels[k]? = some level) (hk : k ≠ j.rank) :
    Inert level (bare j.text) := by
  have hmem := List.mem_of_getElem? hlevel
  have hparts := (inert_blank hmem j.before_blank).append
    ((inert_bare (j.spelling.passed hlevel hk)).append (inert_blank hmem j.behind_blank))
  simpa [text, bare] using hparts

/-- It begins with a blank. -/
theorem starts_blank : ∃ m more, bare j.text = m :: more ∧ isBlank m.1 = true := by
  have hblank := j.before_blank
  unfold text
  cases hbefore : j.before with
  | nil => exact absurd hbefore (List.append_ne_nil_of_right_ne_nil _ (List.cons_ne_nil _ _))
  | cons c rest =>
    rw [hbefore] at hblank
    exact ⟨(c, false), _, rfl, List.all_eq_true.1 hblank c List.mem_cons_self⟩

/-- **At its own level it is met**, if nothing is found behind it. -/
theorem met (hlevel : levels[j.rank]? = some level) {ms : List Marked}
    (h : splitLast level (lastOf (some ' ') (bare j.back)) ms = (0, none))
    (before : Option Char) :
    splitLast level before (bare j.text ++ ms)
      = (0, some ⟨j.before, j.op, j.behind ++ unmarked ms⟩) := by
  have hmem := List.mem_of_getElem? hlevel
  have hspace : ∀ p ∈ level.spellings, ' '.toLower ∉ p.1 := fun p hp =>
    not_mem_spelling_of_isBlank hmem rfl hp
  have hback := inert_blank hmem j.back_blank _ _ h
  have hspot := splitLast_append_cons (m := (' ', false)) hspace (j.spelling.met hlevel) hback
  have hlast : lastOf before (bare j.before) = some ' ' := by
    unfold Joint.before
    rw [bare, List.map_append, lastOf_append]
    rfl
  rw [← hlast] at hspot
  have hall := splitLast_append_of_some hspot
  rw [unmarked_append, unmarked_bare, unmarked_bare, List.append_nil] at hall
  have hparts : bare j.text ++ ms
      = bare j.before ++ (bare j.spelling.chars ++ (' ', false) :: (bare j.back ++ ms)) := by
    simp [text, behind, bare]
  rw [hparts]
  exact hall

end Joint

/-! ## §3. Where a row is split -/

/-- The text of a row. -/
def rowText (row : Row Joint Term) : List Char :=
  row.first.text ++ row.rest.flatMap fun x => x.1.text ++ x.2.text

/-- The marks of its text. -/
def rowMarks (row : Row Joint Term) : List Marked :=
  row.first.marks ++ row.rest.flatMap fun x => bare x.1.text ++ x.2.marks

/-- The tree that precedence gives. -/
def rowTree (row : Row Joint Term) : Expression := (row.map Joint.op Term.tree).tree

section
variable (row left right : Row Joint Term) (j : Joint)

theorem rowText_join :
    rowText (left.join j right) = rowText left ++ (j.text ++ rowText right) := by
  simp [rowText, Row.join]

theorem rowMarks_join :
    rowMarks (left.join j right) = rowMarks left ++ (bare j.text ++ rowMarks right) := by
  simp [rowMarks, Row.join]

theorem row_single (a : Term) :
    rowText (.single a) = a.text ∧ rowMarks (.single a) = a.marks ∧ rowTree (.single a) = a.tree := by
  exact ⟨List.append_nil _, List.append_nil _, rfl⟩

theorem row_part : Part (rowText row) (rowMarks row) := by
  induction row using Row.loosest_induction Joint.rank with
  | single a =>
    rw [(row_single a).1, (row_single a).2.1]
    exact a.part
  | join left j right _ _ hl hr =>
    rw [rowText_join, rowMarks_join]
    exact hl.append (j.part.append hr)

theorem row_solid : Solid (rowText row) := by
  induction row using Row.loosest_induction Joint.rank with
  | single a =>
    rw [(row_single a).1]
    exact a.solid
  | join left j right _ _ hl hr =>
    rw [rowText_join]
    exact hl.append hr j.text

/-- **A row is clear at the levels at which it has no joint.** -/
theorem row_clear {level : Level} {k : Nat} (hlevel : levels[k]? = some level)
    (h : ∀ j ∈ row.joints, k ≠ j.rank) : Clear level (rowMarks row) := by
  induction row using Row.loosest_induction Joint.rank with
  | single a =>
    rw [(row_single a).2.1]
    exact a.clear level (List.mem_of_getElem? hlevel)
  | join left j right _ _ hl hr =>
    rw [Row.joints_join] at h
    obtain ⟨hleft, hright⟩ := List.forall_mem_append.1 h
    obtain ⟨hj, hright⟩ := List.forall_mem_cons.1 hright
    rw [rowMarks_join]
    exact (hl hleft).around (j.inert hlevel hj) j.starts_blank (hr hright)

variable {left right j}

/-- **A row is split at the last of its loosest joints.** -/
theorem split?_join (hleft : ∀ i ∈ left.joints, j.rank ≤ i.rank)
    (hright : ∀ i ∈ right.joints, j.rank < i.rank) :
    split? (rowText (left.join j right))
      = some ⟨rowText left ++ j.before, j.op, j.behind ++ rowText right⟩ := by
  obtain ⟨level, hlevel⟩ := j.spelling.exists_level
  change levels[j.rank]? = some level at hlevel
  have hloosest : ∀ i ∈ (left.join j right).joints, j.rank ≤ i.rank := by
    rw [Row.joints_join]
    refine List.forall_mem_append.2 ⟨hleft, List.forall_mem_cons.2 ⟨Nat.le_refl _, ?_⟩⟩
    exact fun i hi => Nat.le_of_lt (hright i hi)
  -- At the looser levels there is no joint at all,
  have hlooser : (levels.take j.rank).findSome? (fun level =>
      (splitLast level none (rowMarks (left.join j right))).2) = none := by
    rw [List.findSome?_eq_none_iff]
    intro looser hmem
    obtain ⟨k, hk, hget⟩ := List.mem_take_iff_getElem.1 hmem
    have hk : k < j.rank := Nat.lt_of_lt_of_le hk (Nat.min_le_left _ _)
    have hclear := row_clear (left.join j right) (List.getElem?_eq_some_iff.2 ⟨_, hget⟩)
      fun i hi => Nat.ne_of_lt (Nat.lt_of_lt_of_le hk (hloosest i hi))
    rw [hclear.splitLast]
  -- and at the level of the joint there is none behind it.
  have hmeet : (splitLast level none (rowMarks (left.join j right))).2
      = some ⟨rowText left ++ j.before, j.op, j.behind ++ rowText right⟩ := by
    have hclear := row_clear right hlevel fun i hi => Nat.ne_of_lt (hright i hi)
    have hspot := j.met hlevel (hclear.splitLast _) (lastOf none (rowMarks left))
    rw [rowMarks_join, splitLast_append_of_some hspot, (row_part left).marks.unmarked,
      (row_part right).marks.unmarked]
  have hlevels : levels = levels.take j.rank ++ level :: levels.drop (j.rank + 1) := by
    obtain ⟨hlt, hget⟩ := List.getElem?_eq_some_iff.1 hlevel
    rw [← hget, List.getElem_cons_drop, List.take_append_drop]
  unfold split?
  rw [(row_part _).marks.marked?, Option.bind_eq_bind, Option.bind_some, hlevels,
    List.findSome?_append, hlooser, List.findSome?_cons, hmeet]
  rfl

end

/-! ## §4. The tree of a row that is put together -/

theorem rank_of_or {s : Spelling} (h : s.op = .or) : s.rank ≤ 1 := by
  unfold Spelling.rank
  rw [h]
  cases isWord s.chars <;> decide

theorem rank_of_and {s : Spelling} (h : s.op = .and) : 2 ≤ s.rank ∧ s.rank ≤ 3 := by
  unfold Spelling.rank
  rw [h]
  cases isWord s.chars <;> decide

theorem rank_of_comparison {s : Spelling} (h : s.op ≠ .or ∧ s.op ≠ .and) : s.rank = 4 := by
  unfold Spelling.rank
  cases hop : s.op with
  | or => exact absurd hop h.1
  | and => exact absurd hop h.2
  | eq | ne | gt | ge | lt | le => rfl

theorem rank_le_four (s : Spelling) : s.rank ≤ 4 := by
  by_cases hor : s.op = .or
  · exact Nat.le_trans (rank_of_or hor) (by decide)
  by_cases hand : s.op = .and
  · exact Nat.le_trans (rank_of_and hand).2 (by decide)
  · exact Nat.le_of_eq (rank_of_comparison ⟨hor, hand⟩)

theorem rank_congr {s t : Spelling} (hop : s.op = t.op) (hword : isWord s.chars = isWord t.chars) :
    s.rank = t.rank := by
  unfold Spelling.rank
  rw [hop, hword]

section
variable {row left right : Row Joint Term} {j : Joint}

/-- Without `or`, the tree is a conjunction. -/
theorem rowTree_of_no_or (h : ∀ i ∈ row.joints, i.op ≠ .or) :
    rowTree row = (row.map Joint.op Term.tree).conjunction := by
  apply Row.joinedParts_of_none
  rw [Row.joints_map, List.mem_map]
  rintro ⟨i, hi, hop⟩
  exact h i hi hop

/-- Without connectives, the tree is a chain of comparisons. -/
theorem rowTree_of_compared (h : ∀ i ∈ row.joints, i.op ≠ .or ∧ i.op ≠ .and) :
    rowTree row = (row.map Joint.op Term.tree).compared := by
  rw [rowTree_of_no_or fun i hi => (h i hi).1]
  apply Row.joinedParts_of_none
  rw [Row.joints_map, List.mem_map]
  rintro ⟨i, hi, hop⟩
  exact (h i hi).2 hop

/-- A connective of one spelling does not occur behind its last joint of that spelling. -/
theorem not_mem_of_uniform {op : GroupOp} (hop : j.op = op.operator)
    (huniform : Row.Uniform op ((left.join j right).map Joint.spelling id))
    (hright : ∀ i ∈ right.joints, j.rank < i.rank) :
    op.operator ∉ (right.map Joint.op Term.tree).joints := by
  rw [Row.joints_map, List.mem_map]
  rintro ⟨i, hi, hiop⟩
  rw [Row.Uniform, Row.joints_map, Row.joints_join, List.map_append, List.map_cons] at huniform
  have hword := huniform i.spelling
    (List.mem_append_right _ (List.mem_cons_of_mem _ (List.mem_map_of_mem hi))) j.spelling
    (List.mem_append_right _ List.mem_cons_self) hiop hop
  have hrank : i.spelling.rank = j.spelling.rank := rank_congr (hiop.trans hop.symm) hword
  exact absurd (hright i hi) (Nat.not_lt.2 (Nat.le_of_eq hrank))

/-- **Two rows put together at a connective**: the tree means the two,
connected, and is the two, connected, where the connective has one spelling. -/
theorem joinedParts_at (op : GroupOp) (inner : Row Operator Expression → Expression)
    (left : Row Joint Term) (hop : j.op = op.operator) (hright : ∀ i ∈ right.joints, j.rank < i.rank) :
    Alike (.binary ((left.map Joint.op Term.tree).joinedParts op inner) j.op
        ((right.map Joint.op Term.tree).joinedParts op inner))
      (((left.join j right).map Joint.op Term.tree).joinedParts op inner)
    ∧ (Row.Uniform op ((left.join j right).map Joint.spelling id) →
        ((left.join j right).map Joint.op Term.tree).joinedParts op inner
          = .binary ((left.map Joint.op Term.tree).joinedParts op inner) j.op
              ((right.map Joint.op Term.tree).joinedParts op inner)) := by
  constructor
  · rw [Row.map_join, hop]
    exact Row.alike_joinedParts_join op inner _ _
  · intro huniform
    have hnone := not_mem_of_uniform hop huniform hright
    rw [Row.map_join, hop]
    exact Row.joinedParts_join op inner _ hnone

/-- What is no looser than the last of the loosest joints holds for all joints. -/
theorem le_rank_of_mem_join {k : Nat} (hk : k ≤ j.rank) (hleft : ∀ i ∈ left.joints, j.rank ≤ i.rank)
    (hright : ∀ i ∈ right.joints, j.rank < i.rank) :
    ∀ i ∈ (left.join j right).joints, k ≤ i.rank := by
  rw [Row.joints_join]
  refine List.forall_mem_append.2 ⟨fun i hi => Nat.le_trans hk (hleft i hi), ?_⟩
  exact List.forall_mem_cons.2
    ⟨hk, fun i hi => Nat.le_trans hk (Nat.le_of_lt (hright i hi))⟩

/-- Where every joint is tighter than `or`, there is no `or`. -/
theorem no_or_of_le (h : ∀ i ∈ row.joints, 2 ≤ i.rank) : ∀ i ∈ row.joints, i.op ≠ .or := by
  intro i hi hop
  have hrank : i.rank ≤ 1 := rank_of_or hop
  have hle := h i hi
  omega

theorem rowTree_join_and (hand : j.op = .and)
    (hnone : ∀ i ∈ (left.join j right).joints, i.op ≠ .or)
    (hright : ∀ i ∈ right.joints, j.rank < i.rank) :
    Alike (.binary (rowTree left) j.op (rowTree right)) (rowTree (left.join j right))
    ∧ (((left.join j right).map Joint.spelling id).Unmixed →
        rowTree (left.join j right) = .binary (rowTree left) j.op (rowTree right)) := by
  have hsides := hnone
  rw [Row.joints_join] at hsides
  obtain ⟨hl, hr⟩ := List.forall_mem_append.1 hsides
  obtain ⟨halike, heq⟩ := joinedParts_at .all Row.compared left hand hright
  rw [rowTree_of_no_or hnone, rowTree_of_no_or hl, rowTree_of_no_or (List.forall_mem_cons.1 hr).2]
  refine ⟨halike, fun hunmixed => heq ((Row.unmixed_iff_of_none ?_).1 hunmixed)⟩
  rw [Row.joints_map]
  exact List.forall_mem_map.2 hnone

theorem rowTree_join_comparison (hcompared : ∀ i ∈ left.joints, i.op ≠ .or ∧ i.op ≠ .and)
    (hj : j.op ≠ .or ∧ j.op ≠ .and) (a : Term) :
    rowTree (left.join j (.single a)) = .binary (rowTree left) j.op a.tree := by
  have hall : ∀ i ∈ (left.join j (.single a)).joints, i.op ≠ .or ∧ i.op ≠ .and := by
    rw [Row.joints_join]
    exact List.forall_mem_append.2 ⟨hcompared, List.forall_mem_cons.2 ⟨hj, by simp⟩⟩
  rw [rowTree_of_compared hall, rowTree_of_compared hcompared, Row.map_join]
  exact Row.compared_join_single _ _ _

/-- **The tree of a row that is put together at the last of its loosest joints.** -/
theorem rowTree_join (hleft : ∀ i ∈ left.joints, j.rank ≤ i.rank)
    (hright : ∀ i ∈ right.joints, j.rank < i.rank) :
    Alike (.binary (rowTree left) j.op (rowTree right)) (rowTree (left.join j right))
    ∧ (((left.join j right).map Joint.spelling id).Unmixed →
        rowTree (left.join j right) = .binary (rowTree left) j.op (rowTree right)) := by
  by_cases hor : j.op = .or
  · obtain ⟨halike, heq⟩ := joinedParts_at .any Row.conjunction left hor hright
    exact ⟨halike, fun hunmixed => heq hunmixed.any⟩
  by_cases hand : j.op = .and
  · have htight := le_rank_of_mem_join (rank_of_and hand).1 hleft hright
    exact rowTree_join_and hand (no_or_of_le htight) hright
  · -- Behind a comparison of the loosest level there is one operand.
    have hrank : j.rank = 4 := rank_of_comparison ⟨hor, hand⟩
    obtain ⟨a, xs⟩ := right
    cases xs with
    | cons x xs =>
      have hlt := hright x.1 List.mem_cons_self
      have hle : x.1.rank ≤ 4 := rank_le_four x.1.spelling
      omega
    | nil =>
      have hcompared : ∀ i ∈ left.joints, i.op ≠ .or ∧ i.op ≠ .and := fun i hi => by
        have hi4 := hleft i hi
        constructor
        · intro hop
          have hle : i.rank ≤ 1 := rank_of_or hop
          omega
        · intro hop
          have hle : i.rank ≤ 3 := (rank_of_and hop).2
          omega
      have heq := rowTree_join_comparison hcompared ⟨hor, hand⟩ a
      change rowTree (left.join j ⟨a, []⟩) = .binary (rowTree left) j.op (rowTree ⟨a, []⟩) at heq
      exact ⟨heq ▸ Alike.refl _, fun _ => heq⟩

/-- Both sides are unmixed if the row is. -/
theorem unmixed_sides (hleft : ∀ i ∈ left.joints, j.rank ≤ i.rank)
    (hright : ∀ i ∈ right.joints, j.rank < i.rank)
    (h : ((left.join j right).map Joint.spelling id).Unmixed) :
    (left.map Joint.spelling id).Unmixed ∧ (right.map Joint.spelling id).Unmixed := by
  rw [Row.map_join] at h
  refine h.sides ?_
  by_cases hor : j.op = .or
  · exact .inl hor
  · refine .inr ?_
    have htight : 2 ≤ j.rank := by
      by_cases hand : j.op = .and
      · exact (rank_of_and hand).1
      · have hrank : j.rank = 4 := rank_of_comparison ⟨hor, hand⟩
        omega
    rw [← Row.map_join, Row.joints_map]
    exact List.forall_mem_map.2 (no_or_of_le (le_rank_of_mem_join htight hleft hright))

end

/-! ## §5. How a row is read -/

/-- **A row is read as precedence says**: what comes out means the tree of
the row, and is that tree where no chain mixes its spellings. -/
theorem row_reads (row : Row Joint Term) :
    ∃ n e, Reads n (rowText row) e ∧ Alike e (rowTree row)
      ∧ ((row.map Joint.spelling id).Unmixed → e = rowTree row) := by
  induction row using Row.loosest_induction Joint.rank with
  | single a =>
    obtain ⟨htext, -, htree⟩ := row_single a
    rw [htext, htree]
    exact ⟨a.levels, a.tree, a.reads, Alike.refl _, fun _ => rfl⟩
  | join left j right hleft hright ihl ihr =>
    obtain ⟨n, l, hreadsl, hl, hexactl⟩ := ihl
    obtain ⟨k, r, hreadsr, hr, hexactr⟩ := ihr
    obtain ⟨halike, htree⟩ := rowTree_join hleft hright
    have htriml : trim (rowText left ++ j.before) = rowText left := by
      rw [trim_append_blank j.before_blank, (row_solid left).trim]
    have htrimr : trim (j.behind ++ rowText right) = rowText right := by
      rw [trim_blank_append j.behind_blank, (row_solid right).trim]
    have hreads := reads_of_split (row_solid (left.join j right)) (split?_join hleft hright)
      (htriml.symm ▸ hreadsl) (htrimr.symm ▸ hreadsr)
    refine ⟨_, _, hreads, (hl.binary j.op hr).trans halike, fun hunmixed => ?_⟩
    obtain ⟨hunmixedl, hunmixedr⟩ := unmixed_sides hleft hright hunmixed
    rw [htree hunmixed, hexactl hunmixedl, hexactr hunmixedr]

end Direct

end ContentGate
