/-
  ContentGate.Proofs.Text.FirstWord — where a fixed word stands first.

  `splitAtWord? w cs` cuts `cs` at the first occurrence of `w`.  To know
  the cut of a text that is put together from parts, it is enough to
  know that `w` begins nowhere in the parts before it.  Such a part is
  PASSED OVER: what follows it decides the cut, and the part only
  becomes longer what stands before the word.

  Main statements:
    * `PassesOver.append` — parts are passed over one after another;
    * `passesOver_of_not_mem` — a part without the first character of
      the word is passed over, whatever follows it;
    * `passesOver_bracket` — so is a bracketed part whose head differs
      from the word;
    * `PassesOver.split_eq` — the cut at a word behind such a part;
    * `not_infix_of_splitAtWord?` — the word does not occur before the cut.
-/
import Mathlib.Data.List.Infix
import ContentGate.Text.Search

namespace ContentGate.Text

/-! ## §1. A word at the head of a text -/

@[simp] theorem dropWord?_cons_self (a : Char) (w cs : List Char) :
    dropWord? (a :: w) (a :: cs) = dropWord? w cs := by
  simp [dropWord?]

theorem dropWord?_cons_of_ne {a c : Char} (h : a ≠ c) (w cs : List Char) :
    dropWord? (a :: w) (c :: cs) = none := by
  simp [dropWord?, h]

/-- Words with different numbers of leading copies of `u` differ. -/
theorem dropWord?_replicate_of_lt {u a : Char} (ha : a ≠ u) (w cs : List Char) :
    ∀ {d e : Nat}, d < e →
      dropWord? (List.replicate d u ++ a :: w) (List.replicate e u ++ cs) = none := by
  intro d
  induction d with
  | zero =>
    intro e h
    obtain ⟨e, rfl⟩ : ∃ e', e = e' + 1 := ⟨e - 1, by omega⟩
    exact dropWord?_cons_of_ne ha _ _
  | succ d ih =>
    intro e h
    obtain ⟨e, rfl⟩ : ∃ e', e = e' + 1 := ⟨e - 1, by omega⟩
    rw [List.replicate_succ, List.replicate_succ, List.cons_append, List.cons_append,
      dropWord?_cons_self]
    exact ih (by omega)

/-- A word is found at its own head. -/
theorem splitAtWord?_append_self (w rest : List Char) :
    splitAtWord? w (w ++ rest) = some ([], rest) := by
  cases h : w ++ rest with
  | nil =>
    obtain ⟨rfl, rfl⟩ := List.append_eq_nil_iff.1 h
    rfl
  | cons c cs =>
    have hd : dropWord? w (c :: cs) = some rest := by rw [← h]; exact dropWord?_append w rest
    simp [splitAtWord?, hd]

/-! ## §2. Parts in which the word does not begin -/

/-- The word begins nowhere in `before` when `behind` follows. -/
def PassesOver (w before behind : List Char) : Prop :=
  splitAtWord? w (before ++ behind)
    = (splitAtWord? w behind).map fun (b, d) => (before ++ b, d)

theorem PassesOver.nil (w behind : List Char) : PassesOver w [] behind := by
  unfold PassesOver
  rw [List.nil_append]
  cases splitAtWord? w behind <;> rfl

theorem PassesOver.append {w b₁ b₂ behind : List Char}
    (h₁ : PassesOver w b₁ (b₂ ++ behind)) (h₂ : PassesOver w b₂ behind) :
    PassesOver w (b₁ ++ b₂) behind := by
  unfold PassesOver at *
  rw [List.append_assoc, h₁, h₂, Option.map_map]
  congr 1
  funext ⟨b, d⟩
  simp

/-- A character at which the word does not stand. -/
theorem passesOver_singleton {w behind : List Char} {c : Char}
    (h : dropWord? w (c :: behind) = none) : PassesOver w [c] behind := by
  show splitAtWord? w (c :: behind) = _
  rw [splitAtWord?, h]
  rfl

/-- A part without the word's first character. -/
theorem passesOver_of_not_mem {a : Char} {w before behind : List Char} (h : a ∉ before) :
    PassesOver (a :: w) before behind := by
  induction before with
  | nil => exact PassesOver.nil _ _
  | cons c cs ih =>
    rw [List.mem_cons, not_or] at h
    have hc : PassesOver (a :: w) [c] (cs ++ behind) :=
      passesOver_singleton (dropWord?_cons_of_ne h.1 _ _)
    exact PassesOver.append hc (ih h.2)

/-- A part that starts as the word does, differs from it then, and does
not start it again. -/
theorem passesOver_bracket {a : Char} {w inner behind : List Char}
    (hd : dropWord? w (inner ++ behind) = none) (ha : a ∉ inner) :
    PassesOver (a :: w) (a :: inner) behind := by
  have hc : PassesOver (a :: w) [a] (inner ++ behind) :=
    passesOver_singleton (by rw [dropWord?_cons_self, hd])
  exact PassesOver.append hc (passesOver_of_not_mem ha)

/-- **The cut at a word behind a part that is passed over.** -/
theorem PassesOver.split_eq {w before rest : List Char}
    (h : PassesOver w before (w ++ rest)) :
    splitAtWord? w (before ++ (w ++ rest)) = some (before, rest) := by
  have hw := splitAtWord?_append_self w rest
  unfold PassesOver at h
  rw [h, hw]
  simp

/-! ## §3. What stands before the first word -/

theorem dropWord?_ne_none_of_head {w cs : List Char} (h : w <+: cs) : dropWord? w cs ≠ none := by
  obtain ⟨rest, rfl⟩ := h
  rw [dropWord?_append]
  exact Option.some_ne_none rest

/-- **The word does not occur before the cut.** -/
theorem not_infix_of_splitAtWord? {w cs before behind : List Char} (hw : w ≠ [])
    (h : splitAtWord? w cs = some (before, behind)) : ¬ w <:+: before := by
  induction cs generalizing before with
  | nil =>
    rw [splitAtWord?, if_neg (by simpa using hw)] at h
    cases h
  | cons c cs ih =>
    rw [splitAtWord?] at h
    cases hdrop : dropWord? w (c :: cs) with
    | some rest =>
      rw [hdrop] at h
      obtain ⟨rfl, rfl⟩ := Prod.mk.inj (Option.some.inj h)
      exact fun hoccurs => hw (List.infix_nil.1 hoccurs)
    | none =>
      rw [hdrop] at h
      obtain ⟨⟨b, d⟩, hsplit, heq⟩ := Option.map_eq_some_iff.1 h
      obtain ⟨rfl, rfl⟩ := Prod.mk.inj heq
      intro hoccurs
      -- The word would stand at the head, or occur in the rest.
      rcases List.infix_cons_iff.1 hoccurs with hhead | hrest
      · have hcs : c :: b <+: c :: cs :=
          ⟨w ++ d, by rw [eq_append_of_splitAtWord? hsplit]; simp⟩
        exact dropWord?_ne_none_of_head (hhead.trans hcs) hdrop
      · exact ih hsplit hrest

/-- **Without a cut the word does not occur.** -/
theorem not_infix_of_splitAtWord?_eq_none {w cs : List Char} (h : splitAtWord? w cs = none) :
    ¬ w <:+: cs := by
  induction cs with
  | nil =>
    intro hoccurs
    rw [List.infix_nil.1 hoccurs] at h
    cases h
  | cons c cs ih =>
    rw [splitAtWord?] at h
    cases hdrop : dropWord? w (c :: cs) with
    | some rest =>
      rw [hdrop] at h
      cases h
    | none =>
      rw [hdrop] at h
      intro hoccurs
      rcases List.infix_cons_iff.1 hoccurs with hhead | hrest
      · exact dropWord?_ne_none_of_head hhead hdrop
      · exact ih (Option.map_eq_none_iff.1 h) hrest

/-- **There is no cut exactly where the word does not occur.** -/
theorem splitAtWord?_eq_none_iff {w cs : List Char} : splitAtWord? w cs = none ↔ ¬ w <:+: cs := by
  constructor
  · exact not_infix_of_splitAtWord?_eq_none
  · intro hnone
    cases hsplit : splitAtWord? w cs with
    | none => rfl
    | some p =>
      exact absurd ⟨p.1, p.2, (eq_append_of_splitAtWord? hsplit).symm⟩ hnone

section
variable {c : Char} {cs before behind : List Char}

theorem not_mem_of_splitAtWord? (h : splitAtWord? [c] cs = some (before, behind)) : c ∉ before := by
  rw [← List.singleton_infix_iff]
  exact not_infix_of_splitAtWord? (List.cons_ne_nil c []) h

theorem not_mem_of_splitAtWord?_eq_none (h : splitAtWord? [c] cs = none) : c ∉ cs := by
  rw [← List.singleton_infix_iff]
  exact not_infix_of_splitAtWord?_eq_none h

end

end ContentGate.Text
