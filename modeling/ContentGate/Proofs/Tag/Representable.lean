/-
  ContentGate.Proofs.Tag.Representable — attributes that can be written and read again.

  A program may build attributes that no author could have written.  Some
  of them cannot be written at all: a value that no quotes can enclose, a
  space that nobody sees.  All others can (`Representable`): the text that
  is written for them is read as the same entries in the same order,
  whatever else their values contain.  Every one of the three ways in
  which an entry is written is read by the form that is meant for it,
  because of the space or the end behind it.

  Main statements:
    * `Representable.readable` — what is written for such attributes is
      read as it stands;
    * `recreate_reads_back` — a tag with such attributes, written and read.
-/
import ContentGate.Proofs.Tag.Rewriting

namespace ContentGate.Attributes

open Assignment Text

/-- Attributes that can be written. -/
structure Representable (a : Attributes) : Prop where
  /-- A name is not empty, and consists of the characters of names. -/
  names : ∀ name value, (AttributeKey.named name, value) ∈ a.entries →
    name ≠ "" ∧ ∀ c ∈ name.toList, isNameChar c = true
  /-- The values without names are numbered 0, 1, 2, … as they come. -/
  inOrder : InOrder 0 a.keys
  /-- No name and no value has a space that nobody sees. -/
  visible : ∀ e ∈ a.entries, ∀ c ∈ (assignment e).chars, Visible c
  /-- No value has quotes of both kinds. -/
  quotable : ∀ e ∈ a.entries, Quotable e.2

variable {a : Attributes}

/-- An entry of such attributes is an assignment that a reader can find. -/
theorem Representable.legible (h : a.Representable) {e : AttributeKey × String}
    (he : e ∈ a.entries) : (assignment e).Legible := by
  refine ⟨?_, .inl (h.quotable e he)⟩
  obtain ⟨key, value⟩ := e
  intro name hname
  cases key with
  | positional index => cases hname
  | named name =>
    cases hname
    obtain ⟨hne, hchars⟩ := h.names name value he
    cases hlist : name.toList with
    | nil => exact absurd (String.toList_eq_nil_iff.1 hlist) hne
    | cons c cs =>
      rw [hlist] at hchars
      exact ⟨c, cs, rfl, isBlank_of_isNameChar (hchars c List.mem_cons_self), hchars⟩

/-- **What is written for such attributes is read as it stands.** -/
theorem Representable.readable (h : a.Representable) : Readable a.entries where
  legible _ he := h.legible he
  visible := h.visible
  inOrder := h.inOrder
  distinct := a.distinct

/-- The text of such attributes is read as they are. -/
theorem Representable.ofText_writtenText (h : a.Representable) :
    ofText (writtenText a.entries) = a := by
  have hread := h.readable.ofText_writtenText (.inl (Eq.refl []))
  rw [List.append_nil] at hread
  have hsame : a.entries.map readBack = a.entries.map id :=
    List.map_congr_left fun e he => readBack_eq_self fun _ => h.quotable e he
  apply ext_entries
  rw [hread, hsame, List.map_id]

/-- **Writing and then reading is the identity.**  For attributes that can be written, and
for a tag of any name: what `recreate` writes is the opening bracket, the name, some text and
the closing bracket, and the attributes that are read of this text are the same, in the same
order. -/
theorem recreate_reads_back (h : a.Representable) (tag : String) :
    (∃ text, (a.recreate tag).toList = '[' :: (tag.toList ++ (text ++ [']'])))
      ∧ ∀ text, (a.recreate tag).toList = '[' :: (tag.toList ++ (text ++ [']'])) →
          ofText text = a := by
  have hwritten := Segment.toList_recreate a tag
  refine ⟨⟨_, hwritten⟩, fun text htext => ?_⟩
  -- The text between the name and the last bracket is the one that was written.
  rw [hwritten] at htext
  have hbehind := List.append_cancel_left (List.cons.inj htext).2
  rw [← List.append_cancel_right hbehind]
  exact h.ofText_writtenText

/-- Attributes whose values look like other attributes, or like the end of the tag. -/
def awkward : Attributes where
  entries := [(.named "q", "say \"hi\" b=1\n]"), (.positional 0, ""), (.named "-", "/"),
    (.positional 1, "it's [x]="), (.positional 2, "a/]")]
  distinct := by decide

theorem awkward_reads_back :
    awkward.Representable
      ∧ ofText " q='say \"hi\" b=1\n]' \"\" -=\"/\" \"it's [x]=\" a/]".toList = awkward := by
  have hrepresentable : awkward.Representable := by
    refine ⟨fun name value hmem => ?_, ⟨rfl, rfl, rfl, trivial⟩, fun e he c hc => ?_, by decide⟩
    · obtain ⟨rfl, -⟩ | ⟨rfl, -⟩ : (name = "q" ∧ _) ∨ (name = "-" ∧ _) := by
        simpa [awkward] using hmem
      · exact ⟨by decide, List.all_eq_true.1 (by decide)⟩
      · exact ⟨by decide, List.all_eq_true.1 (by decide)⟩
    · have hall : (awkward.entries.all fun e => (assignment e).chars.all fun c =>
          c != '\u00a0' && c != '\u200b') = true := by decide
      have hvisible := List.all_eq_true.1 (List.all_eq_true.1 hall e he) c hc
      rw [Bool.and_eq_true, bne_iff_ne, bne_iff_ne] at hvisible
      exact hvisible
  refine ⟨hrepresentable, ?_⟩
  exact (recreate_reads_back hrepresentable "if").2 _ (by decide +kernel)

end ContentGate.Attributes
