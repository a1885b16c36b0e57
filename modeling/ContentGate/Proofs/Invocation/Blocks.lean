/-
  ContentGate.Proofs.Invocation.Blocks — author text does not break a block.

  A block is a fixed template with texts between its pieces.  In the verbose
  block all of these texts are escaped; in the error block the name and the
  tag are escaped, and every message is escaped text with code spans.  Each
  piece of a template is complete markup, so a reader meets the marks of the
  template, and in the error block the code spans of each message in its
  item (`blocks_keep_template`).

  Main statements:
    * `bears_join`, `occurrences_join` — texts put together from pieces;
    * `verboseBlock_eq`, `errorBlock_eq` — the blocks as filled templates;
    * `blocks_keep_template` — what a reader meets in them.
-/
import ContentGate.Invocation.Report
import ContentGate.Proofs.Markup.Signs

namespace ContentGate

/-! ## §1. Texts put together from pieces -/

namespace Markup

/-- The pieces of a template and the texts for its gaps in turn; pieces that
are left over follow one another. -/
def interleave : (template texts : List String) → List String
  | piece :: template, text :: texts => piece :: text :: interleave template texts
  | template, _ => template

theorem mem_interleave {s : String} {template texts : List String}
    (h : s ∈ interleave template texts) : s ∈ template ∨ s ∈ texts := by
  induction template generalizing texts with
  | nil =>
    simp only [interleave, List.not_mem_nil] at h
  | cons piece template ih =>
    cases texts with
    | nil => exact .inl h
    | cons text texts =>
      simp only [interleave, List.mem_cons] at h ⊢
      rcases h with rfl | rfl | h
      · exact .inl (.inl rfl)
      · exact .inr (.inl rfl)
      · rcases ih h with h | h
        · exact .inl (.inr h)
        · exact .inr (.inr h)

/-- Texts without marks leave the marks of the template. -/
theorem flatMap_marks_interleave (template : List String) {texts : List String}
    (h : ∀ text ∈ texts, marks text = []) :
    (interleave template texts).flatMap marks = template.flatMap marks := by
  induction template generalizing texts with
  | nil => simp [interleave]
  | cons piece template ih =>
    cases texts with
    | nil => rfl
    | cons text texts =>
      obtain ⟨htext, htexts⟩ := List.forall_mem_cons.1 h
      simp only [interleave, List.flatMap_cons, htext, ih htexts, List.nil_append]

/-- Behind the text a reader is outside all tags. -/
def Complete (s : String) : Prop := (Place.outside.read s.toList).2 = .outside

theorem Complete.bears {s : String} (h : Complete s) : Bears s.toList (marks s) := Prod.ext rfl h

theorem Bears.marks_eq {s : String} {ms : List Mark} (h : Bears s.toList ms) : marks s = ms :=
  congrArg Prod.fst h

theorem Bears.complete {s : String} {ms : List Mark} (h : Bears s.toList ms) : Complete s :=
  congrArg Prod.snd h

theorem complete_ofList {cs : List Char} (h : (Place.outside.read cs).2 = .outside) :
    Complete (String.ofList cs) := by
  unfold Complete
  rw [String.toList_ofList, h]

theorem Complete.append {s t : String} (hs : Complete s) (ht : Complete t) : Complete (s ++ t) := by
  have hst := hs.bears.append ht.bears
  rw [← String.toList_append] at hst
  exact hst.complete

/-- **Complete pieces put together** have their marks one after the other. -/
theorem bears_join {pieces : List String} (h : ∀ p ∈ pieces, Complete p) :
    Bears (String.join pieces).toList (pieces.flatMap marks) := by
  induction pieces with
  | nil => exact bears_nil
  | cons p pieces ih =>
    obtain ⟨hp, hpieces⟩ := List.forall_mem_cons.1 h
    rw [String.join_cons, String.toList_append, List.flatMap_cons]
    exact hp.bears.append (ih hpieces)

/-- How often a word occurs in some pieces. -/
def occurrencesIn (w : List Char) : List String → Nat
  | [] => 0
  | p :: pieces => occurrences w p.toList + occurrencesIn w pieces

section
variable {w : List Char} {pieces : List String}

theorem occurrencesIn_append (ps qs : List String) :
    occurrencesIn w (ps ++ qs) = occurrencesIn w ps + occurrencesIn w qs := by
  induction ps with
  | nil => exact (Nat.zero_add _).symm
  | cons p ps ih =>
    rw [List.cons_append, occurrencesIn, occurrencesIn, ih]
    omega

theorem occurrencesIn_replicate (n : Nat) (p : String) :
    occurrencesIn w (List.replicate n p) = n * occurrences w p.toList := by
  induction n with
  | zero => simp [occurrencesIn]
  | succ n ih =>
    rw [List.replicate_succ, occurrencesIn, ih, Nat.succ_mul]
    omega

/-- **A word in pieces put together**: it occurs in the pieces only, when no
piece ends with a beginning of it. -/
theorem occurrences_join (h : ∀ p ∈ pieces, EndsApart w p.toList) :
    occurrences w (String.join pieces).toList = occurrencesIn w pieces := by
  induction pieces with
  | nil => rfl
  | cons p pieces ih =>
    obtain ⟨hp, hpieces⟩ := List.forall_mem_cons.1 h
    rw [String.join_cons, String.toList_append, occurrences_append hp, ih hpieces, occurrencesIn]

/-- Texts free of a word leave the occurrences of the template. -/
theorem occurrencesIn_interleave (template : List String) {texts : List String}
    (h : ∀ text ∈ texts, Free w text.toList) :
    occurrencesIn w (interleave template texts) = occurrencesIn w template := by
  induction template generalizing texts with
  | nil => simp [interleave]
  | cons piece template ih =>
    cases texts with
    | nil => rfl
    | cons text texts =>
      obtain ⟨htext, htexts⟩ := List.forall_mem_cons.1 h
      rw [interleave, occurrencesIn, occurrencesIn, occurrencesIn, htext.none, ih htexts,
        Nat.zero_add]

end

/-- A list of items: its first piece, the items with a separator, its last piece. -/
theorem join_interleave_items (first separator last item : String) (items : List String) :
    String.join (interleave (first :: (List.replicate items.length separator ++ [last]))
        (item :: items))
      = first ++ (separator.intercalate (item :: items) ++ last) := by
  -- The separator is the first piece of the list behind the first item.
  induction items generalizing first item with
  | nil => simp [interleave]
  | cons next items ih =>
    show String.join (first :: item :: interleave (separator :: (List.replicate items.length
      separator ++ [last])) (next :: items)) = _
    rw [String.join_cons, String.join_cons, ih, String.intercalate_cons_cons]
    simp only [String.append_assoc]

end Markup

/-! ## §2. The two blocks -/

namespace Invocation

open Markup

/-- What stands in front of the name in a heading. -/
def beforeName : String := "<code>["

/-- What stands behind the name in a heading. -/
def behindName (what : String) : String := "]</code> Shortcode " ++ what

theorem heading_eq (name what : String) :
    heading name what = beforeName ++ (name ++ behindName what) := by
  unfold heading behindName
  rw [String.append_assoc, String.append_assoc]
  rfl

/-- The pieces of the verbose block. -/
def verboseTemplate : List String :=
  ["<pre style=\"padding:1em; border-radius:.25em; max-width:100%; overflow:auto;\">" ++ beforeName,
    behindName "Verbose" ++ "<br />", "<br /><br />" ++ beforeName,
    behindName "Atts" ++ "<br />", "<br /><br />" ++ beforeName,
    behindName "Conditions" ++ "<br />", "</pre>"]

/-- What stands in the gaps of the verbose block. -/
def verboseTexts (name : String) (i : Invocation) : List String :=
  [name, i.recreate, name, i.attributesJson, name, i.conditionText].map Markup.escape

theorem verboseBlock_eq (name : String) (i : Invocation) :
    verboseBlock name i = String.join (interleave verboseTemplate (verboseTexts name i)) := by
  unfold verboseBlock verboseTemplate verboseTexts
  simp only [heading_eq, List.map_cons, List.map_nil, interleave, String.join_cons,
    String.join_nil, String.append_assoc, String.append_empty]

/-- The first piece of an error block. -/
def errorStart : String :=
  "<div style=\"background:#b30000; color:#FFFFFF; padding:1em; border-radius:.25em;\">"
    ++ "<h4 style=\"background:inherit; color:inherit; margin:0 0 .5em 0; padding:0 0 .5em 0; "
    ++ "line-height:1em; border-bottom:1px solid;\">" ++ beforeName

/-- The piece between the name and the tag; the heading depends on how many errors there are. -/
def errorMiddle (errors : Nat) : String :=
  behindName (if errors = 1 then "Error" else "Errors") ++ "</h4>"
    ++ "<pre style=\"padding:1em; margin:0 0 .5em 0; border-radius:.25em; max-width:100%; "
    ++ "overflow:auto;\">"

/-- The piece between the tag and the first error. -/
def errorList : String :=
  "</pre>" ++ "<ul style=\"margin:0 0 0 2em; padding:0; background:inherit; color:inherit;\">"
    ++ errorItem true

/-- The piece between two errors. -/
def nextError : String := "</li>" ++ errorItem false

/-- The last piece of an error block. -/
def errorEnd : String := "</li>" ++ "</ul></div>"

/-- The pieces of an error block with so many errors. -/
def errorTemplate (errors : Nat) : List String :=
  [errorStart, errorMiddle errors, errorList]
    ++ (List.replicate (errors - 1) nextError ++ [errorEnd])

/-- What stands in the gaps of the error block. -/
def errorTexts (name : String) (i : Invocation) : List String :=
  [Markup.escape name, Markup.escape i.recreate] ++ i.errors.map fun e => Markup.codeSpans e.message

theorem errorBlock_eq (name : String) (i : Invocation) :
    errorBlock name i
      = String.join (interleave (errorTemplate i.errors.length) (errorTexts name i)) := by
  have hitems := join_interleave_items errorList nextError errorEnd
  unfold errorBlock errorItems errorTemplate errorTexts
  unfold errorStart errorMiddle
  unfold errorList nextError errorEnd at *
  cases i.errors with
  | nil =>
    -- Two texts and three gaps: the last two pieces follow one another.
    simp only [heading_eq, List.map_nil, List.length_nil, Nat.zero_sub, List.replicate_zero,
      List.nil_append, List.append_nil, List.cons_append, interleave, String.join_cons,
      String.join_nil, String.intercalate_nil, String.append_assoc, String.append_empty]
  | cons e errors =>
    have hitems := hitems (Markup.codeSpans e.message)
      (errors.map fun e => Markup.codeSpans e.message)
    rw [List.length_map] at hitems
    simp only [List.length_cons, Nat.add_sub_cancel, List.map_cons, List.cons_append,
      List.nil_append, interleave, String.join_cons] at hitems ⊢
    rw [hitems]
    simp only [heading_eq, String.append_assoc]

/-! ## §3. What a reader meets -/

theorem complete_verboseTemplate : ∀ p ∈ verboseTemplate, Complete p := by
  have hpre : Complete
      "<pre style=\"padding:1em; border-radius:.25em; max-width:100%; overflow:auto;\">" :=
    complete_ofList (by decide)
  have hbreaks : Complete "<br /><br />" := complete_ofList (by decide)
  have hbefore : Complete beforeName := complete_ofList (by decide)
  have hbehind : ∀ what, Complete what → Complete (behindName what ++ "<br />") := by
    intro what hwhat
    have hclose : Complete "]</code> Shortcode " := complete_ofList (by decide)
    exact (hclose.append hwhat).append (complete_ofList (by decide))
  unfold verboseTemplate
  intro p hp
  simp only [List.mem_cons, List.not_mem_nil, or_false] at hp
  rcases hp with rfl | rfl | rfl | rfl | rfl | rfl | rfl
  · exact hpre.append hbefore
  · exact hbehind _ (complete_ofList (by decide))
  · exact hbreaks.append hbefore
  · exact hbehind _ (complete_ofList (by decide))
  · exact hbreaks.append hbefore
  · exact hbehind _ (complete_ofList (by decide))
  · exact complete_ofList (by decide)

/-- What a piece of the error block is: complete markup in which so many
items begin, and none at its end. -/
def IsPiece (items : Nat) (cs : List Char) : Prop :=
  (Place.outside.read cs).2 = .outside ∧ EndsApart ['<', 'l', 'i'] cs
    ∧ occurrences ['<', 'l', 'i'] cs = items

instance (items : Nat) (cs : List Char) : Decidable (IsPiece items cs) :=
  inferInstanceAs (Decidable (_ ∧ _))

/- The literals are replaced by their characters one by one: to compute them
from the bytes of a text would take long. -/

theorem isPiece_errorStart : IsPiece 0 errorStart.toList := by
  unfold errorStart beforeName
  rw [String.toList_append, String.toList_append, String.toList_append]
  rw [String.toList_ofList, String.toList_ofList, String.toList_ofList, String.toList_ofList]
  decide +kernel

theorem isPiece_errorMiddle (errors : Nat) : IsPiece 0 (errorMiddle errors).toList := by
  unfold errorMiddle behindName
  rw [String.toList_append, String.toList_append, String.toList_append, String.toList_append]
  rw [String.toList_ofList, String.toList_ofList, String.toList_ofList, String.toList_ofList]
  split
  · rw [String.toList_ofList]
    decide +kernel
  · rw [String.toList_ofList]
    decide +kernel

theorem isPiece_errorList : IsPiece 1 errorList.toList := by
  unfold errorList errorItem
  rw [if_pos rfl, String.toList_append, String.toList_append, String.toList_append,
    String.toList_append]
  rw [String.toList_ofList, String.toList_ofList, String.toList_ofList, String.toList_ofList,
    String.toList_ofList]
  decide +kernel

theorem isPiece_nextError : IsPiece 1 nextError.toList := by
  unfold nextError errorItem
  rw [if_neg Bool.false_ne_true, String.toList_append, String.toList_append, String.toList_append]
  rw [String.toList_ofList, String.toList_ofList, String.toList_ofList, String.toList_ofList]
  decide +kernel

theorem isPiece_errorEnd : IsPiece 0 errorEnd.toList := by
  unfold errorEnd
  rw [String.toList_append, String.toList_ofList, String.toList_ofList]
  decide +kernel

theorem exists_isPiece {p : String} {n : Nat} (h : p ∈ errorTemplate n) :
    ∃ items, IsPiece items p.toList := by
  unfold errorTemplate at h
  simp only [List.mem_append, List.mem_cons, List.mem_replicate, List.not_mem_nil, or_false] at h
  rcases h with (rfl | rfl | rfl) | ⟨-, rfl⟩ | rfl
  · exact ⟨0, isPiece_errorStart⟩
  · exact ⟨0, isPiece_errorMiddle n⟩
  · exact ⟨1, isPiece_errorList⟩
  · exact ⟨1, isPiece_nextError⟩
  · exact ⟨0, isPiece_errorEnd⟩

/-- The template has an item for each error, and one when there is none. -/
theorem occurrencesIn_errorTemplate (n : Nat) :
    occurrencesIn ['<', 'l', 'i'] (errorTemplate n) = max 1 n := by
  have hfront : occurrencesIn ['<', 'l', 'i'] [errorStart, errorMiddle n, errorList] = 1 := by
    rw [occurrencesIn, occurrencesIn, occurrencesIn, occurrencesIn, isPiece_errorStart.2.2,
      (isPiece_errorMiddle n).2.2, isPiece_errorList.2.2]
  have hend : occurrencesIn ['<', 'l', 'i'] [errorEnd] = 0 := by
    rw [occurrencesIn, occurrencesIn, isPiece_errorEnd.2.2]
  unfold errorTemplate
  rw [occurrencesIn_append, occurrencesIn_append, occurrencesIn_replicate, hfront, hend,
    isPiece_nextError.2.2]
  omega

theorem plain_verboseTexts (name : String) (i : Invocation) :
    ∀ text ∈ verboseTexts name i, Plain text.toList := by
  intro text htext
  obtain ⟨s, -, rfl⟩ := List.mem_map.1 htext
  exact plain_escape s

theorem bears_verboseBlock (name : String) (i : Invocation) :
    Bears (verboseBlock name i).toList (verboseTemplate.flatMap marks) := by
  have htexts := plain_verboseTexts name i
  have hmarks : ∀ text ∈ verboseTexts name i, marks text = [] := fun text htext =>
    (bears_of_plain (htexts text htext)).marks_eq
  rw [verboseBlock_eq, ← flatMap_marks_interleave verboseTemplate hmarks]
  refine bears_join fun p hp => ?_
  rcases mem_interleave hp with hp | hp
  · exact complete_verboseTemplate p hp
  · exact (bears_of_plain (htexts p hp)).complete

/-- No item begins in what stands in the gaps of the error block. -/
theorem free_errorTexts (name : String) (i : Invocation) :
    ∀ text ∈ errorTexts name i, Free ['<', 'l', 'i'] text.toList := by
  have hescape : ∀ s : String, Free ['<', 'l', 'i'] (Markup.escape s).toList := fun s =>
    free_of_not_mem (plain_escape s).bracket_not_mem
  intro text htext
  unfold errorTexts at htext
  rcases List.mem_append.1 htext with htext | htext
  · simp only [List.mem_cons, List.not_mem_nil, or_false] at htext
    rcases htext with rfl | rfl
    · exact hescape name
    · exact hescape i.recreate
  · obtain ⟨e, -, rfl⟩ := List.mem_map.1 htext
    exact (codeSpans_spans e.message).free ⟨by decide, by decide⟩ ⟨by decide, by decide⟩

theorem occurrences_errorBlock (name : String) (i : Invocation) :
    occurrences ['<', 'l', 'i'] (errorBlock name i).toList = max 1 i.errors.length := by
  have htexts := free_errorTexts name i
  have happart : ∀ p ∈ interleave (errorTemplate i.errors.length) (errorTexts name i),
      EndsApart ['<', 'l', 'i'] p.toList := by
    intro p hp
    rcases mem_interleave hp with hp | hp
    · obtain ⟨items, hpiece⟩ := exists_isPiece hp
      exact hpiece.2.1
    · exact (htexts p hp).endsApart
  rw [errorBlock_eq, occurrences_join happart, occurrencesIn_interleave _ htexts,
    occurrencesIn_errorTemplate]

/-- **Author text does not break a block.**  For every configured name and
every invocation, the verbose block is its template with texts without any
sign in the gaps, so a reader meets the marks of the template, whatever the
invocation.  The error block is its template with two such texts and then the
messages in the gaps; one item begins for each error, and an empty one if
there is none.  The code spans of a message are those of its backticks, paired
from left to right; they open and close in turn, and it has no other sign. -/
theorem blocks_keep_template (name : String) (i : Invocation) :
    (∃ texts : List String, texts.length + 1 = verboseTemplate.length
        ∧ (∀ text ∈ texts, Plain text.toList)
        ∧ verboseBlock name i = String.join (interleave verboseTemplate texts))
      ∧ Bears (verboseBlock name i).toList (verboseTemplate.flatMap marks)
      ∧ (∃ title tag : String, Plain title.toList ∧ Plain tag.toList
          ∧ errorBlock name i
            = String.join (interleave (errorTemplate i.errors.length)
              (title :: tag :: i.errors.map fun e => Markup.codeSpans e.message)))
      ∧ occurrences ['<', 'l', 'i'] (errorBlock name i).toList = max 1 i.errors.length
      ∧ ∀ e ∈ i.errors, CodeSpans e.message.toList (Markup.codeSpans e.message).toList
          ∧ Bears (Markup.codeSpans e.message).toList
              (codePairs (e.message.toList.count '\x60' / 2)) := by
  have hlength : (verboseTexts name i).length + 1 = verboseTemplate.length := by
    unfold verboseTexts verboseTemplate
    simp only [List.length_map, List.length_cons, List.length_nil]
  refine ⟨⟨verboseTexts name i, hlength, plain_verboseTexts name i, verboseBlock_eq name i⟩,
    bears_verboseBlock name i, ?_, occurrences_errorBlock name i, ?_⟩
  · exact ⟨Markup.escape name, Markup.escape i.recreate, plain_escape name,
      plain_escape i.recreate, errorBlock_eq name i⟩
  · intro e _
    have hspans := codeSpans_spans e.message
    exact ⟨hspans, hspans.bears⟩

end Invocation

end ContentGate
