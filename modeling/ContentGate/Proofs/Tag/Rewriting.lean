/-
  ContentGate.Proofs.Tag.Rewriting — a tag, written and scanned again.

  A tag of a page is written as its name and its attributes between two
  brackets.  Scanned with the names that it was found with, the text is one
  tag, which stands alone: nothing in it closes the tag early or escapes it.

  Main statements:
    * `scan_alone` — a tag that is all of its page;
    * `scan_recreate` — what is scanned of a tag that has been written again;
    * `recreate_scans_back` — when that is the same tag.
-/
import ContentGate.Proofs.Tag.ReadBack
import ContentGate.Tag.Names

namespace ContentGate

open Text

namespace Segment

/-- **A tag that stands alone is all of its page.** -/
theorem scan_alone {names : List String} {page : String} {name x : List Char} (hne : name ≠ [])
    (hname : ∀ c ∈ name, isNameChar c = true) (hregistered : String.ofList name ∈ names)
    (hhead : ∀ c, (x ++ [']']).head? = some c → isNameChar c = false) (hx : ']' ∉ x)
    (hpage : page.toList = '[' :: (name ++ (x ++ [']']))) :
    scan names page = [.tag ⟨String.ofList name, attributesFrom x, none⟩] := by
  have hsingle : (name ++ (x ++ [']'])).head? ≠ some '[' := by
    cases name with
    | nil => exact absurd rfl hne
    | cons c cs =>
      intro heq
      obtain rfl : c = '[' := Option.some.inj heq
      exact absurd (hname '[' List.mem_cons_self) (by decide)
  have hfound : atBracket? names (name ++ (x ++ [']']) ++ [])
      = some ([.tag ⟨String.ofList name, attributesFrom x, none⟩], []) := by
    rw [List.append_nil, atBracket?_of_single hsingle,
      tagAt?_unclosed hne hname hregistered hhead hx (.inr rfl)]
    rfl
  have hscan := scanFrom_found hfound []
  rw [List.append_nil] at hscan
  unfold scan
  rw [hpage, hscan]
  rfl

/-- The name of a tag that is found. -/
theorem name_of_tagAt? {names : List String} {cs rest : List Char} {t : Tag}
    (h : tagAt? names cs = some (t, rest)) :
    t.name.toList ≠ [] ∧ ∀ c ∈ t.name.toList, isNameChar c = true := by
  have hname : t.name = String.ofList (cs.takeWhile isNameChar)
      ∧ (cs.takeWhile isNameChar).isEmpty = false := by
    unfold tagAt? at h
    simp only at h
    split at h
    · cases h
    rename_i hguard
    obtain ⟨⟨inner, behind⟩, -, h⟩ := Option.bind_eq_some_iff.1 h
    rw [Bool.or_eq_true, not_or] at hguard
    simp only at h
    refine ⟨?_, Bool.eq_false_iff.2 hguard.1⟩
    split at h
    · obtain ⟨rfl, -⟩ := Prod.mk.inj (Option.some.inj h)
      rfl
    · split at h <;> obtain ⟨rfl, -⟩ := Prod.mk.inj (Option.some.inj h) <;> rfl
  rw [hname.1, String.toList_ofList]
  refine ⟨fun hnil => ?_, fun c hc => List.mem_takeWhile_imp hc⟩
  rw [hnil] at hname
  cases hname.2

/-- The characters of a tag that is written again. -/
theorem toList_recreate (a : Attributes) (tag : String) :
    (a.recreate tag).toList
      = '[' :: (tag.toList ++ (Attributes.writtenText a.entries ++ [']'])) := by
  unfold Attributes.recreate Attributes.writtenText
  simp only [String.toList_append, String.toList_join, List.flatMap_map]
  simp

/-- **What is scanned of a tag that has been written again.** -/
theorem scan_recreate {names : List String} {page : String} {t : Tag}
    (h : Segment.tag t ∈ scan names page) :
    ∃ a : Attributes, scan names (t.attributes.recreate t.name) = [.tag ⟨t.name, a, none⟩]
      ∧ a.entries = Attributes.readBackAll t.attributes.entries := by
  obtain ⟨inner, behind, -, htag⟩ := exists_tagAt?_of_mem_scan h
  obtain ⟨hne, hname⟩ := name_of_tagAt? htag
  obtain ⟨x, hwrites, -⟩ := tagAt?_source htag
  -- What is written is the text of attributes that came from a tag.
  have hauthored : Attributes.Authored t.attributes.entries := by
    rw [hwrites.attributes]
    exact Attributes.authored_attributesFrom hwrites.inside
  have hinside : ']' ∉ Attributes.writtenText t.attributes.entries := fun hmem =>
    (hauthored.enclosable_writtenText ']' hmem).1 rfl
  -- A space or the bracket ends the name.
  have hhead : ∀ c, (Attributes.writtenText t.attributes.entries ++ [']']).head? = some c →
      isNameChar c = false := by
    intro c hc
    cases hentries : t.attributes.entries with
    | nil =>
      rw [hentries] at hc
      obtain rfl := Option.some.inj hc
      decide
    | cons e es =>
      rw [hentries] at hc
      obtain rfl : ' ' = c := by simpa [Attributes.writtenText] using hc
      decide
  refine ⟨_, ?_, hauthored.attributesFrom_writtenText⟩
  have hscan := scan_alone hne hname (by rw [String.ofList_toList]; exact hwrites.registered)
    hhead hinside (toList_recreate t.attributes t.name)
  rwa [String.ofList_toList] at hscan

/-- **When a tag comes back.**  A tag of a page that is written and scanned
again with the same names is one tag of the same name, and it stands alone.  Its
attributes are those of `readBackAll`: they are the same, and in the same
order, when the tag's attributes are rereadable, and only then do the keys have
the same values. -/
theorem recreate_scans_back {names : List String} {page : String} {t : Tag}
    (h : Segment.tag t ∈ scan names page) :
    ∃ a : Attributes, scan names (t.attributes.recreate t.name) = [.tag ⟨t.name, a, none⟩]
      ∧ a.entries = Attributes.readBackAll t.attributes.entries
      ∧ (t.attributes.Rereadable → a = t.attributes)
      ∧ (a.sameAs t.attributes = true → t.attributes.Rereadable) := by
  obtain ⟨a, hscan, hentries⟩ := scan_recreate h
  refine ⟨a, hscan, hentries, fun hrereadable => ?_, Attributes.rereadable_of_sameAs hentries⟩
  apply Attributes.ext_entries
  rw [hentries, hrereadable.readBackAll_eq]

/-- A tag that stands alone, with a name for one of three values. -/
def pathTag : Tag where
  name := "_if"
  attributes := ⟨[(.named "user_can", "edit posts"), (.positional 0, "a/b/"), (.positional 1, "")],
    by decide⟩
  body? := none

/-- The slash of a path comes back when something stands behind it. -/
theorem recreate_scans_back_path :
    Segment.tag pathTag ∈ scan (TagName.family "if") "[_if user_can='edit posts' a/b/ '']"
      ∧ scan (TagName.family "if") (pathTag.attributes.recreate pathTag.name) = [.tag pathTag] := by
  have hscanned : Segment.tag pathTag
      ∈ scan (TagName.family "if") "[_if user_can='edit posts' a/b/ '']" := List.mem_singleton.2 rfl
  obtain ⟨a, hscan, -, hsame, -⟩ := recreate_scans_back hscanned
  rw [hsame (by decide)] at hscan
  exact ⟨hscanned, hscan⟩

/-- A tag that stands alone, with one value that has no name. -/
def single (value : String) : Tag := ⟨"if", ⟨[(.positional 0, value)], by simp⟩, none⟩

/-- **A last slash and quotes of both kinds do not come back.**  The slash is
taken for the mark of a tag that closes itself, though quotes could enclose the
value; the other value cannot stand between quotes, though it could stand
without them. -/
theorem slash_and_quotes_not_scanned_back :
    (scan (TagName.family "if") "[if \"a/\"]" = [.tag (single "a/")]
        ∧ scan (TagName.family "if") ((single "a/").attributes.recreate "if")
          = [.tag (single "a")]
        ∧ (single "a").attributes.sameAs (single "a/").attributes = false)
      ∧ scan (TagName.family "if") "[if a\"b'c]" = [.tag (single "a\"b'c")]
        ∧ scan (TagName.family "if") ((single "a\"b'c").attributes.recreate "if")
          = [.tag (single "\"a\"b'c\"")]
        ∧ (single "\"a\"b'c\"").attributes.sameAs (single "a\"b'c").attributes = false :=
  ⟨⟨rfl, rfl, rfl⟩, rfl, rfl, rfl⟩

end Segment

end ContentGate
