/-
  ContentGate.Proofs.Invocation.Listing — which attributes a listing shows.

  The verbose block of a tag lists its attributes in normal form as a JSON
  object, one member for each attribute.  The key of a member is a text: the
  name of the attribute, or, for a value without a name, its number.  A name
  may be a number too.  If it is that of a value without a name, the two
  attributes have one member between them, at the place of the first and with
  the value of the last.

  Main statements:
    * `texts_gathered`, `mem_gathered`, `gathered_eq_map` — members from entries, one after
      the other;
    * `nodup_texts_iff` — when no two attributes have one text;
    * `members_of_attributesJson` — what the listing of a tag holds;
    * `number_name_not_listed` — a tag whose listing misses an attribute.
-/
import Mathlib.Data.List.Induction
import Mathlib.Data.List.Nodup
import Mathlib.Data.List.Perm.Subperm
import ContentGate.Proofs.Invocation.Order
import ContentGate.Proofs.Json.Pretty

namespace ContentGate

namespace Invocation

/-! ## §1. One member -/

/-- The texts of the keys of members. -/
def texts (ms : List (Json.Key × Json)) : List String := ms.map (·.1.text)

section
variable {key : String} {value : Json} {m : Json.Key × Json} {ms : List (Json.Key × Json)}

/-- A new text goes to the end. -/
theorem setMember_of_not_mem (h : key ∉ texts ms) :
    setMember key value ms = ms ++ [((key : Json.Key), value)] := by
  induction ms with
  | nil => rfl
  | cons m ms ih =>
    obtain ⟨k, v⟩ := m
    unfold texts at h ih
    rw [List.map_cons, List.mem_cons, not_or] at h
    rw [setMember, if_neg (fun heq => h.1 heq.symm), ih h.2]
    rfl

theorem texts_setMember_of_mem (h : key ∈ texts ms) :
    texts (setMember key value ms) = texts ms := by
  induction ms with
  | nil => cases h
  | cons m ms ih =>
    obtain ⟨k, v⟩ := m
    rw [setMember]
    by_cases hk : k.text = key
    · rw [if_pos hk]
      exact congrArg (· :: texts ms) hk.symm
    · rw [if_neg hk]
      exact congrArg (k.text :: ·) (ih ((List.mem_cons.1 h).resolve_left (fun heq => hk heq.symm)))

theorem texts_setMember (key : String) (value : Json) (ms : List (Json.Key × Json)) :
    texts (setMember key value ms) = if key ∈ texts ms then texts ms else texts ms ++ [key] := by
  by_cases h : key ∈ texts ms
  · rw [if_pos h, texts_setMember_of_mem h]
  · rw [if_neg h, setMember_of_not_mem h]
    exact List.map_append

/-- A member is the one that is set, or an old one of another text. -/
theorem mem_setMember (hnodup : (texts ms).Nodup) (h : m ∈ setMember key value ms) :
    m = ((key : Json.Key), value) ∨ m ∈ ms ∧ m.1.text ≠ key := by
  induction ms with
  | nil => exact .inl (List.mem_singleton.1 h)
  | cons m' ms ih =>
    obtain ⟨k, v⟩ := m'
    obtain ⟨hnew, hnodup⟩ := List.nodup_cons.1 hnodup
    rw [setMember] at h
    by_cases hk : k.text = key
    · rw [if_pos hk] at h
      rcases List.mem_cons.1 h with rfl | h
      · exact .inl rfl
      · refine .inr ⟨List.mem_cons_of_mem _ h, ?_⟩
        intro heq
        refine hnew ?_
        show k.text ∈ texts ms
        rw [hk, ← heq]
        exact List.mem_map_of_mem h
    · rw [if_neg hk] at h
      rcases List.mem_cons.1 h with rfl | h
      · exact .inr ⟨List.mem_cons_self, hk⟩
      · exact (ih hnodup h).imp_right fun ⟨hm, hne⟩ => ⟨List.mem_cons_of_mem _ hm, hne⟩

end

/-! ## §2. Members from entries -/

/-- The members of entries, each with a text and a value, set one after the other. -/
def gathered {α : Type} (text : α → String) (value : α → Json) (es : List α) :
    List (Json.Key × Json) :=
  es.foldl (fun ms e => setMember (text e) (value e) ms) []

section
variable {α : Type} {text : α → String} {value : α → Json} {es : List α}

theorem gathered_concat (es : List α) (e : α) :
    gathered text value (es ++ [e]) = setMember (text e) (value e) (gathered text value es) :=
  List.foldl_append

/-- **A text stands where it was first set.** -/
theorem texts_gathered (text : α → String) (value : α → Json) (es : List α) :
    texts (gathered text value es) = (es.map text).eraseDups := by
  induction es using List.reverseRecOn with
  | nil => rfl
  | append_singleton es e ih =>
    rw [gathered_concat, texts_setMember, ih, List.map_append]
    exact (Attributes.eraseDups_concat (es.map text) (text e)).symm

theorem nodup_texts_gathered (text : α → String) (value : α → Json) (es : List α) :
    (texts (gathered text value es)).Nodup := by
  induction es using List.reverseRecOn with
  | nil => exact List.nodup_nil
  | append_singleton es e ih =>
    rw [gathered_concat, texts_setMember]
    by_cases hmem : text e ∈ texts (gathered text value es)
    · rw [if_pos hmem]
      exact ih
    · rw [if_neg hmem]
      exact List.nodup_append.2 ⟨ih, List.nodup_singleton _, fun s hs t ht heq =>
        hmem (List.mem_singleton.1 ht ▸ heq ▸ hs)⟩

/-- **A member has the value of the last entry with its text.** -/
theorem mem_gathered {m : Json.Key × Json} (h : m ∈ gathered text value es) :
    ∃ before e after, es = before ++ e :: after ∧ m = ((text e : Json.Key), value e)
      ∧ ∀ e' ∈ after, text e' ≠ text e := by
  induction es using List.reverseRecOn with
  | nil => cases h
  | append_singleton es e ih =>
    rw [gathered_concat] at h
    rcases mem_setMember (nodup_texts_gathered text value es) h with rfl | ⟨hm, hne⟩
    · exact ⟨es, e, [], rfl, rfl, List.forall_mem_nil _⟩
    · obtain ⟨before, e', after, rfl, rfl, hafter⟩ := ih hm
      refine ⟨before, e', after ++ [e], by simp, rfl, ?_⟩
      exact List.forall_mem_append.2 ⟨hafter, List.forall_mem_singleton.2 fun heq => hne heq.symm⟩

/-- **Entries with different texts have a member each**, in order. -/
theorem gathered_eq_map (h : (es.map text).Nodup) :
    gathered text value es = es.map fun e => ((text e : Json.Key), value e) := by
  induction es using List.reverseRecOn with
  | nil => rfl
  | append_singleton es e ih =>
    rw [List.map_append, List.nodup_append] at h
    obtain ⟨hes, -, happart⟩ := h
    have hnew : text e ∉ texts (gathered text value es) := by
      rw [texts_gathered, List.mem_eraseDups]
      intro hmem
      exact happart _ hmem _ (List.mem_singleton.2 rfl) rfl
    rw [gathered_concat, setMember_of_not_mem hnew, ih hes, List.map_append]
    rfl

/-- Where two entries have one text, there are fewer members than entries. -/
theorem length_gathered_lt (h : ¬ (es.map text).Nodup) :
    (gathered text value es).length < es.length := by
  have hsub : texts (gathered text value es) ⊆ es.map text := by
    rw [texts_gathered]
    exact fun s hs => List.mem_eraseDups.1 hs
  have hsubperm := List.Nodup.subperm (nodup_texts_gathered text value es) hsub
  have hle := hsubperm.length_le
  have hne : (texts (gathered text value es)).length ≠ (es.map text).length := by
    intro heq
    have hperm := hsubperm.perm_of_length_le (Nat.le_of_eq heq.symm)
    exact h (hperm.nodup_iff.1 (nodup_texts_gathered text value es))
  unfold texts at hle hne
  rw [List.length_map, List.length_map] at hle hne
  omega

end

end Invocation

/-! ## §3. Names and numbers -/

namespace Attributes

/-- No number of a value without a name is also a name. -/
def NumbersApart (a : Attributes) : Prop :=
  ∀ n, .positional n ∈ a.keys → .named (toString n) ∉ a.keys

/-- **No two attributes have one text** if no name is a number in use, and only then. -/
theorem nodup_texts_iff (a : Attributes) :
    (a.keys.map AttributeKey.text).Nodup ↔ a.NumbersApart := by
  have hkeys : a.keys.Nodup := a.distinct
  rw [List.nodup_map_iff_inj_on hkeys]
  constructor
  · intro hinj n hnumber hname
    cases hinj _ hnumber _ hname rfl
  · rintro happart (name | m) hx (name' | n) hy htext
    · exact congrArg AttributeKey.named htext
    · obtain rfl : name = toString n := htext
      exact absurd hx (happart n hy)
    · obtain rfl : toString m = name' := htext
      exact absurd hy (happart m hx)
    · exact congrArg AttributeKey.positional (Decimal.toString_inj htext)

end Attributes

namespace Invocation

/-- The keys in normal form are those of the default template and the author's. -/
theorem mem_keys_merged {raw : Attributes} {debugDefault : String} {key : AttributeKey} :
    key ∈ (merged raw debugDefault).keys
      ↔ key ∈ (defaultAttributes debugDefault).keys ∨ key ∈ raw.keys := by
  rw [keys_merged, List.mem_append, List.mem_map]
  constructor
  · rintro (h | ⟨e, he, rfl⟩)
    · exact .inl h
    · exact .inr (List.mem_map_of_mem (List.mem_filter.1 he).1)
  · rintro (h | h)
    · exact .inl h
    · by_cases hdefault : key ∈ (defaultAttributes debugDefault).keys
      · exact .inl hdefault
      · obtain ⟨e, he, rfl⟩ := List.mem_map.1 h
        refine .inr ⟨e, List.mem_filter.2 ⟨he, ?_⟩, rfl⟩
        rw [isOwn_eq debugDefault, Bool.eq_false_iff.2 (mt List.contains_iff_mem.1 hdefault)]
        rfl

/-- Setting the modifiers again adds no key. -/
theorem keys_ofTag (t : Tag) (r : Resolved) (user : UserId) :
    (ofTag t r user).attributes.keys = (merged t.attributes r.options.debugDefault).keys := by
  have hdefault : ∀ name ∈ [AttributeName.forBlog, AttributeName.satisfy],
      AttributeKey.named name ∈ (merged t.attributes r.options.debugDefault).keys := by
    intro name hname
    refine mem_keys_merged.2 (.inl ?_)
    rw [keys_defaultAttributes]
    have hbuiltin : ∀ name ∈ [AttributeName.forBlog, AttributeName.satisfy],
        AttributeKey.named name ∈ AttributeKind.builtins.map (.named ·.1) := by decide
    exact hbuiltin name hname
  show ((Attributes.insert _ _ _).insert _ _).keys = _
  rw [Attributes.keys_insert, Attributes.keys_insert, if_pos (hdefault _ (by simp)),
    if_pos (hdefault _ (by simp))]

/-- No number is a built-in name. -/
theorem number_not_mem_defaults (debugDefault : String) (n : Nat) :
    AttributeKey.named (toString n) ∉ (defaultAttributes debugDefault).keys
      ∧ AttributeKey.positional n ∉ (defaultAttributes debugDefault).keys := by
  rw [keys_defaultAttributes]
  constructor
  · intro hmem
    obtain ⟨p, hp, heq⟩ := List.mem_map.1 hmem
    have hletters : ∀ p ∈ AttributeKind.builtins, p.1.toList.any Char.isDigit = false := by decide
    have hdigits := hletters p hp
    rw [AttributeKey.named.inj heq, Decimal.toList_toString] at hdigits
    obtain ⟨d, ds, hds⟩ := List.exists_cons_of_ne_nil (Decimal.digitsOf_ne_nil n)
    have hd := Decimal.isDigit_of_mem_digitsOf (hds ▸ List.mem_cons_self : d ∈ _)
    rw [hds, List.any_cons, hd] at hdigits
    cases hdigits
  · intro hmem
    obtain ⟨p, -, heq⟩ := List.mem_map.1 hmem
    cases heq

/-- The default template makes no name a number. -/
theorem numbersApart_ofTag_iff (t : Tag) (r : Resolved) (user : UserId) :
    (ofTag t r user).attributes.NumbersApart ↔ t.attributes.NumbersApart := by
  unfold Attributes.NumbersApart
  rw [keys_ofTag]
  refine forall_congr' fun n => ?_
  obtain ⟨hname, hnumber⟩ := number_not_mem_defaults r.options.debugDefault n
  rw [mem_keys_merged, mem_keys_merged, or_iff_right hname, or_iff_right hnumber]

/-! ## §4. The listing of a tag -/

/-- The members of the listing. -/
def members (i : Invocation) : List (Json.Key × Json) :=
  gathered (fun e => e.1.text) i.listed i.attributes.entries

theorem isLeaf_listed (i : Invocation) (e : AttributeKey × String) : (i.listed e).IsLeaf := by
  obtain ⟨name | index, value⟩ := e
  · unfold listed
    simp only
    split
    · exact ⟨_, rfl⟩
    split
    · split <;> trivial
    · trivial
  · trivial

/-- The text of the listing is read back as its members. -/
theorem read?_attributesJson (i : Invocation) :
    Json.read? i.attributesJson
      = some (.object (i.members.map fun m => (m.1.asWritten, m.2))) := by
  have hleaves : ∀ m ∈ i.members, m.2.IsLeaf := by
    intro m hm
    obtain ⟨_, e, _, -, rfl, -⟩ := mem_gathered hm
    exact i.isLeaf_listed e
  exact Json.read?_pretty hleaves

/-- **What the listing of a tag holds.**  Its text is read as an object.  The keys of the members
are the texts of the attributes in normal form, each where it stands first, and every attribute
that the author wrote is one of these attributes.  A member has the value of the last attribute
with its text.  There is one member for each attribute, in the same order, if no number of a value
without a name is a name that the author wrote.  Otherwise there are fewer.  Compiling the tag
leaves its listing as it is. -/
theorem members_of_attributesJson (t : Tag) (r : Resolved) (user : UserId) :
    let i := ofTag t r user
    let entries := i.attributes.entries
    ∃ ms, Json.read? i.attributesJson = some (.object ms)
      ∧ texts ms = (entries.map (·.1.text)).eraseDups
      ∧ (∀ key ∈ t.attributes.keys, key ∈ i.attributes.keys)
      ∧ (∀ m ∈ ms, ∃ before e after, entries = before ++ e :: after
          ∧ m.1.text = e.1.text ∧ m.2 = i.listed e ∧ ∀ e' ∈ after, e'.1.text ≠ e.1.text)
      ∧ (t.attributes.NumbersApart →
          ms.map (fun m => (m.1.text, m.2)) = entries.map (fun e => (e.1.text, i.listed e)))
      ∧ (¬ t.attributes.NumbersApart → ms.length < entries.length)
      ∧ ∀ multisite, (i.compile r multisite).attributesJson = i.attributesJson := by
  intro i entries
  have hnodup : (entries.map (·.1.text)).Nodup ↔ t.attributes.NumbersApart := by
    rw [← numbersApart_ofTag_iff t r user, ← Attributes.nodup_texts_iff]
    unfold Attributes.keys
    rw [List.map_map]
    rfl
  refine ⟨_, i.read?_attributesJson, ?_, ?_, ?_, ?_, ?_, fun _ => rfl⟩
  · rw [← texts_gathered _ i.listed]
    unfold texts
    rw [List.map_map]
    rfl
  · intro key hkey
    rw [keys_ofTag]
    exact mem_keys_merged.2 (.inr hkey)
  · intro m hm
    obtain ⟨m', hm', rfl⟩ := List.mem_map.1 hm
    obtain ⟨before, e, after, hentries, rfl, hafter⟩ := mem_gathered hm'
    exact ⟨before, e, after, hentries, rfl, rfl, hafter⟩
  · intro happart
    unfold members
    rw [gathered_eq_map (hnodup.2 happart), List.map_map, List.map_map]
    rfl
  · intro happart
    rw [List.length_map]
    exact length_gathered_lt (mt hnodup.1 happart)

/-- The tag `[if 0=a b]`: a name that is a number, and a value that gets it. -/
def numberTag : Tag := ⟨"if", Attributes.ofText " 0=a b".toList, none⟩

/-- **A listing that misses an attribute.**  The value `a` of the name `0` is not shown: the value
without a name that is written behind it takes its place. -/
theorem number_name_not_listed :
    Segment.scan (TagName.family "if") "[if 0=a b]" = [.tag numberTag]
      ∧ numberTag.attributes.entries = [(.named "0", "a"), (.positional 0, "b")]
      ∧ (ofTag numberTag (Options.resolved {}) 0).members.getLast?
        = some (("0" : Json.Key), Json.string "b")
      ∧ ¬ ∀ (page : String) (t : Tag) (r : Resolved) (user : UserId),
          Segment.tag t ∈ Segment.scan (TagName.family r.options.name) page →
            ∃ ms, Json.read? (ofTag t r user).attributesJson = some (.object ms)
              ∧ texts ms = (ofTag t r user).attributes.entries.map (·.1.text) := by
  refine ⟨rfl, rfl, rfl, ?_⟩
  intro h
  obtain ⟨ms, hread, htexts⟩ := h "[if 0=a b]" numberTag (Options.resolved {}) 0
    List.mem_cons_self
  rw [read?_attributesJson] at hread
  cases hread
  exact absurd htexts (by decide)

end Invocation

end ContentGate
