/-
  ContentGate.Proofs.Tag.Sources — where the segments of a page come from.

  The scanner cuts a page into segments.  Each segment is written
  somewhere in the page: a text as itself, or as an escaped tag between
  two more brackets; a tag as its brackets, with its body and its closing
  tag if it has them.  Laid side by side in the order of the segments,
  these sources are the page: nothing is lost, repeated or moved.

  Main statements:
    * `tagAt?_source`, `atBracket?_sources` — what is found at a bracket;
    * `scanFrom_sources` — what is found in the rest of a page;
    * `exists_tagAt?_of_mem_scan` — where the tags of a page stand.
-/
import Mathlib.Data.List.Forall2
import ContentGate.Proofs.Tag.Scanning

namespace ContentGate

open Text

namespace Segment

/-! ## §1. Sources -/

/-- The attributes of a tag with `x` between its name and its bracket.  Where
the tag closes itself, the blanks at the end of `x` are dropped, and then
the slashes. -/
def attributesFrom (x : List Char) : Attributes :=
  if (trimEnd x).getLast? = some '/' then
    Attributes.ofText (dropEndWhile (· == '/') (trimEnd x))
  else Attributes.ofText x

/-- A tag is written with `x` between its name and its bracket. -/
structure Writes (names : List String) (t : Tag) (x : List Char) : Prop where
  registered : t.name ∈ names
  inside : ']' ∉ x
  attributes : t.attributes = attributesFrom x
  alone : (trimEnd x).getLast? = some '/' → t.body? = none
  body : ∀ b, t.body? = some b → ¬ closingTag t.name.toList <:+: b.toList

/-- The text of a tag, with `x` between its name and its bracket. -/
def tagText (t : Tag) (x : List Char) : List Char :=
  '[' :: (t.name.toList ++ (x ++ ']' ::
    match t.body? with
    | some b => b.toList ++ closingTag t.name.toList
    | none => []))

/-- The part of a page that a segment comes from. -/
inductive Source (names : List String) : Segment → List Char → Prop where
  /-- Text stands for itself. -/
  | text {s : String} (hne : s ≠ "") : Source names (.text s) s.toList
  /-- A tag in a second pair of brackets is text without that pair. -/
  | escaped {s : String} {t : Tag} {x : List Char} (h : Writes names t x)
      (hs : s.toList = tagText t x) : Source names (.text s) ('[' :: (s.toList ++ [']']))
  | tag {t : Tag} {x : List Char} (h : Writes names t x) : Source names (.tag t) (tagText t x)

/-- Segments come from parts that lie side by side. -/
def Sources (names : List String) (segments : List Segment) (cs : List Char) : Prop :=
  ∃ parts : List (List Char), List.Forall₂ (Source names) segments parts ∧ parts.flatten = cs

section
variable {names : List String} {segments segments' : List Segment} {cs ds : List Char}

theorem Sources.append (h : Sources names segments cs) (h' : Sources names segments' ds) :
    Sources names (segments ++ segments') (cs ++ ds) := by
  obtain ⟨parts, hparts, rfl⟩ := h
  obtain ⟨parts', hparts', rfl⟩ := h'
  exact ⟨parts ++ parts', List.rel_append hparts hparts', List.flatten_append⟩

theorem Source.sources {segment : Segment} (h : Source names segment cs) :
    Sources names [segment] cs :=
  ⟨[cs], .cons h .nil, by simp⟩

/-- Text that has been collected is a segment, if there is any. -/
theorem sources_ofText (reversed : List Char) : Sources names (ofText reversed) reversed.reverse := by
  unfold ofText
  by_cases hempty : reversed.isEmpty = true
  · rw [if_pos hempty, List.isEmpty_iff.1 hempty]
    exact ⟨[], .nil, rfl⟩
  · rw [if_neg hempty]
    have hne : String.ofList reversed.reverse ≠ "" := by
      intro heq
      have hnil : reversed.reverse = [] := by simpa using congrArg String.toList heq
      exact hempty (List.isEmpty_iff.2 (List.reverse_eq_nil_iff.1 hnil))
    have htext : Sources names [.text (String.ofList reversed.reverse)] _ := (Source.text hne).sources
    rwa [String.toList_ofList] at htext

/-- No text comes from nothing. -/
theorem Source.text_ne_empty {s : String} (h : Source names (.text s) cs) : s ≠ "" := by
  cases h with
  | text hne => exact hne
  | escaped _ hs =>
    rintro rfl
    cases hs

theorem Sources.text_ne_empty (h : Sources names segments cs) {s : String}
    (hs : Segment.text s ∈ segments) : s ≠ "" := by
  obtain ⟨parts, hparts, -⟩ := h
  obtain ⟨i, hi, hget⟩ := List.getElem_of_mem hs
  have hpart := hparts.get hi (hparts.length_eq ▸ hi)
  rw [List.get_eq_getElem, hget] at hpart
  exact hpart.text_ne_empty

/-! ## §2. What is found at a bracket -/

theorem attributePart_eq (x : List Char) :
    Attributes.ofText (attributePart x).1 = attributesFrom x
      ∧ ((attributePart x).2 = true ↔ (trimEnd x).getLast? = some '/') := by
  unfold attributePart attributesFrom
  by_cases hslash : (trimEnd x).getLast? = some '/'
  · simp [hslash]
  · simp [hslash]

/-- **A tag that is found stands behind the bracket.** -/
theorem tagAt?_source {t : Tag} {rest : List Char} (h : tagAt? names cs = some (t, rest)) :
    ∃ x, Writes names t x ∧ '[' :: cs = tagText t x ++ rest := by
  unfold tagAt? at h
  simp only at h
  by_cases hname : ((cs.takeWhile isNameChar).isEmpty
      || !names.contains (String.ofList (cs.takeWhile isNameChar))) = true
  · rw [if_pos hname] at h
    cases h
  rw [if_neg hname] at h
  have hregistered : String.ofList (cs.takeWhile isNameChar) ∈ names := by
    rw [Bool.or_eq_true, not_or] at hname
    simpa using hname.2
  obtain ⟨⟨x, behind⟩, hbracket, h⟩ := Option.bind_eq_some_iff.1 h
  have hinside := not_mem_of_splitAtWord? hbracket
  have hcs : cs = cs.takeWhile isNameChar ++ (x ++ ']' :: behind) := by
    have hdrop := eq_append_of_splitAtWord? hbracket
    rw [List.append_assoc, List.singleton_append] at hdrop
    rw [← hdrop]
    exact (List.take_append_drop (cs.takeWhile isNameChar).length cs).symm.trans
      (congrArg (· ++ _) (List.prefix_iff_eq_take.1 (List.takeWhile_prefix isNameChar)).symm)
  obtain ⟨hattributes, hclosed⟩ := attributePart_eq x
  by_cases hself : (attributePart x).2 = true
  · -- The tag closes itself.
    simp only [if_pos hself] at h
    obtain ⟨rfl, rfl⟩ := Prod.mk.inj (Option.some.inj h)
    refine ⟨x, ⟨hregistered, hinside, hattributes, fun _ => rfl, fun b hb => by cases hb⟩, ?_⟩
    conv => lhs; rw [hcs]
    simp [tagText]
  · simp only [if_neg hself] at h
    have hopen : ¬ (trimEnd x).getLast? = some '/' := fun hslash => hself (hclosed.2 hslash)
    cases hclosing : splitAtWord? (closingTag (cs.takeWhile isNameChar)) behind with
    | none =>
      -- No closing tag follows.
      rw [hclosing] at h
      obtain ⟨rfl, rfl⟩ := Prod.mk.inj (Option.some.inj h)
      refine ⟨x, ⟨hregistered, hinside, hattributes, fun _ => rfl, fun b hb => by cases hb⟩, ?_⟩
      conv => lhs; rw [hcs]
      simp [tagText]
    | some found =>
      obtain ⟨body, rest'⟩ := found
      rw [hclosing] at h
      obtain ⟨rfl, rfl⟩ := Prod.mk.inj (Option.some.inj h)
      have hne : closingTag (cs.takeWhile isNameChar) ≠ [] := List.cons_ne_nil _ _
      have hbody := not_infix_of_splitAtWord? hne hclosing
      have hbehind := eq_append_of_splitAtWord? hclosing
      refine ⟨x, ⟨hregistered, hinside, hattributes, fun hslash => absurd hslash hopen, ?_⟩, ?_⟩
      · rintro b hb
        obtain rfl := Option.some.inj hb
        simpa only [String.toList_ofList] using hbody
      · conv => lhs; rw [hcs, hbehind]
        simp [tagText]

/-- **A tag that encloses nothing**: it closes itself, or no closing tag follows. -/
theorem tagAt?_unclosed {name x rest : List Char} (hne : name ≠ [])
    (hname : ∀ c ∈ name, isNameChar c = true) (hregistered : String.ofList name ∈ names)
    (hhead : ∀ c, (x ++ [']']).head? = some c → isNameChar c = false) (hx : ']' ∉ x)
    (halone : (trimEnd x).getLast? = some '/' ∨ splitAtWord? (closingTag name) rest = none) :
    tagAt? names (name ++ (x ++ ']' :: rest))
      = some (⟨String.ofList name, attributesFrom x, none⟩, rest) := by
  have hstop : ∀ c ∈ (x ++ ']' :: rest).head?, isNameChar c = false := by
    cases x with
    | nil => exact hhead
    | cons c cs => exact hhead
  have htake := takeWhile_run hname hstop
  have hguard : (name.isEmpty || !names.contains (String.ofList name)) = false := by
    simp [hne, hregistered]
  have hcut : splitAtWord? [']'] (x ++ ([']'] ++ rest)) = some (x, rest) :=
    (passesOver_of_not_mem hx).split_eq
  rw [List.singleton_append] at hcut
  obtain ⟨hattributes, hclosed⟩ := attributePart_eq x
  unfold tagAt?
  rw [htake]
  dsimp only
  rw [hguard, List.drop_left, hcut]
  simp only [Bool.false_eq_true, if_false, Option.bind_eq_bind, Option.bind_some, hattributes]
  rcases halone with hslash | hnone
  · rw [if_pos (hclosed.2 hslash)]
  · rw [hnone]
    exact ite_self _

/-- A tag in one pair of brackets. -/
theorem atBracket?_of_single (h : cs.head? ≠ some '[') :
    atBracket? names cs = (tagAt? names cs).map fun (t, rest) => ([.tag t], rest) := by
  unfold atBracket?
  split
  · exact absurd rfl h
  · rfl

section
variable {inner rest : List Char} {t : Tag}

theorem atBracket?_of_none (h : tagAt? names inner = none) : atBracket? names ('[' :: inner) = none := by
  simp [atBracket?, h]

/-- A tag in a second pair of brackets. -/
theorem atBracket?_of_closed {part : List Char} (h : tagAt? names inner = some (t, ']' :: rest))
    (hpart : '[' :: inner = part ++ ']' :: rest) :
    atBracket? names ('[' :: inner) = some ([.text (String.ofList part)], rest) := by
  have htake : ('[' :: inner).take (('[' :: inner).length - (']' :: rest).length) = part := by
    rw [hpart, List.length_append, Nat.add_sub_cancel, List.take_left]
  rw [← htake]
  simp [atBracket?, h]

/-- A tag behind a second bracket that is not closed. -/
theorem atBracket?_of_not_closed (h : tagAt? names inner = some (t, rest))
    (hrest : rest.head? ≠ some ']') :
    atBracket? names ('[' :: inner) = some ([.text "[", .tag t], rest) := by
  unfold atBracket?
  simp only [h, Option.bind_eq_bind, Option.bind_some]
  split
  · exact absurd rfl hrest
  · rfl

end

/-- **What is found at a bracket comes from the page there.** -/
theorem atBracket?_sources {rest : List Char} (h : atBracket? names cs = some (segments, rest)) :
    ∃ found, Sources names segments ('[' :: found) ∧ cs = found ++ rest := by
  by_cases hdoubled : cs.head? = some '['
  · -- A second bracket: the tag is escaped if a second bracket follows it, too.
    obtain ⟨inner, rfl⟩ := List.head?_eq_some_iff.1 hdoubled
    cases htag : tagAt? names inner with
    | none =>
      rw [atBracket?_of_none htag] at h
      cases h
    | some p =>
      obtain ⟨t, behind⟩ := p
      obtain ⟨x, hwrites, hinner⟩ := tagAt?_source htag
      by_cases hclosed : behind.head? = some ']'
      · obtain ⟨after, rfl⟩ := List.head?_eq_some_iff.1 hclosed
        rw [atBracket?_of_closed htag hinner] at h
        obtain ⟨rfl, rfl⟩ := Prod.mk.inj (Option.some.inj h)
        have hescaped := (Source.escaped hwrites (s := String.ofList (tagText t x))
          String.toList_ofList).sources
        refine ⟨_, hescaped, ?_⟩
        rw [hinner, String.toList_ofList]
        simp
      · rw [atBracket?_of_not_closed htag hclosed] at h
        obtain ⟨rfl, rfl⟩ := Prod.mk.inj (Option.some.inj h)
        have hbracket : Sources names [.text "["] ['['] :=
          (Source.text (s := "[") (by decide)).sources
        exact ⟨_, hbracket.append (Source.tag hwrites).sources, hinner⟩
  · rw [atBracket?_of_single hdoubled] at h
    obtain ⟨⟨t, behind⟩, htag, heq⟩ := Option.map_eq_some_iff.1 h
    obtain ⟨x, hwrites, hcs⟩ := tagAt?_source htag
    obtain ⟨rfl, rfl⟩ := Prod.mk.inj heq
    exact ⟨_, (Source.tag hwrites).sources, (List.cons.inj hcs).2⟩

/-! ## §3. What is found in a page -/

/-- **The segments of the rest of a page come from it**, and from the text collected before. -/
theorem scanFrom_sources (names : List String) (reversed cs : List Char) :
    Sources names (scanFrom names 0 reversed cs) (reversed.reverse ++ cs) := by
  -- A tag takes several characters at once, so the induction is on the length.
  induction hn : cs.length using Nat.strongRecOn generalizing reversed cs with
  | ind n ih =>
    subst hn
    cases cs with
    | nil =>
      rw [List.append_nil]
      exact sources_ofText reversed
    | cons c cs =>
      by_cases hc : c = '['
      · subst hc
        cases hfound : atBracket? names cs with
        | none =>
          -- The bracket is text like any other.
          have hstep : scanFrom names 0 reversed ('[' :: cs) = scanFrom names 0 ('[' :: reversed) cs := by
            rw [scanFrom, if_pos rfl, hfound]
          rw [hstep]
          simpa using ih cs.length (Nat.lt_succ_self _) ('[' :: reversed) cs rfl
        | some p =>
          obtain ⟨found, rest⟩ := p
          obtain ⟨part, hpart, rfl⟩ := atBracket?_sources hfound
          have hlt : rest.length < ('[' :: (part ++ rest)).length := by
            rw [List.length_cons, List.length_append]
            omega
          have hrest := ih rest.length hlt [] rest rfl
          have hall := ((sources_ofText reversed).append hpart).append hrest
          rw [scanFrom_found hfound]
          simpa using hall
      · have hstep : scanFrom names 0 reversed (c :: cs) = scanFrom names 0 (c :: reversed) cs := by
          rw [scanFrom, if_neg hc]
        rw [hstep]
        simpa using ih cs.length (Nat.lt_succ_self _) (c :: reversed) cs rfl

/-! ## §4. The tags of a page -/

theorem tag_not_mem_ofText (t : Tag) (reversed : List Char) : Segment.tag t ∉ ofText reversed := by
  unfold ofText
  by_cases hempty : reversed.isEmpty = true
  · rw [if_pos hempty]
    exact List.not_mem_nil
  · rw [if_neg hempty]
    intro ht
    cases List.mem_singleton.1 ht

theorem exists_tagAt?_of_atBracket? {t : Tag} {rest : List Char}
    (h : atBracket? names cs = some (segments, rest)) (ht : Segment.tag t ∈ segments) :
    ∃ inner behind, '[' :: inner <:+ '[' :: cs ∧ tagAt? names inner = some (t, behind) := by
  by_cases hdoubled : cs.head? = some '['
  · obtain ⟨inner, rfl⟩ := List.head?_eq_some_iff.1 hdoubled
    cases htag : tagAt? names inner with
    | none =>
      rw [atBracket?_of_none htag] at h
      cases h
    | some p =>
      obtain ⟨t', behind⟩ := p
      by_cases hclosed : behind.head? = some ']'
      · -- An escaped tag is text.
        obtain ⟨after, rfl⟩ := List.head?_eq_some_iff.1 hclosed
        obtain ⟨x, -, hinner⟩ := tagAt?_source htag
        rw [atBracket?_of_closed htag hinner] at h
        obtain ⟨rfl, -⟩ := Prod.mk.inj (Option.some.inj h)
        cases List.mem_singleton.1 ht
      · rw [atBracket?_of_not_closed htag hclosed] at h
        obtain ⟨rfl, -⟩ := Prod.mk.inj (Option.some.inj h)
        obtain rfl : t = t' := by simpa using ht
        exact ⟨inner, behind, List.suffix_cons _ _, htag⟩
  · rw [atBracket?_of_single hdoubled] at h
    obtain ⟨⟨t', behind⟩, htag, heq⟩ := Option.map_eq_some_iff.1 h
    obtain ⟨rfl, -⟩ := Prod.mk.inj heq
    obtain rfl : t = t' := by simpa using ht
    exact ⟨cs, behind, List.suffix_rfl, htag⟩

theorem exists_tagAt?_of_mem_scanFrom {t : Tag} (reversed cs : List Char)
    (ht : Segment.tag t ∈ scanFrom names 0 reversed cs) :
    ∃ inner behind, '[' :: inner <:+ cs ∧ tagAt? names inner = some (t, behind) := by
  induction hn : cs.length using Nat.strongRecOn generalizing reversed cs with
  | ind n ih =>
    subst hn
    cases cs with
    | nil => exact absurd ht (tag_not_mem_ofText t reversed)
    | cons c cs =>
      cases hfound : if c = '[' then atBracket? names cs else none with
      | none =>
        rw [scanFrom, hfound] at ht
        obtain ⟨inner, behind, hinner, htag⟩ := ih cs.length (Nat.lt_succ_self _) _ cs ht rfl
        exact ⟨inner, behind, hinner.trans (List.suffix_cons c cs), htag⟩
      | some p =>
        obtain ⟨found, rest⟩ := p
        obtain ⟨rfl, hfound⟩ : c = '[' ∧ atBracket? names cs = some (found, rest) := by
          by_cases hc : c = '['
          · exact ⟨hc, by rwa [if_pos hc] at hfound⟩
          · rw [if_neg hc] at hfound
            cases hfound
        obtain ⟨part, -, rfl⟩ := atBracket?_sources hfound
        rw [scanFrom_found hfound, List.mem_append, List.mem_append] at ht
        rcases ht with (ht | ht) | ht
        · exact absurd ht (tag_not_mem_ofText t reversed)
        · exact exists_tagAt?_of_atBracket? hfound ht
        · have hlt : rest.length < ('[' :: (part ++ rest)).length := by
            rw [List.length_cons, List.length_append]
            omega
          obtain ⟨inner, behind, hinner, htag⟩ := ih rest.length hlt [] rest ht rfl
          exact ⟨inner, behind, hinner.trans (List.suffix_append ('[' :: part) rest), htag⟩

/-- **Every tag of a page stands behind a bracket of it.** -/
theorem exists_tagAt?_of_mem_scan {t : Tag} {page : String}
    (ht : Segment.tag t ∈ scan names page) :
    ∃ inner behind, '[' :: inner <:+ page.toList ∧ tagAt? names inner = some (t, behind) :=
  exists_tagAt?_of_mem_scanFrom [] page.toList ht

end

end Segment

end ContentGate
