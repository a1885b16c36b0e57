/-
  ContentGate.Proofs.Tag.Escaping — opening tags in doubled brackets.

  An author who shows a tag doubles its brackets: `[[if]]` stands for the
  text `[if]`.  Whether the brackets are doubled is decided only when the
  end of the tag is known, and unless the tag closes itself a closing tag
  is looked for before, anywhere in the rest of the page.  So an opening
  tag in doubled brackets is literal exactly if it closes itself or no
  closing tag of its name follows.  Otherwise the page up to the first
  closing tag is swallowed: it is the body of a tag, or belongs to the
  literal text.

  Main statements:
    * `scanFrom_literal` — a doubled opening tag that is literal;
    * `scanFrom_swallowing` — one that is not;
    * `escaped_opening_literal_iff` — when an escaped opening tag is literal;
    * `escaped_opening_swallows` — an example that swallows a sentence.
-/
import ContentGate.Proofs.Tag.Sources
import ContentGate.Tag.Names

namespace ContentGate

open Text

namespace Segment

/-! ## §1. A doubled opening tag -/

section
variable {names : List String} {name x behind body rest : List Char}

/-- A tag that encloses nothing is literal in doubled brackets. -/
theorem scanFrom_literal (hne : name ≠ []) (hname : ∀ c ∈ name, isNameChar c = true)
    (hregistered : String.ofList name ∈ names)
    (hhead : ∀ c, (x ++ [']']).head? = some c → isNameChar c = false) (hx : ']' ∉ x)
    (halone : (trimEnd x).getLast? = some '/'
      ∨ splitAtWord? (closingTag name) (']' :: behind) = none) (reversed : List Char) :
    scanFrom names 0 reversed ('[' :: '[' :: (name ++ (x ++ ']' :: ']' :: behind)))
      = ofText reversed ++ [.text (String.ofList ('[' :: (name ++ (x ++ [']']))))]
        ++ scanFrom names 0 [] behind := by
  have htag := tagAt?_unclosed hne hname hregistered hhead hx halone
  have hat : atBracket? names ('[' :: (name ++ (x ++ ']' :: ']' :: behind)))
      = some ([.text (String.ofList ('[' :: (name ++ (x ++ [']']))))], behind) :=
    atBracket?_of_closed htag (by simp)
  have hassoc : '[' :: (name ++ (x ++ ']' :: ']' :: behind))
      = ('[' :: (name ++ (x ++ [']', ']']))) ++ behind := by simp
  rw [hassoc] at hat ⊢
  exact scanFrom_found hat reversed

/-- The body of a doubled tag begins with its second bracket. -/
theorem tagAt?_swallowing (hne : name ≠ []) (hname : ∀ c ∈ name, isNameChar c = true)
    (hregistered : String.ofList name ∈ names)
    (hhead : ∀ c, (x ++ [']']).head? = some c → isNameChar c = false) (hx : ']' ∉ x)
    (hopen : (trimEnd x).getLast? ≠ some '/')
    (hclosing : splitAtWord? (closingTag name) (']' :: behind) = some (body, rest)) :
    tagAt? names (name ++ (x ++ ']' :: ']' :: behind))
      = some (⟨String.ofList name, Attributes.ofText x, some (String.ofList body)⟩, rest) := by
  have hbehind := eq_append_of_splitAtWord? hclosing
  rw [List.append_assoc] at hbehind
  have hbody : PassesOver (closingTag name) body (closingTag name ++ rest) := by
    unfold PassesOver
    rw [splitAtWord?_append_self, ← hbehind, hclosing]
    simp
  rw [← getLast?_trim] at hopen
  rw [hbehind]
  exact tagAt?_enclosing hne hname hregistered hhead hx hopen hbody

/-- **A doubled opening tag whose closing tag follows** is not the text without
the outer brackets: what is scanned there begins with another text. -/
theorem scanFrom_swallowing (hne : name ≠ []) (hname : ∀ c ∈ name, isNameChar c = true)
    (hregistered : String.ofList name ∈ names)
    (hhead : ∀ c, (x ++ [']']).head? = some c → isNameChar c = false) (hx : ']' ∉ x)
    (hopen : (trimEnd x).getLast? ≠ some '/')
    (hclosing : splitAtWord? (closingTag name) (']' :: behind) = some (body, rest))
    (reversed : List Char) :
    ∃ s segments, scanFrom names 0 reversed ('[' :: '[' :: (name ++ (x ++ ']' :: ']' :: behind)))
        = ofText reversed ++ .text s :: segments
      ∧ s ≠ String.ofList ('[' :: (name ++ (x ++ [']']))) := by
  have htag := tagAt?_swallowing hne hname hregistered hhead hx hopen hclosing
  have hbehind := eq_append_of_splitAtWord? hclosing
  by_cases hclosed : rest.head? = some ']'
  · -- The closing tag is doubled as well: the text is longer.
    obtain ⟨after, rfl⟩ := List.head?_eq_some_iff.1 hclosed
    let part := '[' :: (name ++ (x ++ ']' :: (body ++ closingTag name)))
    have hpart : '[' :: (name ++ (x ++ ']' :: ']' :: behind)) = part ++ ']' :: after := by
      simp [part, hbehind]
    have hat := atBracket?_of_closed htag hpart
    have hassoc : '[' :: (name ++ (x ++ ']' :: ']' :: behind)) = (part ++ [']']) ++ after := by
      simp [part, hbehind]
    rw [hassoc] at hat ⊢
    refine ⟨String.ofList part, scanFrom names 0 [] after, ?_, ?_⟩
    · rw [scanFrom_found hat reversed]
      simp
    · intro heq
      have hlength := congrArg List.length (String.ofList_injective heq)
      simp [part, closingTag] at hlength
  · -- It is not, and the first bracket stands alone.
    have hat := atBracket?_of_not_closed htag hclosed
    have hassoc : '[' :: (name ++ (x ++ ']' :: ']' :: behind))
        = ('[' :: (name ++ (x ++ ']' :: (body ++ closingTag name)))) ++ rest := by
      simp [hbehind]
    rw [hassoc] at hat ⊢
    refine ⟨"[", .tag ⟨String.ofList name, Attributes.ofText x, some (String.ofList body)⟩
      :: scanFrom names 0 [] rest, ?_, ?_⟩
    · rw [scanFrom_found hat reversed]
      simp
    · intro heq
      have hlength := congrArg (·.toList.length) heq
      simp at hlength

end

/-! ## §2. When it is literal -/

/-- A text segment, if the text is not empty. -/
theorem ofText_reverse (s : String) :
    ofText s.toList.reverse = if s = "" then [] else [.text s] := by
  unfold ofText
  by_cases hs : s = ""
  · simp [hs]
  · simp [hs]

/-- **An opening tag in doubled brackets is literal**, and what stands behind it is scanned
on its own, exactly if the tag closes itself or no closing tag of its name follows. -/
theorem escaped_opening_literal_iff {names : List String} {name attributes : String}
    (hne : name ≠ "") (hname : ∀ c ∈ name.toList, isNameChar c = true) (hregistered : name ∈ names)
    (hspace : attributes = "" ∨ attributes.toList.head? = some ' ')
    (hattributes : ']' ∉ attributes.toList) {front : String} (hfront : '[' ∉ front.toList)
    (behind : String) :
    scan names (front ++ "[[" ++ name ++ attributes ++ "]]" ++ behind)
        = (if front = "" then [] else [.text front])
          ++ .text ("[" ++ name ++ attributes ++ "]") :: scan names behind ↔
      (trimEnd attributes.toList).getLast? = some '/'
        ∨ ¬ closingTag name.toList <:+: behind.toList := by
  have hchars : name.toList ≠ [] := by simpa using hne
  have hmember : String.ofList name.toList ∈ names := by rwa [String.ofList_toList]
  have hhead : ∀ c, (attributes.toList ++ [']']).head? = some c → isNameChar c = false := by
    intro c hc
    rcases hspace with rfl | hspace
    · obtain rfl : ']' = c := by simpa using hc
      decide
    · obtain ⟨cs, hcs⟩ := List.head?_eq_some_iff.1 hspace
      obtain rfl : ' ' = c := by simpa [hcs] using hc
      decide
  -- The second bracket of the end is no part of a closing tag.
  have hbracket : closingTag name.toList <:+: ']' :: behind.toList
      ↔ closingTag name.toList <:+: behind.toList := by
    rw [List.infix_cons_iff]
    simp [closingTag]
  have hpage : scan names (front ++ "[[" ++ name ++ attributes ++ "]]" ++ behind)
      = scanFrom names 0 front.toList.reverse
          ('[' :: '[' :: (name.toList ++ (attributes.toList ++ ']' :: ']' :: behind.toList))) := by
    have hchars : (front ++ "[[" ++ name ++ attributes ++ "]]" ++ behind).toList
        = front.toList
          ++ '[' :: '[' :: (name.toList ++ (attributes.toList ++ ']' :: ']' :: behind.toList)) := by
      simp
    rw [scan, hchars, scanFrom_text hfront, List.append_nil]
  have hliteral : String.ofList ('[' :: (name.toList ++ (attributes.toList ++ [']'])))
      = "[" ++ name ++ attributes ++ "]" := by
    apply String.toList_injective
    simp
  rw [hpage, ← ofText_reverse, ← hliteral]
  constructor
  · intro hscan
    by_contra hneither
    rw [not_or, not_not, ← hbracket] at hneither
    obtain ⟨hopen, hoccurs⟩ := hneither
    cases hclosing : splitAtWord? (closingTag name.toList) (']' :: behind.toList) with
    | none => exact splitAtWord?_eq_none_iff.1 hclosing hoccurs
    | some p =>
      obtain ⟨s, segments, hfound, hs⟩ := scanFrom_swallowing hchars hname hmember hhead
        hattributes hopen hclosing front.toList.reverse
      rw [hfound] at hscan
      have htexts := List.append_cancel_left hscan
      exact hs (Segment.text.inj (List.cons.inj htexts).1)
  · intro hclosed
    rw [← hbracket, ← splitAtWord?_eq_none_iff] at hclosed
    rw [scanFrom_literal hchars hname hmember hhead hattributes hclosed]
    unfold scan
    simp

/-- Text in front, attributes, and another tag of the name behind, which is not closed. -/
theorem escaped_opening_literal_capability :
    scan (TagName.family "if") "Write [[_if user_can='edit posts']] or [_if is_vip=1]."
      = [.text "Write ", .text "[_if user_can='edit posts']", .text " or ",
          .tag ⟨"_if", ⟨[(.named "is_vip", "1")], by decide⟩, none⟩, .text "."] := by
  have hname : ∀ c ∈ "_if".toList, isNameChar c = true := List.all_eq_true.1 (by decide)
  have hfront : '[' ∉ "Write ".toList := by decide
  have hattributes : ']' ∉ " user_can='edit posts'".toList := by decide
  have hregistered : "_if" ∈ TagName.family "if" := by decide
  have hclosing : ¬ closingTag "_if".toList <:+: " or [_if is_vip=1].".toList :=
    splitAtWord?_eq_none_iff.1 rfl
  exact (escaped_opening_literal_iff (by decide) hname hregistered (.inr rfl) hattributes hfront
    " or [_if is_vip=1].").2 (.inr hclosing)

/-- **The page up to a closing tag may be swallowed.**  An example of an opening tag stands
before a tag with a body: the sentence between them becomes part of the body of the example. -/
theorem escaped_opening_swallows :
    scan (TagName.family "if") "[[if]] shows [if]x[/if]"
        = [.text "[", .tag ⟨"if", ⟨[], by decide⟩, some "] shows [if]x"⟩]
      ∧ scan (TagName.family "if") " shows [if]x[/if]"
        = [.text " shows ", .tag ⟨"if", ⟨[], by decide⟩, some "x"⟩]
      ∧ scan (TagName.family "if") "[[if]] shows [if]x[/if]"
        ≠ .text "[if]" :: scan (TagName.family "if") " shows [if]x[/if]" := by
  have hswallowed : scan (TagName.family "if") "[[if]] shows [if]x[/if]"
      = [.text "[", .tag ⟨"if", ⟨[], by decide⟩, some "] shows [if]x"⟩] := rfl
  refine ⟨hswallowed, rfl, ?_⟩
  rw [hswallowed]
  intro heq
  exact absurd (Segment.text.inj (List.cons.inj heq).1) (by decide)

end Segment

end ContentGate
