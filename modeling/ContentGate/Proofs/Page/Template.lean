/-
  ContentGate.Proofs.Page.Template — pages as their authors think of them.

  An author thinks of a page as texts and CONDITIONALS; a conditional
  has attributes and two branches, and a branch is again made of texts
  and conditionals.  On the page a conditional is written with tags that
  carry one underscore for each conditional around it:

      [if a] … [_if b] … [_else] … [/_if] … [else] … [/if]

  The two facts that make reading this back possible:
    * `print_passesOver` — inside a branch neither the marker nor the
      closing tag of a conditional further out begins anywhere;
    * `scanFrom_print` — so the scanner finds the outermost conditionals,
      each with its whole body, and `split_body` cuts the body into the
      two branches.
-/
import ContentGate.Proofs.Tag.Scanning
import ContentGate.Tag.Branches

namespace ContentGate

open Text

/-- A page, or a branch of a conditional: texts and conditionals in a row. -/
inductive Template where
  | nil
  /-- A text, and what follows it. -/
  | text (t : List Char) (rest : Template)
  /-- A conditional, and what follows it. -/
  | conditional (attributes : List Char) (yes no rest : Template)

namespace Template

/-- How many conditionals stand inside one another. -/
def height : Template → Nat
  | .nil => 0
  | .text _ rest => rest.height
  | .conditional _ yes no rest => max (1 + max yes.height no.height) rest.height

/-! ## §1. The written form -/

/-- `depth` underscores. -/
def underscores (depth : Nat) : List Char := List.replicate depth '_'

/-- The name of a conditional's tag. -/
def name (depth : Nat) : List Char := underscores depth ++ ['i', 'f']

/-- `[if a]`, with the underscores of its depth. -/
def openTag (depth : Nat) (attributes : List Char) : List Char :=
  '[' :: (name depth ++ (' ' :: attributes ++ [']']))

/-- `[else]`, with the underscores of its depth. -/
def elseMark (depth : Nat) : List Char :=
  '[' :: (underscores depth ++ ['e', 'l', 's', 'e', ']'])

/-- `[/if]`, with the underscores of its depth. -/
def closeTag (depth : Nat) : List Char := '[' :: '/' :: (name depth ++ [']'])

/-- A template, written inside `depth` conditionals. -/
def print (depth : Nat) : Template → List Char
  | .nil => []
  | .text t rest => t ++ rest.print depth
  | .conditional attributes yes no rest =>
    openTag depth attributes
      ++ (yes.print (depth + 1) ++ elseMark depth ++ no.print (depth + 1))
      ++ closeTag depth ++ rest.print depth

/-- What stands between the tags of a conditional. -/
def body (depth : Nat) (yes no : Template) : List Char :=
  yes.print (depth + 1) ++ elseMark depth ++ no.print (depth + 1)

/-- What an author has to keep to: no brackets of his own, no attributes
that end in a slash, and no noise at the ends of a branch. -/
def WellFormed (depth : Nat) : Template → Prop
  | .nil => True
  | .text t rest => '[' ∉ t ∧ rest.WellFormed depth
  | .conditional attributes yes no rest =>
    ('[' ∉ attributes ∧ ']' ∉ attributes ∧ (trim attributes).getLast? ≠ some '/')
      ∧ (Markup.trimNoise (yes.print (depth + 1)) = yes.print (depth + 1)
        ∧ Markup.trimNoise (no.print (depth + 1)) = no.print (depth + 1))
      ∧ yes.WellFormed (depth + 1) ∧ no.WellFormed (depth + 1) ∧ rest.WellFormed depth

instance decidableWellFormed : ∀ (depth : Nat) (t : Template), Decidable (t.WellFormed depth)
  | _, .nil => inferInstanceAs (Decidable True)
  | depth, .text t rest =>
    have := decidableWellFormed depth rest
    inferInstanceAs (Decidable ('[' ∉ t ∧ rest.WellFormed depth))
  | depth, .conditional attributes yes no rest =>
    have := decidableWellFormed (depth + 1) yes
    have := decidableWellFormed (depth + 1) no
    have := decidableWellFormed depth rest
    inferInstanceAs (Decidable
      (('[' ∉ attributes ∧ ']' ∉ attributes ∧ (trim attributes).getLast? ≠ some '/')
        ∧ (Markup.trimNoise (yes.print (depth + 1)) = yes.print (depth + 1)
          ∧ Markup.trimNoise (no.print (depth + 1)) = no.print (depth + 1))
        ∧ yes.WellFormed (depth + 1) ∧ no.WellFormed (depth + 1) ∧ rest.WellFormed depth))

/-! ## §2. Names and markers -/

theorem elseMarker_else (depth : Nat) :
    (TagName.elseMarker "else" depth).toList = elseMark depth := by
  simp [TagName.elseMarker, TagName.atDepth, elseMark, underscores]

theorem closingTag_name (depth : Nat) : Segment.closingTag (name depth) = closeTag depth := rfl

/-- The underscores of a name are counted back. -/
theorem depth_name (d : Nat) : TagName.depth (String.ofList (name d)) = d := by
  have h : ∀ c ∈ List.replicate d '_', (c == '_') = true := by
    intro c hc
    simp [List.eq_of_mem_replicate hc]
  unfold TagName.depth name underscores
  rw [String.toList_ofList, List.takeWhile_append_of_pos h]
  simp

theorem isNameChar_of_mem_name {depth : Nat} {c : Char} (h : c ∈ name depth) :
    Segment.isNameChar c = true := by
  rcases List.mem_append.1 h with h | h
  · rw [List.eq_of_mem_replicate h]
    decide
  · rcases List.mem_cons.1 h with rfl | h
    · decide
    · rw [List.mem_singleton.1 h]
      decide

theorem bracket_not_mem_name (depth : Nat) : '[' ∉ name depth := by
  intro h
  exact absurd (isNameChar_of_mem_name h) (by decide)

theorem name_mem_family {depth : Nat} (h : depth ≤ maxDepth) :
    String.ofList (name depth) ∈ TagName.family "if" :=
  List.mem_map.2 ⟨depth, List.mem_range.2 (by omega), rfl⟩

/-! ## §3. No marker and no closing tag of a conditional further out -/

/-- The part of a word behind its bracket agrees with no tag and no
marker that is written inside `depth` conditionals. -/
def Foreign (w : List Char) (depth : Nat) : Prop :=
  ∀ rest, dropWord? w (name depth ++ rest) = none
    ∧ dropWord? w (underscores depth ++ 'e' :: rest) = none
    ∧ dropWord? w ('/' :: (name depth ++ rest)) = none

theorem foreign_else {d e : Nat} (h : d < e) :
    Foreign (underscores d ++ ['e', 'l', 's', 'e', ']']) e := by
  intro rest
  refine ⟨?_, ?_, ?_⟩
  · unfold name
    rw [List.append_assoc]
    exact dropWord?_replicate_of_lt (by decide) _ _ h
  · exact dropWord?_replicate_of_lt (by decide) _ _ h
  · cases d with
    | zero => exact dropWord?_cons_of_ne (by decide) _ _
    | succ d => exact dropWord?_cons_of_ne (by decide) _ _

theorem foreign_close {d e : Nat} (h : d < e) : Foreign ('/' :: (name d ++ [']'])) e := by
  intro rest
  -- Further in there is at least one underscore, where the word has a slash.
  obtain ⟨k, rfl⟩ : ∃ k, e = k + 1 := ⟨e - 1, by omega⟩
  refine ⟨?_, ?_, ?_⟩
  · exact dropWord?_cons_of_ne (by decide) _ _
  · exact dropWord?_cons_of_ne (by decide) _ _
  · unfold name
    rw [dropWord?_cons_self, List.append_assoc, List.append_assoc]
    exact dropWord?_replicate_of_lt (by decide) _ _ h

/-- **A word that is foreign to all depths further in begins nowhere in
what is written there.** -/
theorem print_passesOver {w : List Char} {d : Nat} (hw : ∀ e, d < e → Foreign w e) :
    ∀ (t : Template) (e : Nat), d < e → t.WellFormed e → ∀ rest : List Char,
      PassesOver ('[' :: w) (t.print e) rest := by
  intro t
  induction t with
  | nil => intro e _ _ rest; exact PassesOver.nil _ _
  | text t next ih =>
    intro e he ht rest
    exact (passesOver_of_not_mem ht.1).append (ih e he ht.2 rest)
  | conditional attributes yes no next ihy ihn ihr =>
    intro e he ⟨hatt, _, hy, hn, hr⟩ rest
    -- The word is passed over in each of the five parts of what is written.
    have hopen : ∀ rest, PassesOver ('[' :: w) (openTag e attributes) rest := by
      intro rest
      refine passesOver_bracket ?_ ?_
      · rw [List.append_assoc]
        exact (hw e he _).1
      · simp [bracket_not_mem_name, hatt.1]
    have hmark : ∀ rest, PassesOver ('[' :: w) (elseMark e) rest := by
      intro rest
      refine passesOver_bracket ?_ ?_
      · rw [List.append_assoc]
        exact (hw e he _).2.1
      · simp [underscores]
    have hclose : ∀ rest, PassesOver ('[' :: w) (closeTag e) rest := by
      intro rest
      refine passesOver_bracket ?_ ?_
      · rw [List.cons_append, List.append_assoc]
        exact (hw e he _).2.2
      · simp [bracket_not_mem_name]
    have hbody : ∀ rest, PassesOver ('[' :: w) (body e yes no) rest := fun rest =>
      ((ihy (e + 1) (by omega) hy _).append (hmark _)).append (ihn (e + 1) (by omega) hn rest)
    exact (((hopen _).append (hbody _)).append (hclose _)).append (ihr e he hr rest)

/-- The closing tag of a conditional begins nowhere in its body. -/
theorem body_passesOver {d : Nat} {yes no : Template} (hyes : yes.WellFormed (d + 1))
    (hno : no.WellFormed (d + 1)) (rest : List Char) :
    PassesOver (closeTag d) (body d yes no) rest := by
  have hw : ∀ e, d < e → Foreign ('/' :: (name d ++ [']'])) e := fun e he => foreign_close he
  have hmark : ∀ rest, PassesOver (closeTag d) (elseMark d) rest := by
    intro rest
    refine passesOver_bracket ?_ ?_
    · cases d with
      | zero => exact dropWord?_cons_of_ne (by decide) _ _
      | succ d => exact dropWord?_cons_of_ne (by decide) _ _
    · simp [underscores]
  exact ((print_passesOver hw yes (d + 1) (by omega) hyes _).append (hmark _)).append
    (print_passesOver hw no (d + 1) (by omega) hno rest)

/-- **The body of a conditional is cut into its two branches.** -/
theorem split_body {d : Nat} {yes no : Template}
    (htrim : Markup.trimNoise (yes.print (d + 1)) = yes.print (d + 1)
      ∧ Markup.trimNoise (no.print (d + 1)) = no.print (d + 1))
    (hyes : yes.WellFormed (d + 1)) :
    Branches.split (String.ofList (body d yes no)) "else" d
      = ⟨String.ofList (yes.print (d + 1)), String.ofList (no.print (d + 1))⟩ := by
  -- The first marker of this depth is the conditional's own: `yes` is passed over.
  have hcut : splitAtWord? (elseMark d) (body d yes no)
      = some (yes.print (d + 1), no.print (d + 1)) := by
    unfold body
    rw [List.append_assoc]
    exact (print_passesOver (fun e he => foreign_else he) yes (d + 1) (by omega) hyes _).split_eq
  unfold Branches.split
  rw [elseMarker_else, String.toList_ofList, hcut]
  simp only [htrim.1, htrim.2]

/-! ## §4. The segments of a written template -/

/-- The tag of a conditional. -/
def tag (depth : Nat) (attributes : List Char) (body? : Option String) : Tag :=
  ⟨TagName.atDepth "if" depth, Attributes.ofText attributes, body?⟩

/-- The segments of a template that is written inside `depth`
conditionals, behind some text (backwards). -/
def segments (depth : Nat) : (reversed : List Char) → Template → List Segment
  | reversed, .nil => Segment.ofText reversed
  | reversed, .text t rest => segments depth (t.reverse ++ reversed) rest
  | reversed, .conditional attributes yes no rest =>
    Segment.ofText reversed
      ++ [.tag (tag depth attributes (some (String.ofList (body depth yes no))))]
      ++ segments depth [] rest

/-- **The scanner finds the outermost conditionals of a template.** -/
theorem scanFrom_print {d : Nat} :
    ∀ (t : Template) (reversed : List Char), d + t.height ≤ maxDepth + 1 → t.WellFormed d →
      Segment.scanFrom (TagName.family "if") 0 reversed (t.print d) = t.segments d reversed := by
  intro t
  induction t with
  | nil => intro reversed _ _; rfl
  | text t rest ih =>
    intro reversed hd ⟨ht, hr⟩
    show Segment.scanFrom _ 0 reversed (t ++ rest.print d) = _
    rw [Segment.scanFrom_text ht, ih _ hd hr]
    rfl
  | conditional attributes yes no rest _ _ ihr =>
    intro reversed hd ⟨hatt, _, hy, hn, hr⟩
    unfold height at hd
    have hprint : (conditional attributes yes no rest).print d
        = '[' :: (name d ++ ((' ' :: attributes) ++ (']' :: (body d yes no
          ++ (Segment.closingTag (name d) ++ rest.print d))))) := by
      simp [print, openTag, body, closingTag_name]
    have hopen : (trim (' ' :: attributes)).getLast? ≠ some '/' := by
      have hb : isBlank ' ' = true := by decide
      have ht : trim (' ' :: attributes) = trim attributes := by simp [trim, trimStart, hb]
      rw [ht]
      exact hatt.2.2
    -- The blank ends the name of the tag.
    have hhead : ∀ c, ((' ' :: attributes) ++ [']']).head? = some c →
        Segment.isNameChar c = false := by
      intro c hc
      rw [List.cons_append, List.head?_cons, Option.some.injEq] at hc
      rw [← hc]
      decide
    rw [hprint, Segment.scanFrom_enclosing (by simp [name]) (fun c hc => isNameChar_of_mem_name hc)
      (name_mem_family (by omega)) hhead (by simp [hatt.2.1]) hopen (body_passesOver hy hn _),
      Attributes.ofText_space, ihr [] (by omega) hr]
    rfl

end Template

end ContentGate
