/-
  ContentGate.Proofs.Tag.Scanning — what the scanner makes of the parts of a page.

  A page is scanned from left to right: text without brackets is
  collected, and at a bracket a tag is tried.  Each lemma says what the
  scan makes of one kind of part and leaves the rest of the page open:

    * `scanFrom_text` — text is added to the text collected so far;
    * `scanFrom_taken` — what belongs to a tag is stepped over;
    * `scanFrom_enclosing` — a tag with its body becomes one segment.
-/
import ContentGate.Proofs.Text.Blank
import ContentGate.Proofs.Text.FirstWord
import ContentGate.Tag.Segment

namespace ContentGate

open Text

/-! ## §1. Trimming at the end -/

namespace Text

theorem getLast?_trimEnd_cons {c : Char} (hc : isBlank c = true) (cs : List Char) :
    (trimEnd (c :: cs)).getLast? = (trimEnd cs).getLast? := by
  unfold trimEnd
  rw [dropEndWhile]
  cases dropEndWhile isBlank cs with
  | nil => simp [hc]
  | cons d ds => rw [List.getLast?_cons_cons]

/-- Blanks in front do not change how a text ends. -/
theorem getLast?_trim (cs : List Char) : (trim cs).getLast? = (trimEnd cs).getLast? := by
  unfold trim
  induction cs with
  | nil => rfl
  | cons c cs ih =>
    by_cases hc : isBlank c = true
    · have hs : trimStart (c :: cs) = trimStart cs := by simp [trimStart, hc]
      rw [hs, ih, getLast?_trimEnd_cons hc]
    · have hs : trimStart (c :: cs) = c :: cs := by simp [trimStart, hc]
      rw [hs]

end Text

/-! ## §2. The attributes of a tag -/

namespace Segment

/-- Attributes that do not end in a slash leave the tag open. -/
theorem attributePart_open {cs : List Char} (h : (trim cs).getLast? ≠ some '/') :
    attributePart cs = (cs, false) := by
  rw [getLast?_trim] at h
  simp [attributePart, h]

end Segment

/-- The blank behind the name of a tag does not count. -/
theorem Attributes.ofText_space (cs : List Char) :
    Attributes.ofText (' ' :: cs) = Attributes.ofText cs := by
  have hv : Assignment.visibleSpaces (' ' :: cs) = ' ' :: Assignment.visibleSpaces cs := by
    simp [Assignment.visibleSpaces]
  have hl : Assignment.list (' ' :: Assignment.visibleSpaces cs)
      = Assignment.list (Assignment.visibleSpaces cs) := by
    have hb : isBlank ' ' = true := by decide
    simp [Assignment.list, Assignment.listFrom, hb]
  rw [Attributes.ofText, hv, hl]
  rfl

/-! ## §3. One tag -/

namespace Segment

/-- **A tag with its body.**  The closing tag that counts is the first
one, so it must not begin within the body. -/
theorem tagAt?_enclosing {names : List String} {name inner body rest : List Char}
    (hne : name ≠ []) (hname : ∀ c ∈ name, isNameChar c = true)
    (hreg : String.ofList name ∈ names)
    (hhead : ∀ c, (inner ++ [']']).head? = some c → isNameChar c = false)
    (hinner : ']' ∉ inner) (hopen : (trim inner).getLast? ≠ some '/')
    (hbody : PassesOver (closingTag name) body (closingTag name ++ rest)) :
    tagAt? names (name ++ (inner ++ (']' :: (body ++ (closingTag name ++ rest)))))
      = some (⟨String.ofList name, Attributes.ofText inner, some (String.ofList body)⟩, rest) := by
  have hstop : ∀ c ∈ (inner ++ (']' :: (body ++ (closingTag name ++ rest)))).head?,
      isNameChar c = false := by
    cases inner with
    | nil => exact hhead
    | cons c cs => exact hhead
  have htake := takeWhile_run hname hstop
  have hcut : splitAtWord? [']'] (inner ++ ([']'] ++ (body ++ (closingTag name ++ rest))))
      = some (inner, body ++ (closingTag name ++ rest)) :=
    (passesOver_of_not_mem hinner).split_eq
  have hguard : (name.isEmpty || !names.contains (String.ofList name)) = false := by
    simp [hne, hreg]
  rw [List.singleton_append] at hcut
  unfold tagAt?
  rw [htake]
  dsimp only
  rw [hguard, List.drop_left, hcut]
  simp [attributePart_open hopen, hbody.split_eq]

/-! ## §4. The scan -/

variable {names : List String}

theorem scanFrom_text {t : List Char} (h : '[' ∉ t) (reversed rest : List Char) :
    scanFrom names 0 reversed (t ++ rest) = scanFrom names 0 (t.reverse ++ reversed) rest := by
  induction t generalizing reversed with
  | nil => rfl
  | cons c cs ih =>
    rw [List.mem_cons, not_or] at h
    have hc : ¬ c = '[' := fun e => h.1 e.symm
    rw [List.cons_append, scanFrom, if_neg hc, ih h.2]
    simp

theorem scanFrom_taken (found reversed rest : List Char) :
    scanFrom names found.length reversed (found ++ rest) = scanFrom names 0 reversed rest := by
  induction found with
  | nil => rfl
  | cons c cs ih =>
    rw [List.length_cons, List.cons_append, scanFrom]
    exact ih

/-- A bracket at which segments are found, in text that ends behind them. -/
theorem scanFrom_found {found rest : List Char} {segments : List Segment}
    (h : atBracket? names (found ++ rest) = some (segments, rest)) (reversed : List Char) :
    scanFrom names 0 reversed ('[' :: (found ++ rest))
      = ofText reversed ++ segments ++ scanFrom names 0 [] rest := by
  have hlen : (found ++ rest).length - rest.length = found.length := by simp
  rw [scanFrom, if_pos rfl, h]
  simp only [hlen, scanFrom_taken]

/-- **A tag with its body in a page.** -/
theorem scanFrom_enclosing {name inner body rest : List Char}
    (hne : name ≠ []) (hname : ∀ c ∈ name, isNameChar c = true)
    (hreg : String.ofList name ∈ names)
    (hhead : ∀ c, (inner ++ [']']).head? = some c → isNameChar c = false)
    (hinner : ']' ∉ inner) (hopen : (trim inner).getLast? ≠ some '/')
    (hbody : PassesOver (closingTag name) body (closingTag name ++ rest))
    (reversed : List Char) :
    scanFrom names 0 reversed
        ('[' :: (name ++ (inner ++ (']' :: (body ++ (closingTag name ++ rest))))))
      = ofText reversed
        ++ [.tag ⟨String.ofList name, Attributes.ofText inner, some (String.ofList body)⟩]
        ++ scanFrom names 0 [] rest := by
  have htag := tagAt?_enclosing hne hname hreg hhead hinner hopen hbody
  have hassoc : name ++ (inner ++ (']' :: (body ++ (closingTag name ++ rest))))
      = (name ++ (inner ++ (']' :: (body ++ closingTag name)))) ++ rest := by simp
  have hat : atBracket? names (name ++ (inner ++ (']' :: (body ++ (closingTag name ++ rest)))))
      = some ([.tag ⟨String.ofList name, Attributes.ofText inner,
          some (String.ofList body)⟩], rest) := by
    cases name with
    | nil => exact absurd rfl hne
    | cons c cs =>
      -- a second bracket would start an escaped tag
      have hc : ¬ c = '[' := by
        intro e
        have hb := hname c List.mem_cons_self
        rw [e] at hb
        exact absurd hb (by decide)
      unfold atBracket?
      split
      · rename_i heq
        simp only [List.cons_append, List.cons.injEq] at heq
        exact absurd heq.1 hc
      · rw [htag]; rfl
  rw [hassoc] at hat ⊢
  exact scanFrom_found hat reversed

end Segment

end ContentGate
