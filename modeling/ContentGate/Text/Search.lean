/-
  ContentGate.Text.Search — finding, comparing and joining texts.

  Searching for a fixed word is by position in a `List Char`:
  `splitAtWord? w cs` cuts `cs` around the first occurrence of `w`
  and returns what stands before and behind it.  Keywords are compared
  without regard to ASCII case, the only case rule the notations of
  this library have.
-/

namespace ContentGate.Text

/-! ## Fixed words -/

/-- What follows the word `w` at the head of the text, if it stands there. -/
def dropWord? : (w : List Char) → List Char → Option (List Char)
  | [], cs => some cs
  | _ :: _, [] => none
  | a :: w, c :: cs => if a = c then dropWord? w cs else none

/-- The parts before and behind the first occurrence of `w`. -/
def splitAtWord? (w : List Char) : List Char → Option (List Char × List Char)
  | [] => if w.isEmpty then some ([], []) else none
  | c :: cs =>
    match dropWord? w (c :: cs) with
    | some rest => some ([], rest)
    | none => (splitAtWord? w cs).map fun (before, behind) => (c :: before, behind)

theorem eq_append_of_dropWord? {w cs rest : List Char} (h : dropWord? w cs = some rest) :
    cs = w ++ rest := by
  induction w generalizing cs with
  | nil => simp [dropWord?] at h; simp [h]
  | cons a w ih =>
    cases cs with
    | nil => simp [dropWord?] at h
    | cons c cs =>
      simp only [dropWord?] at h
      split at h
      · subst a; simp [ih h]
      · simp at h

@[simp] theorem dropWord?_append (w rest : List Char) : dropWord? w (w ++ rest) = some rest := by
  induction w with
  | nil => rfl
  | cons a w ih => simp [dropWord?, ih]

theorem eq_append_of_splitAtWord? {w cs before behind : List Char}
    (h : splitAtWord? w cs = some (before, behind)) : cs = before ++ w ++ behind := by
  induction cs generalizing before with
  | nil =>
    simp only [splitAtWord?] at h
    split at h
    · rename_i hw
      simp at h hw
      simp [h, hw]
    · simp at h
  | cons c cs ih =>
    simp only [splitAtWord?] at h
    split at h
    · rename_i rest hr
      simp only [Option.some.injEq, Prod.mk.injEq] at h
      obtain ⟨rfl, rfl⟩ := h
      simpa using eq_append_of_dropWord? hr
    · cases hs : splitAtWord? w cs with
      | none => simp [hs] at h
      | some p =>
        obtain ⟨b, d⟩ := p
        simp only [hs, Option.map_some, Option.some.injEq, Prod.mk.injEq] at h
        obtain ⟨rfl, rfl⟩ := h
        simpa using ih hs

/-! ## ASCII case -/

/-- A text with its ASCII capitals made small. -/
def lower (cs : List Char) : List Char := cs.map Char.toLower

/-- Equality without regard to ASCII case; `w` is written in small letters. -/
def isWordAnyCase (w cs : List Char) : Bool := lower cs == w

/-! ## Joining and measuring -/

/-- The texts, one after another, with `separator` between neighbours. -/
def join (separator : List Char) : List (List Char) → List Char
  | [] => []
  | [t] => t
  | t :: u :: ts => t ++ separator ++ join separator (u :: ts)

/-- The length of a text in UTF-8, the unit of the positions in messages. -/
def utf8Length (cs : List Char) : Nat := cs.foldr (fun c n => c.utf8Size + n) 0

theorem utf8Length_cons (c : Char) (cs : List Char) :
    utf8Length (c :: cs) = c.utf8Size + utf8Length cs := rfl

theorem utf8Length_append (cs ds : List Char) :
    utf8Length (cs ++ ds) = utf8Length cs + utf8Length ds := by
  induction cs with
  | nil => exact (Nat.zero_add _).symm
  | cons c cs ih => rw [List.cons_append, utf8Length_cons, utf8Length_cons, ih, Nat.add_assoc]

/-- A text split at every character that satisfies `p`; the pieces hold no such character. -/
def splitOn (p : Char → Bool) : List Char → List (List Char)
  | [] => [[]]
  | c :: cs =>
    if p c then [] :: splitOn p cs
    else
      match splitOn p cs with
      | [] => [[c]]
      | piece :: pieces => (c :: piece) :: pieces

/-! ## Quoting -/

/-- A text with `\` before every `\` and every single quote, between single quotes. -/
def quoted (s : String) : String :=
  String.ofList ('\'' :: (s.toList.flatMap fun c =>
    if c = '\\' ∨ c = '\'' then ['\\', c] else [c]) ++ ['\''])

end ContentGate.Text
