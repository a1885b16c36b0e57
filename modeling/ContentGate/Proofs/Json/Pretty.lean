/-
  ContentGate.Proofs.Json.Pretty — objects with a member a line are read back.

  An object whose members are no arrays or objects is written with each member
  on a line of its own.  The reader skips line breaks and indents before and
  behind a value, so it reads the same members as from the compact text.

  Main statements:
    * `skipSpace_append`, `readValue?_blanks`, `readMembers?_blanks` — blanks are skipped;
    * `readMembers?_writePretty` — members, up to the brace that closes them;
    * `read?_pretty` — whole texts.
-/
import ContentGate.Proofs.Json.RoundTrip

namespace ContentGate.Json

/-! ## §1. Blanks -/

section
variable {blanks : List Char}

theorem skipSpace_append (h : ∀ c ∈ blanks, isSpace c = true) (cs : List Char) :
    skipSpace (blanks ++ cs) = skipSpace cs := List.dropWhile_append_of_pos h

/-- Blanks in front of a value are skipped, -/
theorem readValue?_blanks (h : ∀ c ∈ blanks, isSpace c = true) (fuel : Nat) (cs : List Char) :
    readValue? fuel (blanks ++ cs) = readValue? fuel cs := by
  cases fuel with
  | zero => rfl
  | succ fuel => rw [readValue?, readValue?, skipSpace_append h]

/-- and so are those in front of a member. -/
theorem readMembers?_blanks (h : ∀ c ∈ blanks, isSpace c = true) (fuel : Nat) (cs : List Char) :
    readMembers? fuel (blanks ++ cs) = readMembers? fuel cs := by
  cases fuel with
  | zero => rfl
  | succ fuel => rw [readMembers?, readMembers?, skipSpace_append h]

theorem isSpace_of_mem_newline {level : Nat} {c : Char} (h : c ∈ newline level) :
    isSpace c = true := by
  rcases List.mem_cons.1 h with rfl | h
  · rfl
  · rw [List.eq_of_mem_replicate h]
    rfl

end

/-! ## §2. Leaves -/

/-- A value that is no array and no object, and has a text. -/
def IsLeaf : Json → Prop
  | .null | .bool _ | .string _ => True
  | .number n => ∃ k, n = .ofInt k
  | .array _ | .object _ | .unreadable => False

section
variable {j : Json}

theorem IsLeaf.isPlain (h : IsLeaf j) : IsPlain j := by
  cases j with
  | null | bool | string => trivial
  | number => exact h
  | array | object | unreadable => exact h.elim

theorem IsLeaf.asWritten_eq (h : IsLeaf j) : asWritten j = j := by
  cases j with
  | null | bool | string | number => rfl
  | array | object | unreadable => exact h.elim

theorem asWrittenMembers_eq {ms : List (Key × Json)} (h : ∀ m ∈ ms, IsLeaf m.2) :
    asWrittenMembers ms = ms.map fun m => (m.1.asWritten, m.2) := by
  induction ms with
  | nil => rfl
  | cons m ms ih =>
    obtain ⟨key, j⟩ := m
    obtain ⟨hj, hms⟩ := List.forall_mem_cons.1 h
    rw [asWrittenMembers, IsLeaf.asWritten_eq hj, ih hms]
    rfl

/-- A leaf is written on one line. -/
theorem IsLeaf.writePretty_eq (h : IsLeaf j) (level : Nat) : writePretty level j = write j := by
  cases j with
  | null | bool | string | number => rfl
  | array | object | unreadable => exact h.elim

end

/-! ## §3. Members -/

section
variable {key : Key} {j : Json} {fuel level : Nat} {cs blanks rest : List Char}

/-- The last member may have blanks behind it. -/
theorem readMembers?_lastLine (hblanks : ∀ c ∈ blanks, isSpace c = true)
    (h : readValue? fuel cs = some (j, blanks ++ '\x7d' :: rest)) :
    readMembers? (fuel + 1) (writeString key.text ++ ':' :: cs)
      = some ([(some key.asWritten, j)], rest) := by
  have hbrace : skipSpace (blanks ++ '\x7d' :: rest) = '\x7d' :: rest := by
    rw [skipSpace_append hblanks]
    rfl
  rw [readMembers?]
  show (stringUnits? (key.text.toList.flatMap escapedChar ++ ['"'] ++ ':' :: cs)).bind _ = _
  rw [stringUnits?_writeString]
  show (readValue? fuel cs).bind _ = _
  rw [h]
  simp only [Option.bind_some, hbrace, ofUnits?_ofChar]

/-- A member on a line of its own, of an object that goes on with `ms`. -/
theorem writePrettyMembers_cons (level : Nat) (key : Key) (j : Json) (ms : List (Key × Json)) :
    writePrettyMembers level ((key, j) :: ms)
      = newline level ++ (writeString key.text ++ ':' :: ' ' :: (writePretty level j
          ++ if ms.isEmpty then [] else ',' :: writePrettyMembers level ms)) := by
  cases ms with
  | nil => simp [writePrettyMembers]
  | cons m ms => simp [writePrettyMembers]

/-- The first member starts with a quote on a new line. -/
theorem exists_cons_writePrettyMembers (level : Nat) (key : Key) (j : Json)
    (ms : List (Key × Json)) :
    ∃ cs, writePrettyMembers level ((key, j) :: ms) = newline level ++ '"' :: cs :=
  ⟨_, writePrettyMembers_cons level key j ms⟩

/-- **Members on lines of their own are read back**, up to the brace that closes them. -/
theorem readMembers?_writePretty {ms : List (Key × Json)} (hne : ms ≠ [])
    (hleaves : ∀ m ∈ ms, IsLeaf m.2)
    (hfuel : 2 * (writePrettyMembers level ms).length < fuel) :
    readMembers? fuel (writePrettyMembers level ms ++ (newline 0 ++ '\x7d' :: rest))
      = some ((asWrittenMembers ms).map fun m => (some m.1, m.2), rest) := by
  rw [asWrittenMembers_eq hleaves]
  have hspace : ∀ c ∈ [' '], isSpace c = true := by
    intro c hc
    rw [List.mem_singleton.1 hc]
    rfl
  induction ms generalizing fuel with
  | nil => exact absurd rfl hne
  | cons m ms ih =>
    obtain ⟨key, j⟩ := m
    obtain ⟨hj, hms⟩ := List.forall_mem_cons.1 hleaves
    change IsLeaf j at hj
    obtain ⟨fuel, rfl⟩ : ∃ f, fuel = f + 1 := ⟨fuel - 1, by omega⟩
    rw [writePrettyMembers_cons, hj.writePretty_eq] at hfuel ⊢
    simp only [List.length_append, List.length_cons] at hfuel
    rw [List.append_assoc, readMembers?_blanks fun c => isSpace_of_mem_newline]
    -- What is behind the value decides whether there is another member.
    have hvalue : ∀ rest, Ends rest →
        readValue? fuel (' ' :: (write j ++ rest)) = some (j, rest) := by
      intro rest hrest
      have hread : readValue? fuel (write j ++ rest) = some (asWritten j, rest) :=
        readValue?_write hj.isPlain hrest (by omega)
      rw [hj.asWritten_eq] at hread
      exact (readValue?_blanks hspace fuel _).trans hread
    cases ms with
    | nil =>
      have hlast := hvalue (newline 0 ++ '\x7d' :: rest) (ends_line _)
      have hmember : readMembers? (fuel + 1) (writeString key.text ++
            ':' :: ' ' :: (write j ++ (newline 0 ++ '\x7d' :: rest)))
          = some ([(some key.asWritten, j)], rest) :=
        readMembers?_lastLine (fun c => isSpace_of_mem_newline) hlast
      simpa using hmember
    | cons m ms =>
      have hlength : 2 * (writePrettyMembers level (m :: ms)).length < fuel := by
        rw [List.isEmpty_cons, if_neg Bool.false_ne_true, List.length_cons] at hfuel
        omega
      have hmore := ih (List.cons_ne_nil _ _) hms hlength
      have hmember : readMembers? (fuel + 1) (writeString key.text ++ ':' :: ' ' :: (write j ++
            ',' :: (writePrettyMembers level (m :: ms) ++ (newline 0 ++ '\x7d' :: rest))))
          = some ((some key.asWritten, j) :: _, rest) :=
        readMembers?_more (hvalue _ (ends_comma _)) hmore
      simpa using hmember

end

/-! ## §4. Objects -/

/-- **An object of leaves is read back from its pretty text**, with the keys as they are written. -/
theorem read?_pretty {ms : List (Key × Json)} (h : ∀ m ∈ ms, IsLeaf m.2) :
    read? (object ms).pretty = some (.object (ms.map fun m => (m.1.asWritten, m.2))) := by
  rw [← asWrittenMembers_eq h]
  cases ms with
  | nil => rfl
  | cons m ms =>
    obtain ⟨key, j⟩ := m
    let written := '\x7b' :: (writePrettyMembers 1 ((key, j) :: ms) ++ newline 0 ++ ['\x7d'])
    have hlength : 2 * (writePrettyMembers 1 ((key, j) :: ms)).length < 2 * written.length := by
      simp only [written, List.length_cons, List.length_append]
      omega
    have hread : readMembers? (2 * written.length)
          (writePrettyMembers 1 ((key, j) :: ms) ++ (newline 0 ++ ['\x7d']))
        = some ((asWrittenMembers ((key, j) :: ms)).map fun m => (some m.1, m.2), []) :=
      readMembers?_writePretty (List.cons_ne_nil _ _) h hlength
    obtain ⟨cs, hcs⟩ := exists_cons_writePrettyMembers 1 key j ms
    rw [hcs, List.append_assoc, readMembers?_blanks fun c => isSpace_of_mem_newline] at hread
    have hwritten : written = '\x7b' :: (newline 1 ++ '"' :: (cs ++ (newline 0 ++ ['\x7d']))) := by
      simp [written, hcs]
    -- The object is not empty: what follows the line break is a quote.
    have hvalue : readValue? (2 * written.length + 1) written
        = (readMembers? (2 * written.length) ('"' :: cs ++ (newline 0 ++ ['\x7d']))).map
            fun p => (ofMembers p.1, p.2) := by
      conv_lhs => arg 2; rw [hwritten]
      rfl
    have htext : (object ((key, j) :: ms)).pretty = String.ofList written := rfl
    unfold read?
    rw [htext, String.toList_ofList]
    show (readValue? (2 * written.length + 1) written).bind _ = _
    rw [hvalue, hread]
    show some (ofMembers _) = _
    rw [ofMembers_asWritten]

end ContentGate.Json
