/-
  ContentGate.Proofs.Json.RoundTrip — what is written as JSON is read back.

  The writer and the reader of JSON were designed apart: the writer
  follows the value, the reader the text, with a bound on how deep it may
  go.  Here they are joined, for values without floats (PLAIN values):
  the compact text of a plain value is read back to the value.  The one
  thing that the text decides is whether a key counts as escaped, so the
  value that is read has its keys `asWritten`.

  Main statements:
    * `stringUnits?_writeString` — strings, whatever characters they have;
    * `readNumber?_writeNumber` — integers of any size;
    * `readValue?_write` — values, in front of any text that ends them;
    * `read?_compact` — whole texts.
-/
import ContentGate.Json.Reader
import ContentGate.Json.Writer
import ContentGate.Proofs.Decimal.Digits

namespace ContentGate.Json

open Decimal Text

/-! ## §1. Strings -/

/-- Is a character written with an escape? -/
def isEscapedChar (c : Char) : Bool := c == '"' || c == '\\' || c.toNat < 32

/-- The unit that a written character is read as. -/
def CodeUnit.ofChar (c : Char) : CodeUnit := .char c (isEscapedChar c)

theorem hexValue?_digitChar : ∀ n < 16, hexValue? (Nat.digitChar n) = some n := by decide

/-- An escape of two characters is read as one character. -/
theorem stringUnits?_short {e c : Char} (hu : e ≠ 'u') (h : shortEscape? e = some c)
    (rest : List Char) :
    stringUnits? ('\\' :: e :: rest)
      = (stringUnits? rest).map fun (us, rest) => (.char c true :: us, rest) := by
  rw [stringUnits?]
  · rw [h]
    show ((stringUnits? rest).bind fun p => some (CodeUnit.char c true :: p.1, p.2)) = _
    rw [Option.map_eq_bind]
    rfl
  · intro _ _ _ _ _ h
    exact absurd h hu

/-- A control without a short escape is read from its number. -/
theorem stringUnits?_numbered {n : Nat} (h : n < 32) (rest : List Char) :
    stringUnits? ('\\' :: 'u' :: '0' :: '0' :: Nat.digitChar (n / 16) :: Nat.digitChar (n % 16)
        :: rest)
      = (stringUnits? rest).map fun (us, rest) => (.char (Char.ofNat n) true :: us, rest) := by
  have hunit : CodeUnit.ofNumber (4096 * 0 + 256 * 0 + 16 * (n / 16) + n % 16)
      = .char (Char.ofNat n) true := by
    have hn : 4096 * 0 + 256 * 0 + 16 * (n / 16) + n % 16 = n := by omega
    rw [hn]
    unfold CodeUnit.ofNumber
    rw [if_neg (by omega), if_neg (by omega)]
  have hzero : hexValue? '0' = some 0 := by decide
  rw [stringUnits?, hzero, hexValue?_digitChar _ (by omega), hexValue?_digitChar _ (by omega)]
  show ((stringUnits? rest).bind fun p =>
    some (CodeUnit.ofNumber (4096 * 0 + 256 * 0 + 16 * (n / 16) + n % 16) :: p.1, p.2)) = _
  rw [hunit, Option.map_eq_bind]
  rfl

/-- **A written character is read as one unit.** -/
theorem stringUnits?_escapedChar (c : Char) (rest : List Char) :
    stringUnits? (escapedChar c ++ rest)
      = (stringUnits? rest).map fun (us, rest) => (.ofChar c :: us, rest) := by
  unfold escapedChar
  -- One case for each short escape, then the other controls, then the rest.
  split
  · subst c
    exact stringUnits?_short (by decide) (by decide) rest
  split
  · subst c
    exact stringUnits?_short (by decide) (by decide) rest
  split
  · subst c
    exact stringUnits?_short (by decide) (by decide) rest
  split
  · subst c
    exact stringUnits?_short (by decide) (by decide) rest
  split
  · subst c
    exact stringUnits?_short (by decide) (by decide) rest
  split
  · subst c
    exact stringUnits?_short (by decide) (by decide) rest
  split
  · subst c
    exact stringUnits?_short (by decide) (by decide) rest
  split
  · rename_i hquote hbackslash _ _ _ _ _ hcontrol
    have hc : CodeUnit.ofChar c = .char (Char.ofNat c.toNat) true := by
      rw [Char.ofNat_toNat]
      simp [CodeUnit.ofChar, isEscapedChar, hcontrol]
    rw [hc]
    exact stringUnits?_numbered hcontrol rest
  · rename_i hquote hbackslash _ _ _ _ _ hcontrol
    have hc : CodeUnit.ofChar c = .char c false := by
      simp [CodeUnit.ofChar, isEscapedChar, hquote, hbackslash, hcontrol]
    rw [hc]
    show stringUnits? (c :: rest) = _
    rw [stringUnits?]
    · rw [if_neg (by simp [hcontrol, hbackslash])]
    · exact fun h => hquote h
    · intro _ _ _ _ _ h _
      exact hbackslash h
    · intro _ _ h _
      exact hbackslash h

/-- **A written string is read back**, whatever follows its closing quote. -/
theorem stringUnits?_writeString (cs rest : List Char) :
    stringUnits? (cs.flatMap escapedChar ++ ['"'] ++ rest) = some (cs.map .ofChar, rest) := by
  induction cs with
  | nil => rfl
  | cons c cs ih =>
    rw [List.flatMap_cons, List.append_assoc, List.append_assoc, stringUnits?_escapedChar,
      ← List.append_assoc, ih]
    rfl

theorem text?_ofChar (cs : List Char) : CodeUnit.text? (cs.map .ofChar) = some cs := by
  induction cs with
  | nil => rfl
  | cons c cs ih =>
    show (CodeUnit.text? (cs.map .ofChar)).map _ = _
    rw [ih]
    rfl

theorem ofUnits_ofChar (s : String) : ofUnits (s.toList.map .ofChar) = .string s := by
  unfold ofUnits
  rw [text?_ofChar]
  exact congrArg Json.string String.ofList_toList

/-- A key as its text shows it: written with an escape if one of its characters is. -/
def Key.asWritten (key : Key) : Key := ⟨key.text, key.text.toList.any isEscapedChar⟩

theorem ofUnits?_ofChar (key : Key) :
    Key.ofUnits? (key.text.toList.map .ofChar) = some key.asWritten := by
  unfold Key.ofUnits?
  rw [text?_ofChar, List.any_map, Option.map_some, String.ofList_toList]
  rfl

/-! ## §2. Numbers -/

/-- A text that ends the value in front of it: it is empty, or has a
comma, a closing bracket or a line break at its head. -/
def Ends (rest : List Char) : Prop :=
  rest = [] ∨ ∃ c cs, rest = c :: cs ∧ (c = ',' ∨ c = ']' ∨ c = '\x7d' ∨ c = '\n')

theorem ends_nil : Ends [] := .inl rfl

theorem ends_comma (cs : List Char) : Ends (',' :: cs) := .inr ⟨_, _, rfl, .inl rfl⟩

theorem ends_bracket (cs : List Char) : Ends (']' :: cs) := .inr ⟨_, _, rfl, .inr (.inl rfl)⟩

theorem ends_brace (cs : List Char) : Ends ('\x7d' :: cs) := .inr ⟨_, _, rfl, .inr (.inr (.inl rfl))⟩

theorem ends_line (cs : List Char) : Ends ('\n' :: cs) := .inr ⟨_, _, rfl, .inr (.inr (.inr rfl))⟩

section
variable {rest : List Char}

theorem Ends.head?_isDigit (h : Ends rest) : ∀ c, rest.head? = some c → c.isDigit = false := by
  rintro c hc
  rcases h with rfl | ⟨d, cs, rfl, hd⟩
  · cases hc
  · cases hc
    rcases hd with rfl | rfl | rfl | rfl <;> rfl

theorem Ends.exponent? (h : Ends rest) : Json.exponent? rest = some (none, rest) := by
  rcases h with rfl | ⟨d, cs, rfl, rfl | rfl | rfl | rfl⟩ <;> rfl

theorem Ends.places? (h : Ends rest) : Json.places? rest = some (none, rest) := by
  rcases h with rfl | ⟨d, cs, rfl, rfl | rfl | rfl | rfl⟩ <;> rfl

/-- The digits of a number are read as its whole part. -/
theorem wholePart?_digitsOf (n : Nat) (h : Ends rest) :
    wholePart? (Layout.digitsOf n ++ rest) = some (Layout.digitsOf n, rest) := by
  by_cases hn : n = 0
  · subst hn
    rfl
  · have hdigits : ∀ c ∈ Layout.digitsOf n, c.isDigit = true := fun c hc =>
      isDigit_of_mem_digitsOf hc
    have hread : digits? (Layout.digitsOf n ++ rest) = some (Layout.digitsOf n, rest) := by
      unfold digits?
      simp only [takeWhile_run hdigits h.head?_isDigit, dropWhile_run hdigits h.head?_isDigit]
      rw [List.isEmpty_eq_false_iff.2 (digitsOf_ne_nil n)]
      rfl
    -- The first rule is for a leading zero, which only zero has.
    have hhead := head?_digitsOf_ne_zero (Nat.pos_of_ne_zero hn)
    rw [wholePart?, hread]
    intro cs hcs
    cases hds : Layout.digitsOf n with
    | nil => exact absurd hds (digitsOf_ne_nil n)
    | cons d ds =>
      rw [hds] at hcs hhead
      exact hhead (congrArg some (List.cons.inj hcs).1)

/-- **An integer is read back**, in front of any text that ends it. -/
theorem readNumber?_writeNumber (k : Int) (h : Ends rest) :
    readNumber? (writeNumber (.ofInt k) ++ rest) = some (.ofInt k, rest) := by
  have hwhole := wholePart?_digitsOf k.natAbs h
  have hwrite : writeNumber (.ofInt k)
      = (if decide (k < 0) = true then ['-'] else []) ++ Layout.digitsOf k.natAbs := rfl
  rw [hwrite]
  unfold readNumber?
  by_cases hk : k < 0
  · rw [if_pos (by simpa using hk)]
    simp only [List.cons_append, List.nil_append, hwhole, h.places?, h.exponent?,
      Option.bind_eq_bind, Option.bind_some, Option.getD_none, List.append_nil,
      digitsValue_digitsOf]
    simp [JsonNumber.ofInt, hk]
  · rw [if_neg (by simpa using hk), List.nil_append]
    obtain ⟨d, ds, hds⟩ := List.exists_cons_of_ne_nil (digitsOf_ne_nil k.natAbs)
    have hd : d ≠ '-' := by
      intro hd
      have hdigit := isDigit_of_mem_digitsOf (hds ▸ List.mem_cons_self)
      rw [hd] at hdigit
      exact absurd hdigit (by decide)
    rw [hds] at hwhole ⊢
    split
    rename_i negative cs hsign
    split at hsign
    · rename_i heq
      exact absurd (List.cons.inj heq).1 hd
    · cases hsign
      simp only [hwhole, h.places?, h.exponent?, Option.bind_eq_bind, Option.bind_some,
        Option.getD_none, List.append_nil]
      rw [← hds, digitsValue_digitsOf]
      simp [JsonNumber.ofInt, hk]

end

/-! ## §3. Plain values -/

mutual

/-- A value whose numbers are integers, and whose strings and keys have texts. -/
def IsPlain : Json → Prop
  | .null | .bool _ | .string _ => True
  | .number n => ∃ k, n = .ofInt k
  | .array items => ArePlain items
  | .object members => ArePlainMembers members
  | .unreadable => False

/-- Items that are plain. -/
def ArePlain : List Json → Prop
  | [] => True
  | j :: js => IsPlain j ∧ ArePlain js

/-- Members whose values are plain. -/
def ArePlainMembers : List (Key × Json) → Prop
  | [] => True
  | (_, j) :: ms => IsPlain j ∧ ArePlainMembers ms

end

mutual

/-- A value as its text shows it. -/
def asWritten : Json → Json
  | .array items => .array (asWrittenItems items)
  | .object members => .object (asWrittenMembers members)
  | j => j

/-- Items as their texts show them. -/
def asWrittenItems : List Json → List Json
  | [] => []
  | j :: js => asWritten j :: asWrittenItems js

/-- Members as their texts show them. -/
def asWrittenMembers : List (Key × Json) → List (Key × Json)
  | [] => []
  | (key, j) :: ms => (key.asWritten, asWritten j) :: asWrittenMembers ms

end

theorem skipSpace_cons {c : Char} (h : isSpace c = false) (cs : List Char) :
    skipSpace (c :: cs) = c :: cs := by
  unfold skipSpace
  rw [List.dropWhile_cons_of_neg (by simp [h])]

/-- An integer is written with a minus or a digit at its head. -/
theorem exists_cons_writeNumber (k : Int) :
    ∃ c cs, writeNumber (.ofInt k) = c :: cs ∧ (c = '-' ∨ c.isDigit = true) := by
  have hwrite : writeNumber (.ofInt k)
      = (if decide (k < 0) = true then ['-'] else []) ++ Layout.digitsOf k.natAbs := rfl
  obtain ⟨d, ds, hds⟩ := List.exists_cons_of_ne_nil (digitsOf_ne_nil k.natAbs)
  rw [hwrite, hds]
  by_cases hk : k < 0
  · exact ⟨'-', d :: ds, by simp [hk], .inl rfl⟩
  · exact ⟨d, ds, by simp [hk], .inr (isDigit_of_mem_digitsOf (hds ▸ List.mem_cons_self))⟩

theorem isSpace_of_number {c : Char} (h : c = '-' ∨ c.isDigit = true) : isSpace c = false := by
  rcases h with rfl | hdigit
  · rfl
  · rw [← Bool.not_eq_true]
    intro hspace
    simp only [isSpace, Bool.or_eq_true, beq_iff_eq] at hspace
    rcases hspace with ((rfl | rfl) | rfl) | rfl <;> exact absurd hdigit (by decide)

/-- A written value starts with no blank, and with no bracket that closes. -/
theorem exists_cons_write {j : Json} (h : IsPlain j) :
    ∃ c cs, write j = c :: cs ∧ isSpace c = false ∧ c ≠ ']' := by
  cases j with
  | null => exact ⟨'n', _, rfl, rfl, by decide⟩
  | bool b => cases b <;> exact ⟨_, _, rfl, rfl, by decide⟩
  | number n =>
    obtain ⟨k, rfl⟩ := h
    obtain ⟨c, cs, hwrite, hc⟩ := exists_cons_writeNumber k
    refine ⟨c, cs, by rw [write, hwrite], isSpace_of_number hc, ?_⟩
    rintro rfl
    exact absurd hc (by decide)
  | string s => exact ⟨'"', _, rfl, rfl, by decide⟩
  | array items => exact ⟨'[', _, rfl, rfl, by decide⟩
  | object members => exact ⟨'\x7b', _, rfl, rfl, by decide⟩
  | unreadable => exact h.elim

/-! ## §4. Values are read back -/

/-- What starts with a minus or a digit is read as a number. -/
theorem readValue?_number {c : Char} (h : c = '-' ∨ c.isDigit = true) (fuel : Nat)
    (cs : List Char) :
    readValue? (fuel + 1) (c :: cs)
      = (readNumber? (c :: cs)).map fun (n, rest) => (.number n, rest) := by
  have hne : ∀ d, d ≠ '-' → d.isDigit = false → c ≠ d := by
    rintro d hminus hdigit rfl
    rcases h with h | h
    · exact hminus h
    · rw [hdigit] at h
      cases h
  rw [readValue?, skipSpace_cons (isSpace_of_number h)]
  split
  case h_8 => rfl
  case h_1 =>
    rename_i heq
    cases heq
  -- The other rules are for heads that no number has.
  all_goals
    rename_i heq
    exact absurd (List.cons.inj heq).1 (hne _ (by decide) (by decide))

/-- The written form of several items, item by item. -/
theorem writeItems_cons_cons (j k : Json) (js : List Json) :
    writeItems (j :: k :: js) = write j ++ ',' :: writeItems (k :: js) := by
  rw [writeItems]

/-- An array whose first item is known to start here. -/
theorem readValue?_array {c : Char} (hspace : isSpace c = false) (hbracket : c ≠ ']')
    (fuel : Nat) (cs : List Char) :
    readValue? (fuel + 1) ('[' :: c :: cs)
      = (readItems? fuel (c :: cs)).map fun (items, rest) => (.array items, rest) := by
  have hopen : skipSpace ('[' :: c :: cs) = '[' :: c :: cs := skipSpace_cons rfl _
  rw [readValue?, hopen]
  simp only [skipSpace_cons hspace]
  split
  · rename_i heq
    exact absurd (List.cons.inj heq).1 hbracket
  · rfl

theorem exists_cons_writeItems {j : Json} (js : List Json) (h : IsPlain j) :
    ∃ c cs, writeItems (j :: js) = c :: cs ∧ isSpace c = false ∧ c ≠ ']' := by
  obtain ⟨c, cs, hwrite, hc⟩ := exists_cons_write h
  cases js with
  | nil => exact ⟨c, cs, by rw [writeItems, hwrite], hc⟩
  | cons k js => exact ⟨c, _, by rw [writeItems_cons_cons, hwrite, List.cons_append], hc⟩

theorem exists_cons_writeMembers (key : Key) (j : Json) (ms : List (Key × Json)) :
    ∃ cs, writeMembers ((key, j) :: ms) = '"' :: cs := by
  cases ms with
  | nil => exact ⟨_, rfl⟩
  | cons m ms => exact ⟨_, rfl⟩

theorem readItems?_last {j : Json} {fuel : Nat} {cs rest : List Char}
    (h : readValue? fuel cs = some (j, ']' :: rest)) :
    readItems? (fuel + 1) cs = some ([j], rest) := by
  rw [readItems?, h]
  rfl

theorem readItems?_more {j : Json} {js : List Json} {fuel : Nat} {cs cs' rest : List Char}
    (h : readValue? fuel cs = some (j, ',' :: cs')) (hmore : readItems? fuel cs' = some (js, rest)) :
    readItems? (fuel + 1) cs = some (j :: js, rest) := by
  rw [readItems?, h]
  show (readItems? fuel cs').bind _ = _
  rw [hmore]
  rfl

/-- A key and its value are read before what follows them is looked at. -/
theorem readMembers?_last {key : Key} {j : Json} {fuel : Nat} {cs rest : List Char}
    (h : readValue? fuel cs = some (j, '\x7d' :: rest)) :
    readMembers? (fuel + 1) (writeString key.text ++ ':' :: cs)
      = some ([(some key.asWritten, j)], rest) := by
  rw [readMembers?]
  show (stringUnits? (key.text.toList.flatMap escapedChar ++ ['"'] ++ ':' :: cs)).bind _ = _
  rw [stringUnits?_writeString]
  show (readValue? fuel cs).bind _ = _
  rw [h]
  show some ([(Key.ofUnits? (key.text.toList.map .ofChar), j)], rest) = _
  rw [ofUnits?_ofChar]

theorem readMembers?_more {key : Key} {j : Json} {ms : List (Option Key × Json)} {fuel : Nat}
    {cs cs' rest : List Char} (h : readValue? fuel cs = some (j, ',' :: cs'))
    (hmore : readMembers? fuel cs' = some (ms, rest)) :
    readMembers? (fuel + 1) (writeString key.text ++ ':' :: cs)
      = some ((some key.asWritten, j) :: ms, rest) := by
  rw [readMembers?]
  show (stringUnits? (key.text.toList.flatMap escapedChar ++ ['"'] ++ ':' :: cs)).bind _ = _
  rw [stringUnits?_writeString]
  show (readValue? fuel cs).bind _ = _
  rw [h]
  show (readMembers? fuel cs').bind _ = _
  rw [hmore]
  show some ((Key.ofUnits? (key.text.toList.map .ofChar), j) :: ms, rest) = _
  rw [ofUnits?_ofChar]

/-- The members that are read make up an object. -/
theorem ofMembers_asWritten (ms : List (Key × Json)) :
    ofMembers ((asWrittenMembers ms).map fun m => (some m.1, m.2)) = .object (asWrittenMembers ms) := by
  have hall : ∀ ms : List (Key × Json),
      (ms.map fun m => (some m.1, m.2)).mapM (fun (m : Option Key × Json) => m.1.map (·, m.2))
        = some ms := by
    intro ms
    induction ms with
    | nil => rfl
    | cons m ms ih =>
      rw [List.map_cons, List.mapM_cons, ih]
      rfl
  unfold ofMembers
  rw [hall]

mutual

/-- **A written value is read back**, in front of any text that ends it. -/
theorem readValue?_write {j : Json} (h : IsPlain j) {rest : List Char} (hrest : Ends rest)
    {fuel : Nat} (hfuel : 2 * (write j).length ≤ fuel) :
    readValue? fuel (write j ++ rest) = some (asWritten j, rest) := by
  obtain ⟨c, cs, hwrite, -⟩ := exists_cons_write h
  have hpos : 0 < (write j).length := by
    rw [hwrite]
    exact Nat.succ_pos _
  obtain ⟨fuel, rfl⟩ : ∃ f, fuel = f + 1 := ⟨fuel - 1, by omega⟩
  cases j with
  | null => rfl
  | bool b => cases b <;> rfl
  | number n =>
    obtain ⟨k, rfl⟩ := h
    obtain ⟨c, cs, hnumber, hc⟩ := exists_cons_writeNumber k
    have hread := readNumber?_writeNumber k hrest
    show readValue? (fuel + 1) (writeNumber (.ofInt k) ++ rest) = some (.number (.ofInt k), rest)
    rw [hnumber] at hread ⊢
    rw [List.cons_append, readValue?_number hc, ← List.cons_append, hread]
    rfl
  | string s =>
    show (stringUnits? (s.toList.flatMap escapedChar ++ ['"'] ++ rest)).map _ = _
    rw [stringUnits?_writeString]
    show some (ofUnits (s.toList.map .ofChar), rest) = _
    rw [ofUnits_ofChar]
    rfl
  | array items =>
    cases items with
    | nil => rfl
    | cons j js =>
      have hlength : (write (.array (j :: js))).length = (writeItems (j :: js)).length + 2 := by
        simp [write]
      obtain ⟨c, cs, hitems, hspace, hbracket⟩ := exists_cons_writeItems js h.1
      have hread : readItems? fuel (writeItems (j :: js) ++ ']' :: rest)
          = some (asWrittenItems (j :: js), rest) := readItems?_write h (by omega)
      rw [hitems, List.cons_append] at hread
      have hwrite : write (.array (j :: js)) ++ rest = '[' :: c :: (cs ++ ']' :: rest) := by
        simp [write, hitems]
      rw [hwrite, readValue?_array hspace hbracket, hread]
      rfl
  | object members =>
    cases members with
    | nil => rfl
    | cons m ms =>
      obtain ⟨key, j⟩ := m
      have hlength : (write (.object ((key, j) :: ms))).length
          = (writeMembers ((key, j) :: ms)).length + 2 := by
        simp [write]
      have hread : readMembers? fuel (writeMembers ((key, j) :: ms) ++ '\x7d' :: rest)
          = some ((asWrittenMembers ((key, j) :: ms)).map fun m => (some m.1, m.2), rest) :=
        readMembers?_write h (by omega)
      obtain ⟨cs, hmembers⟩ := exists_cons_writeMembers key j ms
      rw [hmembers, List.cons_append] at hread
      have hwrite : write (.object ((key, j) :: ms)) ++ rest
          = '\x7b' :: '"' :: (cs ++ '\x7d' :: rest) := by
        simp [write, hmembers]
      rw [hwrite]
      show (readMembers? fuel ('"' :: (cs ++ '\x7d' :: rest))).map _ = _
      rw [hread]
      show some (ofMembers _, rest) = _
      rw [ofMembers_asWritten]
      rfl
  | unreadable => exact h.elim
termination_by fuel

/-- Items are read back, up to the bracket that closes them. -/
theorem readItems?_write {j : Json} {js : List Json} (h : ArePlain (j :: js)) {rest : List Char}
    {fuel : Nat} (hfuel : 2 * (writeItems (j :: js)).length < fuel) :
    readItems? fuel (writeItems (j :: js) ++ ']' :: rest)
      = some (asWrittenItems (j :: js), rest) := by
  obtain ⟨fuel, rfl⟩ : ∃ f, fuel = f + 1 := ⟨fuel - 1, by omega⟩
  cases js with
  | nil =>
    rw [writeItems] at hfuel ⊢
    exact readItems?_last (readValue?_write h.1 (ends_bracket rest) (by omega))
  | cons k js =>
    rw [writeItems_cons_cons, List.length_append, List.length_cons] at hfuel
    rw [writeItems_cons_cons, List.append_assoc, List.cons_append]
    exact readItems?_more (readValue?_write h.1 (ends_comma _) (by omega))
      (readItems?_write h.2 (by omega))
termination_by fuel

/-- Members are read back, up to the brace that closes them. -/
theorem readMembers?_write {key : Key} {j : Json} {ms : List (Key × Json)}
    (h : ArePlainMembers ((key, j) :: ms)) {rest : List Char} {fuel : Nat}
    (hfuel : 2 * (writeMembers ((key, j) :: ms)).length < fuel) :
    readMembers? fuel (writeMembers ((key, j) :: ms) ++ '\x7d' :: rest)
      = some ((asWrittenMembers ((key, j) :: ms)).map fun m => (some m.1, m.2), rest) := by
  obtain ⟨fuel, rfl⟩ : ∃ f, fuel = f + 1 := ⟨fuel - 1, by omega⟩
  cases ms with
  | nil =>
    have hlength : (writeMembers [(key, j)]).length
        = (writeString key.text).length + 1 + (write j).length := by
      simp [writeMembers]
      omega
    rw [writeMembers, List.append_assoc, List.cons_append]
    exact readMembers?_last (readValue?_write h.1 (ends_brace rest) (by omega))
  | cons m ms =>
    obtain ⟨key', k⟩ := m
    have hlength : (writeMembers ((key, j) :: (key', k) :: ms)).length
        = (writeString key.text).length + 1 + (write j).length + 1
          + (writeMembers ((key', k) :: ms)).length := by
      simp [writeMembers]
      omega
    rw [writeMembers, List.append_assoc, List.cons_append, List.append_assoc, List.cons_append]
    exact readMembers?_more (readValue?_write h.1 (ends_comma _) (by omega))
      (readMembers?_write h.2 (by omega))
termination_by fuel

end

/-- **The compact text of a plain value is read back to the value.** -/
theorem read?_compact {j : Json} (h : IsPlain j) : read? j.compact = some (asWritten j) := by
  have hfuel : 2 * (write j).length ≤ 2 * (write j).length + 1 := Nat.le_succ _
  have hread := readValue?_write h ends_nil hfuel
  rw [List.append_nil] at hread
  unfold read? compact
  rw [String.toList_ofList]
  show (readValue? (2 * (write j).length + 1) (write j)).bind _ = _
  rw [hread]
  rfl

end ContentGate.Json
