/-
  ContentGate.Proofs.Tag.Offsets — the scanner on byte offsets.

  A page is stored as UTF-8, and a scanner that works on the page itself
  keeps byte offsets: where the text since the last tag starts, where the
  search goes on, where a name, a bracket, a body ends.  Every text that it
  looks at lies between two offsets.  There is such a text only if both
  offsets are boundaries of characters and lie in the page, in this order
  (`textBetween?`).

  `scanByOffsets` is the scanner in this form.  It gives nothing where a text
  is asked for that does not exist, or where the steps allowed do not
  suffice.  We show that it always gives the segments of the page.

  Main statements:
    * `textFrom?_append`, `textBetween?_append` — texts at the boundaries of parts;
    * `byteAt?_append` — what a byte tells about a character;
    * `tagFrom?_append`, `segmentsAt?_append` — a tag and a bracket at a boundary;
    * `scanByOffsets_eq` — the scanner on offsets gives the segments of a page;
    * `scan_faithful` — and these come from the page, part by part.
-/
import ContentGate.Proofs.Tag.Sources

namespace ContentGate

open Text

namespace Text

/-! ## §1. Texts between offsets -/

/-- The text from a byte offset on, if it is a boundary of characters in the text. -/
def textFrom? : (offset : Nat) → List Char → Option (List Char)
  | 0, cs => some cs
  | _ + 1, [] => none
  | offset + 1, c :: cs =>
    if c.utf8Size ≤ offset + 1 then textFrom? (offset + 1 - c.utf8Size) cs else none

/-- The text before a byte offset, if it is a boundary of characters in the text. -/
def textBefore? : (offset : Nat) → List Char → Option (List Char)
  | 0, _ => some []
  | _ + 1, [] => none
  | offset + 1, c :: cs =>
    if c.utf8Size ≤ offset + 1 then (textBefore? (offset + 1 - c.utf8Size) cs).map (c :: ·)
    else none

/-- The text between two byte offsets, if they are boundaries of characters, in this order. -/
def textBetween? (start stop : Nat) (cs : List Char) : Option (List Char) := do
  let behind ← textFrom? start cs
  if stop < start then none else textBefore? (stop - start) behind

/-- The byte at an offset of a text. -/
def byteAt? (cs : List Char) (offset : Nat) : Option UInt8 :=
  (cs.flatMap String.utf8EncodeChar)[offset]?

/-- The byte of an ASCII character. -/
def byteOf (c : Char) : UInt8 := UInt8.ofNat c.toNat

/-- The offset of the first character of a kind. -/
def firstOffset? (p : Char → Bool) : List Char → Option Nat
  | [] => none
  | c :: cs => if p c then some 0 else (firstOffset? p cs).map (c.utf8Size + ·)

theorem utf8Length_pos {cs : List Char} (h : cs ≠ []) : 0 < utf8Length cs := by
  obtain ⟨c, cs, rfl⟩ := List.exists_cons_of_ne_nil h
  have hpos := c.utf8Size_pos
  rw [utf8Length_cons]
  omega

/-- The length of a text with a first character, and what is left of it behind that. -/
theorem exists_utf8Length_cons (c : Char) (cs : List Char) :
    ∃ n, utf8Length (c :: cs) = n + 1 ∧ c.utf8Size ≤ n + 1 ∧ n + 1 - c.utf8Size = utf8Length cs := by
  have hpos := c.utf8Size_pos
  have hlength := utf8Length_cons c cs
  exact ⟨utf8Length (c :: cs) - 1, by omega, by omega, by omega⟩

/-- **The end of a part is a boundary.** -/
theorem textFrom?_append (front behind : List Char) :
    textFrom? (utf8Length front) (front ++ behind) = some behind := by
  induction front with
  | nil =>
    show textFrom? 0 behind = some behind
    rw [textFrom?]
  | cons c front ih =>
    obtain ⟨n, hn, hle, hsub⟩ := exists_utf8Length_cons c front
    rw [hn, List.cons_append, textFrom?, if_pos hle, hsub, ih]

theorem textBefore?_append (front behind : List Char) :
    textBefore? (utf8Length front) (front ++ behind) = some front := by
  induction front with
  | nil =>
    show textBefore? 0 behind = some []
    rw [textBefore?]
  | cons c front ih =>
    obtain ⟨n, hn, hle, hsub⟩ := exists_utf8Length_cons c front
    rw [hn, List.cons_append, textBefore?, if_pos hle, hsub, ih]
    rfl

/-- **A part lies between its boundaries.** -/
theorem textBetween?_append (front part behind : List Char) :
    textBetween? (utf8Length front) (utf8Length front + utf8Length part) (front ++ (part ++ behind))
      = some part := by
  unfold textBetween?
  rw [textFrom?_append, Option.bind_eq_bind, Option.bind_some, if_neg (by omega),
    Nat.add_sub_cancel_left, textBefore?_append]

/-! ## §2. What is found at offsets -/

theorem utf8EncodeChar_head?_eq {a : Char} (ha : a.toNat < 128) (c : Char) :
    (String.utf8EncodeChar c).head? = some (byteOf a) ↔ c = a := by
  -- A character of several bytes starts with a byte that is no ASCII character.
  have hbyte : ∀ n < 256, UInt8.ofNat n = byteOf a ↔ n = a.toNat := by
    intro n hn
    rw [byteOf, ← UInt8.toNat_inj, UInt8.toNat_ofNat', UInt8.toNat_ofNat']
    omega
  have hcode : c = a ↔ c.val.toNat = a.toNat := by
    rw [← Char.toNat_inj]
    rfl
  unfold String.utf8EncodeChar
  simp only
  rw [hcode]
  split
  · rw [List.head?_cons, Option.some.injEq, hbyte _ (by omega)]
  split
  · rw [List.head?_cons, Option.some.injEq, hbyte _ (by omega)]
    omega
  split
  · rw [List.head?_cons, Option.some.injEq, hbyte _ (by omega)]
    omega
  · rw [List.head?_cons, Option.some.injEq, hbyte _ (by omega)]
    omega

theorem length_utf8Encode (cs : List Char) :
    (cs.flatMap String.utf8EncodeChar).length = utf8Length cs := by
  induction cs with
  | nil => rfl
  | cons c cs ih =>
    rw [List.flatMap_cons, List.length_append, String.length_utf8EncodeChar, ih, utf8Length_cons]

/-- **The byte at the end of a part** tells whether an ASCII character follows. -/
theorem byteAt?_append {a : Char} (ha : a.toNat < 128) (front behind : List Char) :
    byteAt? (front ++ behind) (utf8Length front) = some (byteOf a) ↔ behind.head? = some a := by
  unfold byteAt?
  rw [List.flatMap_append, List.getElem?_append_right (Nat.le_of_eq (length_utf8Encode front)),
    length_utf8Encode, Nat.sub_self]
  cases behind with
  | nil => simp
  | cons c cs =>
    have hne : String.utf8EncodeChar c ≠ [] := by
      intro hnil
      have hlength := String.length_utf8EncodeChar c
      rw [hnil] at hlength
      exact absurd hlength.symm (Nat.ne_of_gt c.utf8Size_pos)
    obtain ⟨b, bs, hbytes⟩ := List.exists_cons_of_ne_nil hne
    have hhead := utf8EncodeChar_head?_eq ha c
    rw [hbytes, List.head?_cons] at hhead
    rw [List.flatMap_cons, hbytes, List.cons_append, List.getElem?_cons_zero, List.head?_cons,
      hhead, Option.some.injEq]

/-- A word of one character is found at the first such character. -/
theorem firstOffset?_eq (a : Char) (cs : List Char) :
    firstOffset? (· == a) cs = (splitAtWord? [a] cs).map fun p => utf8Length p.1 := by
  induction cs with
  | nil => rfl
  | cons c cs ih =>
    rw [firstOffset?, splitAtWord?]
    by_cases hc : a = c
    · subst hc
      simp [dropWord?, utf8Length]
    · have hne : (c == a) = false := beq_eq_false_iff_ne.2 fun h => hc h.symm
      rw [dropWord?_cons_of_ne hc, hne, ih]
      simp only [Option.map_map, Bool.false_eq_true, if_false]
      rfl

/-- The first character that is not of a kind stands behind those that are. -/
theorem firstOffset?_not (p : Char → Bool) (cs : List Char) :
    (firstOffset? (fun c => !p c) cs).getD (utf8Length cs) = utf8Length (cs.takeWhile p) := by
  induction cs with
  | nil => rfl
  | cons c cs ih =>
    rw [firstOffset?]
    by_cases hc : p c = true
    · rw [List.takeWhile_cons_of_pos hc, hc, utf8Length_cons, utf8Length_cons, ← ih]
      cases firstOffset? (fun c => !p c) cs <;> rfl
    · rw [List.takeWhile_cons_of_neg hc, Bool.eq_false_iff.2 hc]
      rfl

/-- The offset of the first occurrence of a word. -/
def wordOffset? (w cs : List Char) : Option Nat :=
  (splitAtWord? w cs).map fun (before, _) => utf8Length before

theorem utf8Length_sub (front behind : List Char) :
    utf8Length (front ++ behind) - utf8Length behind = utf8Length front := by
  rw [utf8Length_append, Nat.add_sub_cancel]

end Text

/-! ## §3. The scanner on offsets -/

namespace Segment

/-- The body that starts at an offset and the offset behind its closing tag,
or no body and the same offset. -/
def bodyFrom? (name page : List Char) (start : Nat) : Option (Option String × Nat) :=
  (textFrom? start page).bind fun behind =>
    match wordOffset? (closingTag name) behind with
    | some length =>
      (textBetween? start (start + length) page).map fun body =>
        (some (String.ofList body), start + length + utf8Length (closingTag name))
    | none => some (none, start)

/-- The tag of a name whose attributes start at an offset, if it has a
bracket, and the offset behind the tag. -/
def attributesFrom? (name page : List Char) (start : Nat) : Option (Option (Tag × Nat)) :=
  (textFrom? start page).bind fun behind =>
    match firstOffset? (· == ']') behind with
    | none => some none
    | some length =>
      (textBetween? start (start + length) page).bind fun inner =>
        let (attributes, closed) := attributePart inner
        let stop := start + length + 1
        (if closed then some (none, stop) else bodyFrom? name page stop).map fun (body?, stop) =>
          some (⟨String.ofList name, Attributes.ofText attributes, body?⟩, stop)

/-- The tag whose name starts at an offset, and the offset behind it. -/
def tagFrom? (names : List String) (page : List Char) (start : Nat) :
    Option (Option (Tag × Nat)) :=
  (textFrom? start page).bind fun behind =>
    let length := (firstOffset? (fun c => !isNameChar c) behind).getD (utf8Length page - start)
    (textBetween? start (start + length) page).bind fun name =>
      if name.isEmpty || !names.contains (String.ofList name) then some none
      else attributesFrom? name page (start + length)

/-- The segments at the offset of a bracket, and the offset behind them. -/
def segmentsAt? (names : List String) (page : List Char) (bracket : Nat) :
    Option (Option (List Segment × Nat)) :=
  let doubled := byteAt? page (bracket + 1) == some (byteOf '[')
  (tagFrom? names page (if doubled then bracket + 1 + 1 else bracket + 1)).bind fun
    | none => some none
    | some (t, stop) =>
      if !doubled then some (some ([.tag t], stop))
      else if byteAt? page stop == some (byteOf ']') then
        (textBetween? (bracket + 1) stop page).map fun inner =>
          some ([.text (String.ofList inner)], stop + 1)
      else
        (textBetween? bracket (bracket + 1) page).map fun first =>
          some ([.text (String.ofList first), .tag t], stop)

/-- The segments from an offset on, where the text since the last segment
starts at `textStart` and the search goes on at `pos`.  Each step searches
for one bracket. -/
def segmentsFrom? (names : List String) (page : List Char) :
    (steps textStart pos : Nat) → Option (List Segment)
  | 0, _, _ => none
  | steps + 1, textStart, pos =>
    (textFrom? pos page).bind fun behind =>
      match firstOffset? (· == '[') behind with
      | none =>
        if textStart < utf8Length page then
          (textFrom? textStart page).map fun t => [.text (String.ofList t)]
        else some []
      | some length =>
        (segmentsAt? names page (pos + length)).bind fun
          | none => segmentsFrom? names page steps textStart (pos + length + 1)
          | some (found, stop) =>
            (if textStart < pos + length then
              (textBetween? textStart (pos + length) page).map fun t => [.text (String.ofList t)]
            else some []).bind fun before =>
              (segmentsFrom? names page steps stop stop).map fun behind => before ++ found ++ behind

/-- The segments of a page by offsets, if every text that is asked for exists. -/
def scanByOffsets (names : List String) (page : String) : Option (List Segment) :=
  segmentsFrom? names page.toList (page.length + 1) 0 0

/-! ## §4. The parts of a page at offsets -/

theorem bodyFrom?_append (name front cs : List Char) :
    bodyFrom? name (front ++ cs) (utf8Length front)
      = some (match splitAtWord? (closingTag name) cs with
        | some (body, rest) =>
          (some (String.ofList body), utf8Length (front ++ cs) - utf8Length rest)
        | none => (none, utf8Length front)) := by
  unfold bodyFrom? wordOffset?
  rw [textFrom?_append, Option.bind_some]
  cases hclosing : splitAtWord? (closingTag name) cs with
  | none => rfl
  | some found =>
    obtain ⟨body, rest⟩ := found
    have hcs := eq_append_of_splitAtWord? hclosing
    have hbody : textBetween? (utf8Length front) (utf8Length front + utf8Length body)
        (front ++ cs) = some body := by
      rw [hcs, List.append_assoc body]
      exact textBetween?_append front body _
    have hstop : utf8Length (front ++ cs) - utf8Length rest
        = utf8Length front + utf8Length body + utf8Length (closingTag name) := by
      rw [hcs, ← List.append_assoc, utf8Length_sub, utf8Length_append, utf8Length_append,
        Nat.add_assoc]
    simp only [Option.map_some]
    rw [hbody, hstop]
    rfl

/-- What is found in the text behind a boundary, with the offset of what follows it. -/
def atOffset {α : Type} (page : List Char) (found : α × List Char) : α × Nat :=
  (found.1, utf8Length page - utf8Length found.2)

theorem atOffset_append {α : Type} (a : α) (front behind : List Char) :
    atOffset (front ++ behind) (a, behind) = (a, utf8Length front) := by
  rw [atOffset, utf8Length_sub]

section
variable (names : List String) (front cs : List Char)

/-- **A tag at a boundary.** -/
theorem tagFrom?_append :
    tagFrom? names (front ++ cs) (utf8Length front)
      = some ((tagAt? names cs).map (atOffset (front ++ cs))) := by
  unfold tagFrom? tagAt? attributesFrom?
  rw [textFrom?_append, Option.bind_some, utf8Length_append, Nat.add_sub_cancel_left,
    firstOffset?_not]
  -- The name, and what stands behind it.
  obtain ⟨name, hname⟩ : ∃ name, name = cs.takeWhile isNameChar := ⟨_, rfl⟩
  obtain ⟨after, hafter⟩ : ∃ after, after = cs.drop name.length := ⟨_, rfl⟩
  have hcs : cs = name ++ after := by
    rw [hafter, hname]
    exact (List.prefix_iff_eq_append.1 (List.takeWhile_prefix isNameChar)).symm
  simp only [← hname, ← hafter]
  rw [hcs, textBetween?_append, Option.bind_some]
  by_cases hguard : (name.isEmpty || !names.contains (String.ofList name)) = true
  · rw [if_pos hguard, if_pos hguard]
    rfl
  rw [if_neg hguard, if_neg hguard, ← utf8Length_append, ← List.append_assoc, textFrom?_append,
    Option.bind_some, firstOffset?_eq]
  cases hbracket : splitAtWord? [']'] after with
  | none => rfl
  | some found =>
    -- The text before the bracket, and what stands behind it.
    obtain ⟨inner, behind⟩ := found
    have hsplit := eq_append_of_splitAtWord? hbracket
    rw [List.append_assoc] at hsplit
    have hinner := textBetween?_append (front ++ name) inner ([']'] ++ behind)
    rw [← hsplit] at hinner
    have hpage : front ++ name ++ after = front ++ name ++ inner ++ [']'] ++ behind := by
      rw [hsplit]
      simp only [List.append_assoc]
    have hstop : utf8Length (front ++ name) + utf8Length inner + 1
        = utf8Length (front ++ name ++ inner ++ [']']) := by
      rw [utf8Length_append (front ++ name ++ inner), utf8Length_append (front ++ name)]
      rfl
    simp only [Option.map_some]
    rw [hinner, Option.bind_some, hstop, hpage, Option.bind_eq_bind, Option.bind_some]
    generalize front ++ name ++ inner ++ [']'] = opening
    by_cases hclosed : (attributePart inner).2 = true
    · rw [if_pos hclosed, if_pos hclosed]
      simp [atOffset_append]
    · rw [if_neg hclosed, if_neg hclosed, bodyFrom?_append]
      cases splitAtWord? (closingTag name) behind with
      | none => simp [atOffset_append]
      | some found => simp [atOffset]

/-- The byte at a boundary is looked at for an ASCII character. -/
theorem byteAt?_beq_append {a : Char} (ha : a.toNat < 128) :
    (byteAt? (front ++ cs) (utf8Length front) == some (byteOf a)) = (cs.head? == some a) := by
  rw [Bool.eq_iff_iff, beq_iff_eq, beq_iff_eq]
  exact byteAt?_append ha front cs

/-! ## §5. A bracket at a boundary -/

/-- **A bracket at a boundary.** -/
theorem segmentsAt?_append :
    segmentsAt? names (front ++ '[' :: cs) (utf8Length front)
      = some ((atBracket? names cs).map (atOffset (front ++ '[' :: cs))) := by
  have hpage : front ++ '[' :: cs = front ++ ['['] ++ cs := by simp
  have hnext : utf8Length front + 1 = utf8Length (front ++ ['[']) := (utf8Length_append front ['[']).symm
  unfold segmentsAt?
  rw [hpage, hnext, byteAt?_beq_append (front ++ ['[']) cs (by decide)]
  by_cases hdoubled : cs.head? = some '['
  · -- A second bracket: the tag is escaped if a second bracket follows it, too.
    obtain ⟨inner, rfl⟩ := List.head?_eq_some_iff.1 hdoubled
    have hinner : front ++ ['['] ++ '[' :: inner = front ++ ['[', '['] ++ inner := by simp
    have hname : utf8Length (front ++ ['[']) + 1 = utf8Length (front ++ ['[', '[']) := by
      rw [utf8Length_append, utf8Length_append]
      rfl
    rw [hdoubled, beq_self_eq_true]
    simp only [if_true, Bool.not_true, Bool.false_eq_true, if_false]
    rw [hname, hinner, tagFrom?_append, Option.bind_some, ← hinner]
    cases htag : tagAt? names inner with
    | none =>
      rw [atBracket?_of_none htag]
      rfl
    | some found =>
      obtain ⟨t, rest⟩ := found
      obtain ⟨x, -, hpart⟩ := tagAt?_source htag
      generalize tagText t x = part at hpart
      have hstop : utf8Length (front ++ ['['] ++ '[' :: inner) - utf8Length rest
          = utf8Length (front ++ ['['] ++ part) := by
        rw [hpart, ← List.append_assoc, utf8Length_sub]
      have hbyte : (byteAt? (front ++ ['['] ++ '[' :: inner) (utf8Length (front ++ ['['] ++ part))
          == some (byteOf ']')) = (rest.head? == some ']') := by
        rw [hpart, ← List.append_assoc]
        exact byteAt?_beq_append _ rest (by decide)
      simp only [Option.map_some, atOffset]
      rw [hstop, hbyte]
      by_cases hclosed : rest.head? = some ']'
      · obtain ⟨behind, rfl⟩ := List.head?_eq_some_iff.1 hclosed
        have htext := textBetween?_append (front ++ ['[']) part (']' :: behind)
        rw [← hpart, ← utf8Length_append] at htext
        have hbehind : front ++ ['['] ++ '[' :: inner = front ++ ['['] ++ part ++ [']'] ++ behind := by
          rw [hpart]
          simp
        rw [atBracket?_of_closed htag hpart, hclosed, beq_self_eq_true, if_pos rfl, htext]
        simp only [Option.map_some]
        rw [hbehind, atOffset_append, utf8Length_append _ [']']]
        rfl
      · have htext := textBetween?_append front ['['] ('[' :: inner)
        rw [← utf8Length_append, ← List.append_assoc] at htext
        rw [atBracket?_of_not_closed htag hclosed, beq_eq_false_iff_ne.2 hclosed, if_neg (by decide),
          htext]
        simp only [Option.map_some]
        rw [← hstop]
        rfl
  · rw [beq_eq_false_iff_ne.2 hdoubled]
    simp only [Bool.false_eq_true, if_false]
    rw [tagFrom?_append, Option.bind_some, atBracket?_of_single hdoubled, Option.map_map]
    cases tagAt? names cs with
    | none => rfl
    | some found => rfl

end

/-! ## §6. The scan -/

/-- Text behind a boundary is a segment if there is any. -/
theorem ofText_eq (front part : List Char) :
    (if utf8Length front < utf8Length (front ++ part) then some [Segment.text (String.ofList part)]
      else some []) = some (ofText part.reverse) := by
  rw [utf8Length_append]
  cases part with
  | nil => simp [ofText, utf8Length]
  | cons c cs =>
    have hpos := utf8Length_pos (List.cons_ne_nil c cs)
    rw [if_pos (by omega)]
    simp [ofText]

/-- **The rest of a page behind a boundary**, where `since` is the text since
the last segment.  The steps suffice if there are more of them than characters. -/
theorem segmentsFrom?_append (names : List String) (steps : Nat) (front since rest : List Char)
    (hsteps : rest.length < steps) :
    segmentsFrom? names (front ++ since ++ rest) steps (utf8Length front)
        (utf8Length (front ++ since))
      = some (scanFrom names 0 since.reverse rest) := by
  induction steps generalizing front since rest with
  | zero => omega
  | succ steps ih =>
    rw [segmentsFrom?, textFrom?_append, Option.bind_some, firstOffset?_eq]
    cases hbracket : splitAtWord? ['['] rest with
    | none =>
      -- The rest of the page is text.
      have htext : scanFrom names 0 since.reverse (rest ++ [])
          = scanFrom names 0 (rest.reverse ++ since.reverse) [] :=
        scanFrom_text (not_mem_of_splitAtWord?_eq_none hbracket) since.reverse []
      rw [List.append_nil] at htext
      rw [htext, ← List.reverse_append, scanFrom, ← ofText_eq front (since ++ rest),
        List.append_assoc, textFrom?_append]
      rfl
    | some found =>
      obtain ⟨before, cs⟩ := found
      have hrest := eq_append_of_splitAtWord? hbracket
      have htext : scanFrom names 0 since.reverse (before ++ '[' :: cs)
          = scanFrom names 0 (before.reverse ++ since.reverse) ('[' :: cs) :=
        scanFrom_text (not_mem_of_splitAtWord? hbracket) since.reverse ('[' :: cs)
      rw [List.append_assoc, List.singleton_append] at hrest
      have hpage : front ++ since ++ (before ++ '[' :: cs)
          = front ++ (since ++ before) ++ '[' :: cs := by simp
      have hlength : utf8Length (front ++ since) + utf8Length before
          = utf8Length (front ++ (since ++ before)) := by
        rw [← utf8Length_append, List.append_assoc]
      subst hrest
      simp only [Option.map_some]
      rw [htext, ← List.reverse_append, hpage, hlength, segmentsAt?_append, Option.bind_some]
      generalize since ++ before = text
      cases hfound : atBracket? names cs with
      | none =>
        -- The bracket is text, too.
        have hstep : scanFrom names 0 text.reverse ('[' :: cs)
            = scanFrom names 0 (text ++ ['[']).reverse cs := by
          rw [scanFrom, if_pos rfl, hfound, List.reverse_append]
          rfl
        have hnext : front ++ text ++ '[' :: cs = front ++ (text ++ ['[']) ++ cs := by simp
        have hpos : utf8Length (front ++ text) + 1 = utf8Length (front ++ (text ++ ['['])) := by
          rw [← List.append_assoc, utf8Length_append (front ++ text)]
          rfl
        simp only [Option.map_none]
        rw [hstep, hpos, hnext]
        apply ih
        simp only [List.length_append, List.length_cons] at hsteps
        omega
      | some found =>
        obtain ⟨segments, rest⟩ := found
        obtain ⟨part, -, rfl⟩ := atBracket?_sources hfound
        have hnext : front ++ text ++ '[' :: (part ++ rest)
            = front ++ text ++ '[' :: part ++ [] ++ rest := by simp
        have htext : textBetween? (utf8Length front) (utf8Length (front ++ text))
            (front ++ text ++ '[' :: (part ++ rest)) = some text := by
          rw [utf8Length_append, List.append_assoc]
          exact textBetween?_append front text _
        simp only [Option.map_some]
        rw [scanFrom_found hfound, htext, Option.map_some, ofText_eq, Option.bind_some, hnext,
          List.append_nil, atOffset_append]
        simp only
        have hrest := ih (front ++ text ++ '[' :: part) [] rest (by
          simp only [List.length_append, List.length_cons] at hsteps
          omega)
        rw [List.append_nil] at hrest
        rw [hrest]
        rfl

/-- **The scanner on offsets gives the segments of a page**: the steps suffice, and
every text that it asks for lies between boundaries of characters in the page. -/
theorem scanByOffsets_eq (names : List String) (page : String) :
    scanByOffsets names page = some (scan names page) := by
  have hall := segmentsFrom?_append names (page.length + 1) [] [] page.toList
    (by rw [String.length_toList]; omega)
  exact hall

/-- **The scanner loses, repeats and moves nothing.**  The sources of the segments, in
their order, are the page; no text is empty; and all this is found on byte offsets without
asking for a text that does not exist. -/
theorem scan_faithful (names : List String) (page : String) :
    Sources names (scan names page) page.toList
      ∧ (∀ s, Segment.text s ∈ scan names page → s ≠ "")
      ∧ scanByOffsets names page = some (scan names page) := by
  have hsources : Sources names (scan names page) page.toList := scanFrom_sources names [] page.toList
  exact ⟨hsources, fun _ hs => hsources.text_ne_empty hs, scanByOffsets_eq names page⟩

end Segment

end ContentGate
