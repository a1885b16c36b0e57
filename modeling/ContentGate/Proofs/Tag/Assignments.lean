/-
  ContentGate.Proofs.Tag.Assignments — assignments, read and written again.

  The reader of attribute text finds assignments that are LEGIBLE: a name
  consists of name characters, and a value lacks one kind of quote, unless it
  is a run of non-blank characters without a name.  An attribute is written
  as its name and its value between quotes, or as the bare value.  Read again
  in front of a blank or of the end of the text, it gives the same assignment
  (`first_writeEntry`), with one exception: a value with both kinds of quotes
  gets a pair of quotes more, for no quotes can enclose it.

  Main statements:
    * `legible_of_mem_listFrom` — what the reader finds;
    * `first_writeEntry` — one attribute, written and read;
    * `listFrom_writtenText` — attributes one behind the other.
-/
import Mathlib.Data.List.TakeWhile
import ContentGate.Proofs.Text.Blank
import ContentGate.Tag.AttributeText

namespace ContentGate

open Text

namespace Assignment

/-- No blank is a character of a name. -/
theorem isBlank_of_isNameChar {c : Char} (h : isNameChar c = true) : isBlank c = false := by
  rw [← Bool.not_eq_true]
  intro hblank
  unfold isNameChar at h
  rw [isWordChar_of_isBlank hblank, Bool.false_or, beq_iff_eq] at h
  subst h
  exact absurd hblank (by decide)

/-! ## §1. Legible assignments -/

/-- Some kind of quotes can enclose the value. -/
def Quotable (value : String) : Prop := '"' ∉ value.toList ∨ '\'' ∉ value.toList

/-- What the reader of attribute text finds. -/
structure Legible (a : Assignment) : Prop where
  name : ∀ n, a.name? = some n →
    ∃ c cs, n.toList = c :: cs ∧ isBlank c = false ∧ ∀ d ∈ c :: cs, isNameChar d = true
  value : Quotable a.value
    ∨ a.name? = none ∧ a.value ≠ "" ∧ ∀ c ∈ a.value.toList, isBlank c = false

/-- The characters of an assignment. -/
def chars (a : Assignment) : List Char := (a.name?.map String.toList).getD [] ++ a.value.toList

section
variable {quote c d : Char} {cs rest : List Char} {name value : String} {a : Assignment}

/-- A value between quotes does not contain them. -/
theorem of_quotedValue? (h : quotedValue? quote cs = some (value, rest)) :
    quote ∉ value.toList ∧ value.toList ⊆ cs := by
  cases cs with
  | nil => cases h
  | cons c cs =>
    rw [quotedValue?] at h
    by_cases hc : c = quote ∧ cs.contains quote
    · rw [if_pos hc] at h
      obtain ⟨behind, -, heq⟩ := Option.map_eq_some_iff.1 h
      obtain ⟨rfl, rfl⟩ := Prod.mk.inj heq
      rw [String.toList_ofList]
      constructor
      · intro hmem
        simpa using List.mem_takeWhile_imp hmem
      · intro d hd
        exact List.mem_cons_of_mem c ((List.takeWhile_prefix _).subset hd)
    · rw [if_neg hc] at h
      cases h

/-- A value without quotes is part of the text, too. -/
theorem of_bareValue? (h : bareValue? cs = some (value, rest)) :
    '"' ∉ value.toList ∧ value.toList ⊆ cs := by
  unfold bareValue? at h
  simp only at h
  split at h
  · cases h
  · obtain ⟨behind, -, heq⟩ := Option.map_eq_some_iff.1 h
    obtain ⟨rfl, rfl⟩ := Prod.mk.inj heq
    rw [String.toList_ofList]
    constructor
    · intro hmem
      have hvalue := List.mem_takeWhile_imp hmem
      simp at hvalue
    · exact (List.takeWhile_prefix _).subset

/-- A name stands at the head of its assignment. -/
theorem of_assigned? (h : assigned? (c :: cs) = some (name, rest)) :
    (∃ cs', name.toList = c :: cs' ∧ ∀ d ∈ c :: cs', isNameChar d = true)
      ∧ name.toList ⊆ c :: cs ∧ rest ⊆ c :: cs := by
  unfold assigned? at h
  simp only at h
  split at h
  · cases h
  rename_i hname
  split at h
  · rename_i behind hbehind
    obtain ⟨rfl, rfl⟩ := Prod.mk.inj (Option.some.inj h)
    rw [String.toList_ofList]
    refine ⟨?_, (List.takeWhile_prefix _).subset, ?_⟩
    · -- The name is not empty, so the first character belongs to it.
      by_cases hc : isNameChar c = true
      · refine ⟨cs.takeWhile isNameChar, List.takeWhile_cons_of_pos hc, ?_⟩
        rw [← List.takeWhile_cons_of_pos hc]
        exact fun d hd => List.mem_takeWhile_imp hd
      · exact absurd (by rw [List.takeWhile_cons_of_neg hc]; rfl) hname
    · have htrimmed : '=' :: behind ⊆ c :: cs := by
        rw [← hbehind]
        exact ((List.dropWhile_suffix _).trans (List.dropWhile_suffix _)).subset
      exact fun d hd =>
        htrimmed (List.mem_cons_of_mem _ ((List.dropWhile_suffix isBlank).subset hd))
  · cases h

/-- A run is not empty and has no blank. -/
theorem legible_run (hc : isBlank c = false) (cs : List Char) : (run (c :: cs)).1.Legible := by
  refine ⟨nofun, .inr ⟨rfl, ?_, ?_⟩⟩
  · show String.ofList ((c :: cs).takeWhile (!isBlank ·)) ≠ ""
    intro hempty
    have hnil : (c :: cs).takeWhile (!isBlank ·) = [] := by simpa using congrArg String.toList hempty
    rw [List.takeWhile_cons_of_pos (by simp [hc])] at hnil
    cases hnil
  · show ∀ d ∈ (String.ofList ((c :: cs).takeWhile (!isBlank ·))).toList, isBlank d = false
    rw [String.toList_ofList]
    intro d hd
    simpa using List.mem_takeWhile_imp hd

/-- A run is part of the text. -/
theorem chars_run (cs : List Char) : (run cs).1.chars ⊆ cs := by
  show [] ++ (String.ofList (cs.takeWhile (!isBlank ·))).toList ⊆ cs
  rw [String.toList_ofList]
  exact (List.takeWhile_prefix _).subset

/-- The value of an attribute with a name, in whichever form. -/
theorem of_anyValue? (h : ((quotedValue? '"' cs).or ((quotedValue? '\'' cs).or (bareValue? cs)))
      = some (value, rest)) : Quotable value ∧ value.toList ⊆ cs := by
  rcases Option.or_eq_some_iff.1 h with h | ⟨-, h⟩
  · exact ⟨.inl (of_quotedValue? h).1, (of_quotedValue? h).2⟩
  rcases Option.or_eq_some_iff.1 h with h | ⟨-, h⟩
  · exact ⟨.inr (of_quotedValue? h).1, (of_quotedValue? h).2⟩
  · exact ⟨.inl (of_bareValue? h).1, (of_bareValue? h).2⟩

/-- What holds of both answers and of the one without them holds of the first there is. -/
theorem getD_or {α : Type} {P : α → Prop} {o o' : Option α} {x : α} (ho : ∀ y, o = some y → P y)
    (ho' : ∀ y, o' = some y → P y) (hx : P x) : P ((o.or o').getD x) := by
  cases o with
  | some y => exact ho y rfl
  | none =>
    cases o' with
    | some y => exact ho' y rfl
    | none => exact hx

/-- **The assignment at a non-blank character** is legible, and its characters
are those of the text. -/
theorem legible_first (hc : isBlank c = false) (cs : List Char) :
    (first (c :: cs)).1.Legible ∧ (first (c :: cs)).1.chars ⊆ c :: cs := by
  unfold first
  -- The forms in the order in which they are tried.
  refine getD_or (P := fun p : Assignment × List Char => p.1.Legible ∧ p.1.chars ⊆ c :: cs)
    ?named ?quoted ⟨legible_run hc cs, chars_run (c :: cs)⟩
  case named =>
    intro found hfound
    obtain ⟨⟨name, rest⟩, hname, hfound⟩ := Option.bind_eq_some_iff.1 hfound
    obtain ⟨⟨value, behind⟩, hvalue, heq⟩ := Option.bind_eq_some_iff.1 hfound
    obtain rfl := Option.some.inj heq
    obtain ⟨⟨cs', hcs', hchars⟩, hnamechars, hrest⟩ := of_assigned? hname
    obtain ⟨hquotable, hvaluechars⟩ := of_anyValue? hvalue
    refine ⟨⟨?_, .inl hquotable⟩,
      List.append_subset.2 ⟨hnamechars, List.Subset.trans hvaluechars hrest⟩⟩
    intro n hn
    obtain rfl := Option.some.inj hn
    exact ⟨c, cs', hcs', hc, hchars⟩
  case quoted =>
    intro found hfound
    obtain ⟨⟨value, behind⟩, hvalue, rfl⟩ := Option.map_eq_some_iff.1 hfound
    show (⟨none, value⟩ : Assignment).Legible ∧ value.toList ⊆ c :: cs
    rcases Option.or_eq_some_iff.1 hvalue with h | ⟨-, h⟩
    · exact ⟨⟨nofun, .inl (.inl (of_quotedValue? h).1)⟩, (of_quotedValue? h).2⟩
    · exact ⟨⟨nofun, .inl (.inr (of_quotedValue? h).1)⟩, (of_quotedValue? h).2⟩

/-- **What the reader finds** in a text. -/
theorem legible_of_mem_listFrom {taken : Nat} (h : a ∈ listFrom taken cs) :
    a.Legible ∧ a.chars ⊆ cs := by
  induction cs generalizing taken with
  | nil =>
    rw [listFrom] at h
    cases h
  | cons c cs ih =>
    have hlater : ∀ {n}, a ∈ listFrom n cs → a.Legible ∧ a.chars ⊆ c :: cs := fun hmem =>
      ⟨(ih hmem).1, List.Subset.trans (ih hmem).2 (List.subset_cons_self c cs)⟩
    cases taken with
    | succ taken => exact hlater h
    | zero =>
      rw [listFrom] at h
      by_cases hc : isBlank c = true
      · rw [if_pos hc] at h
        exact hlater h
      · rw [if_neg hc] at h
        rcases List.mem_cons.1 h with rfl | h
        · exact legible_first (Bool.eq_false_iff.2 hc) cs
        · exact hlater h

end

/-! ## §2. Values in front of a gap -/

/-- Behind an attribute stands nothing, or a blank and then no equals sign. -/
def Apart (rest : List Char) : Prop :=
  rest = [] ∨ ∃ cs, rest = ' ' :: cs ∧ (trimStart cs).head? ≠ some '='

section
variable {quote c : Char} {cs value rest : List Char}

theorem finish?_apart (h : Apart rest) : finish? rest = some (rest.drop 1) := by
  rcases h with rfl | ⟨cs, rfl, -⟩
  · rfl
  · show (if isBlank ' ' then some cs else none) = some cs
    rw [if_pos (by decide)]

theorem quotedValue?_of_ne (h : c ≠ quote) : quotedValue? quote (c :: cs) = none := by
  rw [quotedValue?, if_neg (fun hand => h hand.1)]

/-- The quote that closes is the first one behind the quote that opens. -/
theorem quotedValue?_first (h : quote ∉ value) (behind : List Char) :
    quotedValue? quote (quote :: (value ++ quote :: behind))
      = (finish? behind).map (String.ofList value, ·) := by
  have hbody : (value ++ quote :: behind).takeWhile (· != quote) = value := takeWhile_up_to h _
  have hdrop : (value ++ quote :: behind).drop (value.length + 1) = behind := by
    rw [← List.drop_drop, List.drop_left]
    rfl
  rw [quotedValue?, if_pos ⟨rfl, by simp⟩]
  show (finish? _).map _ = _
  rw [hbody, hdrop]

theorem assigned?_of_head (h : isNameChar c = false) : assigned? (c :: cs) = none := by
  unfold assigned?
  rw [List.takeWhile_cons_of_neg (by simp [h])]
  rfl

/-- A name up to its equals sign. -/
theorem assigned?_name {name : List Char} (hne : name ≠ [])
    (hname : ∀ d ∈ name, isNameChar d = true) (behind : List Char) :
    assigned? (name ++ '=' :: behind) = some (String.ofList name, trimStart behind) := by
  have hstop : ∀ c ∈ ('=' :: behind).head?, isNameChar c = false := by
    intro c hc
    obtain rfl := Option.some.inj hc
    decide
  have htake := takeWhile_run hname hstop
  have hdrop := dropWhile_run hname hstop
  have hequals : trimStart ('=' :: behind) = '=' :: behind :=
    List.dropWhile_cons_of_neg (by decide)
  unfold assigned?
  rw [htake, hdrop, hequals]
  show (if name.isEmpty then none else some (String.ofList name, trimStart behind)) = _
  rw [if_neg (by simpa using hne)]

/-- A run without an equals sign is no name with a value. -/
theorem assigned?_bare (hsolid : ∀ d ∈ value, isBlank d = false) (hequals : '=' ∉ value)
    (hrest : Apart rest) : assigned? (value ++ rest) = none := by
  have hhead : (trimStart ((value ++ rest).dropWhile isNameChar)).head? ≠ some '=' := by
    cases hleft : value.dropWhile isNameChar with
    | nil =>
      -- The value consists of name characters, and the gap decides.
      have hname : ∀ d ∈ value, isNameChar d = true := by
        intro d hd
        have hall := List.dropWhile_eq_nil_iff.1 hleft
        exact hall d hd
      rw [List.dropWhile_append_of_pos hname]
      rcases hrest with rfl | ⟨cs, rfl, hcs⟩
      · simp [trimStart]
      · have hspace : trimStart (' ' :: cs) = trimStart cs := List.dropWhile_cons_of_pos (by decide)
        rw [List.dropWhile_cons_of_neg (by decide), hspace]
        exact hcs
    | cons d ds =>
      -- A character of the value comes first, and it is not blank.
      have hd : d ∈ value :=
        (List.dropWhile_suffix isNameChar).subset (hleft ▸ List.mem_cons_self)
      have hsplit : (value ++ rest).dropWhile isNameChar = d :: (ds ++ rest) := by
        rw [List.dropWhile_append, hleft]
        rfl
      rw [hsplit]
      unfold trimStart
      rw [List.dropWhile_cons_of_neg (by simp [hsolid d hd])]
      intro heq
      obtain rfl : d = '=' := Option.some.inj heq
      exact hequals hd
  unfold assigned?
  simp only
  split
  · rfl
  · split
    · rename_i behind heq
      rw [heq] at hhead
      exact absurd rfl hhead
    · rfl

/-- A run ends at the gap. -/
theorem run_apart (hsolid : ∀ d ∈ value, isBlank d = false) (hrest : Apart rest) :
    run (value ++ rest) = (⟨none, String.ofList value⟩, rest.drop 1) := by
  have hvalue : ∀ d ∈ value, (!isBlank d) = true := by
    intro d hd
    rw [hsolid d hd]
    rfl
  have hstop : ∀ c ∈ rest.head?, (!isBlank c) = false := by
    rcases hrest with rfl | ⟨cs, rfl, -⟩
    · intro c hc
      cases hc
    · intro c hc
      obtain rfl := Option.some.inj hc
      decide
  unfold run
  rw [takeWhile_run hvalue hstop, dropWhile_run hvalue hstop]

end

end Assignment

/-! ## §3. Attributes, written and read -/

namespace Attributes

open Assignment

instance (value : String) : Decidable (Quotable value) := inferInstanceAs (Decidable (_ ∨ _))

/-- The assignment that an attribute is. -/
def assignment (e : AttributeKey × String) : Assignment := ⟨e.1.name?, e.2⟩

/-- What is read of an attribute that has been written: a value that no quotes
can enclose gets a pair of them. -/
def readBack : AttributeKey × String → AttributeKey × String
  | (.positional index, value) =>
    (.positional index, if Quotable value then value else "\"" ++ value ++ "\"")
  | (.named name, value) => (.named name, value)

section
variable {e : AttributeKey × String} {value : String} {index : Nat} {rest : List Char}

/-- A quote is no other mark of attribute text. -/
theorem of_isQuote {quote : Char} (h : quote = '"' ∨ quote = '\'') :
    isNameChar quote = false ∧ isBlank quote = false ∧ quote ≠ '=' ∧ quote ≠ '/' := by
  rcases h with rfl | rfl
  · decide
  · decide

/-- The quotes that a value is written in do not occur in it, if there are such quotes. -/
theorem exists_quotes (value : String) :
    ∃ quote, (quote = '"' ∨ quote = '\'')
      ∧ (quoteValue value).toList = quote :: (value.toList ++ [quote])
      ∧ (Quotable value → quote ∉ value.toList) := by
  unfold quoteValue
  by_cases hsingle : '"' ∈ value.toList ∧ '\'' ∉ value.toList
  · refine ⟨'\'', .inr rfl, ?_, fun _ => hsingle.2⟩
    rw [if_pos (by simp [hsingle]), String.toList_append, String.toList_append]
    rfl
  · refine ⟨'"', .inl rfl, ?_, fun hquotable hdouble => ?_⟩
    · rw [if_neg (by simpa using hsingle), String.toList_append, String.toList_append]
      rfl
    · -- Then only the other quotes can enclose it.
      exact hsingle ⟨hdouble, hquotable.resolve_left (fun hnot => hnot hdouble)⟩

/-- A value between quotes is read whole, whichever quotes they are. -/
theorem quoted_eq {quote : Char} {cs : List Char} (hquote : quote = '"' ∨ quote = '\'')
    (h : quote ∉ cs) (hrest : Apart rest) (otherwise : Option (String × List Char)) :
    (quotedValue? '"' (quote :: (cs ++ quote :: rest))).or
        ((quotedValue? '\'' (quote :: (cs ++ quote :: rest))).or otherwise)
      = some (String.ofList cs, rest.drop 1) := by
  rcases hquote with rfl | rfl
  · rw [quotedValue?_first h, finish?_apart hrest]
    rfl
  · rw [quotedValue?_of_ne (by decide), quotedValue?_first h, finish?_apart hrest]
    rfl

theorem first_named {name : String} (hlegible : (assignment (.named name, value)).Legible)
    (hrest : Apart rest) :
    first ((writeEntry (.named name, value)).toList ++ rest)
      = (assignment (.named name, value), rest.drop 1) := by
  obtain ⟨c, cs, hname, -, hchars⟩ := hlegible.name name rfl
  have hquotable : Quotable value := hlegible.value.resolve_right (fun h => by cases h.1)
  obtain ⟨quote, hquote, hwritten, hnot⟩ := exists_quotes value
  have htext : (writeEntry (.named name, value)).toList ++ rest
      = (c :: cs) ++ '=' :: (quote :: (value.toList ++ quote :: rest)) := by
    show (name ++ "=" ++ quoteValue value).toList ++ rest = _
    rw [String.toList_append, String.toList_append, hname, hwritten]
    simp
  have htrim : trimStart (quote :: (value.toList ++ quote :: rest))
      = quote :: (value.toList ++ quote :: rest) :=
    List.dropWhile_cons_of_neg (by simp [(of_isQuote hquote).2.1])
  unfold first
  rw [htext, assigned?_name (List.cons_ne_nil c cs) hchars, htrim]
  simp only [Option.bind_eq_bind, Option.bind_some, quoted_eq hquote (hnot hquotable) hrest]
  rw [← hname]
  simp [assignment, AttributeKey.name?]

/-- A value between quotes without a name. -/
theorem first_quoted (hquotable : Quotable value) (hrest : Apart rest) :
    first ((quoteValue value).toList ++ rest) = (⟨none, value⟩, rest.drop 1) := by
  obtain ⟨quote, hquote, hwritten, hnot⟩ := exists_quotes value
  have hassoc : quote :: (value.toList ++ [quote]) ++ rest
      = quote :: (value.toList ++ quote :: rest) := by simp
  have hquoted := quoted_eq hquote (hnot hquotable) hrest none
  rw [Option.or_none] at hquoted
  unfold first
  rw [hwritten, hassoc, assigned?_of_head (of_isQuote hquote).1, hquoted]
  show ((⟨none, String.ofList value.toList⟩ : Assignment), rest.drop 1) = _
  rw [String.ofList_toList]

/-- A value that no quotes can enclose is read with its quotes, as a run. -/
theorem first_unquotable (hvalue : ¬ Quotable value)
    (hsolid : ∀ d ∈ value.toList, isBlank d = false) (hrest : Apart rest) :
    first ((quoteValue value).toList ++ rest)
      = (⟨none, "\"" ++ value ++ "\""⟩, rest.drop 1) := by
  have hboth : '"' ∈ value.toList ∧ '\'' ∈ value.toList := by
    unfold Quotable at hvalue
    rwa [not_or, not_not, not_not] at hvalue
  have hquoted : quoteValue value = "\"" ++ value ++ "\"" := by
    unfold quoteValue
    rw [if_neg (by simp [hboth.2])]
  have hwritten : (quoteValue value).toList = '"' :: (value.toList ++ ['"']) := by
    rw [hquoted, String.toList_append, String.toList_append]
    rfl
  -- The first quote of the value closes, but no blank stands behind it.
  have hdouble : quotedValue? '"' ('"' :: (value.toList ++ '"' :: rest)) = none := by
    obtain ⟨front, back, heq, hfront⟩ := List.eq_append_cons_of_mem hboth.1
    have hassoc : value.toList ++ '"' :: rest = front ++ '"' :: (back ++ '"' :: rest) := by
      rw [heq]
      simp
    rw [hassoc, quotedValue?_first hfront]
    cases back with
    | nil => rfl
    | cons d back =>
      have hd : isBlank d = false := hsolid d (by rw [heq]; simp)
      show (if isBlank d then _ else none : Option (List Char)).map _ = none
      rw [if_neg (by simp [hd])]
      rfl
  -- So the value is a run, and its quotes are part of the run.
  have henclosed : ∀ d ∈ '"' :: (value.toList ++ ['"']), isBlank d = false := by
    intro d hd
    simp only [List.mem_cons, List.mem_append, List.not_mem_nil, or_false] at hd
    rcases hd with rfl | hd | rfl
    · decide
    · exact hsolid d hd
    · decide
  have hrun := run_apart henclosed hrest
  have hassoc : '"' :: (value.toList ++ ['"']) ++ rest = '"' :: (value.toList ++ '"' :: rest) := by
    simp
  unfold first
  rw [hwritten, hrun, hassoc, hdouble, assigned?_of_head (by decide),
    quotedValue?_of_ne (by decide)]
  show ((⟨none, String.ofList ('"' :: (value.toList ++ ['"']))⟩ : Assignment), rest.drop 1) = _
  rw [← hwritten, String.ofList_toList, hquoted]

/-- A value that needs no quotes. -/
structure Bare (value : List Char) : Prop where
  ne_nil : value ≠ []
  solid : ∀ d ∈ value, isBlank d = false
  plain : ∀ d ∈ value, d ≠ '"' ∧ d ≠ '\'' ∧ d ≠ '='

theorem needsQuotes_eq_false_iff : needsQuotes value = false ↔ Bare value.toList := by
  unfold needsQuotes
  rw [Bool.or_eq_false_iff, List.any_eq_false]
  constructor
  · rintro ⟨hne, hchars⟩
    refine ⟨fun hnil => ?_, fun d hd => ?_, fun d hd => ?_⟩
    · have hempty : value = "" := by rwa [String.toList_eq_nil_iff] at hnil
      rw [hempty] at hne
      cases hne
    · have hd := hchars d hd
      simp only [Bool.or_eq_true, not_or, Bool.not_eq_true] at hd
      exact hd.1.1.1
    · have hd := hchars d hd
      simp only [Bool.or_eq_true, not_or, beq_iff_eq] at hd
      exact ⟨hd.1.1.2, hd.1.2, hd.2⟩
  · intro hbare
    refine ⟨?_, fun d hd => ?_⟩
    · rw [beq_eq_false_iff_ne]
      rintro rfl
      exact hbare.ne_nil rfl
    · simp [hbare.solid d hd, hbare.plain d hd]

theorem Bare.quotable (h : Bare value.toList) : Quotable value :=
  .inl fun hmem => (h.plain '"' hmem).1 rfl

/-- A bare value is read as a run. -/
theorem first_bare {cs : List Char} (hbare : Bare cs) (hrest : Apart rest) :
    first (cs ++ rest) = (⟨none, String.ofList cs⟩, rest.drop 1) := by
  have hequals : '=' ∉ cs := fun hmem => (hbare.plain '=' hmem).2.2 rfl
  have hnone := assigned?_bare hbare.solid hequals hrest
  have hrun := run_apart hbare.solid hrest
  cases cs with
  | nil => exact absurd rfl hbare.ne_nil
  | cons c cs =>
    have hc := hbare.plain c List.mem_cons_self
    unfold first
    rw [hnone, hrun, List.cons_append, quotedValue?_of_ne hc.1, quotedValue?_of_ne hc.2.1]
    rfl

/-- **One attribute, written and read.** -/
theorem first_writeEntry (hlegible : (assignment e).Legible) (hrest : Apart rest) :
    first ((writeEntry e).toList ++ rest) = (assignment (readBack e), rest.drop 1) := by
  obtain ⟨key, value⟩ := e
  cases key with
  | named name => exact first_named hlegible hrest
  | positional index =>
    have hwritten : writeEntry (.positional index, value)
        = if needsQuotes value then quoteValue value else value := rfl
    have hback : assignment (readBack (.positional index, value))
        = ⟨none, if Quotable value then value else "\"" ++ value ++ "\""⟩ := rfl
    rw [hwritten, hback]
    by_cases hneeds : needsQuotes value = true
    · rw [if_pos hneeds]
      by_cases hquotable : Quotable value
      · rw [if_pos hquotable]
        exact first_quoted hquotable hrest
      · rw [if_neg hquotable]
        exact first_unquotable hquotable (hlegible.value.resolve_left hquotable).2.2 hrest
    · rw [if_neg hneeds]
      have hbare := needsQuotes_eq_false_iff.1 (Bool.eq_false_iff.2 hneeds)
      rw [first_bare hbare hrest, if_pos hbare.quotable, String.ofList_toList]

/-- An attribute begins with no blank and no equals sign. -/
theorem exists_cons_writeEntry (hlegible : (assignment e).Legible) :
    ∃ c cs, (writeEntry e).toList = c :: cs ∧ isBlank c = false ∧ c ≠ '=' := by
  obtain ⟨key, value⟩ := e
  cases key with
  | named name =>
    obtain ⟨c, cs, hname, hblank, hchars⟩ := hlegible.name name rfl
    refine ⟨c, cs ++ ("=" ++ quoteValue value).toList, ?_, hblank, ?_⟩
    · show (name ++ "=" ++ quoteValue value).toList = _
      rw [String.append_assoc, String.toList_append, hname]
      rfl
    · rintro rfl
      exact absurd (hchars '=' List.mem_cons_self) (by decide)
  | positional index =>
    show ∃ c cs, (if needsQuotes value then quoteValue value else value).toList = c :: cs ∧ _
    by_cases hneeds : needsQuotes value = true
    · rw [if_pos hneeds]
      obtain ⟨quote, hquote, hwritten, -⟩ := exists_quotes value
      obtain ⟨-, hblank, hequals, -⟩ := of_isQuote hquote
      exact ⟨quote, value.toList ++ [quote], hwritten, hblank, hequals⟩
    · rw [if_neg hneeds]
      have hbare := needsQuotes_eq_false_iff.1 (Bool.eq_false_iff.2 hneeds)
      cases hvalue : value.toList with
      | nil => exact absurd hvalue hbare.ne_nil
      | cons c cs =>
        have hc : c ∈ value.toList := hvalue ▸ List.mem_cons_self
        exact ⟨c, cs, rfl, hbare.solid c hc, (hbare.plain c hc).2.2⟩

/-! ## §4. Attributes one behind the other -/

/-- The attributes of a tag as they are written, each behind a space. -/
def writtenText (es : List (AttributeKey × String)) : List Char :=
  es.flatMap fun e => ' ' :: (writeEntry e).toList

/-- In front of further attributes stands a gap. -/
theorem apart_writtenText {es : List (AttributeKey × String)}
    (h : ∀ e ∈ es, (assignment e).Legible) (hrest : Apart rest) :
    Apart (writtenText es ++ rest) := by
  cases es with
  | nil => exact hrest
  | cons e es =>
    obtain ⟨c, cs, hwritten, hblank, hequals⟩ := exists_cons_writeEntry (h e List.mem_cons_self)
    refine .inr ⟨(writeEntry e).toList ++ (writtenText es ++ rest), by simp [writtenText], ?_⟩
    rw [hwritten, List.cons_append]
    unfold trimStart
    rw [List.dropWhile_cons_of_neg (by simp [hblank])]
    intro heq
    exact hequals (Option.some.inj heq)

end

end Attributes

namespace Assignment

theorem listFrom_drop (taken : Nat) (cs : List Char) :
    listFrom taken cs = listFrom 0 (cs.drop taken) := by
  induction cs generalizing taken with
  | nil => simp [listFrom]
  | cons c cs ih =>
    cases taken with
    | zero => rfl
    | succ taken =>
      show listFrom taken cs = _
      rw [ih taken]
      rfl

theorem listFrom_space (cs : List Char) : listFrom 0 (' ' :: cs) = listFrom 0 cs := by
  rw [listFrom, if_pos (by decide)]

/-- The reader goes on behind an assignment. -/
theorem listFrom_first {c : Char} {cs front behind : List Char} {a : Assignment}
    (hc : isBlank c = false) (h : first (c :: cs) = (a, behind)) (hcs : cs = front ++ behind) :
    listFrom 0 (c :: cs) = a :: listFrom 0 behind := by
  have hdrop : cs.drop (cs.length - behind.length) = behind := by
    have hlength : cs.length - behind.length = front.length := by
      rw [hcs, List.length_append]
      omega
    rw [hlength, hcs, List.drop_left]
  rw [listFrom, if_neg (by simp [hc]), h]
  show a :: listFrom (cs.length - behind.length) cs = _
  rw [listFrom_drop, hdrop]

theorem listFrom_drop_one {rest : List Char} (h : Apart rest) :
    listFrom 0 (rest.drop 1) = listFrom 0 rest := by
  rcases h with rfl | ⟨cs, rfl, -⟩
  · rfl
  · exact (listFrom_space cs).symm

end Assignment

namespace Attributes

open Assignment

/-- **Attributes one behind the other** are read one after the other. -/
theorem listFrom_writtenText {es : List (AttributeKey × String)} {rest : List Char}
    (h : ∀ e ∈ es, (assignment e).Legible) (hrest : Apart rest) :
    listFrom 0 (writtenText es ++ rest)
      = (es.map fun e => assignment (readBack e)) ++ listFrom 0 rest := by
  -- The rest is the same in every step: the gap in front of it is carried along.
  induction es with
  | nil => rfl
  | cons e es ih =>
    obtain ⟨he, hes⟩ := List.forall_mem_cons.1 h
    have hgap := apart_writtenText hes hrest
    obtain ⟨c, cs, hwritten, hblank, -⟩ := exists_cons_writeEntry he
    have hfirst := first_writeEntry he hgap
    have htext : writtenText (e :: es) ++ rest
        = ' ' :: ((writeEntry e).toList ++ (writtenText es ++ rest)) := by
      simp [writtenText]
    -- What stands behind the attribute is the end of the text, but for the space.
    have hbehind : ∃ front, cs ++ (writtenText es ++ rest)
        = front ++ (writtenText es ++ rest).drop 1 :=
      ⟨cs ++ (writtenText es ++ rest).take 1, by rw [List.append_assoc, List.take_append_drop]⟩
    obtain ⟨front, hbehind⟩ := hbehind
    rw [htext, listFrom_space]
    rw [hwritten, List.cons_append] at hfirst ⊢
    rw [listFrom_first hblank hfirst hbehind, listFrom_drop_one hgap, ih hes]
    rfl

end Attributes

end ContentGate
