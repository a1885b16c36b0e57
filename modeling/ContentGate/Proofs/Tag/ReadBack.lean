/-
  ContentGate.Proofs.Tag.ReadBack — the attributes of a tag, written and read again.

  The text of a tag's attributes holds no closing bracket and, once its
  invisible spaces are replaced, none of those (`Enclosable`).  So the text that is
  written for them can stand in a tag and is read like any other.  What comes
  back is stated entry by entry (`readBackAll`).  It differs from what was
  written in two cases only: a value without a name that no quotes can
  enclose, and a bare value at the end whose last slash is taken for the mark
  of a tag that closes itself.

  Main statements:
    * `authored_ofText` — what the attributes of a tag are like;
    * `Readable.ofText_writtenText` — entries that can be found in the text that is
      written for them;
    * `Authored.attributesFrom_writtenText` — what is read of them again;
    * `Rereadable.readBackAll_eq`, `rereadable_of_sameAs` — when that is the same.
-/
import ContentGate.Proofs.Tag.Entries
import ContentGate.Proofs.Tag.Sources

namespace ContentGate

open Text

/-! ## §1. The characters of attribute text -/

namespace Assignment

/-- A character that can stand in a tag and is read as it is: no closing bracket, and no
space that nobody sees. -/
def Enclosable (c : Char) : Prop := c ≠ ']' ∧ c ≠ '\u00a0' ∧ c ≠ '\u200b'

/-- The characters that are written around values. -/
theorem enclosable_mark {c : Char} (h : c ∈ [' ', '=', '"', '\'']) : Enclosable c := by
  unfold Enclosable
  simp only [List.mem_cons, List.not_mem_nil, or_false] at h
  rcases h with rfl | rfl | rfl | rfl
  · decide
  · decide
  · decide
  · decide

theorem enclosable_of_mem_visibleSpaces {text : List Char} (h : ']' ∉ text) {c : Char}
    (hc : c ∈ visibleSpaces text) : Enclosable c := by
  induction text with
  | nil => cases hc
  | cons d text ih =>
    rw [List.mem_cons, not_or] at h
    have hlater : c ∈ visibleSpaces text → Enclosable c := ih h.2
    rw [visibleSpaces] at hc
    simp only at hc
    split at hc
    · split at hc
      · exact hlater hc
      · rcases List.mem_cons.1 hc with rfl | hc
        · exact enclosable_mark List.mem_cons_self
        · exact hlater hc
    · rename_i hvisible
      rcases List.mem_cons.1 hc with rfl | hc
      · simp only [Bool.or_eq_true, beq_iff_eq, not_or] at hvisible
        exact ⟨fun heq => h.1 heq.symm, hvisible⟩
      · exact hlater hc

/-- A character that is read as it is. -/
def Visible (c : Char) : Prop := c ≠ '\u00a0' ∧ c ≠ '\u200b'

/-- A text without invisible spaces stays. -/
theorem visibleSpaces_eq_self {text : List Char} (h : ∀ c ∈ text, Visible c) :
    visibleSpaces text = text := by
  induction text with
  | nil => rfl
  | cons c text ih =>
    obtain ⟨hc, htext⟩ := List.forall_mem_cons.1 h
    have hvisible : ¬ (c == '\u00a0' || c == '\u200b') = true := by
      simp [hc.1, hc.2]
    rw [visibleSpaces]
    simp only
    rw [if_neg hvisible, ih htext]

end Assignment

/-! ## §2. The attributes of a tag -/

namespace Attributes

open Assignment

/-- What the attributes of a tag are like. -/
structure Authored (es : List (AttributeKey × String)) : Prop where
  legible : ∀ e ∈ es, (assignment e).Legible
  enclosable : ∀ e ∈ es, ∀ c ∈ (assignment e).chars, Enclosable c
  inOrder : InOrder 0 (es.map (·.1))
  distinct : (es.map (·.1)).Nodup

/-- **The attributes of a text without a closing bracket.** -/
theorem authored_ofText {text : List Char} (h : ']' ∉ text) : Authored (ofText text).entries := by
  refine ⟨fun e he => ?_, fun e he c hc => ?_, inOrder_ofText text, (ofText text).distinct⟩
  · exact (legible_of_mem_listFrom (assignment_mem_of_mem_ofText he)).1
  · have hchars := (legible_of_mem_listFrom (assignment_mem_of_mem_ofText he)).2
    exact enclosable_of_mem_visibleSpaces h (hchars hc)

theorem authored_attributesFrom {x : List Char} (h : ']' ∉ x) :
    Authored (Segment.attributesFrom x).entries := by
  unfold Segment.attributesFrom
  split
  · have hslashes := dropEndWhile_prefix (· == '/') (trimEnd x)
    have hblanks := dropEndWhile_prefix isBlank x
    exact authored_ofText fun hmem => h ((hslashes.trans hblanks).subset hmem)
  · exact authored_ofText h

section
variable {es : List (AttributeKey × String)} {e : AttributeKey × String}

/-- What is written for an attribute are its own characters, quotes and an equals sign. -/
theorem chars_writeEntry {c : Char} (hc : c ∈ (writeEntry e).toList) :
    c ∈ (assignment e).chars ∨ c ∈ ['=', '"', '\''] := by
  have hquoted : ∀ value : String, c ∈ (quoteValue value).toList →
      c ∈ value.toList ∨ c ∈ ['=', '"', '\''] := by
    intro value hmem
    obtain ⟨quote, hquote, hwritten, -⟩ := exists_quotes value
    have hmark : quote ∈ ['=', '"', '\''] := by
      rcases hquote with rfl | rfl
      · decide
      · decide
    rw [hwritten, List.mem_cons, List.mem_append, List.mem_singleton] at hmem
    rcases hmem with rfl | hmem | rfl
    · exact .inr hmark
    · exact .inl hmem
    · exact .inr hmark
  obtain ⟨key, value⟩ := e
  cases key with
  | named name =>
    have hwritten : c ∈ (name ++ "=" ++ quoteValue value).toList := hc
    rw [String.toList_append, String.toList_append, List.mem_append, List.mem_append] at hwritten
    show c ∈ name.toList ++ value.toList ∨ _
    rw [List.mem_append]
    rcases hwritten with (h | h) | h
    · exact .inl (.inl h)
    · have hequals : c = '=' := List.mem_singleton.1 h
      exact .inr (hequals ▸ List.mem_cons_self)
    · exact (hquoted value h).imp_left .inr
  | positional index =>
    have hwritten : c ∈ (if needsQuotes value then quoteValue value else value).toList := hc
    show c ∈ [] ++ value.toList ∨ _
    rw [List.nil_append]
    by_cases hneeds : needsQuotes value = true
    · rw [if_pos hneeds] at hwritten
      exact hquoted value hwritten
    · rw [if_neg hneeds] at hwritten
      exact .inl hwritten

/-- What holds of the characters of attributes and of the marks holds of the written text. -/
theorem forall_mem_writtenText {P : Char → Prop} (hmark : ∀ c ∈ [' ', '=', '"', '\''], P c)
    (h : ∀ e ∈ es, ∀ c ∈ (assignment e).chars, P c) : ∀ c ∈ writtenText es, P c := by
  intro c hc
  obtain ⟨e, he, hc⟩ := List.mem_flatMap.1 hc
  rcases List.mem_cons.1 hc with rfl | hc
  · exact hmark ' ' List.mem_cons_self
  · rcases chars_writeEntry hc with hc | hc
    · exact h e he c hc
    · exact hmark c (List.mem_cons_of_mem _ hc)

theorem Authored.enclosable_writtenText (h : Authored es) : ∀ c ∈ writtenText es, Enclosable c :=
  forall_mem_writtenText (fun _ => enclosable_mark) h.enclosable

/-! ## §3. What is read of them again -/

@[simp] theorem readBack_fst (e : AttributeKey × String) : (readBack e).1 = e.1 := by
  obtain ⟨key, value⟩ := e
  cases key <;> rfl

theorem map_fst_readBack (es : List (AttributeKey × String)) :
    (es.map readBack).map (·.1) = es.map (·.1) := by
  rw [List.map_map]
  exact List.map_congr_left fun e _ => readBack_fst e

/-- Entries whose written text is read as it stands. -/
structure Readable (es : List (AttributeKey × String)) : Prop where
  legible : ∀ e ∈ es, (assignment e).Legible
  visible : ∀ e ∈ es, ∀ c ∈ (assignment e).chars, Visible c
  inOrder : InOrder 0 (es.map (·.1))
  distinct : (es.map (·.1)).Nodup

theorem Authored.readable (h : Authored es) : Readable es where
  legible := h.legible
  visible e he c hc := (h.enclosable e he c hc).2
  inOrder := h.inOrder
  distinct := h.distinct

/-- The text of attributes is read like any other, and a space behind it does not matter. -/
theorem Readable.ofText_writtenText (h : Readable es) {rest : List Char}
    (hrest : rest = [] ∨ rest = [' ']) :
    (ofText (writtenText es ++ rest)).entries = es.map readBack := by
  have hmark : ∀ c ∈ [' ', '=', '"', '\''], Visible c := fun _ hc => (enclosable_mark hc).2
  have hvisible : ∀ c ∈ writtenText es ++ rest, Visible c := by
    refine List.forall_mem_append.2 ⟨forall_mem_writtenText hmark h.visible, ?_⟩
    rcases hrest with rfl | rfl
    · exact fun c hc => absurd hc List.not_mem_nil
    · exact List.forall_mem_singleton.2 (hmark ' ' List.mem_cons_self)
  have hgap : Apart rest := by
    rcases hrest with rfl | rfl
    · exact .inl rfl
    · exact .inr ⟨[], rfl, nofun⟩
  have hnothing : listFrom 0 rest = [] := by
    rcases hrest with rfl | rfl
    · rfl
    · exact listFrom_space []
  have hlist : list (visibleSpaces (writtenText es ++ rest)) = (es.map readBack).map assignment := by
    rw [visibleSpaces_eq_self hvisible, List.map_map]
    show listFrom 0 (writtenText es ++ rest) = _
    rw [listFrom_writtenText h.legible hgap, hnothing, List.append_nil]
    rfl
  have hkeys := map_fst_readBack es
  have hset : (((es.map readBack).map assignment).foldl assign empty).entries
      = [] ++ es.map readBack := by
    apply foldl_assign_assignment
    · rw [hkeys]
      exact h.inOrder
    · rw [hkeys]
      exact h.distinct
  unfold ofText
  rw [hlist, hset]
  rfl

end

/-- What is read of the last attribute of a tag: slashes at the end of a bare
value belong to the bracket. -/
def readBackLast : AttributeKey × String → List (AttributeKey × String)
  | (.positional index, value) =>
    if needsQuotes value then [readBack (.positional index, value)]
    else
      let kept := dropEndWhile (· == '/') value.toList
      if kept = [] then [] else [(.positional index, String.ofList kept)]
  | (.named name, value) => [(.named name, value)]

/-- What is read of the attributes of a tag. -/
def readBackAll (es : List (AttributeKey × String)) : List (AttributeKey × String) :=
  es.dropLast.map readBack ++ (es.getLast?.map readBackLast).getD []

section
variable {es : List (AttributeKey × String)} {e : AttributeKey × String}

theorem readBackLast_bare {index : Nat} {value : String} (h : needsQuotes value = false) :
    readBackLast (.positional index, value)
      = if dropEndWhile (· == '/') value.toList = [] then []
        else [(.positional index, String.ofList (dropEndWhile (· == '/') value.toList))] := by
  show (if needsQuotes value then _ else _) = _
  rw [h]
  rfl

/-- An attribute that is written without quotes. -/
theorem exists_bare {key : AttributeKey} {value : String}
    (h : ¬ (key.isPositional = true → needsQuotes value = true)) :
    ∃ index, key = .positional index ∧ needsQuotes value = false := by
  rw [Classical.not_imp, Bool.not_eq_true] at h
  cases key with
  | named name => cases h.1
  | positional index => exact ⟨index, rfl, h.2⟩

theorem readBackLast_closed (h : e.1.isPositional = true → needsQuotes e.2 = true) :
    readBackLast e = [readBack e] := by
  obtain ⟨key, value⟩ := e
  cases key with
  | named name => rfl
  | positional index => exact if_pos (h rfl)

theorem readBackAll_concat (es : List (AttributeKey × String)) (e : AttributeKey × String) :
    readBackAll (es ++ [e]) = es.map readBack ++ readBackLast e := by
  unfold readBackAll
  rw [List.dropLast_concat, List.getLast?_concat]
  rfl

/-- An attribute that is not bare ends in a quote. -/
theorem exists_concat_writeEntry (h : e.1.isPositional = true → needsQuotes e.2 = true) :
    ∃ front quote, (writeEntry e).toList = front ++ [quote] ∧ (quote = '"' ∨ quote = '\'') := by
  obtain ⟨key, value⟩ := e
  obtain ⟨quote, hquote, hwritten, -⟩ := exists_quotes value
  cases key with
  | named name =>
    refine ⟨(name ++ "=").toList ++ quote :: value.toList, quote, ?_, hquote⟩
    show (name ++ "=" ++ quoteValue value).toList = _
    rw [String.toList_append, hwritten]
    simp
  | positional index =>
    refine ⟨quote :: value.toList, quote, ?_, hquote⟩
    show (if needsQuotes value then quoteValue value else value).toList = _
    rw [if_pos (h rfl), hwritten]
    rfl

theorem writeEntry_bare {value : String} (h : needsQuotes value = false) (index : Nat) :
    writeEntry (.positional index, value) = value := by
  show (if needsQuotes value then quoteValue value else value) = value
  rw [h]
  rfl

theorem writtenText_concat (es : List (AttributeKey × String)) (e : AttributeKey × String) :
    writtenText (es ++ [e]) = writtenText es ++ ' ' :: (writeEntry e).toList := by
  simp [writtenText]

/-- Attribute text that ends in no blank and no slash is read as it is. -/
theorem attributesFrom_concat {c : Char} (hblank : isBlank c = false) (hslash : c ≠ '/')
    (front : List Char) : Segment.attributesFrom (front ++ [c]) = ofText (front ++ [c]) := by
  have htrim : trimEnd (front ++ [c]) = front ++ [c] := dropEndWhile_append_of_neg hblank front
  unfold Segment.attributesFrom
  rw [htrim, List.getLast?_concat, if_neg (fun heq => hslash (Option.some.inj heq))]

/-- A bare value at the end loses its slashes. -/
theorem attributesFrom_bare {value : List Char} (h : Bare value) (front : List Char) :
    Segment.attributesFrom (front ++ ' ' :: value)
      = ofText (front ++ ' ' :: dropEndWhile (· == '/') value) := by
  obtain ⟨before, c, rfl⟩ := exists_concat h.ne_nil
  have hblank : isBlank c = false := h.solid c (by simp)
  have hassoc : front ++ ' ' :: (before ++ [c]) = (front ++ ' ' :: before) ++ [c] := by simp
  have htrim : trimEnd (front ++ ' ' :: (before ++ [c])) = front ++ ' ' :: (before ++ [c]) := by
    rw [hassoc]
    exact dropEndWhile_append_of_neg hblank _
  have hspace : (' ' == '/') = false := by decide
  have hdrop := dropEndWhile_append_cons (p := (· == '/')) hspace front (before ++ [c])
  by_cases hslash : c = '/'
  · unfold Segment.attributesFrom
    rw [htrim, hdrop, hassoc, List.getLast?_concat, if_pos (by rw [hslash])]
  · have hkept : dropEndWhile (· == '/') (before ++ [c]) = before ++ [c] :=
      dropEndWhile_append_of_neg (by simpa using hslash) before
    rw [hkept, hassoc, attributesFrom_concat hblank hslash]

theorem Authored.init (h : Authored (es ++ [e])) : Authored es := by
  have hinOrder := h.inOrder
  have hdistinct := h.distinct
  rw [List.map_append] at hinOrder hdistinct
  exact ⟨fun e he => h.legible e (List.mem_append_left _ he),
    fun e he => h.enclosable e (List.mem_append_left _ he), (inOrder_append.1 hinOrder).1,
    (List.nodup_append.1 hdistinct).1⟩

/-- A shorter value without a name at the end. -/
theorem Authored.shorten {index : Nat} {value value' : String}
    (h : Authored (es ++ [(.positional index, value)])) (hbare : Bare value'.toList)
    (hsubset : value'.toList ⊆ value.toList) :
    Authored (es ++ [(.positional index, value')]) := by
  have hlegible : (assignment (.positional index, value')).Legible :=
    ⟨nofun, .inl hbare.quotable⟩
  have henclosable : ∀ c ∈ (assignment (.positional index, value')).chars, Enclosable c := fun c hc =>
    h.enclosable _ (List.mem_append_right _ List.mem_cons_self) c (hsubset hc)
  have hkeys : (es ++ [(AttributeKey.positional index, value')]).map (·.1)
      = (es ++ [(AttributeKey.positional index, value)]).map (·.1) := by simp
  refine ⟨?_, ?_, hkeys ▸ h.inOrder, hkeys ▸ h.distinct⟩
  · exact List.forall_mem_append.2 ⟨h.init.legible, List.forall_mem_singleton.2 hlegible⟩
  · exact List.forall_mem_append.2 ⟨h.init.enclosable, List.forall_mem_singleton.2 henclosable⟩

/-- **What is read of the attributes of a tag.** -/
theorem Authored.attributesFrom_writtenText (h : Authored es) :
    (Segment.attributesFrom (writtenText es)).entries = readBackAll es := by
  rcases List.eq_nil_or_concat es with rfl | ⟨init, e, rfl⟩
  · rfl
  rw [List.concat_eq_append] at h ⊢
  rw [readBackAll_concat]
  by_cases hclosed : e.1.isPositional = true → needsQuotes e.2 = true
  · -- The text ends in a quote.
    obtain ⟨front, quote, hwritten, hquote⟩ := exists_concat_writeEntry hclosed
    have htext : writtenText (init ++ [e]) = (writtenText init ++ ' ' :: front) ++ [quote] := by
      rw [writtenText_concat, hwritten]
      simp
    have hread := h.readable.ofText_writtenText (.inl (Eq.refl []))
    rw [List.append_nil] at hread
    obtain ⟨-, hblank, -, hslash⟩ := of_isQuote hquote
    rw [readBackLast_closed hclosed, htext, attributesFrom_concat hblank hslash, ← htext, hread,
      List.map_append]
    rfl
  · -- The text ends in a bare value.
    obtain ⟨key, value⟩ := e
    obtain ⟨index, rfl, hneeds⟩ := exists_bare hclosed
    have hbare := needsQuotes_eq_false_iff.1 hneeds
    have hshorter := dropEndWhile_prefix (· == '/') value.toList
    have hsubset := hshorter.subset
    rw [writtenText_concat, writeEntry_bare hneeds, attributesFrom_bare hbare,
      readBackLast_bare hneeds]
    generalize dropEndWhile (· == '/') value.toList = kept at hsubset ⊢
    by_cases hnil : kept = []
    · subst hnil
      rw [if_pos rfl, List.append_nil]
      exact h.init.readable.ofText_writtenText (.inr rfl)
    · -- The text is that of the same attributes with a shorter value at the end.
      have hkept : Bare kept := ⟨hnil, fun d hd => hbare.solid d (hsubset hd),
        fun d hd => hbare.plain d (hsubset hd)⟩
      rw [← String.toList_ofList (l := kept)] at hkept
      have hauthored := h.shorten hkept (by rwa [String.toList_ofList])
      have hread := hauthored.readable.ofText_writtenText (.inl (Eq.refl []))
      rw [List.append_nil, writtenText_concat,
        writeEntry_bare (needsQuotes_eq_false_iff.2 hkept), String.toList_ofList] at hread
      rw [hread, if_neg hnil, List.map_append]
      show _ ++ [(_, if Quotable (String.ofList kept) then _ else _)] = _
      rw [if_pos hkept.quotable]

/-! ## §4. When that is the same -/

/-- Attributes that come back when their tag is written and scanned. -/
structure Rereadable (a : Attributes) : Prop where
  /-- Some quotes can enclose each value without a name. -/
  quotable : ∀ e ∈ a.entries, e.1.isPositional = true → Quotable e.2
  /-- No slash of a value stands in front of the closing bracket. -/
  last : ∀ e ∈ a.entries.getLast?, e.1.isPositional = true → needsQuotes e.2 = false →
    e.2.toList.getLast? ≠ some '/'

instance (a : Attributes) : Decidable a.Rereadable :=
  decidable_of_iff ((∀ e ∈ a.entries, e.1.isPositional = true → Quotable e.2)
      ∧ ∀ e ∈ a.entries.getLast?, e.1.isPositional = true → needsQuotes e.2 = false →
        e.2.toList.getLast? ≠ some '/')
    ⟨fun h => ⟨h.1, h.2⟩, fun h => ⟨h.quotable, h.last⟩⟩

theorem readBack_eq_self (h : e.1.isPositional = true → Quotable e.2) :
    readBack e = e := by
  obtain ⟨key, value⟩ := e
  cases key with
  | named name => rfl
  | positional index =>
    show (_, if Quotable value then _ else _) = _
    rw [if_pos (h rfl)]

theorem readBackLast_eq_self (h : e.1.isPositional = true → Quotable e.2)
    (hlast : e.1.isPositional = true → needsQuotes e.2 = false →
      e.2.toList.getLast? ≠ some '/') : readBackLast e = [e] := by
  by_cases hclosed : e.1.isPositional = true → needsQuotes e.2 = true
  · rw [readBackLast_closed hclosed, readBack_eq_self h]
  · obtain ⟨key, value⟩ := e
    obtain ⟨index, rfl, hneeds⟩ := exists_bare hclosed
    have hbare := needsQuotes_eq_false_iff.1 hneeds
    have hkept : dropEndWhile (· == '/') value.toList = value.toList := by
      obtain ⟨before, c, hvalue⟩ := exists_concat hbare.ne_nil
      have hslash : c ≠ '/' := by
        rintro rfl
        exact hlast rfl hneeds (by rw [hvalue, List.getLast?_concat])
      rw [hvalue]
      exact dropEndWhile_append_of_neg (by simpa using hslash) before
    rw [readBackLast_bare hneeds, hkept, if_neg hbare.ne_nil, String.ofList_toList]

variable {a b : Attributes}

/-- **Such attributes come back.** -/
theorem Rereadable.readBackAll_eq (h : a.Rereadable) : readBackAll a.entries = a.entries := by
  have hquotable := h.quotable
  have hlast := h.last
  rcases List.eq_nil_or_concat a.entries with hnil | ⟨init, e, hinit⟩
  · rw [hnil]
    rfl
  rw [List.concat_eq_append] at hinit
  rw [hinit] at hquotable hlast ⊢
  obtain ⟨hinitial, he⟩ := List.forall_mem_append.1 hquotable
  have hsame : init.map readBack = init := by
    rw [List.map_congr_left fun e he => readBack_eq_self (hinitial e he), List.map_id']
  rw [readBackAll_concat, hsame, readBackLast_eq_self (he e List.mem_cons_self)]
  exact hlast e (by rw [List.getLast?_concat]; rfl)

/-- An attribute that is not bare is among what is read, with its quotes. -/
theorem mem_readBackAll (he : e ∈ es) (h : e.1.isPositional = true → needsQuotes e.2 = true) :
    readBack e ∈ readBackAll es := by
  rcases List.eq_nil_or_concat es with rfl | ⟨init, last, rfl⟩
  · cases he
  rw [List.concat_eq_append] at he ⊢
  rw [readBackAll_concat, List.mem_append]
  rcases List.mem_append.1 he with he | he
  · exact .inl (List.mem_map_of_mem he)
  · obtain rfl := List.mem_singleton.1 he
    rw [readBackLast_closed h]
    exact .inr List.mem_cons_self

/-- **No others come back.** -/
theorem rereadable_of_sameAs (hb : b.entries = readBackAll a.entries)
    (h : b.sameAs a = true) : a.Rereadable := by
  unfold sameAs size at h
  rw [Bool.and_eq_true, beq_iff_eq, List.all_eq_true, hb] at h
  obtain ⟨hsize, hall⟩ := h
  have hvalue : ∀ key value value', (key, value) ∈ a.entries →
      (key, value') ∈ readBackAll a.entries → value' = value := by
    intro key value value' hmem hmem'
    have hfound := hall (key, value') hmem'
    simp only [find?_of_mem hmem, beq_iff_eq, Option.some.injEq] at hfound
    exact hfound.symm
  constructor
  · rintro ⟨key, value⟩ hmem hpositional
    cases key with
    | named name => cases hpositional
    | positional index =>
      by_contra hnot
      -- The value would have two more quotes.
      have hneeds : needsQuotes value = true := by
        by_contra hbare
        exact hnot (needsQuotes_eq_false_iff.1 (Bool.eq_false_iff.2 hbare)).quotable
      have hback := mem_readBackAll hmem (fun _ => hneeds)
      have hread : readBack (.positional index, value)
          = (.positional index, "\"" ++ value ++ "\"") := by
        show (_, if Quotable value then _ else _) = _
        rw [if_neg hnot]
      rw [hread] at hback
      have hlength := congrArg String.length (hvalue _ _ _ hmem hback)
      rw [String.length_append, String.length_append] at hlength
      have hquote : "\"".length = 1 := rfl
      omega
  · rintro ⟨key, value⟩ hlast hpositional hneeds hslash
    cases key with
    | named name => cases hpositional
    | positional index =>
      obtain ⟨init, hinit⟩ : ∃ init, a.entries = init ++ [(.positional index, value)] :=
        List.getLast?_eq_some_iff.1 hlast
      obtain ⟨before, hbefore⟩ : ∃ before, value.toList = before ++ ['/'] :=
        List.getLast?_eq_some_iff.1 hslash
      have hkept : (dropEndWhile (· == '/') value.toList).length < value.toList.length := by
        have hle := length_dropEndWhile_le (· == '/') before
        rw [hbefore, dropEndWhile_append_of_pos (by decide), List.length_append]
        exact Nat.lt_succ_of_le hle
      rw [hinit, readBackAll_concat, readBackLast_bare hneeds] at hsize hvalue
      by_cases hnil : dropEndWhile (· == '/') value.toList = []
      · -- The value would be missing.
        rw [if_pos hnil] at hsize
        simp at hsize
      · -- The value would be shorter.
        rw [if_neg hnil] at hvalue
        have hsame := hvalue (.positional index) value
          (String.ofList (dropEndWhile (· == '/') value.toList)) (by simp) (by simp)
        have hlength := congrArg (fun s => s.toList.length) hsame
        rw [String.toList_ofList] at hlength
        omega

end

end Attributes

end ContentGate
