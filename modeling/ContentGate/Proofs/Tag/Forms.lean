/-
  ContentGate.Proofs.Tag.Forms — the forms of assignments, without a reader.

  An assignment has one of six forms, and what a form fits can be said
  without a reader: a name, an equals sign with blanks around it, and a
  value in one of three styles; or such a value alone; and behind it a
  blank or the end of the text (`Form.Fits`).  At a given place a form
  fits in one way only, however the name or the blanks might be cut.  So
  the reader, which tries the forms in their order, finds the first one
  that fits.

  Main statements:
    * `read?_eq_some_iff` — reading a form, and what it fits;
    * `Form.Fits.unique` — a form fits in one way only;
    * `firstFits_iff` — the reader finds the first form that fits;
    * `exists_firstFits` — some form fits at every character that is no blank;
    * `FirstFits.name?_eq_none_iff` — where an assignment has no name.
-/
import Mathlib.Data.List.DropRight
import ContentGate.Proofs.Tag.Assignments

namespace ContentGate.Assignment

open Text

/-! ## §1. What a form fits -/

/-- How a value is written. -/
inductive Style where
  | double
  | single
  | bare

/-- The quote of a style. -/
def Style.quote? : Style → Option Char
  | .double => some '"'
  | .single => some '\''
  | .bare => none

/-- A value behind a name, or alone. -/
inductive Form where
  | named (style : Style)
  | alone (style : Style)

/-- The forms in the order in which they are tried. -/
def Form.order : List Form :=
  [.named .double, .named .single, .named .bare, .alone .double, .alone .single, .alone .bare]

/-- A text writes a value; a bare value is made of certain characters. -/
inductive WritesValue (isBare : Char → Bool) : Style → (written value : List Char) → Prop where
  | quoted {style : Style} {quote : Char} {value : List Char} (hquote : style.quote? = some quote)
      (h : quote ∉ value) : WritesValue isBare style (quote :: (value ++ [quote])) value
  | bare {value : List Char} (hne : value ≠ []) (h : ∀ c ∈ value, isBare c = true) :
      WritesValue isBare .bare value value

/-- The characters of a bare value behind a name: no blanks and no quotes. -/
def isValueChar (c : Char) : Bool := !(isBlank c || c == '"' || c == '\'')

/-- A text writes an assignment. -/
inductive Form.Writes : Form → List Char → Assignment → Prop where
  | named {style : Style} {name blanks blanks' written value : List Char} (hne : name ≠ [])
      (hname : ∀ c ∈ name, isNameChar c = true) (hblanks : ∀ c ∈ blanks, isBlank c = true)
      (hblanks' : ∀ c ∈ blanks', isBlank c = true)
      (hvalue : WritesValue isValueChar style written value) :
      Writes (.named style) (name ++ (blanks ++ '=' :: (blanks' ++ written)))
        ⟨some (String.ofList name), String.ofList value⟩
  | alone {style : Style} {written value : List Char}
      (hvalue : WritesValue (!isBlank ·) style written value) :
      Writes (.alone style) written ⟨none, String.ofList value⟩

/-- An assignment ends with a blank, or at the end of the text. -/
inductive Closes : (close rest : List Char) → Prop where
  | blank {c : Char} {rest : List Char} (h : isBlank c = true) : Closes [c] rest
  | atEnd : Closes [] []

/-- The form fits at the head of `cs`: the match `found` writes the assignment and ends with a
blank or at the end of the text, and `rest` is behind it. -/
def Form.Fits (form : Form) (cs found rest : List Char) (a : Assignment) : Prop :=
  cs = found ++ rest ∧ ∃ core close, found = core ++ close ∧ form.Writes core a
    ∧ Closes close rest

/-- It is the first form that fits there. -/
def Form.FirstFits (form : Form) (cs found rest : List Char) (a : Assignment) : Prop :=
  ∃ earlier later, Form.order = earlier ++ form :: later ∧ form.Fits cs found rest a
    ∧ ∀ other ∈ earlier, ∀ found' rest' a', ¬ other.Fits cs found' rest' a'

/-! ## §2. Values and names, read -/

section
variable {style : Style} {quote : Char} {cs rest written text : List Char} {v name : String}
  {isBare : Char → Bool}

theorem finish?_eq_some_iff :
    finish? cs = some rest ↔ ∃ close, cs = close ++ rest ∧ Closes close rest := by
  constructor
  · intro h
    cases cs with
    | nil =>
      cases h
      exact ⟨[], rfl, .atEnd⟩
    | cons c cs =>
      rw [finish?] at h
      by_cases hc : isBlank c = true
      · rw [if_pos hc] at h
        cases h
        exact ⟨[c], rfl, .blank hc⟩
      · rw [if_neg hc] at h
        cases h
  · rintro ⟨close, rfl, hclose⟩
    cases hclose with
    | @blank c _ hc =>
      show (if isBlank c then some rest else none) = some rest
      rw [if_pos hc]
    | atEnd => rfl

/-- What closes an assignment belongs to no bare value. -/
theorem Closes.stops {close : List Char} (h : Closes close rest)
    (hbare : ∀ c, isBlank c = true → isBare c = false) :
    ∀ c ∈ (close ++ rest).head?, isBare c = false := by
  intro c hc
  cases h with
  | blank hblank =>
    obtain rfl := Option.some.inj hc
    exact hbare _ hblank
  | atEnd => cases hc

theorem quotedValue?_eq_some_iff :
    quotedValue? quote cs = some (v, rest) ↔
      ∃ value close, cs = quote :: (value ++ quote :: (close ++ rest)) ∧ quote ∉ value
        ∧ v = String.ofList value ∧ Closes close rest := by
  constructor
  · intro h
    cases cs with
    | nil => cases h
    | cons c cs =>
      by_cases hc : c = quote ∧ cs.contains quote = true
      · obtain ⟨rfl, hcontains⟩ := hc
        -- The value ends at the first quote behind the one that opens.
        obtain ⟨value, behind, rfl, hvalue⟩ :=
          List.eq_append_cons_of_mem (List.contains_iff_mem.1 hcontains)
        rw [quotedValue?_first hvalue] at h
        obtain ⟨rest', hfinish, heq⟩ := Option.map_eq_some_iff.1 h
        obtain ⟨rfl, rfl⟩ := Prod.mk.inj heq
        obtain ⟨close, rfl, hclose⟩ := finish?_eq_some_iff.1 hfinish
        exact ⟨value, close, rfl, hvalue, rfl, hclose⟩
      · rw [quotedValue?, if_neg hc] at h
        cases h
  · rintro ⟨value, close, rfl, hvalue, rfl, hclose⟩
    rw [quotedValue?_first hvalue, finish?_eq_some_iff.2 ⟨close, rfl, hclose⟩]
    rfl

/-- A value of a style at the head of a text, and what is left behind the assignment. -/
def Style.read? (isBare : Char → Bool) : Style → List Char → Option (String × List Char)
  | .double, cs => quotedValue? '"' cs
  | .single, cs => quotedValue? '\'' cs
  | .bare, cs =>
    let body := cs.takeWhile isBare
    if body.isEmpty then none
    else (finish? (cs.dropWhile isBare)).map (String.ofList body, ·)

theorem Style.read?_of_quote (hquote : style.quote? = some quote) (cs : List Char) :
    style.read? isBare cs = quotedValue? quote cs := by
  cases style with
  | double | single =>
    cases hquote
    rfl
  | bare => cases hquote

theorem bareRead?_eq_some_iff (hbare : ∀ c, isBlank c = true → isBare c = false) :
    Style.bare.read? isBare cs = some (v, rest) ↔
      ∃ value close, cs = value ++ (close ++ rest) ∧ value ≠ [] ∧ (∀ c ∈ value, isBare c = true)
        ∧ v = String.ofList value ∧ Closes close rest := by
  constructor
  · intro h
    unfold Style.read? at h
    simp only at h
    split at h
    · cases h
    · rename_i hne
      obtain ⟨rest', hfinish, heq⟩ := Option.map_eq_some_iff.1 h
      obtain ⟨rfl, rfl⟩ := Prod.mk.inj heq
      obtain ⟨close, hbehind, hclose⟩ := finish?_eq_some_iff.1 hfinish
      refine ⟨cs.takeWhile isBare, close, ?_, fun hnil => hne (by rw [hnil]; rfl), ?_, rfl, hclose⟩
      · rw [← hbehind, List.takeWhile_append_dropWhile]
      · exact fun c hc => List.mem_takeWhile_imp hc
  · rintro ⟨value, close, rfl, hne, hvalue, rfl, hclose⟩
    have htake := takeWhile_run hvalue (hclose.stops hbare)
    have hdrop := dropWhile_run hvalue (hclose.stops hbare)
    unfold Style.read?
    simp only
    rw [htake, hdrop, if_neg (by simpa using hne), finish?_eq_some_iff.2 ⟨close, rfl, hclose⟩]
    rfl

/-- **A value, read, is a value as it is written.** -/
theorem Style.read?_eq_some_iff (hbare : ∀ c, isBlank c = true → isBare c = false) :
    style.read? isBare cs = some (v, rest) ↔
      ∃ written value close, cs = written ++ (close ++ rest)
        ∧ WritesValue isBare style written value ∧ v = String.ofList value ∧ Closes close rest := by
  cases hquote : style.quote? with
  | some quote =>
    rw [Style.read?_of_quote hquote, quotedValue?_eq_some_iff]
    constructor
    · rintro ⟨value, close, rfl, hvalue, rfl, hclose⟩
      exact ⟨_, value, close, by simp, .quoted hquote hvalue, rfl, hclose⟩
    · rintro ⟨written, value, close, rfl, hwrites, rfl, hclose⟩
      cases hwrites with
      | quoted hquote' hvalue =>
        obtain rfl := Option.some.inj (hquote.symm.trans hquote')
        exact ⟨value, close, by simp, hvalue, rfl, hclose⟩
      | bare => cases hquote
  | none =>
    have hstyle : style = .bare := by
      cases style with
      | double | single => cases hquote
      | bare => rfl
    subst hstyle
    rw [bareRead?_eq_some_iff hbare]
    constructor
    · rintro ⟨value, close, rfl, hne, hvalue, rfl, hclose⟩
      exact ⟨value, value, close, rfl, .bare hne hvalue, rfl, hclose⟩
    · rintro ⟨written, value, close, rfl, hwrites, rfl, hclose⟩
      cases hwrites with
      | quoted hquote' _ => cases hquote'
      | bare hne hvalue => exact ⟨written, close, rfl, hne, hvalue, rfl, hclose⟩

/-- A value begins with no blank. -/
theorem WritesValue.exists_cons (hbare : ∀ c, isBlank c = true → isBare c = false)
    (h : WritesValue isBare style written text) :
    ∃ c cs, written = c :: cs ∧ isBlank c = false := by
  cases h with
  | @quoted _ quote _ hquote _ =>
    refine ⟨quote, _, rfl, ?_⟩
    cases style with
    | double | single =>
      cases hquote
      decide
    | bare => cases hquote
  | bare hne hvalue =>
    cases written with
    | nil => exact absurd rfl hne
    | cons c cs =>
      refine ⟨c, cs, rfl, ?_⟩
      rw [← Bool.not_eq_true]
      intro hblank
      have hc := hvalue c List.mem_cons_self
      rw [hbare c hblank] at hc
      cases hc

/-- **A name up to its value**, however the blanks are cut. -/
theorem assigned?_eq_some_iff :
    assigned? cs = some (name, rest) ↔
      ∃ n blanks blanks', cs = n ++ (blanks ++ '=' :: (blanks' ++ rest)) ∧ n ≠ []
        ∧ (∀ c ∈ n, isNameChar c = true) ∧ (∀ c ∈ blanks, isBlank c = true)
        ∧ (∀ c ∈ blanks', isBlank c = true) ∧ name = String.ofList n ∧ trimStart rest = rest := by
  constructor
  · intro h
    unfold assigned? at h
    simp only at h
    split at h
    · cases h
    rename_i hne
    split at h
    · rename_i behind hbehind
      obtain ⟨rfl, rfl⟩ := Prod.mk.inj (Option.some.inj h)
      refine ⟨cs.takeWhile isNameChar, (cs.dropWhile isNameChar).takeWhile isBlank,
        behind.takeWhile isBlank, ?_, fun hnil => hne (by rw [hnil]; rfl),
        fun c hc => List.mem_takeWhile_imp hc, fun c hc => List.mem_takeWhile_imp hc,
        fun c hc => List.mem_takeWhile_imp hc, rfl, ?_⟩
      · unfold trimStart at hbehind ⊢
        rw [List.takeWhile_append_dropWhile, ← hbehind, List.takeWhile_append_dropWhile,
          List.takeWhile_append_dropWhile]
      · unfold trimStart
        exact List.dropWhile_idempotent _ _
    · cases h
  · rintro ⟨n, blanks, blanks', rfl, hne, hname, hblanks, hblanks', rfl, hrest⟩
    -- Neither a blank nor the equals sign belongs to the name.
    have hstop : ∀ c ∈ (blanks ++ '=' :: (blanks' ++ rest)).head?, isNameChar c = false := by
      intro c hc
      cases blanks with
      | nil =>
        obtain rfl := Option.some.inj hc
        decide
      | cons d blanks =>
        obtain rfl := Option.some.inj hc
        rw [← Bool.not_eq_true]
        intro hnameChar
        have hblank := hblanks d List.mem_cons_self
        rw [isBlank_of_isNameChar hnameChar] at hblank
        cases hblank
    have htake := takeWhile_run hname hstop
    have hdrop := dropWhile_run hname hstop
    have hequals : trimStart (blanks ++ '=' :: (blanks' ++ rest)) = '=' :: (blanks' ++ rest) := by
      refine dropWhile_run hblanks fun c hc => ?_
      obtain rfl := Option.some.inj hc
      decide
    have hbehind : trimStart (blanks' ++ rest) = rest :=
      (List.dropWhile_append_of_pos hblanks').trans hrest
    unfold assigned?
    rw [htake, hdrop, hequals]
    simp only
    rw [if_neg (by simpa using hne), hbehind]

end

/-! ## §3. Forms, read -/

/-- No blank is a character of a bare value, behind a name or alone. -/
theorem isValueChar_of_isBlank (c : Char) (h : isBlank c = true) : isValueChar c = false := by
  unfold isValueChar
  rw [h, Bool.true_or, Bool.true_or]
  rfl

theorem not_isBlank_of_isBlank (c : Char) (h : isBlank c = true) : (!isBlank c) = false := by
  rw [h]
  rfl

namespace Form

/-- An assignment of a form at the head of a text, and what is left behind it. -/
def read? : Form → List Char → Option (Assignment × List Char)
  | .named style, cs =>
    (assigned? cs).bind fun n =>
      (style.read? isValueChar n.2).map fun v => (⟨some n.1, v.1⟩, v.2)
  | .alone style, cs =>
    (style.read? (!isBlank ·) cs).map fun v => (⟨none, v.1⟩, v.2)

variable {form form' : Form} {cs found found' rest rest' : List Char} {a a' : Assignment}

/-- **A form, read, is what the form fits.** -/
theorem read?_eq_some_iff :
    form.read? cs = some (a, rest) ↔ ∃ found, form.Fits cs found rest a := by
  cases form with
  | named style =>
    constructor
    · intro h
      obtain ⟨⟨name, behind⟩, hname, h⟩ := Option.bind_eq_some_iff.1 h
      obtain ⟨⟨v, rest'⟩, hvalue, h⟩ := Option.map_eq_some_iff.1 h
      obtain ⟨rfl, rfl⟩ := Prod.mk.inj h
      obtain ⟨n, blanks, blanks', rfl, hne, hn, hblanks, hblanks', rfl, -⟩ :=
        assigned?_eq_some_iff.1 hname
      obtain ⟨written, value, close, rfl, hwrites, rfl, hclose⟩ :=
        (Style.read?_eq_some_iff isValueChar_of_isBlank).1 hvalue
      exact ⟨n ++ (blanks ++ '=' :: (blanks' ++ written)) ++ close, by simp, _, close, rfl,
        .named hne hn hblanks hblanks' hwrites, hclose⟩
    · rintro ⟨_, rfl, _, close, rfl, hwrites, hclose⟩
      cases hwrites with
      | @named _ n blanks blanks' written value hne hn hblanks hblanks' hvalue =>
        -- The value begins with no blank, so the blanks in front of it are all there are.
        have htrim : trimStart (written ++ (close ++ rest)) = written ++ (close ++ rest) := by
          obtain ⟨c, cs, rfl, hc⟩ := hvalue.exists_cons isValueChar_of_isBlank
          exact List.dropWhile_cons_of_neg (Bool.eq_false_iff.1 hc)
        have hname := assigned?_eq_some_iff.2
          ⟨n, blanks, blanks', rfl, hne, hn, hblanks, hblanks', rfl, htrim⟩
        have hread := (Style.read?_eq_some_iff isValueChar_of_isBlank).2
          ⟨written, value, close, rfl, hvalue, rfl, hclose⟩
        have hassoc : n ++ (blanks ++ '=' :: (blanks' ++ written)) ++ close ++ rest
            = n ++ (blanks ++ '=' :: (blanks' ++ (written ++ (close ++ rest)))) := by simp
        show (assigned? _).bind _ = _
        rw [hassoc, hname]
        show (Style.read? _ _ _).map _ = _
        rw [hread]
        rfl
  | alone style =>
    constructor
    · intro h
      obtain ⟨⟨v, rest'⟩, hvalue, h⟩ := Option.map_eq_some_iff.1 h
      obtain ⟨rfl, rfl⟩ := Prod.mk.inj h
      obtain ⟨written, value, close, rfl, hwrites, rfl, hclose⟩ :=
        (Style.read?_eq_some_iff not_isBlank_of_isBlank).1 hvalue
      exact ⟨written ++ close, by simp, written, close, rfl, .alone hwrites, hclose⟩
    · rintro ⟨_, rfl, written, close, rfl, hwrites, hclose⟩
      cases hwrites with
      | @alone _ _ value hvalue =>
        have hread := (Style.read?_eq_some_iff not_isBlank_of_isBlank).2
          ⟨written, value, close, rfl, hvalue, rfl, hclose⟩
        show (Style.read? _ _ _).map _ = _
        rw [List.append_assoc, hread]
        rfl

/-- **A form fits in one way only**, wherever the blanks are cut. -/
theorem Fits.unique (h : form.Fits cs found rest a) (h' : form.Fits cs found' rest' a') :
    found = found' ∧ rest = rest' ∧ a = a' := by
  have hread := read?_eq_some_iff.2 ⟨found, h⟩
  rw [read?_eq_some_iff.2 ⟨found', h'⟩] at hread
  obtain ⟨rfl, rfl⟩ := Prod.mk.inj (Option.some.inj hread)
  exact ⟨List.append_cancel_right (h.1.symm.trans h'.1), rfl, rfl⟩

/-- Every form begins with a character that is no blank. -/
theorem Fits.exists_cons (h : form.Fits cs found rest a) :
    ∃ c behind, found = c :: behind ∧ isBlank c = false := by
  obtain ⟨-, core, close, rfl, hwrites, -⟩ := h
  cases hwrites with
  | @named _ name _ _ _ _ hne hname _ _ _ =>
    cases name with
    | nil => exact absurd rfl hne
    | cons c name => exact ⟨c, _, rfl, isBlank_of_isNameChar (hname c List.mem_cons_self)⟩
  | alone hvalue =>
    obtain ⟨c, behind, rfl, hc⟩ := hvalue.exists_cons not_isBlank_of_isBlank
    exact ⟨c, behind ++ close, rfl, hc⟩

/-! ## §4. The first form that fits -/

/-- What the first form that fits gives is what the first reader that succeeds gives. -/
theorem firstFits_iff :
    (∃ (form : Form) (found : List Char), form.FirstFits cs found rest a) ↔
      order.findSome? (·.read? cs) = some (a, rest) := by
  rw [List.findSome?_eq_some_iff]
  constructor
  · rintro ⟨form, found, earlier, later, horder, hfits, hnone⟩
    refine ⟨earlier, form, later, horder, read?_eq_some_iff.2 ⟨found, hfits⟩, ?_⟩
    intro other hother
    rw [Option.eq_none_iff_forall_ne_some]
    rintro ⟨a', rest'⟩ hread
    obtain ⟨found', hfits'⟩ := read?_eq_some_iff.1 hread
    exact hnone other hother found' rest' a' hfits'
  · rintro ⟨earlier, form, later, horder, hread, hnone⟩
    obtain ⟨found, hfits⟩ := read?_eq_some_iff.1 hread
    refine ⟨form, found, earlier, later, horder, hfits, ?_⟩
    intro other hother found' rest' a' hfits'
    have hread' := read?_eq_some_iff.2 ⟨found', hfits'⟩
    rw [hnone other hother] at hread'
    cases hread'

theorem findSome?_cons_or {α β : Type} (f : α → Option β) (a : α) (as : List α) :
    (a :: as).findSome? f = (f a).or (as.findSome? f) := by
  rw [List.findSome?_cons]
  cases f a <;> rfl

/-- The last form fits wherever there is no blank. -/
theorem read?_run {c : Char} (hc : isBlank c = false) (cs : List Char) :
    (alone .bare).read? (c :: cs) = some (run (c :: cs)) := by
  have hne : ((c :: cs).takeWhile (!isBlank ·)).isEmpty = false := by
    rw [List.takeWhile_cons_of_pos (by simp [hc])]
    rfl
  have hfinish : finish? ((c :: cs).dropWhile (!isBlank ·))
      = some (((c :: cs).dropWhile (!isBlank ·)).drop 1) := by
    have hhead := List.head?_dropWhile_not (!isBlank ·) (c :: cs)
    cases hbehind : (c :: cs).dropWhile (!isBlank ·) with
    | nil => rfl
    | cons d ds =>
      rw [hbehind] at hhead
      have hd : isBlank d = true := by simpa using hhead
      rw [finish?, if_pos hd]
      rfl
  show (Style.read? (!isBlank ·) .bare (c :: cs)).map _ = _
  unfold Style.read?
  simp only
  rw [hne, hfinish]
  rfl

/-- **The reader of attribute text tries the forms in their order.** -/
theorem findSome?_order {c : Char} (hc : isBlank c = false) (cs : List Char) :
    order.findSome? (·.read? (c :: cs)) = some (first (c :: cs)) := by
  have hread (style : Style) : (named style).read? (c :: cs)
      = (assigned? (c :: cs)).bind fun n =>
          (style.read? isValueChar n.2).map fun v => (⟨some n.1, v.1⟩, v.2) := rfl
  have hfirst : first (c :: cs)
      = (((assigned? (c :: cs)).bind fun n =>
          ((quotedValue? '"' n.2).or ((quotedValue? '\'' n.2).or (bareValue? n.2))).bind
            fun v => some (⟨some n.1, v.1⟩, v.2)).or
        (((quotedValue? '"' (c :: cs)).or (quotedValue? '\'' (c :: cs))).map
          fun v => (⟨none, v.1⟩, v.2))).getD (run (c :: cs)) := rfl
  -- The name is read once, and the styles of its value are tried in turn.
  have hnamed : ((named .double).read? (c :: cs)).or (((named .single).read? (c :: cs)).or
        ((named .bare).read? (c :: cs)))
      = (assigned? (c :: cs)).bind fun n =>
          ((quotedValue? '"' n.2).or ((quotedValue? '\'' n.2).or (bareValue? n.2))).bind
            fun v => some (⟨some n.1, v.1⟩, v.2) := by
    rw [hread, hread, hread]
    cases assigned? (c :: cs) with
    | none => rfl
    | some n =>
      let assignment (v : String × List Char) : Assignment × List Char := (⟨some n.1, v.1⟩, v.2)
      show _ = Option.bind _ (some ∘ assignment)
      rw [← Option.map_eq_bind, Option.map_or, Option.map_or]
      rfl
  have hquoted : ((alone .double).read? (c :: cs)).or ((alone .single).read? (c :: cs))
      = ((quotedValue? '"' (c :: cs)).or (quotedValue? '\'' (c :: cs))).map
          fun v => (⟨none, v.1⟩, v.2) := by
    rw [Option.map_or]
    rfl
  unfold order
  simp only [findSome?_cons_or, read?_run hc, List.findSome?_nil, Option.or_none]
  rw [hfirst, ← hnamed, ← hquoted, ← Option.or_some]
  simp only [Option.or_assoc]

/-- What the first form that fits gives is what the reader finds. -/
theorem FirstFits.first_eq (h : form.FirstFits cs found rest a) : first cs = (a, rest) := by
  have hread := firstFits_iff.1 ⟨form, found, h⟩
  obtain ⟨-, -, -, hfits, -⟩ := h
  obtain ⟨c, behind, rfl, hc⟩ := hfits.exists_cons
  rw [hfits.1, List.cons_append] at hread ⊢
  rw [findSome?_order hc] at hread
  exact Option.some.inj hread

/-- **Some form fits at every character that is no blank.** -/
theorem exists_firstFits {c : Char} (hc : isBlank c = false) (cs : List Char) :
    ∃ (form : Form) (found rest : List Char) (a : Assignment),
      form.FirstFits (c :: cs) found rest a := by
  obtain ⟨form, found, h⟩ := firstFits_iff.2 (findSome?_order hc cs)
  exact ⟨form, found, _, _, h⟩

/-- A form with a name comes before every form without one. -/
theorem named_mem_earlier {earlier later : List Form} {style style' : Style}
    (h : order = earlier ++ .alone style :: later) : .named style' ∈ earlier := by
  rcases earlier with _ | ⟨f, _ | ⟨f', _ | ⟨f'', earlier⟩⟩⟩
  · cases h
  · cases h
  · cases h
  · -- The first three forms are those with a name.
    obtain ⟨rfl, rfl, rfl, -⟩ :
        .named .double = f ∧ .named .single = f' ∧ .named .bare = f'' ∧ _ := by
      simpa [order] using h
    cases style' <;> simp

/-- **An assignment is without a name only where no form with a name fits.** -/
theorem FirstFits.name?_eq_none_iff (h : form.FirstFits cs found rest a) :
    a.name? = none ↔ ∀ style found' rest' a', ¬ (Form.named style).Fits cs found' rest' a' := by
  obtain ⟨earlier, later, horder, hfits, hnone⟩ := h
  cases form with
  | named style =>
    refine iff_of_false (fun hname => ?_) fun hno => hno style _ _ _ hfits
    obtain ⟨-, core, close, -, hwrites, -⟩ := hfits
    cases hwrites
    cases hname
  | alone style =>
    refine iff_of_true ?_ fun style' => hnone (.named style') (named_mem_earlier horder)
    obtain ⟨-, core, close, -, hwrites, -⟩ := hfits
    cases hwrites
    rfl

end Form

end ContentGate.Assignment
