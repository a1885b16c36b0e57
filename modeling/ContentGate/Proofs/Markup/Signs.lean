/-
  ContentGate.Proofs.Markup.Signs — what a reader of markup meets in a text.

  Two brackets and two quotes are the SIGNS of markup.  A reader goes
  through a text from left to right: a bracket opens a tag, the other
  bracket closes it, unless it stands between two quotes of the tag; a sign
  outside all tags is met as such.  `Bears cs ms` says that a reader meets
  the marks `ms` in `cs` and is outside all tags at its end.  Texts that are
  complete in this sense can be laid side by side (`Bears.append`).

  An escaped text has no sign and bears nothing.  In a message, what stands
  between two backticks becomes a code span (`CodeSpans`): the first
  backtick goes with the second, the third with the fourth, and one that is
  left over stays.

  Main statements:
    * `plain_escape`, `bears_of_plain` — escaped texts;
    * `occurrences_append` — a word in a text that is put together from parts;
    * `codeSpans_spans` — the code spans of a message;
    * `CodeSpans.bears`, `CodeSpans.free` — what a reader meets in them.
-/
import Mathlib.Data.List.Infix
import ContentGate.Markup.Entity

namespace ContentGate.Markup

/-! ## §1. Signs -/

/-- The characters that mean something in markup: two brackets and two quotes. -/
def isSign (c : Char) : Bool := c == '<' || c == '>' || c == '"' || c == '\''

/-- A text without any sign. -/
def Plain (cs : List Char) : Prop := ∀ c ∈ cs, isSign c = false

theorem Plain.bracket_not_mem {cs : List Char} (h : Plain cs) : '<' ∉ cs := by
  intro hmem
  cases h '<' hmem

/-- The characters of an escaped text. -/
def escaped (cs : List Char) : List Char := cs.flatMap escapeChar

theorem toList_escape (s : String) : (escape s).toList = escaped s.toList := by
  unfold escape escaped
  rw [String.toList_ofList]

/-- The references that stand for characters in an escaped text. -/
def references : List (List Char) :=
  ["&amp;".toList, "&lt;".toList, "&gt;".toList, "&quot;".toList, "&#x27;".toList, "&#x2F;".toList]

/-- A character is escaped by one of the references, or means nothing and stays. -/
theorem escapeChar_cases (c : Char) :
    escapeChar c ∈ references ∨ escapeChar c = [c] ∧ isSign c = false := by
  unfold escapeChar
  split
  · exact .inl (by decide)
  split
  · exact .inl (by decide)
  split
  · exact .inl (by decide)
  split
  · exact .inl (by decide)
  split
  · exact .inl (by decide)
  split
  · exact .inl (by decide)
  · rename_i hlt hgt hdouble hsingle _
    exact .inr ⟨rfl, by simp [isSign, hlt, hgt, hdouble, hsingle]⟩

theorem plain_escapeChar (c : Char) : Plain (escapeChar c) := by
  have hreferences : references.all (fun r => r.all (!isSign ·)) = true := by decide
  rcases escapeChar_cases c with hc | ⟨hc, hsign⟩
  · intro d hd
    have hsafe := List.all_eq_true.1 (List.all_eq_true.1 hreferences _ hc) d hd
    simpa using hsafe
  · rw [hc]
    exact List.forall_mem_singleton.2 hsign

theorem plain_escaped (cs : List Char) : Plain (escaped cs) := by
  intro d hd
  obtain ⟨c, -, hc⟩ := List.mem_flatMap.1 hd
  exact plain_escapeChar c d hc

/-- **An escaped text has no sign.** -/
theorem plain_escape (s : String) : Plain (escape s).toList := by
  rw [toList_escape]
  exact plain_escaped s.toList

/-! ## §2. Marks -/

/-- What a reader meets: a tag, or a sign outside all tags. -/
inductive Mark where
  | tag (text : List Char)
  | sign (c : Char)
  deriving Repr, DecidableEq

/-- Where a reader is: outside all tags, or in a tag of which it has read some
text (backwards), and there perhaps between two quotes. -/
inductive Place where
  | outside
  | inside (quote? : Option Char) (reversed : List Char)
  deriving Repr, DecidableEq

namespace Place

/-- Reads a character: what is met with it, and where the reader is behind it. -/
def next : Place → Char → List Mark × Place
  | .outside, c =>
    if c = '<' then ([], .inside none [])
    else (if isSign c then [.sign c] else [], .outside)
  | .inside none reversed, c =>
    if c = '>' then ([.tag reversed.reverse], .outside)
    else ([], .inside (if c = '"' ∨ c = '\'' then some c else none) (c :: reversed))
  | .inside (some quote) reversed, c =>
    ([], .inside (if c = quote then none else some quote) (c :: reversed))

/-- Reads a text. -/
def read : Place → List Char → List Mark × Place
  | p, [] => ([], p)
  | p, c :: cs =>
    let (met, q) := p.next c
    let (later, r) := q.read cs
    (met ++ later, r)

theorem read_append (p : Place) (cs ds : List Char) :
    p.read (cs ++ ds)
      = ((p.read cs).1 ++ ((p.read cs).2.read ds).1, ((p.read cs).2.read ds).2) := by
  induction cs generalizing p with
  | nil => rfl
  | cons c cs ih =>
    rw [List.cons_append, read, read]
    obtain ⟨met, q⟩ := p.next c
    simp only [ih, List.append_assoc]

end Place

/-- The marks of a text. -/
def marks (s : String) : List Mark := (Place.outside.read s.toList).1

/-- A reader meets these marks in the text, and is outside all tags behind it. -/
def Bears (cs : List Char) (ms : List Mark) : Prop := Place.outside.read cs = (ms, .outside)

instance (cs : List Char) (ms : List Mark) : Decidable (Bears cs ms) :=
  inferInstanceAs (Decidable (_ = _))

theorem bears_nil : Bears [] [] := rfl

/-- **Complete texts are read one after the other.** -/
theorem Bears.append {cs ds : List Char} {ms ns : List Mark} (hcs : Bears cs ms)
    (hds : Bears ds ns) : Bears (cs ++ ds) (ms ++ ns) := by
  unfold Bears at *
  rw [Place.read_append, hcs, hds]

/-- **A text without signs bears nothing.** -/
theorem bears_of_plain {cs : List Char} (h : Plain cs) : Bears cs [] := by
  induction cs with
  | nil => exact bears_nil
  | cons c cs ih =>
    obtain ⟨hc, hcs⟩ := List.forall_mem_cons.1 h
    have hlt : c ≠ '<' := by
      rintro rfl
      cases hc
    have hread : Bears [c] [] := by
      unfold Bears
      simp [Place.read, Place.next, hlt, hc]
    exact hread.append (ih hcs)

/-! ## §3. Occurrences of a word -/

/-- How often a word occurs in a text. -/
def occurrences (w : List Char) : List Char → Nat
  | [] => 0
  | c :: cs => (if w <+: c :: cs then 1 else 0) + occurrences w cs

/-- No end of the text is the beginning of the word and not all of it. -/
def EndsApart (w cs : List Char) : Prop := ∀ e ∈ cs.tails, e <+: w → e = [] ∨ e = w

instance (w cs : List Char) : Decidable (EndsApart w cs) :=
  inferInstanceAs (Decidable (∀ e ∈ cs.tails, e <+: w → e = [] ∨ e = w))

/-- **No occurrence lies across** the end of a text that ends apart from the word. -/
theorem occurrences_append {w cs : List Char} (h : EndsApart w cs) (ds : List Char) :
    occurrences w (cs ++ ds) = occurrences w cs + occurrences w ds := by
  induction cs with
  | nil => exact (Nat.zero_add _).symm
  | cons c cs ih =>
    have hcs : EndsApart w cs := fun e he =>
      h e ((List.mem_tails e (c :: cs)).2
        (((List.mem_tails e cs).1 he).trans (List.suffix_cons c cs)))
    have hhead : w <+: c :: (cs ++ ds) ↔ w <+: c :: cs := by
      constructor
      · intro hw
        rcases List.prefix_or_prefix_of_prefix hw (List.prefix_append (c :: cs) ds) with hw | hw
        · exact hw
        · -- All of the text would be the beginning of the word.
          rcases h (c :: cs) ((List.mem_tails _ _).2 List.suffix_rfl) hw with heq | heq
          · cases heq
          · rw [heq]
      · intro hw
        exact hw.trans (List.prefix_append (c :: cs) ds)
    rw [List.cons_append, occurrences, occurrences, ih hcs]
    simp only [hhead]
    omega

theorem EndsApart.append {w cs ds : List Char} (hcs : EndsApart w cs) (hds : EndsApart w ds) :
    EndsApart w (cs ++ ds) := by
  intro e he hbegins
  obtain ⟨before, heq⟩ := (List.mem_tails _ _).1 he
  rcases List.append_eq_append_iff.1 heq with ⟨front, rfl, rfl⟩ | ⟨between, rfl, rfl⟩
  · -- The end reaches into the first text, of which it has an end in front.
    have hfront : front ∈ (before ++ front).tails := (List.mem_tails _ _).2 (List.suffix_append _ _)
    rcases hcs front hfront ((List.prefix_append _ _).trans hbegins) with rfl | rfl
    · exact hds ds ((List.mem_tails _ _).2 List.suffix_rfl) hbegins
    · exact .inr (hbegins.eq_of_length_le (by simp))
  · exact hds e ((List.mem_tails _ _).2 (List.suffix_append _ _)) hbegins

/-- The word does not occur in the text, nor does it begin at its end. -/
structure Free (w cs : List Char) : Prop where
  endsApart : EndsApart w cs
  none : occurrences w cs = 0

theorem Free.append {w cs ds : List Char} (hcs : Free w cs) (hds : Free w ds) :
    Free w (cs ++ ds) := by
  refine ⟨hcs.endsApart.append hds.endsApart, ?_⟩
  rw [occurrences_append hcs.endsApart, hcs.none, hds.none]

/-- A text without the first character of the word is free of it. -/
theorem free_of_not_mem {a : Char} {w cs : List Char} (h : a ∉ cs) : Free (a :: w) cs := by
  constructor
  · intro e he hbegins
    cases e with
    | nil => exact .inl rfl
    | cons b e =>
      -- The end of the text would begin as the word does.
      obtain rfl : b = a := (List.cons_prefix_cons.1 hbegins).1
      exact absurd (((List.mem_tails _ _).1 he).subset List.mem_cons_self) h
  · induction cs with
    | nil => rfl
    | cons c cs ih =>
      rw [List.mem_cons, not_or] at h
      have hhead : ¬ a :: w <+: c :: cs := fun hw => h.1 (List.cons_prefix_cons.1 hw).1
      rw [occurrences, if_neg hhead, ih h.2]

/-! ## §4. Code spans -/

/-- The markup of a message: escaped text in which what stands between two
backticks is a code span.  Backticks are paired from left to right. -/
inductive CodeSpans : (message markup : List Char) → Prop
  /-- One backtick makes no span. -/
  | rest {m} (h : m.count '\x60' ≤ 1) : CodeSpans m (escaped m)
  /-- The first two backticks make one. -/
  | span {p q m out} (hp : '\x60' ∉ p) (hq : '\x60' ∉ q) (hrest : CodeSpans m out) :
    CodeSpans (p ++ '\x60' :: (q ++ '\x60' :: m))
      (escaped p ++ ("<code>".toList ++ (escaped q ++ ("</code>".toList ++ out))))

theorem escaped_append (cs ds : List Char) : escaped (cs ++ ds) = escaped cs ++ escaped ds :=
  List.flatMap_append

theorem escaped_backtick (cs : List Char) : escaped ('\x60' :: cs) = '\x60' :: escaped cs := rfl

theorem backtick_not_mem_escaped {cs : List Char} (h : '\x60' ∉ cs) : '\x60' ∉ escaped cs := by
  intro hmem
  obtain ⟨c, hc, hin⟩ := List.mem_flatMap.1 hmem
  have hne : c ≠ '\x60' := by
    rintro rfl
    exact h hc
  have hreferences : ∀ r ∈ references, '\x60' ∉ r := by decide
  rcases escapeChar_cases c with hreference | ⟨hself, -⟩
  · exact hreferences _ hreference hin
  · rw [hself] at hin
    exact hne (List.mem_singleton.1 hin).symm

theorem codeSpansFrom_outside {cs : List Char} (h : '\x60' ∉ cs) (rest : List Char) :
    codeSpansFrom false (cs ++ rest) = cs ++ codeSpansFrom false rest := by
  induction cs with
  | nil => rfl
  | cons c cs ih =>
    rw [List.mem_cons, not_or] at h
    have hc : ¬ (c = '\x60' ∧ (cs ++ rest).contains '\x60') := fun hand => h.1 hand.1.symm
    rw [List.cons_append, codeSpansFrom, if_neg hc, ih h.2]
    rfl

theorem codeSpansFrom_inside {cs : List Char} (h : '\x60' ∉ cs) (rest : List Char) :
    codeSpansFrom true (cs ++ '\x60' :: rest)
      = cs ++ ("</code>".toList ++ codeSpansFrom false rest) := by
  induction cs with
  | nil => rfl
  | cons c cs ih =>
    rw [List.mem_cons, not_or] at h
    have hc : ¬ c = '\x60' := fun heq => h.1 heq.symm
    rw [List.cons_append, codeSpansFrom, if_neg hc, ih h.2]
    rfl

/-- Text with one backtick at most has no code span. -/
theorem codeSpansFrom_of_count_le {cs : List Char} (h : cs.count '\x60' ≤ 1) :
    codeSpansFrom false cs = cs := by
  by_cases hmem : '\x60' ∈ cs
  · obtain ⟨p, q, rfl, hp⟩ := List.eq_append_cons_of_mem hmem
    have hq : '\x60' ∉ q := by
      rw [List.count_append, List.count_cons_self] at h
      exact List.count_eq_zero.1 (by omega)
    have hlone : codeSpansFrom false ('\x60' :: q) = '\x60' :: codeSpansFrom false q := by
      have hnone : ¬ ('\x60' = '\x60' ∧ q.contains '\x60') := fun hand => hq (by simpa using hand.2)
      rw [codeSpansFrom, if_neg hnone]
    have hrest : codeSpansFrom false q = q := by
      simpa [codeSpansFrom] using codeSpansFrom_outside hq []
    rw [codeSpansFrom_outside hp, hlone, hrest]
  · simpa [codeSpansFrom] using codeSpansFrom_outside hmem []

theorem count_escaped_le {cs : List Char} (h : cs.count '\x60' ≤ 1) :
    (escaped cs).count '\x60' ≤ 1 := by
  by_cases hmem : '\x60' ∈ cs
  · obtain ⟨p, q, rfl, hp⟩ := List.eq_append_cons_of_mem hmem
    have hq : '\x60' ∉ q := by
      rw [List.count_append, List.count_cons_self] at h
      exact List.count_eq_zero.1 (by omega)
    rw [escaped_append, escaped_backtick, List.count_append, List.count_cons_self,
      List.count_eq_zero.2 (backtick_not_mem_escaped hp),
      List.count_eq_zero.2 (backtick_not_mem_escaped hq)]
  · rw [List.count_eq_zero.2 (backtick_not_mem_escaped hmem)]
    exact Nat.zero_le 1

/-- Two backticks cut a text into three parts. -/
theorem exists_span {cs : List Char} (h : ¬ cs.count '\x60' ≤ 1) :
    ∃ p q rest, cs = p ++ '\x60' :: (q ++ '\x60' :: rest) ∧ '\x60' ∉ p ∧ '\x60' ∉ q := by
  have hfirst : '\x60' ∈ cs := List.count_pos_iff.1 (by omega)
  obtain ⟨p, behind, rfl, hp⟩ := List.eq_append_cons_of_mem hfirst
  have hsecond : '\x60' ∈ behind := by
    rw [List.count_append, List.count_cons_self, List.count_eq_zero.2 hp] at h
    exact List.count_pos_iff.1 (by omega)
  obtain ⟨q, rest, rfl, hq⟩ := List.eq_append_cons_of_mem hsecond
  exact ⟨p, q, rest, rfl, hp, hq⟩

theorem codeSpansFrom_spans (cs : List Char) : CodeSpans cs (codeSpansFrom false (escaped cs)) := by
  -- A span takes several characters at once, so the induction is on the length.
  induction hn : cs.length using Nat.strongRecOn generalizing cs with
  | ind n ih =>
    subst hn
    by_cases hcount : cs.count '\x60' ≤ 1
    · rw [codeSpansFrom_of_count_le (count_escaped_le hcount)]
      exact .rest hcount
    · obtain ⟨p, q, rest, rfl, hp, hq⟩ := exists_span hcount
      have hlt : rest.length < (p ++ '\x60' :: (q ++ '\x60' :: rest)).length := by
        simp only [List.length_append, List.length_cons]
        omega
      have hopen : ∀ ds, codeSpansFrom false ('\x60' :: (escaped q ++ '\x60' :: ds))
          = "<code>".toList ++ codeSpansFrom true (escaped q ++ '\x60' :: ds) := by
        intro ds
        have hpair : '\x60' = '\x60' ∧ (escaped q ++ '\x60' :: ds).contains '\x60' :=
          ⟨rfl, by simp⟩
        rw [codeSpansFrom, if_pos hpair]
      rw [escaped_append, escaped_backtick, escaped_append, escaped_backtick,
        codeSpansFrom_outside (backtick_not_mem_escaped hp), hopen,
        codeSpansFrom_inside (backtick_not_mem_escaped hq)]
      exact .span hp hq (ih rest.length hlt rest rfl)

/-- **The backticks of a message are paired from left to right.** -/
theorem codeSpans_spans (s : String) : CodeSpans s.toList (codeSpans s).toList := by
  unfold codeSpans
  rw [String.toList_ofList, toList_escape]
  exact codeSpansFrom_spans s.toList

/-- The marks of some code spans, one after the other. -/
def codePairs (spans : Nat) : List Mark :=
  (List.replicate spans [Mark.tag "code".toList, Mark.tag "/code".toList]).flatten

namespace CodeSpans

variable {m out : List Char}

/-- **Code spans open and close in turn**, one for every two backticks, and
the markup of a message has no other sign. -/
theorem bears (h : CodeSpans m out) : Bears out (codePairs (m.count '\x60' / 2)) := by
  induction h with
  | rest hcount =>
    rename_i m
    have hnone : m.count '\x60' / 2 = 0 := by omega
    rw [hnone]
    exact bears_of_plain (plain_escaped m)
  | span hp hq hrest ih =>
    rename_i p q m out
    have hcount : (p ++ '\x60' :: (q ++ '\x60' :: m)).count '\x60' / 2 = m.count '\x60' / 2 + 1 := by
      rw [List.count_append, List.count_cons_self, List.count_append, List.count_cons_self,
        List.count_eq_zero.2 hp, List.count_eq_zero.2 hq]
      omega
    have hopen : Bears "<code>".toList [.tag "code".toList] := by decide
    have hclose : Bears "</code>".toList [.tag "/code".toList] := by decide
    rw [hcount]
    exact (bears_of_plain (plain_escaped p)).append
      (hopen.append ((bears_of_plain (plain_escaped q)).append (hclose.append ih)))

/-- A word that begins with a bracket is found in the markup of a message only
if it is found in the tags of code spans. -/
theorem free {w : List Char} (h : CodeSpans m out) (hopen : Free ('<' :: w) "<code>".toList)
    (hclose : Free ('<' :: w) "</code>".toList) : Free ('<' :: w) out := by
  have hplain : ∀ cs, Free ('<' :: w) (escaped cs) := fun cs =>
    free_of_not_mem (plain_escaped cs).bracket_not_mem
  induction h with
  | rest => exact hplain _
  | span hp hq hrest ih => exact (hplain _).append (hopen.append ((hplain _).append (hclose.append ih)))

end CodeSpans

end ContentGate.Markup
