/-
  ContentGate.Proofs.Tag.Coverage — the reader of attribute text skips nothing.

  The forms of assignments are searched in a text as a pattern is: a
  character at which no form fits is skipped, and where one fits, the
  first one in their order is a match, and the search goes on behind it
  (`Search`).  This says nothing of a reader.  Because a run of characters
  is one of the forms, only blanks are skipped, and the matches are what
  the reader finds.  So whatever an author writes becomes part of some
  assignment, and an assignment without a name is an attribute of its own.

  Main statements:
    * `exists_search`, `Search.unique` — there is one search of a text;
    * `Search.cover`, `Search.blank_of_skipped`, `Search.exists_cons_of_found`,
      `Search.unnamed_iff`, `Search.assignments` — what it covers, skips and finds;
    * `keys_foldl_assign`, `positional_foldl_assign`, `get?_foldl_assign` — the
      attributes of assignments;
    * `ofText_skips_nothing` — the whole of it.
-/
import Mathlib.Data.List.Induction
import ContentGate.Proofs.Tag.Entries
import ContentGate.Proofs.Tag.Forms

namespace ContentGate

open Text

/-! ## §1. The search -/

namespace Assignment

/-- A piece of a text that is searched. -/
inductive Piece where
  /-- A character at which no form fits. -/
  | skipped (c : Char)
  /-- A match, with the blank that ends it, and what it assigns. -/
  | found (chars : List Char) (a : Assignment)

namespace Piece

/-- The part of the text that the piece is. -/
def chars : Piece → List Char
  | .skipped c => [c]
  | .found chars _ => chars

/-- What the piece assigns. -/
def assignment? : Piece → Option Assignment
  | .skipped _ => none
  | .found _ a => some a

end Piece

/-- The search of a text for the forms: at each place the first form that fits is a match,
and a character is skipped only where none fits. -/
inductive Search : List Char → List Piece → Prop where
  | nil : Search [] []
  | skipped {c : Char} {cs : List Char} {ps : List Piece}
      (hnone : ∀ (form : Form) (found rest : List Char) (a : Assignment),
        ¬ form.Fits (c :: cs) found rest a)
      (h : Search cs ps) : Search (c :: cs) (.skipped c :: ps)
  | found {cs found rest : List Char} {form : Form} {a : Assignment} {ps : List Piece}
      (hfirst : form.FirstFits cs found rest a) (h : Search rest ps) :
      Search cs (.found found a :: ps)

variable {cs : List Char} {ps qs : List Piece} {c : Char} {form : Form}
  {found found' rest rest' : List Char} {a a' : Assignment}

theorem Form.FirstFits.fits (h : form.FirstFits cs found rest a) : form.Fits cs found rest a := by
  obtain ⟨-, -, -, hfits, -⟩ := h
  exact hfits

/-- A match is not empty. -/
theorem Form.FirstFits.length_lt (h : form.FirstFits cs found rest a) :
    rest.length < cs.length := by
  obtain ⟨c, behind, rfl, -⟩ := h.fits.exists_cons
  rw [h.fits.1, List.length_append, List.length_cons]
  omega

/-- No form fits at a blank. -/
theorem Form.not_fits_blank (hc : isBlank c = true) : ¬ form.Fits (c :: cs) found rest a := by
  intro h
  obtain ⟨d, behind, rfl, hd⟩ := h.exists_cons
  obtain rfl : c = d := (List.cons.inj h.1).1
  rw [hc] at hd
  cases hd

/-- The first form that fits gives one match, whichever form it is. -/
theorem Form.FirstFits.unique {form' : Form} (h : form.FirstFits cs found rest a)
    (h' : form'.FirstFits cs found' rest' a') : found = found' ∧ rest = rest' ∧ a = a' := by
  obtain ⟨rfl, rfl⟩ := Prod.mk.inj (h.first_eq.symm.trans h'.first_eq)
  exact ⟨List.append_cancel_right (h.fits.1.symm.trans h'.fits.1), rfl, rfl⟩

/-- **Every text can be searched**, -/
theorem exists_search (cs : List Char) : ∃ ps, Search cs ps := by
  -- A match takes several characters at once, so the induction is on the length.
  induction hn : cs.length using Nat.strongRecOn generalizing cs with
  | ind n ih =>
    subst hn
    cases cs with
    | nil => exact ⟨[], .nil⟩
    | cons c cs =>
      by_cases hc : isBlank c = true
      · obtain ⟨ps, hps⟩ := ih cs.length (Nat.lt_succ_self _) cs rfl
        exact ⟨_, .skipped (fun _ _ _ _ => Form.not_fits_blank hc) hps⟩
      · obtain ⟨form, found, rest, a, hfirst⟩ := Form.exists_firstFits (Bool.eq_false_iff.2 hc) cs
        obtain ⟨ps, hps⟩ := ih rest.length hfirst.length_lt rest rfl
        exact ⟨_, .found hfirst hps⟩

namespace Search

/-- in one way only. -/
theorem unique (h : Search cs ps) (h' : Search cs qs) : ps = qs := by
  induction h generalizing qs with
  | nil =>
    cases h' with
    | nil => rfl
    | found hfirst _ => exact absurd hfirst.length_lt (Nat.not_lt_zero _)
  | skipped hnone _ ih =>
    cases h' with
    | skipped _ h' => rw [ih h']
    | found hfirst _ => exact absurd hfirst.fits (hnone _ _ _ _)
  | found hfirst _ ih =>
    cases h' with
    | nil => exact absurd hfirst.length_lt (Nat.not_lt_zero _)
    | skipped hnone _ => exact absurd hfirst.fits (hnone _ _ _ _)
    | found hfirst' h' =>
      obtain ⟨rfl, rfl, rfl⟩ := hfirst.unique hfirst'
      rw [ih h']

/-- **The pieces are the text**, one behind the other. -/
theorem cover (h : Search cs ps) : cs = ps.flatMap Piece.chars := by
  induction h with
  | nil => rfl
  | @skipped c cs ps _ _ ih =>
    rw [List.flatMap_cons, ← ih]
    rfl
  | found hfirst _ ih =>
    rw [List.flatMap_cons, ← ih]
    exact hfirst.fits.1

/-- **Only blanks are skipped.** -/
theorem blank_of_skipped (h : Search cs ps) (hc : .skipped c ∈ ps) : isBlank c = true := by
  induction h with
  | nil => cases hc
  | skipped hnone _ ih =>
    rcases List.mem_cons.1 hc with heq | hc
    · cases heq
      by_contra hblank
      obtain ⟨form, found, rest, a, hfirst⟩ :=
        Form.exists_firstFits (Bool.eq_false_iff.2 hblank) _
      exact hnone form found rest a hfirst.fits
    · exact ih hc
  | found _ _ ih =>
    rcases List.mem_cons.1 hc with heq | hc
    · cases heq
    · exact ih hc

/-- **Every match begins with a character that is no blank.** -/
theorem exists_cons_of_found (h : Search cs ps) (hfound : .found found a ∈ ps) :
    ∃ c behind, found = c :: behind ∧ isBlank c = false := by
  induction h with
  | nil => cases hfound
  | skipped _ _ ih =>
    rcases List.mem_cons.1 hfound with heq | hfound
    · cases heq
    · exact ih hfound
  | found hfirst _ ih =>
    rcases List.mem_cons.1 hfound with heq | hfound
    · cases heq
      exact hfirst.fits.exists_cons
    · exact ih hfound

/-- The search goes on behind every piece. -/
theorem suffix (h : Search cs (ps ++ qs)) : Search (qs.flatMap Piece.chars) qs := by
  induction ps generalizing cs with
  | nil => exact h.cover ▸ h
  | cons p ps ih =>
    cases h with
    | skipped _ h => exact ih h
    | found _ h => exact ih h

/-- **A match is without a name only where no form with a name fits.** -/
theorem unnamed_iff (h : Search cs (ps ++ .found found a :: qs)) :
    a.name? = none ↔ ∀ style found' rest' a',
      ¬ (Form.named style).Fits (found ++ qs.flatMap Piece.chars) found' rest' a' := by
  have hsuffix : Search (found ++ qs.flatMap Piece.chars) (.found found a :: qs) := h.suffix
  generalize found ++ qs.flatMap Piece.chars = place at hsuffix ⊢
  cases hsuffix with
  | found hfirst _ => exact hfirst.name?_eq_none_iff

/-- **The matches are what the reader finds**, in order. -/
theorem assignments (h : Search cs ps) : ps.filterMap Piece.assignment? = list cs := by
  show _ = listFrom 0 cs
  induction h with
  | nil => rfl
  | @skipped c cs ps hnone h ih =>
    have hc : isBlank c = true := (Search.skipped hnone h).blank_of_skipped List.mem_cons_self
    rw [List.filterMap_cons_none rfl, ih, listFrom, if_pos hc]
  | @found cs found rest form a ps hfirst _ ih =>
    obtain ⟨c, behind, rfl, hc⟩ := hfirst.fits.exists_cons
    have hcs : cs = c :: (behind ++ rest) := hfirst.fits.1
    subst hcs
    show a :: ps.filterMap Piece.assignment? = _
    rw [ih]
    exact (listFrom_first hc hfirst.first_eq rfl).symm

end Search

/-! ## §2. Keys and values of assignments -/

/-- The key of an assignment, if `n` values without a name were before it. -/
def keyAt (n : Nat) (s : Assignment) : AttributeKey :=
  match s.name? with
  | some name => .named name
  | none => .positional n

/-- The keys of assignments; values without a name are numbered in order. -/
def keysFrom : (n : Nat) → List Assignment → List AttributeKey
  | _, [] => []
  | n, s :: as => s.keyAt n :: keysFrom (if s.name?.isNone then n + 1 else n) as

/-- The assignments without a name. -/
def unnamed (as : List Assignment) : List Assignment := as.filter (·.name?.isNone)

/-- The assignments of a name. -/
def ofName (name : String) (as : List Assignment) : List Assignment :=
  as.filter (·.name? == some name)

theorem keysFrom_concat (n : Nat) (as : List Assignment) (s : Assignment) :
    keysFrom n (as ++ [s]) = keysFrom n as ++ [s.keyAt (n + (unnamed as).length)] := by
  induction as generalizing n with
  | nil => rfl
  | cons s' as ih =>
    obtain ⟨name?, value⟩ := s'
    cases name? with
    | some name =>
      show _ :: keysFrom n (as ++ [s]) = _ :: (keysFrom n as ++ [s.keyAt (n + (unnamed as).length)])
      rw [ih]
    | none =>
      show _ :: keysFrom (n + 1) (as ++ [s])
        = _ :: (keysFrom (n + 1) as ++ [s.keyAt (n + ((unnamed as).length + 1))])
      rw [ih, Nat.add_assoc, Nat.add_comm 1]

theorem unnamed_concat (as : List Assignment) (s : Assignment) :
    unnamed (as ++ [s]) = unnamed as ++ unnamed [s] := List.filter_append ..

theorem ofName_concat (name : String) (as : List Assignment) (s : Assignment) :
    ofName name (as ++ [s]) = ofName name as ++ ofName name [s] := List.filter_append ..

end Assignment

namespace Attributes

open Assignment

variable {a : Attributes} {as : List Assignment} {s : Assignment}

theorem filter_setEntry_named (name value : String) (es : List (AttributeKey × String)) :
    (setEntry (.named name) value es).filter (·.1.isPositional)
      = es.filter (·.1.isPositional) := by
  induction es with
  | nil => rfl
  | cons e es ih =>
    obtain ⟨key, v⟩ := e
    rw [setEntry]
    by_cases hkey : key = .named name
    · rw [if_pos hkey, hkey]
      rfl
    · rw [if_neg hkey, List.filter_cons, List.filter_cons, ih]

/-- How many numbers there are among the keys. -/
theorem positionals_keys (a : Attributes) :
    positionals a.keys = (a.entries.filter (·.1.isPositional)).length := by
  unfold positionals keys
  rw [List.countP_map, List.countP_eq_length_filter]
  rfl

/-- **The values without a name**, numbered in order. -/
theorem positional_foldl_assign (as : List Assignment) :
    (as.foldl assign empty).entries.filter (·.1.isPositional)
      = (unnamed as).zipIdx.map fun p => (.positional p.2, p.1.value) := by
  induction as using List.reverseRecOn with
  | nil => rfl
  | append_singleton as s ih =>
    have horder : InOrder 0 (as.foldl assign empty).keys := inOrder_foldl_assign trivial
    have hcount : positionals (as.foldl assign empty).keys = (unnamed as).length := by
      rw [positionals_keys, ih, List.length_map, List.length_zipIdx]
    rw [List.foldl_append, unnamed_concat]
    obtain ⟨name?, value⟩ := s
    cases name? with
    | some name =>
      show (setEntry (.named name) value _).filter _ = _
      rw [filter_setEntry_named, ih]
      show _ = ((unnamed as ++ []).zipIdx).map _
      rw [List.append_nil]
    | none =>
      show ((as.foldl assign empty).pushPositional value).entries.filter _ = _
      rw [pushPositional_entries horder, List.filter_append, ih, hcount, List.zipIdx_append,
        List.map_append]
      show _ = _ ++ [(AttributeKey.positional (0 + (unnamed as).length), value)]
      rw [Nat.zero_add]
      rfl

/-- Every assignment sets the value of its key. -/
theorem assign_eq_insert (as : List Assignment) (s : Assignment) :
    (as.foldl assign empty).assign s
      = (as.foldl assign empty).insert (s.keyAt (unnamed as).length) s.value := by
  obtain ⟨name?, value⟩ := s
  cases name? with
  | some name => rfl
  | none =>
    show (as.foldl assign empty).insert
        (.positional (positionals (as.foldl assign empty).keys)) value
      = (as.foldl assign empty).insert (.positional (unnamed as).length) value
    rw [positionals_keys, positional_foldl_assign, List.length_map, List.length_zipIdx]

/-- **A key stands where it was first set.** -/
theorem keys_foldl_assign (as : List Assignment) :
    (as.foldl assign empty).keys = (keysFrom 0 as).eraseDups := by
  induction as using List.reverseRecOn with
  | nil => rfl
  | append_singleton as s ih =>
    rw [List.foldl_append]
    show ((as.foldl assign empty).assign s).keys = _
    rw [assign_eq_insert, keys_insert, ih, keysFrom_concat, eraseDups_concat, Nat.zero_add]

/-- **A name has the value that was set last.** -/
theorem get?_foldl_assign (name : String) (as : List Assignment) :
    (as.foldl assign empty).get? name = ((ofName name as).getLast?).map (·.value) := by
  induction as using List.reverseRecOn with
  | nil => rfl
  | append_singleton as s ih =>
    rw [List.foldl_append, ofName_concat]
    show ((as.foldl assign empty).assign s).find? (.named name) = _
    rw [assign_eq_insert, find?_insert]
    by_cases hname : s.name? = some name
    · have hkey : s.keyAt (unnamed as).length = .named name := by
        unfold keyAt
        rw [hname]
      have hof : ofName name [s] = [s] := List.filter_cons_of_pos (by simpa using hname)
      rw [if_pos hkey, hof, List.getLast?_concat]
      rfl
    · have hkey : s.keyAt (unnamed as).length ≠ .named name := by
        unfold keyAt
        split
        · rename_i other hother
          intro heq
          exact hname (hother.trans (congrArg some (AttributeKey.named.inj heq)))
        · intro heq
          cases heq
      have hof : ofName name [s] = [] := List.filter_cons_of_neg (by simpa using hname)
      rw [if_neg hkey, hof, List.append_nil]
      exact ih

/-- **The reader of attribute text skips nothing.**  The text, with its invisible spaces
replaced, can be searched for the forms of assignments in one way.  The pieces of the search
are the text, one behind the other; only blanks are skipped; every match begins with a
character that is no blank, and assigns one value; and it does so without a name wherever no
form with a name fits.  The attributes that are read have the keys of these assignments, each
where it stood first, if the values without a name are numbered 0, 1, 2, … as they come; each
of those is an entry of its own; and a name has the value of its last match. -/
theorem ofText_skips_nothing (text : List Char) :
    let a := ofText text
    ∃ pieces, Search (visibleSpaces text) pieces
      ∧ (∀ others, Search (visibleSpaces text) others → others = pieces)
      ∧ visibleSpaces text = pieces.flatMap Piece.chars
      ∧ (∀ c, .skipped c ∈ pieces → isBlank c = true)
      ∧ (∀ found s, .found found s ∈ pieces → ∃ c behind, found = c :: behind ∧ isBlank c = false)
      ∧ (∀ before found s after, pieces = before ++ .found found s :: after →
          (s.name? = none ↔ ∀ style found' rest s',
            ¬ (Form.named style).Fits (found ++ after.flatMap Piece.chars) found' rest s'))
      ∧ a.keys = (keysFrom 0 (pieces.filterMap Piece.assignment?)).eraseDups
      ∧ a.entries.filter (·.1.isPositional)
          = (unnamed (pieces.filterMap Piece.assignment?)).zipIdx.map
              (fun p => (.positional p.2, p.1.value))
      ∧ ∀ name, a.get? name
          = ((ofName name (pieces.filterMap Piece.assignment?)).getLast?).map (·.value) := by
  intro a
  obtain ⟨pieces, hpieces⟩ := exists_search (visibleSpaces text)
  have hassignments := hpieces.assignments
  refine ⟨pieces, hpieces, fun others hothers => hothers.unique hpieces, hpieces.cover,
    fun c => hpieces.blank_of_skipped, fun found s => hpieces.exists_cons_of_found,
    fun before found s after heq => (heq ▸ hpieces).unnamed_iff, ?_, ?_, ?_⟩
  · rw [hassignments]
    exact keys_foldl_assign _
  · rw [hassignments]
    exact positional_foldl_assign _
  · intro name
    rw [hassignments]
    exact get?_foldl_assign name _

end Attributes

end ContentGate
