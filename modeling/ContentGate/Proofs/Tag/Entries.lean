/-
  ContentGate.Proofs.Tag.Entries — the attributes of a tag as they come from its text.

  Attributes are known by their keys, in order, and the value of each.  They
  are set one assignment after the other.  Values without a name are numbered
  in the order in which they come, so the keys stand in order: 0, 1, 2, … with
  names between them (`InOrder`).  Setting the entries of such attributes
  again, one after the other, gives them back (`foldl_assign_assignment`).

  Main statements:
    * `keys_insert`, `find?_insert`, `ext_keys` — keys and values;
    * `inOrder_ofText` — keys stand in order;
    * `assignment_mem_of_mem_ofText` — an attribute is an assignment of the text;
    * `foldl_assign_assignment` — attributes from their assignments.
-/
import ContentGate.Proofs.Tag.Assignments

namespace ContentGate

open Text

/-! ## §1. One entry -/

section
variable {key : AttributeKey} {value : String} {es : List (AttributeKey × String)}

theorem mem_setEntry {e : AttributeKey × String} (h : e ∈ setEntry key value es) :
    e ∈ es ∨ e = (key, value) := by
  induction es with
  | nil => exact .inr (List.mem_singleton.1 h)
  | cons e' es ih =>
    obtain ⟨k, v⟩ := e'
    rw [setEntry] at h
    by_cases hk : k = key
    · rw [if_pos hk] at h
      rcases List.mem_cons.1 h with rfl | h
      · exact .inr rfl
      · exact .inl (List.mem_cons_of_mem _ h)
    · rw [if_neg hk] at h
      rcases List.mem_cons.1 h with rfl | h
      · exact .inl List.mem_cons_self
      · exact (ih h).imp_left (List.mem_cons_of_mem _)

theorem keys_setEntry_of_mem (h : key ∈ es.map (·.1)) :
    (setEntry key value es).map (·.1) = es.map (·.1) := by
  induction es with
  | nil => cases h
  | cons e es ih =>
    obtain ⟨k, v⟩ := e
    rw [setEntry]
    by_cases hk : k = key
    · rw [if_pos hk, List.map_cons, List.map_cons, hk]
    · have hes : key ∈ es.map (·.1) := (List.mem_cons.1 h).resolve_left (fun heq => hk heq.symm)
      rw [if_neg hk, List.map_cons, List.map_cons, ih hes]

/-- A new key goes to the end. -/
theorem setEntry_of_not_mem (h : key ∉ es.map (·.1)) :
    setEntry key value es = es ++ [(key, value)] := by
  induction es with
  | nil => rfl
  | cons e es ih =>
    obtain ⟨k, v⟩ := e
    rw [List.map_cons, List.mem_cons, not_or] at h
    rw [setEntry, if_neg (fun heq => h.1 heq.symm), ih h.2]
    rfl

end

namespace Attributes

/-- A key has the value that stands with it. -/
theorem find?_of_mem {a : Attributes} {key : AttributeKey} {value : String}
    (h : (key, value) ∈ a.entries) : a.find? key = some value := by
  have hfound : ∀ es : List (AttributeKey × String), (es.map (·.1)).Nodup → (key, value) ∈ es →
      es.find? (·.1 == key) = some (key, value) := by
    intro es hnodup hmem
    induction es with
    | nil => cases hmem
    | cons e es ih =>
      rw [List.map_cons, List.nodup_cons] at hnodup
      rcases List.mem_cons.1 hmem with rfl | hmem
      · exact List.find?_cons_of_pos (beq_self_eq_true key)
      · have hne : e.1 ≠ key := by
          rintro rfl
          exact hnodup.1 (List.mem_map.2 ⟨_, hmem, rfl⟩)
        rw [List.find?_cons_of_neg (by simpa using hne)]
        exact ih hnodup.2 hmem
  unfold find?
  rw [hfound a.entries a.distinct h]
  rfl

/-! ## §2. Keys and values -/

section
variable {a b : Attributes} {key : AttributeKey} {value : String}

theorem map_find?_cons (key : AttributeKey) (e : AttributeKey × String)
    (es : List (AttributeKey × String)) :
    ((e :: es).find? (·.1 == key)).map (·.2)
      = if e.1 = key then some e.2 else (es.find? (·.1 == key)).map (·.2) := by
  by_cases h : e.1 = key
  · rw [if_pos h, List.find?_cons_of_pos (by simpa using h)]
    rfl
  · rw [if_neg h, List.find?_cons_of_neg (by simpa using h)]

theorem find?_setEntry (key key' : AttributeKey) (value : String)
    (es : List (AttributeKey × String)) :
    ((setEntry key value es).find? (·.1 == key')).map (·.2)
      = if key = key' then some value else (es.find? (·.1 == key')).map (·.2) := by
  induction es with
  | nil =>
    rw [setEntry, map_find?_cons]
  | cons e es ih =>
    obtain ⟨k, v⟩ := e
    rw [setEntry]
    by_cases hk : k = key
    · rw [if_pos hk, hk, map_find?_cons, map_find?_cons]
      by_cases h : key = key'
      · rw [if_pos h, if_pos h]
      · rw [if_neg h, if_neg h, if_neg h]
    · rw [if_neg hk, map_find?_cons, map_find?_cons, ih]
      by_cases h : key = key'
      · have hne : ¬ k = key' := fun heq => hk (heq.trans h.symm)
        rw [if_pos h, if_pos h, if_neg hne]
      · rw [if_neg h, if_neg h]

theorem find?_insert (a : Attributes) (key key' : AttributeKey) (value : String) :
    (a.insert key value).find? key' = if key = key' then some value else a.find? key' :=
  find?_setEntry key key' value a.entries

/-- One more element stands at the end if it is new. -/
theorem eraseDups_concat {α : Type} [DecidableEq α] (xs : List α) (x : α) :
    (xs ++ [x]).eraseDups = if x ∈ xs.eraseDups then xs.eraseDups else xs.eraseDups ++ [x] := by
  rw [List.eraseDups_append]
  by_cases h : x ∈ xs
  · rw [if_pos (List.mem_eraseDups.2 h)]
    simp [List.removeAll, h]
  · rw [if_neg (mt List.mem_eraseDups.1 h)]
    simp [List.removeAll, h, List.eraseDups_cons]

theorem keys_insert (a : Attributes) (key : AttributeKey) (value : String) :
    (a.insert key value).keys = if key ∈ a.keys then a.keys else a.keys ++ [key] := by
  by_cases h : key ∈ a.keys
  · rw [if_pos h]
    exact keys_setEntry_of_mem h
  · rw [if_neg h]
    show (setEntry key value a.entries).map (·.1) = _
    rw [setEntry_of_not_mem h, List.map_append]
    rfl

/-- The value of a key is the one that stands with it. -/
theorem find?_eq_some_iff : a.find? key = some value ↔ (key, value) ∈ a.entries := by
  constructor
  · intro h
    obtain ⟨e, he, rfl⟩ := Option.map_eq_some_iff.1 h
    have hkey : e.1 = key := by simpa using List.find?_some he
    rw [← hkey]
    exact List.mem_of_find?_eq_some he
  · exact find?_of_mem

/-- The entries are the keys with their values. -/
theorem entries_eq (a : Attributes) :
    a.entries = a.keys.map fun key => (key, (a.find? key).getD "") := by
  unfold keys
  rw [List.map_map]
  conv_lhs => rw [← List.map_id a.entries]
  refine List.map_congr_left ?_
  rintro ⟨key, value⟩ he
  show (key, value) = (key, (a.find? key).getD "")
  rw [find?_of_mem he]
  rfl

/-- **Attributes with the same keys in the same order and the same values are the same.** -/
theorem ext_keys (hkeys : a.keys = b.keys) (hfind : ∀ key, a.find? key = b.find? key) : a = b := by
  refine ext_entries ?_
  rw [a.entries_eq, b.entries_eq, hkeys]
  simp only [hfind]

/-- A rearrangement of the entries keeps the values. -/
theorem find?_eq_of_perm (h : a.entries.Perm b.entries) (key : AttributeKey) :
    a.find? key = b.find? key := by
  refine Option.ext ?_
  intro value
  rw [find?_eq_some_iff, find?_eq_some_iff]
  exact h.mem_iff

end

/-! ## §3. Keys in order -/

/-- The numbers among the keys are `n`, `n + 1` and so on. -/
def InOrder : (n : Nat) → List AttributeKey → Prop
  | _, [] => True
  | n, .named _ :: ks => InOrder n ks
  | n, .positional i :: ks => i = n ∧ InOrder (n + 1) ks

/-- How many of the keys are numbers. -/
def positionals (ks : List AttributeKey) : Nat := ks.countP AttributeKey.isPositional

section
variable {n i : Nat} {ks ls : List AttributeKey}

@[simp] theorem positionals_named (name : String) :
    positionals (.named name :: ks) = positionals ks :=
  List.countP_cons_of_neg Bool.false_ne_true

@[simp] theorem positionals_positional : positionals (.positional i :: ks) = positionals ks + 1 :=
  List.countP_cons_of_pos rfl

theorem inOrder_append :
    InOrder n (ks ++ ls) ↔ InOrder n ks ∧ InOrder (n + positionals ks) ls := by
  induction ks generalizing n with
  | nil => simp [InOrder, positionals]
  | cons k ks ih =>
    cases k with
    | named name =>
      show InOrder n (ks ++ ls) ↔ InOrder n ks ∧ _
      rw [ih, positionals_named]
    | positional i =>
      show i = n ∧ InOrder (n + 1) (ks ++ ls) ↔ (i = n ∧ InOrder (n + 1) ks) ∧ _
      have hcount : n + positionals (.positional i :: ks) = n + 1 + positionals ks := by
        rw [positionals_positional]
        omega
      rw [ih, hcount, and_assoc]

/-- No number is as great as their count. -/
theorem lt_of_inOrder (h : InOrder n ks) (hi : AttributeKey.positional i ∈ ks) :
    i < n + positionals ks := by
  induction ks generalizing n with
  | nil => cases hi
  | cons k ks ih =>
    cases k with
    | named name =>
      have hks := ih h ((List.mem_cons.1 hi).resolve_left nofun)
      rwa [positionals_named]
    | positional j =>
      obtain ⟨rfl, h⟩ := h
      rw [positionals_positional]
      rcases List.mem_cons.1 hi with heq | hi
      · cases heq
        omega
      · have hks := ih h hi
        omega

end

/-! ## §4. Setting one assignment after the other -/

section
variable {a : Attributes} {s : Assignment}

/-- The next number is a new key. -/
theorem positional_not_mem_keys (h : InOrder 0 a.keys) :
    AttributeKey.positional (positionals a.keys) ∉ a.keys := by
  intro hmem
  have hlt := lt_of_inOrder h hmem
  omega

theorem pushPositional_entries (h : InOrder 0 a.keys) (value : String) :
    (a.pushPositional value).entries
      = a.entries ++ [(.positional (positionals a.keys), value)] :=
  setEntry_of_not_mem (positional_not_mem_keys h)

theorem inOrder_assign (h : InOrder 0 a.keys) (s : Assignment) : InOrder 0 (a.assign s).keys := by
  obtain ⟨name?, value⟩ := s
  cases name? with
  | none =>
    show InOrder 0 ((a.pushPositional value).entries.map (·.1))
    rw [pushPositional_entries h, List.map_append]
    refine inOrder_append.2 ⟨h, ?_⟩
    show positionals a.keys = 0 + positionals a.keys ∧ True
    exact ⟨(Nat.zero_add _).symm, trivial⟩
  | some name =>
    show InOrder 0 ((setEntry (.named name) value a.entries).map (·.1))
    by_cases hmem : AttributeKey.named name ∈ a.entries.map (·.1)
    · rw [keys_setEntry_of_mem hmem]
      exact h
    · rw [setEntry_of_not_mem hmem, List.map_append]
      exact inOrder_append.2 ⟨h, trivial⟩

/-- What is in the attributes then was in them before, or is the assignment. -/
theorem mem_entries_assign {e : AttributeKey × String} (h : e ∈ (a.assign s).entries) :
    e ∈ a.entries ∨ assignment e = s := by
  obtain ⟨name?, value⟩ := s
  cases name? with
  | none =>
    rcases mem_setEntry h with h | rfl
    · exact .inl h
    · exact .inr rfl
  | some name =>
    rcases mem_setEntry h with h | rfl
    · exact .inl h
    · exact .inr rfl

/-- Of a new entry with the next number, the assignment sets the entry. -/
theorem assign_assignment {e : AttributeKey × String} {ks : List AttributeKey}
    (horder : InOrder 0 (a.keys ++ e.1 :: ks)) (hnew : e.1 ∉ a.keys) :
    (a.assign (assignment e)).entries = a.entries ++ [e] := by
  obtain ⟨key, value⟩ := e
  cases key with
  | named name => exact setEntry_of_not_mem hnew
  | positional i =>
    obtain ⟨hkeys, hi, -⟩ := inOrder_append.1 horder
    rw [Nat.zero_add] at hi
    show (a.pushPositional value).entries = _
    rw [pushPositional_entries hkeys, hi]

end

section
variable {a : Attributes} {assignments : List Assignment}

theorem inOrder_foldl_assign (h : InOrder 0 a.keys) :
    InOrder 0 (assignments.foldl assign a).keys := by
  induction assignments generalizing a with
  | nil => exact h
  | cons s assignments ih => exact ih (inOrder_assign h s)

theorem mem_entries_foldl_assign {e : AttributeKey × String}
    (h : e ∈ (assignments.foldl assign a).entries) :
    e ∈ a.entries ∨ assignment e ∈ assignments := by
  induction assignments generalizing a with
  | nil => exact .inl h
  | cons s assignments ih =>
    rcases ih h with h | h
    · rcases mem_entries_assign h with h | rfl
      · exact .inl h
      · exact .inr List.mem_cons_self
    · exact .inr (List.mem_cons_of_mem s h)

/-- **Attributes from their assignments.**  Entries with new keys in order are
appended, one after the other. -/
theorem foldl_assign_assignment {es : List (AttributeKey × String)}
    (horder : InOrder 0 (a.keys ++ es.map (·.1))) (hnodup : (a.keys ++ es.map (·.1)).Nodup) :
    ((es.map assignment).foldl assign a).entries = a.entries ++ es := by
  induction es generalizing a with
  | nil => exact (List.append_nil _).symm
  | cons e es ih =>
    have hnew : e.1 ∉ a.keys := by
      intro hmem
      exact (List.nodup_append.1 hnodup).2.2 e.1 hmem e.1 List.mem_cons_self rfl
    have hset := assign_assignment horder hnew
    have hkeys : (a.assign (assignment e)).keys ++ es.map (·.1) = a.keys ++ (e :: es).map (·.1) := by
      show (a.assign (assignment e)).entries.map (·.1) ++ _ = _
      rw [hset, List.map_append, List.append_assoc]
      rfl
    rw [List.map_cons, List.foldl_cons, ih (by rwa [hkeys]) (by rwa [hkeys]), hset,
      List.append_assoc]
    rfl

end

/-! ## §5. The attributes of a text -/

theorem inOrder_ofText (text : List Char) : InOrder 0 (ofText text).keys :=
  inOrder_foldl_assign trivial

theorem assignment_mem_of_mem_ofText {text : List Char} {e : AttributeKey × String}
    (h : e ∈ (ofText text).entries) :
    assignment e ∈ Assignment.list (Assignment.visibleSpaces text) :=
  (mem_entries_foldl_assign h).resolve_left List.not_mem_nil

end Attributes

end ContentGate
