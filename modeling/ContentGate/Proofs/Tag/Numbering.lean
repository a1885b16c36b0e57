/-
  ContentGate.Proofs.Tag.Numbering — when a value without a name is appended.

  A value without a name is meant to go to the end, under the next number.
  The next number is found by counting the numbers among the keys.  The count
  is a number that is not in use as long as the numbers are 0, 1, 2, … without
  a gap.  Attributes that are read from a tag are numbered so, but a value may
  also be set under any number, and nothing keeps that number from lying ahead
  of the count.  When the count comes to such a number, the value that stands
  there is replaced, and nothing is appended.

  `ofChanges` are the attributes after any sequence of changes.

  Main statements:
    * `appends_iff`, `find?_pushPositional`, `exists_missing` — one value;
    * `inOrder_change`, `inOrder_ofChanges` — changes that leave no gap;
    * `pushPositional_appends_iff` — values after any changes;
    * `pushPositional_replaces` — a value that is lost.
-/
import Mathlib.Data.List.Nodup
import Mathlib.Data.List.Perm.Subperm
import Mathlib.Data.List.Range
import ContentGate.Proofs.Tag.Entries

namespace ContentGate.Attributes

/-! ## §1. Changes -/

/-- One change of attributes. -/
inductive Change where
  /-- A value is set under a key. -/
  | set (key : AttributeKey) (value : String)
  /-- A value without a name is pushed. -/
  | push (value : String)
  /-- The attributes are replaced by named ones. -/
  | replace (pairs : List (String × String))

/-- The attributes after a change. -/
def change (a : Attributes) : Change → Attributes
  | .set key value => a.insert key value
  | .push value => a.pushPositional value
  | .replace pairs => ofPairs pairs

/-- The attributes after changes, one after the other. -/
def ofChanges (changes : List Change) : Attributes := changes.foldl change empty

/-! ## §2. One value -/

/-- The key under which a value without a name is set. -/
def nextKey (a : Attributes) : AttributeKey := .positional (positionals a.keys)

/-- A value without a name is appended: it becomes an entry at the end, under a number that was
not in use, and the other entries stay as they are. -/
def Appends (a : Attributes) (value : String) : Prop :=
  ∃ i, .positional i ∉ a.keys
    ∧ (a.pushPositional value).entries = a.entries ++ [(.positional i, value)]

section
variable {a : Attributes} {value : String} {n i : Nat} {ks : List AttributeKey}

theorem keys_pushPositional_of_mem (h : a.nextKey ∈ a.keys) (value : String) :
    (a.pushPositional value).keys = a.keys := by
  show (a.insert a.nextKey value).keys = a.keys
  rw [keys_insert, if_pos h]

/-- **A value is appended exactly if the next number is not in use.** -/
theorem appends_iff : a.Appends value ↔ a.nextKey ∉ a.keys := by
  constructor
  · rintro ⟨i, -, hentries⟩ hmem
    have hlength : (a.pushPositional value).entries.length = a.entries.length := by
      have hkeys := congrArg List.length (keys_pushPositional_of_mem hmem value)
      unfold keys at hkeys
      rwa [List.length_map, List.length_map] at hkeys
    rw [hentries, List.length_append, List.length_singleton] at hlength
    omega
  · intro hfree
    exact ⟨positionals a.keys, hfree, setEntry_of_not_mem hfree⟩

/-- The value is found under the next number, and nothing else has changed. -/
theorem find?_pushPositional (a : Attributes) (value : String) (key : AttributeKey) :
    (a.pushPositional value).find? key = if a.nextKey = key then some value else a.find? key :=
  find?_insert a a.nextKey key value

/-- **Where the next number is in use, a smaller one is missing**: there are only as many numbers
as it says. -/
theorem exists_missing (h : a.nextKey ∈ a.keys) :
    ∃ i < positionals a.keys, AttributeKey.positional i ∉ a.keys := by
  by_contra hnone
  push Not at hnone
  have hsub : (List.range (positionals a.keys + 1)).map AttributeKey.positional
      ⊆ a.keys.filter AttributeKey.isPositional := by
    intro key hkey
    obtain ⟨i, hi, rfl⟩ := List.mem_map.1 hkey
    refine List.mem_filter.2 ⟨?_, rfl⟩
    rcases Nat.lt_succ_iff_lt_or_eq.1 (List.mem_range.1 hi) with hlt | rfl
    · exact hnone i hlt
    · exact h
  have hnodup : ((List.range (positionals a.keys + 1)).map AttributeKey.positional).Nodup :=
    List.nodup_range.map (fun _ _ => AttributeKey.positional.inj)
  have hlength := (List.Nodup.subperm hnodup hsub).length_le
  rw [List.length_map, List.length_range, ← List.countP_eq_length_filter] at hlength
  exact Nat.not_succ_le_self _ hlength

/-! ## §3. Changes without a gap -/

/-- Keys in order have all the numbers below the next one. -/
theorem mem_of_inOrder (h : InOrder n ks) (hlow : n ≤ i) (hhigh : i < n + positionals ks) :
    AttributeKey.positional i ∈ ks := by
  induction ks generalizing n with
  | nil => exact absurd hhigh (Nat.not_lt.2 hlow)
  | cons k ks ih =>
    cases k with
    | named name =>
      rw [positionals_named] at hhigh
      exact List.mem_cons_of_mem _ (ih h hlow hhigh)
    | positional j =>
      obtain ⟨rfl, h⟩ := h
      rw [positionals_positional] at hhigh
      rcases Nat.eq_or_lt_of_le hlow with rfl | hlt
      · exact List.mem_cons_self
      · exact List.mem_cons_of_mem _ (ih h hlt (by omega))

/-- A change that sets no value under a number beyond the next one. -/
def Change.KeepsOrder (a : Attributes) : Change → Prop
  | .set (.positional i) _ => i ≤ positionals a.keys
  | _ => True

/-- Changes of which each keeps the numbers in order. -/
def KeepOrder : Attributes → List Change → Prop
  | _, [] => True
  | a, c :: changes => c.KeepsOrder a ∧ KeepOrder (a.change c) changes

theorem inOrder_ofPairs (pairs : List (String × String)) : InOrder 0 (ofPairs pairs).keys := by
  have hall : ∀ a : Attributes, InOrder 0 a.keys →
      InOrder 0 (pairs.foldl (fun a p => a.insert (.named p.1) p.2) a).keys := by
    induction pairs with
    | nil => exact fun a h => h
    | cons p pairs ih => exact fun a h => ih _ (inOrder_assign h ⟨some p.1, p.2⟩)
  exact hall empty trivial

/-- **A change that keeps the order leaves the keys in order.** -/
theorem inOrder_change {c : Change} (h : InOrder 0 a.keys) (hc : c.KeepsOrder a) :
    InOrder 0 (a.change c).keys := by
  cases c with
  | push value => exact inOrder_assign h ⟨none, value⟩
  | replace pairs => exact inOrder_ofPairs pairs
  | set key value =>
    cases key with
    | named name => exact inOrder_assign h ⟨some name, value⟩
    | positional i =>
      rcases Nat.eq_or_lt_of_le hc with rfl | hlt
      · -- The next number: the value is pushed.
        exact inOrder_assign h ⟨none, value⟩
      · have hmem := mem_of_inOrder h (Nat.zero_le i) (by omega)
        show InOrder 0 (a.insert (.positional i) value).keys
        rwa [keys_insert, if_pos hmem]

theorem inOrder_foldl_change {changes : List Change} (h : InOrder 0 a.keys)
    (hchanges : KeepOrder a changes) : InOrder 0 (changes.foldl change a).keys := by
  induction changes generalizing a with
  | nil => exact h
  | cons c changes ih => exact ih (inOrder_change h hchanges.1) hchanges.2

theorem inOrder_ofChanges {changes : List Change} (h : KeepOrder empty changes) :
    InOrder 0 (ofChanges changes).keys :=
  inOrder_foldl_change trivial h

/-! ## §4. Values after any changes -/

/-- **A value without a name is appended exactly if the next number is not in use**, whatever
changes there were.  Otherwise it replaces the value under that number: the keys stay the same,
the other values too, and some smaller number is missing.  After changes that never set a value
beyond the next number, a value is always appended. -/
theorem pushPositional_appends_iff (changes : List Change) (value : String) :
    let a := ofChanges changes
    (a.Appends value ↔ a.nextKey ∉ a.keys)
      ∧ (a.nextKey ∈ a.keys →
          (a.pushPositional value).keys = a.keys
            ∧ (∀ key, (a.pushPositional value).find? key
                = if a.nextKey = key then some value else a.find? key)
            ∧ ∃ i < positionals a.keys, .positional i ∉ a.keys)
      ∧ (KeepOrder empty changes → a.Appends value) := by
  intro a
  refine ⟨appends_iff, ?_, ?_⟩
  · intro hmem
    exact ⟨keys_pushPositional_of_mem hmem value, find?_pushPositional a value, exists_missing hmem⟩
  · intro hchanges
    exact appends_iff.2 (positional_not_mem_keys (inOrder_ofChanges hchanges))

/-- **A value that is lost.**  One value is set under the number 1, ahead of the count; the next
value without a name takes its place. -/
theorem pushPositional_replaces :
    (ofChanges [.set (.positional 1) "a"]).entries = [(.positional 1, "a")]
      ∧ (ofChanges [.set (.positional 1) "a", .push "b"]).entries = [(.positional 1, "b")]
      ∧ ¬ ∀ (changes : List Change) (value : String), (ofChanges changes).Appends value := by
  refine ⟨rfl, rfl, ?_⟩
  intro h
  exact appends_iff.1 (h [.set (.positional 1) "a"] "b") (by decide)

end

end ContentGate.Attributes
