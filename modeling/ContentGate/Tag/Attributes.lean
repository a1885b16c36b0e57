/-
  ContentGate.Tag.Attributes — the ordered attributes of a tag.

  An attribute has a name, or, when only its value was written, a
  number.  Attributes keep the order in which their keys were first
  given: a new value for a key that is present takes the place of the
  old one.
-/

namespace ContentGate

/-- The key of an attribute. -/
inductive AttributeKey where
  | named (name : String)
  /-- A value without a name, numbered in order. -/
  | positional (index : Nat)
  deriving Repr, DecidableEq, Inhabited

namespace AttributeKey

/-- The name, if there is one. -/
def name? : AttributeKey → Option String
  | .named name => some name
  | .positional _ => none

/-- Was only a value written? -/
def isPositional : AttributeKey → Bool
  | .named _ => false
  | .positional _ => true

/-- A key in a listing: the name or the number. -/
def text : AttributeKey → String
  | .named name => name
  | .positional index => toString index

end AttributeKey

/-- Entries with `value` under `key`: in the place of the old value, or at the end. -/
def setEntry (key : AttributeKey) (value : String) :
    List (AttributeKey × String) → List (AttributeKey × String)
  | [] => [(key, value)]
  | (k, v) :: es => if k = key then (key, value) :: es else (k, v) :: setEntry key value es

theorem mem_keys_setEntry {key k : AttributeKey} {value : String}
    {es : List (AttributeKey × String)} (h : k ∈ (setEntry key value es).map (·.1)) :
    k = key ∨ k ∈ es.map (·.1) := by
  induction es with
  | nil => simpa [setEntry] using h
  | cons e es ih =>
    obtain ⟨k', v'⟩ := e
    simp only [setEntry] at h
    split at h
    · rename_i hk
      subst hk
      simp only [List.map_cons, List.mem_cons] at h ⊢
      rcases h with h | h
      · exact .inl h
      · exact .inr (.inr h)
    · simp only [List.map_cons, List.mem_cons] at h ⊢
      rcases h with h | h
      · exact .inr (.inl h)
      · rcases ih h with h | h
        · exact .inl h
        · exact .inr (.inr h)

theorem nodup_keys_setEntry {key : AttributeKey} {value : String}
    {es : List (AttributeKey × String)} (h : (es.map (·.1)).Nodup) :
    ((setEntry key value es).map (·.1)).Nodup := by
  induction es with
  | nil => simp [setEntry]
  | cons e es ih =>
    obtain ⟨k', v'⟩ := e
    simp only [List.map_cons, List.nodup_cons] at h
    simp only [setEntry]
    split
    · rename_i hk
      subst hk
      simpa using h
    · rename_i hk
      simp only [List.map_cons, List.nodup_cons]
      refine ⟨fun hm => ?_, ih h.2⟩
      rcases mem_keys_setEntry hm with hm | hm
      · exact hk hm
      · exact h.1 hm

/-- The attributes of a tag; no key occurs twice. -/
structure Attributes where
  entries : List (AttributeKey × String) := []
  distinct : (entries.map (·.1)).Nodup := by simp

namespace Attributes

/-- No attributes. -/
def empty : Attributes := {}

instance : Inhabited Attributes := ⟨empty⟩

/-- The keys in order. -/
def keys (a : Attributes) : List AttributeKey := a.entries.map (·.1)

/-- The number of attributes. -/
def size (a : Attributes) : Nat := a.entries.length

/-- Sets the value of a key; a new key goes to the end. -/
def insert (a : Attributes) (key : AttributeKey) (value : String) : Attributes where
  entries := setEntry key value a.entries
  distinct := nodup_keys_setEntry a.distinct

/-- Sets the value under the number of positional attributes so far. -/
def pushPositional (a : Attributes) (value : String) : Attributes :=
  a.insert (.positional (a.keys.countP AttributeKey.isPositional)) value

/-- Named attributes, in order. -/
def ofPairs (pairs : List (String × String)) : Attributes :=
  pairs.foldl (fun a (name, value) => a.insert (.named name) value) empty

/-- The value of a key. -/
def find? (a : Attributes) (key : AttributeKey) : Option String :=
  (a.entries.find? (·.1 == key)).map (·.2)

/-- The value of a named attribute. -/
def get? (a : Attributes) (name : String) : Option String := a.find? (.named name)

/-- Same keys with the same values, in any order. -/
def sameAs (a b : Attributes) : Bool :=
  a.size == b.size && a.entries.all fun (key, value) => b.find? key == some value

/-- Two lists of attributes are equal when their entries are. -/
theorem ext_entries {a b : Attributes} (h : a.entries = b.entries) : a = b := by
  cases a; cases b; simp_all

@[simp] theorem entries_insert (a : Attributes) (key : AttributeKey) (value : String) :
    (a.insert key value).entries = setEntry key value a.entries := rfl

end Attributes

end ContentGate
