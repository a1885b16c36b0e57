/-
  ContentGate.Commerce.Transients — texts that are kept for a while.

  A transient is a text under a key with a time at which it expires.  An
  expired entry is not found any more, but it stays until it is replaced
  or deleted.
-/

namespace ContentGate

/-- A kept text. -/
structure Transient where
  key : String
  text : String
  /-- The second from which on the text is not found. -/
  expires : Nat
  deriving Repr, DecidableEq

/-- Kept texts, and the time on their clock in seconds. -/
structure Transients where
  entries : List Transient := []
  now : Nat := 0
  deriving Inhabited

namespace Transients

/-- The number of entries, expired ones included. -/
def size (t : Transients) : Nat := t.entries.length

/-- The text under a key, if it has not expired. -/
def get? (t : Transients) (key : String) : Option String :=
  ((t.entries.find? (·.key == key)).filter (t.now < ·.expires)).map (·.text)

/-- The entries without a key. -/
def delete (t : Transients) (key : String) : Transients :=
  { t with entries := t.entries.filter (·.key != key) }

/-- A text under a key for `ttl` seconds; the last one set counts. -/
def set (t : Transients) (key text : String) (ttl : Nat) : Transients :=
  { t with entries := ⟨key, text, t.now + ttl⟩ :: (t.delete key).entries }

@[simp] theorem get?_set (t : Transients) (key text : String) (ttl : Nat) :
    (t.set key text ttl).get? key = if 0 < ttl then some text else none := by
  by_cases h : 0 < ttl <;> simp [get?, set, Option.filter, h]

@[simp] theorem get?_delete (t : Transients) (key : String) : (t.delete key).get? key = none := by
  have h : (t.entries.filter (·.key != key)).find? (·.key == key) = none := by
    simp [List.find?_eq_none]
  simp [get?, delete, h]

end Transients

end ContentGate
