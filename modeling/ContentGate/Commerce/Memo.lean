/-
  ContentGate.Commerce.Memo — answers that are remembered.

  Questions about purchases are asked again and again while pages are
  rendered.  An answer is remembered by its kind, the user, and the text
  that named the product.
-/
import ContentGate.Condition.Predicate

namespace ContentGate

/-- The kinds of remembered questions. -/
inductive LookupKind where
  | bought
  | canDownload
  deriving Repr, DecidableEq, Inhabited

/-- A remembered question. -/
structure Question where
  kind : LookupKind
  user : UserId
  /-- The number or SKU of the product, as asked. -/
  product : String
  deriving Repr, DecidableEq

/-- Remembered answers. -/
structure Memo where
  entries : List (Question × Bool) := []
  deriving Inhabited

namespace Memo

/-- The number of remembered answers. -/
def size (m : Memo) : Nat := m.entries.length

/-- The remembered answer to a question. -/
def get? (m : Memo) (q : Question) : Option Bool := (m.entries.find? (·.1 == q)).map (·.2)

/-- Remembers an answer; it replaces an older one. -/
def insert (m : Memo) (q : Question) (answer : Bool) : Memo :=
  ⟨(q, answer) :: m.entries.filter (·.1 != q)⟩

@[simp] theorem get?_insert_self (m : Memo) (q : Question) (answer : Bool) :
    (m.insert q answer).get? q = some answer := by
  simp [get?, insert]

theorem get?_insert_of_ne (m : Memo) {q r : Question} (answer : Bool) (h : r ≠ q) :
    (m.insert q answer).get? r = m.get? r := by
  have hq : (q == r) = false := by simpa using fun h' => h h'.symm
  have hf : (m.entries.filter (·.1 != q)).find? (·.1 == r) = m.entries.find? (·.1 == r) := by
    rw [List.find?_filter]
    congr 1
    funext e
    by_cases he : e.1 = r
    · simp [he, h]
    · simp [he]
  simp [get?, insert, hq, hf]

end Memo

end ContentGate
