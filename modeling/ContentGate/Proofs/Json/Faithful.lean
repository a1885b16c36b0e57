/-
  ContentGate.Proofs.Json.Faithful — values that a text gives back as they are.

  The text of a plain value is read back to the value, with its keys marked as
  the text shows them.  A value is FAITHFUL if that changes nothing, as it is
  with keys that are named in a program.  What is built of faithful values is
  faithful.

  Readers also bound how deep arrays and objects stand inside one another
  (`nesting`), and read integers of 64 bits.

  Main statements:
    * `IsFaithful.read?_compact` — faithful values are read back from their texts;
    * `uint64?_int`, `int64?_int` — and so are integers of 64 bits.
-/
import ContentGate.Json.Record
import ContentGate.Proofs.Json.RoundTrip

namespace ContentGate.Json

/-! ## §1. Values that are read back as they are -/

/-- A value with a text that is read back to the very value: its keys are marked as escaped exactly
where their texts have escapes. -/
structure IsFaithful (j : Json) : Prop where
  isPlain : IsPlain j
  asWritten_eq : asWritten j = j

namespace IsFaithful

theorem null : IsFaithful .null := ⟨trivial, rfl⟩

theorem bool (b : Bool) : IsFaithful (.bool b) := ⟨trivial, rfl⟩

theorem int (k : Int) : IsFaithful (.int k) := ⟨⟨k, rfl⟩, rfl⟩

theorem string (s : String) : IsFaithful (.string s) := ⟨trivial, rfl⟩

theorem array {items : List Json} (h : ∀ j ∈ items, IsFaithful j) : IsFaithful (.array items) := by
  have hitems : ArePlain items ∧ asWrittenItems items = items := by
    induction items with
    | nil => exact ⟨trivial, rfl⟩
    | cons j js ih =>
      obtain ⟨hj, hjs⟩ := List.forall_mem_cons.1 h
      obtain ⟨hplain, hwritten⟩ := ih hjs
      exact ⟨⟨hj.isPlain, hplain⟩, by rw [asWrittenItems, hj.asWritten_eq, hwritten]⟩
  exact ⟨hitems.1, congrArg Json.array hitems.2⟩

end IsFaithful

/-- Members whose keys and values are read back as they are. -/
structure AreFaithful (ms : List (Key × Json)) : Prop where
  arePlain : ArePlainMembers ms
  asWritten_eq : asWrittenMembers ms = ms

namespace AreFaithful

theorem nil : AreFaithful [] := ⟨trivial, rfl⟩

theorem cons {key : Key} {j : Json} {ms : List (Key × Json)} (hkey : key.asWritten = key)
    (hj : IsFaithful j) (hms : AreFaithful ms) : AreFaithful ((key, j) :: ms) :=
  ⟨⟨hj.isPlain, hms.arePlain⟩,
    by rw [asWrittenMembers, hkey, hj.asWritten_eq, hms.asWritten_eq]⟩

end AreFaithful

theorem IsFaithful.object {ms : List (Key × Json)} (h : AreFaithful ms) : IsFaithful (.object ms) :=
  ⟨h.arePlain, congrArg Json.object h.asWritten_eq⟩

/-- **A faithful value is read back from its text.** -/
theorem IsFaithful.read?_compact {j : Json} (h : IsFaithful j) : read? j.compact = some j := by
  rw [Json.read?_compact h.isPlain, h.asWritten_eq]

/-! ## §2. Nesting -/

mutual

/-- How many arrays and objects stand inside one another. -/
def nesting : Json → Nat
  | .array items => 1 + nestingItems items
  | .object members => 1 + nestingMembers members
  | _ => 0

/-- The greatest nesting of several items. -/
def nestingItems : List Json → Nat
  | [] => 0
  | j :: js => max (nesting j) (nestingItems js)

/-- The greatest nesting of several members. -/
def nestingMembers : List (Key × Json) → Nat
  | [] => 0
  | (_, j) :: ms => max (nesting j) (nestingMembers ms)

end

theorem nesting_float (x : Float) : nesting (float x) = 0 := by
  unfold float
  cases Decimal.Binary.ofFloat x with
  | nan | infinite _ | finite _ _ _ => rfl

/-! ## §3. Integers -/

theorem toInt?_ofInt (k : Int) : (JsonNumber.ofInt k).toInt? = some k := by
  show (if (true && !(decide (k < 0) && k.natAbs == 0)) = true then
    some (if decide (k < 0) = true then -(k.natAbs : Int) else k.natAbs) else none) = _
  by_cases hk : k < 0
  · have hdigits : (k.natAbs == 0) = false := beq_eq_false_iff_ne.2 (by omega)
    have habs : -(k.natAbs : Int) = k := by omega
    rw [decide_eq_true hk, hdigits, habs]
    rfl
  · have habs : (k.natAbs : Int) = k := by omega
    rw [decide_eq_false hk, habs]
    rfl

theorem intBetween?_int {lo hi k : Int} (hlo : lo ≤ k) (hhi : k ≤ hi) :
    (int k).intBetween? lo hi = some k := by
  show ((JsonNumber.ofInt k).toInt?.bind fun k => if lo ≤ k ∧ k ≤ hi then some k else none) = _
  rw [toInt?_ofInt]
  exact if_pos ⟨hlo, hhi⟩

/-- **An unsigned number of 64 bits is read back as one.** -/
theorem uint64?_int (n : UInt64) : (int n.toNat).uint64? = some n := by
  have hlt : n.toNat < 2 ^ 64 := n.toNat_lt
  unfold uint64?
  rw [intBetween?_int (by omega) (by omega), Option.map_some, Int.toNat_natCast, UInt64.ofNat_toNat]

/-- **A signed number of 64 bits is read back as one.** -/
theorem int64?_int (n : Int64) : (int n.toInt).int64? = some n := by
  have hlow : Decimal.int64Min ≤ n.toInt := n.le_toInt
  have hhigh : n.toInt ≤ Decimal.int64Max := Int.le_of_lt_add_one n.toInt_lt
  unfold int64?
  rw [intBetween?_int hlow hhigh, Option.map_some, Int64.ofInt_toInt]

end ContentGate.Json
