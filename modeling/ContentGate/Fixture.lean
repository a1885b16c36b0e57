/-
  ContentGate.Fixture — visitors and inventories from text.

  A profile or an inventory is given as a record.  Records come as JSON,
  or in the notation of fixture files, which is looser: a text may be
  any scalar, as it is written, and the sites of a network are plain
  whole numbers.  `Fixture.Node` says what both notations offer to the
  readers of records.
-/
import ContentGate.Commerce.Catalog
import ContentGate.Condition.Stored
import ContentGate.Json.Record
import ContentGate.Visitor
import ContentGate.Yaml.Reader

namespace ContentGate

namespace Fixture

/-! ## Notations -/

/-- What a node of a notation can stand for. -/
class Node (ν : Type) where
  /-- The fields of a record, in the order of their names. -/
  record? : List String → ν → Option (List (Option ν))
  /-- The items of a list. -/
  items? : ν → Option (List ν)
  /-- The entries of a table with texts as keys. -/
  entries? : ν → Option (List (String × ν))
  /-- The entries of a table with signed 64-bit integers as keys. -/
  rows? : ν → Option (List (Int64 × ν))
  text? : ν → Option String
  uint64? : ν → Option UInt64
  /-- The value of an option, which stands two levels deep in its record. -/
  value? : ν → Option Value
  isNull : ν → Bool

/-- The members of an object, by the texts of their keys. -/
def members? : Json → Option (List (String × Json))
  | .object fields => some (fields.map fun (field : Json.Key × Json) => (field.1.text, field.2))
  | _ => none

/-- The number that a key writes as JSON does, without escapes. -/
def wholeKey? (key : Json.Key) : Option Int64 := do
  if key.escaped then none
  let (n, rest) ← Json.readNumber? key.text.toList
  if rest.isEmpty then (Json.number n).int64? else none

/-- The members of an object with whole numbers as keys. -/
def numberedMembers? : Json → Option (List (Int64 × Json))
  | .object fields =>
    fields.mapM fun (field : Json.Key × Json) => (wholeKey? field.1).map (·, field.2)
  | _ => none

/-- Is the value `null`? -/
def isNullValue : Json → Bool
  | .null => true
  | _ => false

instance : Node Json where
  record? := Json.record?
  items? := Json.array?
  entries? := members?
  rows? := numberedMembers?
  text? := Json.string?
  uint64? := Json.uint64?
  value? := Value.ofJson? (Json.maxLevels - 2)
  isNull := isNullValue

/-- The entries of a mapping with plain whole numbers as keys. -/
def numberedEntries? (y : Yaml) : Option (List (Int64 × Yaml)) := do
  (← y.entries?).mapM fun (e : Yaml × Yaml) => e.1.int64?.map (·, e.2)

instance : Node Yaml where
  record? := Yaml.record?
  items? := Yaml.items?
  entries? := Yaml.fields?
  rows? := numberedEntries?
  text? := Yaml.text?
  uint64? := Yaml.uint64?
  value? := Yaml.value? (Yaml.maxLevels - 2)
  isNull := Yaml.isNull

/-! ## Parts of records -/

variable {ν : Type} [Node ν]

/-- Entries without those whose key occurs again later. -/
def lastOfEach {α β : Type} [BEq α] : List (α × β) → List (α × β)
  | [] => []
  | e :: es => if es.any (·.1 == e.1) then lastOfEach es else e :: lastOfEach es

/-- A list of texts. -/
def texts? (n : ν) : Option (List String) := do
  (← Node.items? n).mapM Node.text?

/-- Values by key; of repeated keys the last counts. -/
def values? (n : ν) : Option (List (String × Value)) := do
  let vs ← (← Node.entries? n).mapM fun (field : String × ν) =>
    (Node.value? field.2).map (field.1, ·)
  some (lastOfEach vs)

/-- Capabilities by site. -/
def blogs? (n : ν) : Option (List (BlogId × List String)) := do
  let rows ← (← Node.rows? n).mapM fun (row : Int64 × ν) => (texts? row.2).map (row.1, ·)
  some (lastOfEach rows)

/-- A user and a product. -/
def line? (n : ν) : Option (UserId × ProductId) :=
  match Node.items? n with
  | some [user, product] => do some (← Node.uint64? user, ← Node.uint64? product)
  | _ => none

/-- A list of users and products. -/
def lines? (n : ν) : Option (List (UserId × ProductId)) := do
  (← Node.items? n).mapM line?

/-- A product. -/
def product? (n : ν) : Option Product := do
  match ← Node.record? ["id", "sku", "parent_id"] n with
  | [some id, sku, parent] =>
    let parent? := match parent with
      | none => some none
      | some p => if Node.isNull p then some none else (Node.uint64? p).map some
    some {
      id := ← Node.uint64? id
      sku := ← sku.elim (some "") Node.text?
      parent? := ← parent? }
  | _ => none

end Fixture

open Fixture

/-! ## Records -/

/-- The profile of a record; missing fields have their defaults. -/
def Profile.ofNode? {ν : Type} [Node ν] (n : ν) : Option Profile := do
  match ← Node.record? ["user_id", "capabilities", "blog_capabilities", "options", "meta"] n with
  | [id, capabilities, blogs, options, userMeta] =>
    some {
      id := ← id.elim (some 0) Node.uint64?
      capabilities := ← capabilities.elim (some []) texts?
      blogCapabilities := ← blogs.elim (some []) blogs?
      options := ← options.elim (some []) values?
      userMeta := ← userMeta.elim (some []) values? }
  | _ => none

/-- The inventory of a record; missing fields have their defaults. -/
def Inventory.ofNode? {ν : Type} [Node ν] (n : ν) : Option Inventory := do
  match ← Node.record? ["products", "purchases", "downloads"] n with
  | [products, purchases, downloads] =>
    some {
      products := ← products.elim (some []) fun n => do (← Node.items? n).mapM product?
      purchases := ← purchases.elim (some []) lines?
      downloads := ← downloads.elim (some []) lines? }
  | _ => none

end ContentGate
