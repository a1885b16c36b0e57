/-
  ContentGate.Commerce.Lookup — purchases by product number or SKU.

  A product is named by its number, in canonical decimal form, or by its
  SKU.  SKUs are resolved through a map of the whole catalog, which is
  kept as a transient for a day; a catalog with more SKUs than the limit
  has no map and is asked for each SKU.  Answers about purchases and
  downloads are remembered; failures never are, and are passed on as the
  catalog gives them.

  The map is dropped whenever a product or a variation is saved.
-/
import ContentGate.Commerce.Catalog
import ContentGate.Commerce.Memo
import ContentGate.Commerce.Transients
import ContentGate.Evaluation.Error
import ContentGate.Json.Reader
import ContentGate.Json.Writer

namespace ContentGate

/-! ## The map of SKUs -/

/-- The product of each SKU; no SKU occurs twice. -/
abbrev SkuMap := List (String × ProductId)

namespace SkuMap

/-- Sets the product of a SKU. -/
def insert (sku : String) (id : ProductId) : SkuMap → SkuMap
  | [] => [(sku, id)]
  | (s, i) :: m => if s == sku then (sku, id) :: m else (s, i) :: insert sku id m

/-- The map of a list of pairs; the last product of a SKU counts. -/
def ofPairs (pairs : List (String × ProductId)) : SkuMap :=
  pairs.foldl (fun m (sku, id) => insert sku id m) []

/-- The map of SKU rows. -/
def ofRows (rows : List (ProductId × String)) : SkuMap :=
  ofPairs (rows.map fun (id, sku) => (sku, id))

/-- The product of a SKU. -/
def get? (m : SkuMap) (sku : String) : Option ProductId := (m.find? (·.1 == sku)).map (·.2)

/-- The stored form of a map. -/
def stored (m : SkuMap) : String :=
  (Json.object (m.map fun (sku, id) => ((sku : Json.Key), .int id.toNat))).compact

/-- The map that a stored text holds; every value has to be a product number. -/
def ofStored? (text : String) : Option SkuMap :=
  match Json.read? text with
  | some (.object fields) =>
    (fields.mapM fun (field : Json.Key × Json) =>
      field.2.uint64?.map (field.1.text, ·)).map ofPairs
  | _ => none

end SkuMap

/-! ## Lookups -/

/-- What changes while conditions are evaluated and pages rendered. -/
structure Session (κ : Type) where
  /-- The state behind the catalog, and behind the site's functions if they have one. -/
  catalog : κ
  memo : Memo := {}
  transients : Transients := {}
  /-- Messages for the site's log, in order. -/
  warnings : List String := []

/-- An evaluation that may ask the catalog. -/
abbrev Evaluation (κ : Type) := ExceptT EvalError (StateM (Session κ))

/-- An active shop: where it asks, and from how many SKUs on it keeps no map. -/
structure Commerce (κ : Type) where
  catalog : Catalog κ
  skuLimit : Nat := 2500
  /-- What the reader of JSON says of a text that is no map.  It is needed only where others
  write under the shop's key. -/
  diagnosis : String → String := fun _ => ""

/-- A shop over an inventory. -/
def Inventory.shop (skuLimit : Nat) : Commerce Inventory := { catalog, skuLimit }

/-- Adds a message to the log. -/
def Session.warn {κ : Type} (message : String) (s : Session κ) : Session κ :=
  { s with warnings := s.warnings ++ [message] }

namespace Commerce

variable {κ : Type}

/-- The key of the kept SKU map. -/
def skuKey : String := "woocommerce_product_ids_by_sku"

/-- How long the SKU map is kept, in seconds. -/
def skuSeconds : Nat := 24 * 60 * 60

/-- The greatest number of SKUs that are kept, where no other is set. -/
def defaultSkuLimit : Nat := 2500

/-- The number that a text writes in canonical form: `42`, but not `042` or `+42`. -/
def canonicalId? (text : String) : Option ProductId :=
  let cs := text.toList
  if cs.isEmpty || !cs.all Char.isDigit then none
  else
    let n := Decimal.digitsValue cs
    if n < UInt64.size ∧ toString n = text then some (UInt64.ofNat n) else none

/-- A question to the catalog. -/
def ask {α : Type} (question : ExceptT EvalError (StateM κ) α) : Evaluation κ α := do
  let s ← get
  let (answer, catalog) := question.run s.catalog
  set { s with catalog }
  match answer with
  | .ok a => pure a
  | .error cause => throw cause

/-- The kept SKU map; an unreadable text is reported and counts as none. -/
def keptMap? (c : Commerce κ) : Evaluation κ (Option SkuMap) := do
  match (← get).transients.get? skuKey with
  | none => pure none
  | some text =>
    match SkuMap.ofStored? text with
    | some m => pure (some m)
    | none =>
      modify (·.warn ("Discarding unreadable SKU map transient: " ++ c.diagnosis text))
      pure none

/-- The SKU map, or `none` when the catalog has more SKUs than the limit. -/
def skuMap? (c : Commerce κ) : Evaluation κ (Option SkuMap) := do
  match ← c.keptMap? with
  | some m => pure (some m)
  | none =>
    let answer ← ask (c.catalog.skuRows c.skuLimit)
    if c.skuLimit < answer.found then pure none
    else
      let m := SkuMap.ofRows answer.rows
      modify fun s => { s with transients := s.transients.set skuKey m.stored skuSeconds }
      pure (some m)

/-- The product that a number or SKU names, `0` when there is none. -/
def productId (c : Commerce κ) (text : String) : Evaluation κ ProductId :=
  match canonicalId? text with
  | some id => pure id
  | none => do
    match ← c.skuMap? with
    | some m => pure ((m.get? text).getD 0)
    | none => ask (c.catalog.productIdBySku text)

/-- The catalog's question of a kind. -/
def question (c : Commerce κ) :
    LookupKind → UserId → ProductId → ExceptT EvalError (StateM κ) Bool
  | .bought => c.catalog.bought
  | .canDownload => c.catalog.canDownload

/-- The answer to a question that is not remembered: nothing is bought by
the anonymous visitor, or of no product. -/
def freshAnswer (c : Commerce κ) (q : Question) : Evaluation κ Bool :=
  if q.user = 0 then pure false
  else do
    let id ← c.productId q.product
    if id = 0 then pure false else ask (c.question q.kind q.user id)

/-- The answer to a question, remembered from now on. -/
def answer (c : Commerce κ) (q : Question) : Evaluation κ Bool := do
  match (← get).memo.get? q with
  | some b => pure b
  | none =>
    let b ← c.freshAnswer q
    modify fun s => { s with memo := s.memo.insert q b }
    pure b

/-- Has the user bought the product, or a variation of it? -/
def bought (c : Commerce κ) (user : UserId) (product : String) : Evaluation κ Bool :=
  c.answer ⟨.bought, user, product⟩

/-- May the user download the product, or a variation of it? -/
def canDownload (c : Commerce κ) (user : UserId) (product : String) : Evaluation κ Bool :=
  c.answer ⟨.canDownload, user, product⟩

/-- What is to be done when a product is saved. -/
def productSaved (s : Session κ) : Session κ :=
  { s with transients := s.transients.delete skuKey }

/-- What is to be done when a variation is saved. -/
def variationSaved (s : Session κ) : Session κ :=
  { s with transients := s.transients.delete skuKey }

end Commerce

end ContentGate
