/-
  ContentGate.Commerce.Catalog — where products and purchases are known.

  A `Catalog` answers four questions and may fail at any of them, with
  any error; its state `κ` is whatever an answer may change.  An `Inventory` is a
  catalog in memory, which counts the queries for SKU rows.
-/
import ContentGate.Condition.Predicate
import ContentGate.Evaluation.Error

namespace ContentGate

/-- The SKUs of a catalog, up to a limit. -/
structure SkuRows where
  rows : List (ProductId × String)
  /-- How many rows there are without the limit. -/
  found : Nat
  deriving Repr, DecidableEq

/-- The answers of a catalog, or the errors that it has instead. -/
structure Catalog (κ : Type) where
  /-- The non-empty SKUs, at most `limit` of them. -/
  skuRows : (limit : Nat) → ExceptT EvalError (StateM κ) SkuRows
  /-- The product with a SKU, `0` when there is none. -/
  productIdBySku : (sku : String) → ExceptT EvalError (StateM κ) ProductId
  /-- Did the customer buy the product or one of its variations? -/
  bought : UserId → ProductId → ExceptT EvalError (StateM κ) Bool
  /-- May the customer download the product or one of its variations? -/
  canDownload : UserId → ProductId → ExceptT EvalError (StateM κ) Bool

/-- A product, or a variation of one. -/
structure Product where
  id : ProductId
  sku : String := ""
  parent? : Option ProductId := none
  deriving Repr, DecidableEq, Inhabited

/-- A catalog in memory. -/
structure Inventory where
  products : List Product := []
  /-- Who bought what. -/
  purchases : List (UserId × ProductId) := []
  /-- Who may download what. -/
  downloads : List (UserId × ProductId) := []
  /-- How often the SKU rows were asked for. -/
  skuQueries : Nat := 0
  deriving Inhabited

namespace Inventory

/-- The products with a SKU. -/
def withSku (s : Inventory) : List Product := s.products.filter (·.sku != "")

/-- The SKU rows, at most `limit` of them. -/
def rows (s : Inventory) (limit : Nat) : SkuRows where
  rows := (s.withSku.take limit).map fun p => (p.id, p.sku)
  found := s.withSku.length

/-- The first product with a SKU, `0` when there is none. -/
def firstWithSku (s : Inventory) (sku : String) : ProductId :=
  ((s.withSku.find? (·.sku == sku)).map (·.id)).getD 0

/-- The product that a variation belongs to. -/
def parent? (s : Inventory) (id : ProductId) : Option ProductId :=
  (s.products.find? (·.id == id)).bind (·.parent?)

/-- Is there a line for the product, or for a variation of it? -/
def hasLine (s : Inventory) (lines : List (UserId × ProductId)) (user : UserId)
    (product : ProductId) : Bool :=
  lines.any fun (u, p) => u == user && (p == product || s.parent? p == some product)

/-- The inventory as a catalog. -/
def catalog : Catalog Inventory where
  skuRows limit := do
    modify fun s => { s with skuQueries := s.skuQueries + 1 }
    pure ((← get).rows limit)
  productIdBySku sku := do pure ((← get).firstWithSku sku)
  bought user product := do
    let s ← get
    pure (s.hasLine s.purchases user product)
  canDownload user product := do
    let s ← get
    pure (s.hasLine s.downloads user product)

end Inventory

/-- Questions that a catalog cannot answer at the moment. -/
structure Outage where
  skuRows : Bool := false
  skus : List String := []
  bought : List ProductId := []
  downloads : List ProductId := []

/-- A catalog during an outage: the questions of the outage fail before
they reach it. -/
def Catalog.during {κ : Type} (c : Catalog κ) (o : Outage) : Catalog κ where
  skuRows limit := if o.skuRows then throw (.lookupFailed "rows") else c.skuRows limit
  productIdBySku sku :=
    if o.skus.contains sku then throw (.lookupFailed ("sku " ++ sku)) else c.productIdBySku sku
  bought user product :=
    if o.bought.contains product then throw (.lookupFailed ("bought " ++ toString product))
    else c.bought user product
  canDownload user product :=
    if o.downloads.contains product then throw (.lookupFailed ("download " ++ toString product))
    else c.canDownload user product

end ContentGate
