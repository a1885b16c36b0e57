/-
  ContentGate.Proofs.Commerce.SkuMaps — maps of SKUs, and products named by number.

  A SKU map is a list of pairs; the program keeps every SKU in it once.
  What a map answers after it was made of rows is what the rows say, the
  last one of a SKU counting.  A kept map is read back from its stored
  text as it was.

  Main statements:
    * `get?_ofRows` — the map of rows answers with the last row of a SKU;
    * `ofStored?_stored` — a map is read back from its stored text;
    * `canonicalId?_eq_some_iff` — which texts name a product by its number.
-/
import ContentGate.Commerce.Lookup
import ContentGate.Proofs.Json.Faithful

namespace ContentGate

namespace SkuMap

/-! ## §1. Setting and finding -/

section
variable {m : SkuMap} {sku key : String} {id : ProductId}

theorem get?_nil : get? [] key = none := rfl

theorem get?_cons (p : String × ProductId) (m : SkuMap) :
    get? (p :: m) key = if p.1 = key then some p.2 else get? m key := by
  unfold get?
  by_cases h : p.1 = key
  · rw [if_pos h, List.find?_cons_of_pos (by simpa using h)]
    rfl
  · rw [if_neg h, List.find?_cons_of_neg (by simpa using h)]

/-- The product that was set is found; the other SKUs are as they were. -/
theorem get?_insert (m : SkuMap) (sku : String) (id : ProductId) :
    get? (insert sku id m) key = if sku = key then some id else get? m key := by
  induction m with
  | nil => exact get?_cons _ _
  | cons p m ih =>
    obtain ⟨s, i⟩ := p
    rw [insert]
    by_cases hs : s = sku
    · rw [if_pos (by simpa using hs), get?_cons, get?_cons, hs]
      by_cases hkey : sku = key
      · rw [if_pos hkey, if_pos hkey]
      · rw [if_neg hkey, if_neg hkey, if_neg hkey]
    · rw [if_neg (by simpa using hs), get?_cons, get?_cons, ih]
      by_cases hkey : s = key
      · rw [if_pos hkey, if_pos hkey, if_neg (fun h => hs (hkey.trans h.symm))]
      · rw [if_neg hkey, if_neg hkey]

/-! ## §2. Maps of rows -/

/-- Pairs are set one after the other, so the last one of a SKU is found. -/
theorem get?_foldl_insert (pairs : List (String × ProductId)) (m : SkuMap) :
    get? (pairs.foldl (fun m p => insert p.1 p.2 m) m) key
      = (((pairs.filter (·.1 == key)).getLast?).map (·.2)).or (get? m key) := by
  induction pairs generalizing m with
  | nil => rfl
  | cons p pairs ih =>
    rw [List.foldl_cons, ih, get?_insert]
    by_cases hp : p.1 = key
    · rw [if_pos hp, List.filter_cons_of_pos (by simpa using hp), List.getLast?_cons]
      cases (pairs.filter (·.1 == key)).getLast? <;> rfl
    · rw [if_neg hp, List.filter_cons_of_neg (by simpa using hp)]

/-- **The map of rows answers with the last row of a SKU.** -/
theorem get?_ofRows (rows : List (ProductId × String)) :
    get? (ofRows rows) key = ((rows.filter (·.2 == key)).getLast?).map (·.1) := by
  unfold ofRows ofPairs
  rw [get?_foldl_insert, List.filter_map, List.getLast?_map, Option.map_map, get?_nil,
    Option.or_none]
  rfl

/-! ## §3. Kept maps -/

/-- The SKUs of a map. -/
def skus (m : SkuMap) : List String := m.map (·.1)

theorem skus_cons (p : String × ProductId) (m : SkuMap) : skus (p :: m) = p.1 :: skus m := rfl

theorem mem_skus_insert : key ∈ (insert sku id m).skus ↔ key = sku ∨ key ∈ m.skus := by
  induction m with
  | nil => exact List.mem_cons
  | cons p m ih =>
    obtain ⟨s, i⟩ := p
    rw [insert]
    by_cases hs : s = sku
    · rw [if_pos (by simpa using hs), skus_cons, skus_cons, hs, List.mem_cons, or_self_left]
    · rw [if_neg (by simpa using hs), skus_cons, skus_cons, List.mem_cons, List.mem_cons, ih,
        or_left_comm]

/-- Setting keeps every SKU once. -/
theorem nodup_skus_insert (h : m.skus.Nodup) : (insert sku id m).skus.Nodup := by
  induction m with
  | nil => exact List.nodup_cons.2 ⟨List.not_mem_nil, List.nodup_nil⟩
  | cons p m ih =>
    obtain ⟨s, i⟩ := p
    obtain ⟨hs, hm⟩ := List.nodup_cons.1 h
    rw [insert]
    by_cases heq : s = sku
    · rw [if_pos (by simpa using heq)]
      subst heq
      exact List.nodup_cons.2 ⟨hs, hm⟩
    · rw [if_neg (by simpa using heq)]
      refine List.nodup_cons.2 ⟨fun hmem => ?_, ih hm⟩
      exact (mem_skus_insert.1 hmem).elim heq hs

theorem nodup_skus_foldl_insert (pairs : List (String × ProductId)) (h : m.skus.Nodup) :
    (pairs.foldl (fun m p => insert p.1 p.2 m) m).skus.Nodup := by
  induction pairs generalizing m with
  | nil => exact h
  | cons p pairs ih => exact ih (nodup_skus_insert h)

theorem nodup_skus_ofRows (rows : List (ProductId × String)) : (ofRows rows).skus.Nodup :=
  nodup_skus_foldl_insert _ List.nodup_nil

/-- A new SKU is set behind the others. -/
theorem insert_of_not_mem (h : sku ∉ m.skus) : insert sku id m = m ++ [(sku, id)] := by
  induction m with
  | nil => rfl
  | cons p m ih =>
    obtain ⟨s, i⟩ := p
    obtain ⟨hs, hm⟩ := not_or.1 (fun hmem => h (List.mem_cons.2 hmem))
    rw [insert, if_neg (by simpa using fun heq : s = sku => hs heq.symm), ih hm, List.cons_append]

/-- Pairs of different SKUs are a map as they stand. -/
theorem foldl_insert_of_nodup {pairs : List (String × ProductId)}
    (h : (skus (m ++ pairs)).Nodup) :
    pairs.foldl (fun m p => insert p.1 p.2 m) m = m ++ pairs := by
  induction pairs generalizing m with
  | nil => exact (List.append_nil m).symm
  | cons p pairs ih =>
    have hp : p.1 ∉ m.skus := by
      intro hmem
      have hsplit : (m.skus ++ p.1 :: skus pairs).Nodup := by
        simpa [skus] using h
      exact (List.nodup_append.1 hsplit).2.2 _ hmem _ List.mem_cons_self rfl
    have hmove : m ++ p :: pairs = (m ++ [p]) ++ pairs := by
      rw [List.append_assoc, List.singleton_append]
    rw [List.foldl_cons, insert_of_not_mem hp, ih (m := m ++ [p]) (hmove ▸ h), ← hmove]

theorem ofPairs_of_nodup (h : m.skus.Nodup) : ofPairs m = m :=
  foldl_insert_of_nodup (m := []) h

/-- The members of a stored map. -/
def members (m : SkuMap) : List (Json.Key × Json) :=
  m.map fun p => ((p.1 : Json.Key), .int p.2.toNat)

theorem members_cons (p : String × ProductId) (m : SkuMap) :
    members (p :: m) = ((p.1 : Json.Key), .int p.2.toNat) :: members m := rfl

theorem arePlainMembers_members (m : SkuMap) : Json.ArePlainMembers m.members := by
  induction m with
  | nil => exact trivial
  | cons p m ih => exact ⟨⟨_, rfl⟩, ih⟩

theorem mapM_uint64?_members (m : SkuMap) :
    (Json.asWrittenMembers m.members).mapM
        (fun (field : Json.Key × Json) => field.2.uint64?.map (field.1.text, ·)) = some m := by
  induction m with
  | nil => rfl
  | cons p m ih =>
    rw [members_cons, Json.asWrittenMembers, List.mapM_cons, ih]
    show (((Json.int p.2.toNat).uint64?.map (p.1, ·)).bind _ : Option SkuMap) = _
    rw [Json.uint64?_int]
    rfl

/-- **A map is read back from its stored text.** -/
theorem ofStored?_stored (h : m.skus.Nodup) : ofStored? m.stored = some m := by
  have hread := Json.read?_compact (j := .object m.members) (arePlainMembers_members m)
  have hstored : m.stored = (Json.object m.members).compact := rfl
  unfold ofStored?
  rw [hstored, hread]
  show (List.mapM (m := Option) _ (Json.asWrittenMembers m.members)).map ofPairs = some m
  rw [mapM_uint64?_members, Option.map_some, ofPairs_of_nodup h]

end

end SkuMap

/-! ## §4. Product numbers -/

/-- **A text names a product by its number exactly if it is the canonical
text of the number.** -/
theorem Commerce.canonicalId?_eq_some_iff {text : String} {id : ProductId} :
    Commerce.canonicalId? text = some id ↔ text = toString id.toNat := by
  have hlt : id.toNat < UInt64.size := id.toNat_lt
  unfold canonicalId?
  constructor
  · intro h
    simp only at h
    split at h
    · cases h
    split at h
    · rename_i hcanonical
      cases h
      rw [UInt64.toNat_ofNat_of_lt' hcanonical.1]
      exact hcanonical.2.symm
    · cases h
  · rintro rfl
    have hdigits : (toString id.toNat).toList = Decimal.Layout.digitsOf id.toNat :=
      Decimal.toList_toString _
    have hsome : ((Decimal.Layout.digitsOf id.toNat).isEmpty
        || !(Decimal.Layout.digitsOf id.toNat).all Char.isDigit) = false := by
      rw [List.isEmpty_eq_false_iff.2 (Decimal.digitsOf_ne_nil _), Bool.false_or,
        List.all_eq_true.2 fun c hc => Decimal.isDigit_of_mem_digitsOf hc]
      rfl
    simp only [hdigits, hsome, Decimal.digitsValue_digitsOf]
    rw [if_neg Bool.false_ne_true, if_pos ⟨hlt, trivial⟩, UInt64.ofNat_toNat]

end ContentGate
