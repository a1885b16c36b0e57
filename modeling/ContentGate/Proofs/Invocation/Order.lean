/-
  ContentGate.Proofs.Invocation.Order — the order of built-in attributes does not matter.

  An author's values take the places of the defaults, and only entries
  without a default come behind them, in the order in which the author
  wrote them.  So a tag may be written with its built-in attributes in
  any order, between its other entries or behind them: nothing of the
  invocation changes but the attributes as they were written.

  Attributes are known by their keys, in order, and the value of each
  (`Attributes.ext_keys`).  So it is enough to follow these two through
  the merging.

  Main statements:
    * `keys_foldl_insert`, `find?_foldl_insert` — the keys and the values of
      attributes over which entries are set;
    * `merged_eq_of_perm` — the attributes of a tag in normal form do not
      depend on the order of the built-in ones;
    * `reordered_alike` — nor does what the tag asks, or its decision.
-/
import ContentGate.Proofs.Invocation.Accounting
import ContentGate.Proofs.Page.Verdict
import ContentGate.Proofs.Tag.Entries

namespace ContentGate

namespace Attributes

/-! ## §1. Entries set over attributes -/

/-- The new keys come behind the old ones, in their order. -/
theorem keys_foldl_insert (f : String → String) {es : List (AttributeKey × String)}
    (hes : (es.map (·.1)).Nodup) (a : Attributes) :
    (es.foldl (fun a e => a.insert e.1 (f e.2)) a).keys
      = a.keys ++ (es.map (·.1)).filter fun key => !a.keys.contains key := by
  induction es generalizing a with
  | nil => exact (List.append_nil _).symm
  | cons e es ih =>
    rw [List.map_cons, List.nodup_cons] at hes
    obtain ⟨hnew, hes⟩ := hes
    rw [List.foldl_cons, ih hes, keys_insert, List.map_cons]
    by_cases hmem : e.1 ∈ a.keys
    · rw [if_pos hmem, List.filter_cons_of_neg (by simpa using hmem)]
    · -- The key is old from now on, but it is not set again.
      have hrest : ((es.map (·.1)).filter fun key => !(a.keys ++ [e.1]).contains key)
          = (es.map (·.1)).filter fun key => !a.keys.contains key := by
        refine List.filter_congr ?_
        intro key hkey
        have hne : key ≠ e.1 := by
          rintro rfl
          exact hnew hkey
        simp [hne]
      rw [if_neg hmem, List.filter_cons_of_pos (by simpa using hmem), hrest, List.append_assoc]
      rfl

/-- The values that are set take the place of the old ones. -/
theorem find?_foldl_insert (f : String → String) (es : List (AttributeKey × String))
    (hes : (es.map (·.1)).Nodup) (a : Attributes) (key : AttributeKey) :
    (es.foldl (fun a e => a.insert e.1 (f e.2)) a).find? key
      = (((es.find? (·.1 == key)).map (·.2)).map f).or (a.find? key) := by
  induction es generalizing a with
  | nil => rfl
  | cons e es ih =>
    rw [List.map_cons, List.nodup_cons] at hes
    rw [List.foldl_cons, ih hes.2, find?_insert]
    rw [map_find?_cons]
    by_cases hkey : e.1 = key
    · have hnone : es.find? (·.1 == key) = none := by
        rw [List.find?_eq_none]
        intro e' he' heq
        refine hes.1 ?_
        rw [hkey, ← eq_of_beq heq]
        exact List.mem_map_of_mem he'
      rw [if_pos hkey, if_pos hkey, hnone]
      rfl
    · rw [if_neg hkey, if_neg hkey]

end Attributes

/-! ## §2. The attributes of a tag in normal form -/

namespace Invocation

/-- Is an entry the author's own, of a kind that has no default? -/
def isOwn (e : AttributeKey × String) : Bool :=
  match e.1 with
  | .named name => AttributeKind.ofName name == .arbitrary
  | .positional _ => true

/-- The keys of the default attributes are the built-in names. -/
theorem keys_defaultAttributes (debugDefault : String) :
    (defaultAttributes debugDefault).keys = AttributeKind.builtins.map (.named ·.1) := rfl

/-- **An entry is the author's own if its key is not in the default template.** -/
theorem isOwn_eq (debugDefault : String) (e : AttributeKey × String) :
    isOwn e = !(defaultAttributes debugDefault).keys.contains e.1 := by
  rw [keys_defaultAttributes]
  obtain ⟨name | index, value⟩ := e
  · show (AttributeKind.ofName name == .arbitrary) = _
    by_cases hkind : AttributeKind.ofName name = .arbitrary
    · have hnone : AttributeKey.named name ∉ AttributeKind.builtins.map (.named ·.1) := by
        intro hmem
        obtain ⟨p, hp, heq⟩ := List.mem_map.1 hmem
        have hbuiltin : ∀ p ∈ AttributeKind.builtins, AttributeKind.ofName p.1 ≠ .arbitrary := by
          decide
        exact hbuiltin p hp (AttributeKey.named.inj heq ▸ hkind)
      rw [hkind, Bool.eq_false_iff.2 (mt List.contains_iff_mem.1 hnone)]
      rfl
    · have hmem := List.mem_map_of_mem (f := fun p => AttributeKey.named p.1)
        (AttributeKind.mem_builtins_of_ofName rfl hkind)
      rw [List.contains_iff_mem.2 hmem, beq_eq_false_iff_ne.2 hkind]
      rfl
  · have hnone : AttributeKey.positional index ∉ AttributeKind.builtins.map (.named ·.1) := by
      intro hmem
      obtain ⟨p, hp, heq⟩ := List.mem_map.1 hmem
      cases heq
    rw [Bool.eq_false_iff.2 (mt List.contains_iff_mem.1 hnone)]
    rfl

/-- The keys in normal form are those of the default template, and behind
them those of the author's own entries. -/
theorem keys_merged (raw : Attributes) (debugDefault : String) :
    (merged raw debugDefault).keys
      = (defaultAttributes debugDefault).keys ++ (raw.entries.filter isOwn).map (·.1) := by
  have hown : (raw.entries.map (·.1)).filter
        (fun key => !(defaultAttributes debugDefault).keys.contains key)
      = (raw.entries.filter isOwn).map (·.1) := by
    rw [List.filter_map]
    congr 1
    exact List.filter_congr fun e _ => (isOwn_eq debugDefault e).symm
  rw [← hown]
  exact Attributes.keys_foldl_insert normalValue raw.distinct _

/-- A value in normal form is the author's, or else the default. -/
theorem find?_merged (raw : Attributes) (debugDefault : String) (key : AttributeKey) :
    (merged raw debugDefault).find? key
      = ((raw.find? key).map normalValue).or ((defaultAttributes debugDefault).find? key) :=
  Attributes.find?_foldl_insert normalValue raw.entries raw.distinct _ key

/-- **The attributes in normal form do not depend on the order of the built-in ones.** -/
theorem merged_eq_of_perm {a b : Attributes} (hperm : a.entries.Perm b.entries)
    (hown : a.entries.filter isOwn = b.entries.filter isOwn) (debugDefault : String) :
    merged a debugDefault = merged b debugDefault := by
  refine Attributes.ext_keys ?_ ?_
  · -- The order of the keys only depends on the author's own entries,
    rw [keys_merged, keys_merged, hown]
  · -- and the value of a key not on any order.
    intro key
    rw [find?_merged, find?_merged, Attributes.find?_eq_of_perm hperm]

/-! ## §3. What the tag asks, and its decision -/

/-- The invocation with other attributes as they were written. -/
def withRaw (i : Invocation) (raw : Attributes) : Invocation := { i with raw }

/-- Compiling does not look at the attributes as they were written. -/
theorem compile_withRaw (i : Invocation) (raw : Attributes) (r : Resolved) (multisite : Bool) :
    (i.withRaw raw).compile r multisite = (i.compile r multisite).withRaw raw := rfl

/-- Of the attributes, only their normal form is read, but for the record of them. -/
theorem ofTag_attributes {t : Tag} {raw : Attributes} {r : Resolved}
    (h : merged raw r.options.debugDefault = merged t.attributes r.options.debugDefault)
    (user : UserId) :
    ofTag { t with attributes := raw } r user = (ofTag t r user).withRaw raw := by
  unfold ofTag
  rw [h]
  rfl

/-- **The order of the built-in attributes does not matter.**  Two tags differ in their
attributes, which are the same entries in another order; the entries without a default
stand in the same order.  Compiled, they differ in the attributes as they were written
and in nothing else: the attributes in normal form, in order, the modifiers, the
conditions and the errors are the same.  So every site decides them alike, for every
visitor and in every session, which is the same afterwards. -/
theorem reordered_alike (t : Tag) (raw : Attributes)
    (hperm : raw.entries.Perm t.attributes.entries)
    (hown : raw.entries.filter isOwn = t.attributes.entries.filter isOwn) :
    let t' : Tag := { t with attributes := raw }
    (∀ (r : Resolved) (user : UserId) (multisite : Bool),
        (ofTag t' r user).compile r multisite
          = ((ofTag t r user).compile r multisite).withRaw raw)
      ∧ ∀ {κ : Type} (s : Site κ) (v : Visitor) (σ : Session κ),
          (s.invoke v t').run σ
            = (((s.invoke v t).run σ).1.map (·.withRaw raw) id, ((s.invoke v t).run σ).2) := by
  intro t'
  have hcompile (r : Resolved) (user : UserId) (multisite : Bool) :
      (ofTag t' r user).compile r multisite
        = ((ofTag t r user).compile r multisite).withRaw raw := by
    rw [ofTag_attributes (merged_eq_of_perm hperm hown _), compile_withRaw]
  refine ⟨hcompile, ?_⟩
  intro κ s v σ
  unfold Site.invoke Site.compile
  rw [hcompile]
  exact Site.decide_map (·.withRaw raw) v _ rfl rfl (fun _ => rfl) σ

/-- A tag whose modifier stands between a value without a name, a function and a capability. -/
def memberTag : Tag where
  name := "if"
  attributes :=
    ((((Attributes.empty.insert (.positional 0) "now").insert (.named "_satisfy") "any").insert
      (.named "in_region") "north").insert (.named "_for_blog") "3").insert
      (.named "current_user_can") "edit_posts"
  body? := some "members"

/-- The same attributes, the built-in ones in front and the other way round. -/
def memberTagReordered : Attributes :=
  ((((Attributes.empty.insert (.named "current_user_can") "edit_posts").insert
    (.named "_for_blog") "3").insert (.named "_satisfy") "any").insert
    (.positional 0) "now").insert (.named "in_region") "north"

/-- A site that allows all of it but the value without a name. -/
def memberSite : Resolved :=
  Options.resolved { allowForBlog := true, allowArbitrary := true, whitelist := "in_region" }

theorem memberTag_reordered_alike :
    let t' : Tag := { memberTag with attributes := memberTagReordered }
    let i' := (ofTag t' memberSite 7).compile memberSite true
    t'.attributes.entries ≠ memberTag.attributes.entries
      ∧ t'.attributes.entries.Perm memberTag.attributes.entries
      ∧ i'.satisfy = .any ∧ i'.forBlog = 3
      ∧ i'.conditions.map Expression.text
          = ["current_user_can_for_blog(3, 'edit_posts')", "in_region('north')"]
      ∧ i'.errors = [.unsupportedBareAttribute "if" "now"] := by
  intro t' i'
  have hperm : t'.attributes.entries.Perm memberTag.attributes.entries := by decide
  have hown : t'.attributes.entries.filter isOwn
      = memberTag.attributes.entries.filter isOwn := by decide
  have hi' : i' = ((ofTag memberTag memberSite 7).compile memberSite true).withRaw _ :=
    (reordered_alike memberTag _ hperm hown).1 memberSite 7 true
  rw [hi']
  exact ⟨by decide, hperm, by decide +kernel, by decide +kernel, by decide +kernel,
    by decide +kernel⟩

end Invocation

end ContentGate
