/-
  ContentGate.Proofs.Tag.Depth — the depth of a tag and the depth of its name.

  A site registers its name at five depths, by putting up to four underscores
  in front.  When a tag is used, its depth is found again by counting all the
  underscores at the head of its name.  The two rules undo each other for a
  name that does not itself start with an underscore.  The underscores of a
  name that does are counted with those that were added: its tags lie deeper
  than they were registered, at depths for which there may be no name, and
  are split at markers with more underscores than their authors write.

  Main statements:
    * `TagName.depth_atDepth` — underscores that are added are counted back, with those of
      the name;
    * `Segment.exists_atDepth_of_mem_scan` — a scanned tag was registered at some depth;
    * `Invocation.depth_registered_iff` — when that is the depth of its use;
    * `Invocation.underscored_else_lost` — a name with an underscore of its own.
-/
import ContentGate.Invocation.Basic
import ContentGate.Proofs.Tag.Sources

namespace ContentGate

open Text

/-! ## §1. Underscores -/

namespace TagName

/-- **Underscores that are added are counted back**, with those of the name. -/
theorem depth_atDepth (name : String) (d : Nat) : depth (atDepth name d) = d + depth name := by
  have hall : ∀ c ∈ List.replicate d '_', (c == '_') = true := by
    intro c hc
    rw [List.eq_of_mem_replicate hc]
    rfl
  unfold depth atDepth
  rw [String.toList_ofList, List.takeWhile_append_of_pos hall, List.length_append,
    List.length_replicate]

/-- A name is registered once at each depth. -/
theorem atDepth_inj {name : String} {d e : Nat} : atDepth name d = atDepth name e ↔ d = e := by
  constructor
  · intro h
    have hdepth := congrArg depth h
    rw [depth_atDepth, depth_atDepth] at hdepth
    omega
  · rintro rfl
    rfl

theorem mem_family_iff {name name' : String} :
    name' ∈ family name ↔ ∃ d ≤ maxDepth, name' = atDepth name d := by
  unfold family
  rw [List.mem_map]
  constructor
  · rintro ⟨d, hd, rfl⟩
    exact ⟨d, Nat.le_of_lt_succ (List.mem_range.1 hd), rfl⟩
  · rintro ⟨d, hd, rfl⟩
    exact ⟨d, List.mem_range.2 (Nat.lt_succ_of_le hd), rfl⟩

theorem depth_eq_zero_iff {name : String} : depth name = 0 ↔ name.toList.head? ≠ some '_' := by
  unfold depth
  cases name.toList with
  | nil => exact iff_of_true rfl (by intro h; cases h)
  | cons c cs =>
    by_cases hc : c = '_'
    · subst hc
      exact iff_of_false (by simp) (by simp)
    · exact iff_of_true (by simp [hc]) (by simpa using hc)

/-- The underscores of a marker. -/
theorem toList_elseMarker (elseName : String) (d : Nat) :
    (elseMarker elseName d).toList
      = '[' :: (List.replicate d '_' ++ (elseName.toList ++ [']'])) := by
  simp [elseMarker, atDepth]

end TagName

/-! ## §2. Tags of a page -/

namespace Segment

/-- The name of a scanned tag is one of those that are scanned for. -/
theorem name_mem_of_mem_scan {names : List String} {t : Tag} {page : String}
    (h : Segment.tag t ∈ scan names page) : t.name ∈ names := by
  obtain ⟨inner, behind, -, htag⟩ := exists_tagAt?_of_mem_scan h
  obtain ⟨x, hwrites, -⟩ := tagAt?_source htag
  exact hwrites.registered

/-- **A scanned tag was registered at some depth.** -/
theorem exists_atDepth_of_mem_scan {name : String} {t : Tag} {page : String}
    (h : Segment.tag t ∈ scan (TagName.family name) page) :
    ∃ d ≤ maxDepth, t.name = TagName.atDepth name d :=
  TagName.mem_family_iff.1 (name_mem_of_mem_scan h)

end Segment

/-- A body without the marker is one branch. -/
theorem Branches.split_eq_of_not_infix {body elseName : String} {depth : Nat}
    (h : ¬ (TagName.elseMarker elseName depth).toList <:+: body.toList) :
    split body elseName depth = ⟨Markup.trim body, ""⟩ := by
  unfold split
  rw [splitAtWord?_eq_none_iff.2 h]
  rfl

/-! ## §3. Uses of a tag -/

namespace Invocation

/-- **When a tag has the depth that it was registered for.**  A scanned tag was registered at one
depth.  The depth of its use is that number and the underscores of the site's own name.  So it is a
depth of the site, and the tag's name is the site's name at it, exactly if the site's name does not
start with an underscore.  The marker that the body is split at has the underscores of the use;
without such a marker the body has no second branch. -/
theorem depth_registered_iff {t : Tag} {page : String} (r : Resolved) (user : UserId)
    (h : Segment.tag t ∈ Segment.scan (TagName.family r.options.name) page) :
    let i := ofTag t r user
    let name := r.options.name
    let elseName := r.options.elseName
    ∃ d ≤ maxDepth, t.name = TagName.atDepth name d
      ∧ (∀ e, t.name = TagName.atDepth name e → e = d)
      ∧ i.depth = d + TagName.depth name
      ∧ (i.depth ≤ maxDepth ∧ t.name = TagName.atDepth name i.depth ↔
          name.toList.head? ≠ some '_')
      ∧ i.branches = Branches.split t.body elseName i.depth
      ∧ (TagName.elseMarker elseName i.depth).toList
          = '[' :: (List.replicate (d + TagName.depth name) '_' ++ (elseName.toList ++ [']']))
      ∧ (¬ (TagName.elseMarker elseName (d + TagName.depth name)).toList <:+: t.body.toList →
          i.branches = ⟨Markup.trim t.body, ""⟩) := by
  intro i name elseName
  obtain ⟨d, hd, hname⟩ := Segment.exists_atDepth_of_mem_scan h
  have hdepth : i.depth = d + TagName.depth name := by
    show TagName.depth t.name = _
    rw [hname, TagName.depth_atDepth]
  have hbranches : i.branches = Branches.split t.body elseName i.depth := rfl
  refine ⟨d, hd, hname, ?_, hdepth, ?_, hbranches, ?_, ?_⟩
  · intro e he
    exact TagName.atDepth_inj.1 (he.symm.trans hname)
  · rw [hname, TagName.atDepth_inj, hdepth, ← TagName.depth_eq_zero_iff]
    omega
  · rw [hdepth]
    exact TagName.toList_elseMarker elseName _
  · intro hnone
    rw [hbranches, hdepth]
    exact Branches.split_eq_of_not_infix hnone

/-- The options of a site with a name. -/
def optionsNamed (name : String) : Resolved := Options.resolved { name }

/-- The tag of a nested `[__when]` for members. -/
def whenTag : Tag :=
  ⟨"__when", Attributes.ofPairs [("current_user_can", "read")], some "A[__else]B"⟩

/-- On a site whose name has no underscore of its own. -/
theorem depth_registered_when :
    Segment.tag whenTag ∈ Segment.scan (TagName.family (optionsNamed "when").options.name)
        "See [__when current_user_can=read]A[__else]B[/__when]."
      ∧ (ofTag whenTag (optionsNamed "when") 0).depth ≤ maxDepth
      ∧ whenTag.name = TagName.atDepth "when" (ofTag whenTag (optionsNamed "when") 0).depth
      ∧ (ofTag whenTag (optionsNamed "when") 0).branches = ⟨"A", "B"⟩ := by
  have hscan : Segment.tag whenTag ∈
      Segment.scan (TagName.family (optionsNamed "when").options.name)
        "See [__when current_user_can=read]A[__else]B[/__when]." :=
    List.mem_cons_of_mem _ List.mem_cons_self
  obtain ⟨d, -, -, -, -, hregistered, -⟩ := depth_registered_iff (optionsNamed "when") 0 hscan
  obtain ⟨hdepth, hname⟩ := hregistered.2 (by decide)
  exact ⟨hscan, hdepth, hname, rfl⟩

/-- A tag of the name `_if`, with a marker of the depth at which it was registered. -/
def underscoredTag : Tag := ⟨"_if", Attributes.ofPairs [("a", "1")], some "in[else]out"⟩

/-- **A name with an underscore of its own.**  Its tags without an underscore in front lie one
level too deep, so that their second branches are lost, and those with four lie below the deepest
level. -/
theorem underscored_else_lost :
    Segment.scan (TagName.family (optionsNamed "_if").options.name) "[_if a=1]in[else]out[/_if]"
        = [.tag underscoredTag]
      ∧ underscoredTag.name = TagName.atDepth "_if" 0
      ∧ (ofTag underscoredTag (optionsNamed "_if") 0).depth = 1
      ∧ (ofTag underscoredTag (optionsNamed "_if") 0).branches = ⟨"in[else]out", ""⟩
      ∧ Segment.scan (TagName.family (optionsNamed "_if").options.name) "[_____if]"
        = [.tag ⟨"_____if", Attributes.empty, none⟩]
      ∧ (ofTag ⟨"_____if", Attributes.empty, none⟩ (optionsNamed "_if") 0).depth = maxDepth + 1
      ∧ ¬ ∀ (r : Resolved) (user : UserId) (page : String) (t : Tag),
          Segment.tag t ∈ Segment.scan (TagName.family r.options.name) page →
            (ofTag t r user).depth ≤ maxDepth
              ∧ t.name = TagName.atDepth r.options.name (ofTag t r user).depth := by
  have hscan : Segment.scan (TagName.family (optionsNamed "_if").options.name)
      "[_if a=1]in[else]out[/_if]" = [.tag underscoredTag] := rfl
  refine ⟨hscan, rfl, rfl, rfl, rfl, rfl, ?_⟩
  intro h
  have hname := (h (optionsNamed "_if") 0 "[_if a=1]in[else]out[/_if]" underscoredTag
    (hscan ▸ List.mem_cons_self)).2
  exact absurd hname (by decide)

end Invocation

end ContentGate
