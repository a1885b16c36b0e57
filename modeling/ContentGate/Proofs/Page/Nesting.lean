/-
  ContentGate.Proofs.Page.Nesting — how many renderings stand inside one another.

  To render a page is to render the branches that its tags show, as pages
  again, and nobody counts how deep this goes.  It does not go deep.  What a
  tag encloses ends in front of the first closing tag of its name, so this
  name no longer closes inside it: each level uses up one name.  Where no
  name is left, tags stand alone, their branches are empty, and an empty
  page has no tags.

  `Unfolds` is rendering without any count of levels; it tells how many
  renderings stood inside one another.  `renderWithin`, which is given a
  number of levels, agrees with it.

  Main statements:
    * `choose_split_isInfix` — a branch is part of the body of its tag;
    * `room_lt_of_isBranch` — inside a branch there is less room;
    * `exists_unfolds` — with more levels than room, a page is rendered;
    * `Unfolds.unique` — in one way only;
    * `render_bounded` — every page is rendered, in a bounded depth.
-/
import Mathlib.Data.List.Infix
import ContentGate.Page
import ContentGate.Proofs.Markup.Noise
import ContentGate.Proofs.Page.Meaning
import ContentGate.Proofs.Page.Withheld
import ContentGate.Proofs.Tag.Sources

namespace ContentGate

open Text

/-! ## §1. Branches are parts of bodies -/

/-- **A branch is part of the body** that it is cut from. -/
theorem Branches.choose_split_isInfix (body elseName : String) (depth : Nat) (holds : Bool) :
    ((Branches.split body elseName depth).choose holds).toList <:+: body.toList := by
  unfold Branches.split
  split
  · rename_i yes no hcut
    have hbody := eq_append_of_splitAtWord? hcut
    cases holds with
    | true =>
      show (String.ofList (Markup.trimNoise yes)).toList <:+: _
      rw [String.toList_ofList, hbody, List.append_assoc]
      exact (Markup.trimNoise_isInfix yes).trans (List.prefix_append _ _).isInfix
    | false =>
      show (String.ofList (Markup.trimNoise no)).toList <:+: _
      rw [String.toList_ofList, hbody]
      exact (Markup.trimNoise_isInfix no).trans (List.suffix_append _ _).isInfix
  · cases holds with
    | true =>
      show (String.ofList (Markup.trimNoise body.toList)).toList <:+: _
      rw [String.toList_ofList]
      exact Markup.trimNoise_isInfix _
    | false =>
      show [] <:+: _
      exact List.nil_infix

namespace Site

variable {κ : Type} {s : Site κ} {v : Visitor}

/-! ## §2. The room on a page -/

/-- The names of the site's tag that close on a page. -/
def closingNames (s : Site κ) (page : String) : List String :=
  s.tagNames.filter fun name => Segment.closingTag name.toList <:+: page.toList

/-- How many renderings can stand inside that of a page: one for each name that
closes there, and one for the empty branch of a tag that stands alone. -/
def room (s : Site κ) (page : String) : Nat :=
  if page = "" then 0 else (s.closingNames page).length + 1

theorem room_le (s : Site κ) (page : String) : s.room page ≤ maxDepth + 2 := by
  have hnames : s.tagNames.length = maxDepth + 1 := by simp [tagNames, TagName.family]
  have hclosing : (s.closingNames page).length ≤ s.tagNames.length := List.length_filter_le _ _
  unfold room
  split <;> omega

/-- A branch of a tag on a page.  Which of its two branches the tag shows is left open. -/
def IsBranch (s : Site κ) (page branch : String) : Prop :=
  ∃ (t : Tag) (holds : Bool), Segment.tag t ∈ Segment.scan s.tagNames page
    ∧ branch = (s.branchesOf t).choose holds

/-- Where a tag encloses something, its name closes; inside, it closes no more. -/
theorem closingNames_body_lt {t : Tag} {page body branch : String}
    (ht : Segment.tag t ∈ Segment.scan s.tagNames page) (hbody : t.body? = some body)
    (hbranch : branch.toList <:+: body.toList) :
    (s.closingNames branch).length < (s.closingNames page).length := by
  obtain ⟨inner, behind, hinner, htag⟩ := Segment.exists_tagAt?_of_mem_scan ht
  obtain ⟨x, hwrites, htext⟩ := Segment.tagAt?_source htag
  have hpage : body.toList ++ Segment.closingTag t.name.toList <:+: page.toList := by
    refine List.IsInfix.trans ?_ hinner.isInfix
    rw [htext]
    refine ⟨'[' :: (t.name.toList ++ (x ++ [']'])), behind, ?_⟩
    simp [Segment.tagText, hbody]
  have hinside : branch.toList <:+: page.toList :=
    hbranch.trans ((List.prefix_append _ _).isInfix.trans hpage)
  -- What closes in the branch closes on the page, but not the other way round.
  have hsub : s.closingNames branch = (s.closingNames page).filter fun name =>
      Segment.closingTag name.toList <:+: branch.toList := by
    unfold closingNames
    rw [List.filter_filter]
    refine List.filter_congr fun name _ => ?_
    rw [Bool.eq_iff_iff, Bool.and_eq_true, decide_eq_true_eq, decide_eq_true_eq]
    exact ⟨fun h => ⟨h, h.trans hinside⟩, fun h => h.1⟩
  rw [hsub, List.length_filter_lt_length_iff_exists]
  refine ⟨t.name, List.mem_filter.2 ⟨hwrites.registered, ?_⟩, ?_⟩
  · exact decide_eq_true ((List.suffix_append _ _).isInfix.trans hpage)
  · rw [decide_eq_true_eq]
    exact fun hcloses => hwrites.body body hbody (hcloses.trans hbranch)

/-- **Inside a branch there is less room.** -/
theorem room_lt_of_isBranch {page branch : String} (h : s.IsBranch page branch) :
    s.room branch < s.room page := by
  obtain ⟨t, holds, ht, rfl⟩ := h
  have hinfix : ((s.branchesOf t).choose holds).toList <:+: t.body.toList :=
    Branches.choose_split_isInfix t.body _ _ holds
  generalize (s.branchesOf t).choose holds = branch at hinfix ⊢
  have hpage : page ≠ "" := by
    rintro rfl
    cases ht
  unfold room
  rw [if_neg hpage]
  by_cases hempty : branch = ""
  · rw [if_pos hempty]
    omega
  · rw [if_neg hempty]
    cases hbody : t.body? with
    | none =>
      -- A tag that stands alone has no other branch than the empty one.
      refine absurd ?_ hempty
      have hnil : branch.toList = [] := by simpa [Tag.body, hbody] using hinfix
      rw [← String.ofList_toList (s := branch), hnil]
    | some body =>
      have hlt := closingNames_body_lt ht hbody (by simpa [Tag.body, hbody] using hinfix)
      omega

/-- Pages of which each is a branch of the one before: no more than fit into the first. -/
theorem length_le_of_isChain {page : String} {stack : List String}
    (h : (page :: stack).IsChain s.IsBranch) : stack.length ≤ s.room page := by
  induction stack generalizing page with
  | nil => exact Nat.zero_le _
  | cons branch stack ih =>
    obtain ⟨hbranch, hrest⟩ := List.isChain_cons_cons.1 h
    have hlt := room_lt_of_isBranch hbranch
    have hle := ih hrest
    rw [List.length_cons]
    omega

/-! ## §3. Rendering without levels -/

/-- The segments of a page become a text, for a visitor, from one session to
another; `below` renderings of branches stand inside one another at most. -/
inductive Unfolds (s : Site κ) (v : Visitor) :
    (below : Nat) → List Segment → Session κ → String → Session κ → Prop
  | nil {σ} : Unfolds s v 0 [] σ "" σ
  /-- Text is itself. -/
  | text {below text rest σ out τ} (hrest : Unfolds s v below rest σ out τ) :
    Unfolds s v below (.text text :: rest) σ (text ++ out) τ
  /-- A tag without a branch is its own text. -/
  | alone {below t lead rest σ σ' out τ} (hreply : (s.reply v t).run σ = (⟨lead, none⟩, σ'))
    (hrest : Unfolds s v below rest σ' out τ) :
    Unfolds s v below (.tag t :: rest) σ (lead ++ out) τ
  /-- The branch of a tag is a page again. -/
  | branch {inside below t lead branch rest σ σ' inner σ'' out τ}
    (hreply : (s.reply v t).run σ = (⟨lead, some branch⟩, σ'))
    (hbranch : Unfolds s v inside (Segment.scan s.tagNames branch) σ' inner σ'')
    (hrest : Unfolds s v below rest σ'' out τ) :
    Unfolds s v (max (inside + 1) below) (.tag t :: rest) σ (lead ++ inner ++ out) τ

/-- **Rendering has one outcome.** -/
theorem Unfolds.unique {below below' : Nat} {segments : List Segment} {σ τ τ' : Session κ}
    {out out' : String} (h : Unfolds s v below segments σ out τ)
    (h' : Unfolds s v below' segments σ out' τ') : below = below' ∧ out = out' ∧ τ = τ' := by
  induction h generalizing below' out' τ' with
  | nil =>
    cases h'
    exact ⟨rfl, rfl, rfl⟩
  | text hrest ih =>
    cases h' with
    | text hrest' =>
      obtain ⟨rfl, rfl, rfl⟩ := ih hrest'
      exact ⟨rfl, rfl, rfl⟩
  | alone hreply hrest ih =>
    cases h' with
    | alone hreply' hrest' =>
      rw [hreply] at hreply'
      cases hreply'
      obtain ⟨rfl, rfl, rfl⟩ := ih hrest'
      exact ⟨rfl, rfl, rfl⟩
    | branch hreply' hbranch' hrest' =>
      rw [hreply] at hreply'
      cases hreply'
  | branch hreply hbranch hrest ihbranch ihrest =>
    cases h' with
    | alone hreply' hrest' =>
      rw [hreply] at hreply'
      cases hreply'
    | branch hreply' hbranch' hrest' =>
      rw [hreply] at hreply'
      cases hreply'
      obtain ⟨rfl, rfl, rfl⟩ := ihbranch hbranch'
      obtain ⟨rfl, rfl, rfl⟩ := ihrest hrest'
      exact ⟨rfl, rfl, rfl⟩

/-! ## §4. Rendering with levels -/

/-- From this session the computation succeeds, with a result and a session behind it. -/
def Succeeds {α : Type} (x : OptionT (StateM (Session κ)) α) (σ : Session κ) (a : α)
    (τ : Session κ) : Prop := x.run.run σ = (some a, τ)

section
variable {α β : Type} {σ τ ρ : Session κ} {a : α} {b : β}

theorem Succeeds.pure : Succeeds (Pure.pure a) σ a σ := rfl

theorem Succeeds.bind {x : OptionT (StateM (Session κ)) α}
    {f : α → OptionT (StateM (Session κ)) β} (hx : Succeeds x σ a τ)
    (hf : Succeeds (f a) τ b ρ) : Succeeds (x >>= f) σ b ρ := by
  unfold Succeeds at *
  rw [OptionT.run_bind, Option.elimM, StateT.run_bind, hx]
  exact hf

theorem Succeeds.lift {x : StateM (Session κ) α} (h : x.run σ = (a, τ)) :
    Succeeds (liftM x : OptionT (StateM (Session κ)) α) σ a τ := by
  have hx : (liftM x : OptionT (StateM (Session κ)) α).run = x >>= fun a => Pure.pure (some a) := rfl
  unfold Succeeds
  rw [hx, StateT.run_bind, h]
  rfl

end

/-- What a tag on a page shows is one of its branches. -/
theorem isBranch_of_reply {t : Tag} {page lead branch : String} {σ τ : Session κ}
    (ht : Segment.tag t ∈ Segment.scan s.tagNames page)
    (h : (s.reply v t).run σ = (⟨lead, some branch⟩, τ)) : s.IsBranch page branch := by
  rcases hinvoke : (s.invoke v t).run σ with ⟨⟨i, holds⟩, ρ⟩
  by_cases herrors : i.errors = []
  · have hbranches : i.branches = s.branchesOf t := by
      have hgiven := branches_invoke (s := s) (v := v) t σ
      rwa [hinvoke] at hgiven
    rw [run_reply_of_no_errors hinvoke herrors, hbranches] at h
    cases h
    exact ⟨t, holds, ht, rfl⟩
  · -- A tag with errors shows no branch.
    unfold reply at h
    rw [StateT.run_bind, hinvoke] at h
    change (s.replyTo i holds).run ρ = _ at h
    rw [run_replyTo_of_errors herrors] at h
    split at h <;> cases h

section
variable {nested : String → OptionT (StateM (Session κ)) String} {t : Tag} {lead : String}
  {σ τ : Session κ}

theorem Succeeds.showSegment_alone (hreply : (s.reply v t).run σ = (⟨lead, none⟩, τ)) :
    Succeeds (s.showSegment v nested (.tag t)) σ lead τ := by
  refine Succeeds.bind (Succeeds.lift hreply) ?_
  exact Succeeds.pure

theorem Succeeds.showSegment_branch {branch inner : String} {ρ : Session κ}
    (hreply : (s.reply v t).run σ = (⟨lead, some branch⟩, τ))
    (hnested : Succeeds (nested branch) τ inner ρ) :
    Succeeds (s.showSegment v nested (.tag t)) σ (lead ++ inner) ρ := by
  refine Succeeds.bind (Succeeds.lift hreply) ?_
  exact hnested.bind Succeeds.pure

end

/-- **With more levels than there is room, a page is rendered**, and no more
renderings stand inside one another than there is room for. -/
theorem exists_unfolds (levels : Nat) (page : String) (h : s.room page < levels) (σ : Session κ) :
    ∃ below out τ, below ≤ s.room page
      ∧ Unfolds s v below (Segment.scan s.tagNames page) σ out τ
      ∧ Succeeds (s.renderWithin v levels page) σ out τ := by
  induction levels generalizing page σ with
  | zero => exact absurd h (Nat.not_lt_zero _)
  | succ levels ih =>
    -- First the segments of the page, one after the other.
    have hsegments : ∀ segments, segments ⊆ Segment.scan s.tagNames page → ∀ σ,
        ∃ below pieces τ, below ≤ s.room page
          ∧ Unfolds s v below segments σ (String.join pieces) τ
          ∧ Succeeds (segments.mapM (s.showSegment v (s.renderWithin v levels))) σ pieces τ := by
      intro segments hsub
      induction segments with
      | nil => exact fun σ => ⟨0, [], σ, Nat.zero_le _, .nil, .pure⟩
      | cons segment rest ihrest =>
        intro σ
        obtain ⟨hmem, hrest⟩ := List.cons_subset.1 hsub
        cases segment with
        | text text =>
          obtain ⟨below, pieces, τ, hle, hunfolds, hruns⟩ := ihrest hrest σ
          refine ⟨below, text :: pieces, τ, hle, ?_, ?_⟩
          · rw [String.join_cons]
            exact .text hunfolds
          · rw [List.mapM_cons]
            exact Succeeds.pure.bind (hruns.bind .pure)
        | tag t =>
          rcases hreply : (s.reply v t).run σ with ⟨⟨lead, branch?⟩, ρ⟩
          cases branch? with
          | none =>
            obtain ⟨below, pieces, τ, hle, hunfolds, hruns⟩ := ihrest hrest ρ
            refine ⟨below, lead :: pieces, τ, hle, ?_, ?_⟩
            · rw [String.join_cons]
              exact .alone hreply hunfolds
            · rw [List.mapM_cons]
              exact (Succeeds.showSegment_alone hreply).bind (hruns.bind .pure)
          | some branch =>
            have hlt := room_lt_of_isBranch (isBranch_of_reply hmem hreply)
            obtain ⟨inside, inner, ρ', hinside, hbranch, hinner⟩ := ih branch (by omega) ρ
            obtain ⟨below, pieces, τ, hle, hunfolds, hruns⟩ := ihrest hrest ρ'
            refine ⟨max (inside + 1) below, (lead ++ inner) :: pieces, τ, by omega, ?_, ?_⟩
            · rw [String.join_cons]
              exact .branch hreply hbranch hunfolds
            · rw [List.mapM_cons]
              exact (Succeeds.showSegment_branch hreply hinner).bind (hruns.bind .pure)
    obtain ⟨below, pieces, τ, hle, hunfolds, hruns⟩ := hsegments _ (List.Subset.refl _) σ
    refine ⟨below, String.join pieces, τ, hle, hunfolds, ?_⟩
    rw [renderWithin_succ]
    exact hruns.bind .pure

/-- **Every page is rendered, and in a bounded depth.**  Whatever the names of
the site's tag and of its marker, and whatever becomes of the conditions:
rendering a page ends, with the text and the session of `render`; at most
`maxDepth + 2` renderings stand inside one another and inside that of the
page; and no row of pages of which each is a branch of the one before is
longer than `maxDepth + 3`. -/
theorem render_bounded (s : Site κ) (v : Visitor) (page : String) (σ : Session κ) :
    (∃ below out τ, Unfolds s v below (Segment.scan s.tagNames page) σ out τ)
      ∧ (∀ below out τ, Unfolds s v below (Segment.scan s.tagNames page) σ out τ →
          below ≤ maxDepth + 2 ∧ (s.render v page).run σ = (out, τ))
      ∧ ∀ stack : List String, (page :: stack).IsChain s.IsBranch →
          (page :: stack).length ≤ maxDepth + 3 := by
  have hroom := s.room_le page
  obtain ⟨below, out, τ, hle, hunfolds, hruns⟩ :=
    exists_unfolds (v := v) maxRenderings page (Nat.lt_succ_of_le hroom) σ
  refine ⟨⟨below, out, τ, hunfolds⟩, ?_, ?_⟩
  · intro below' out' τ' hunfolds'
    obtain ⟨rfl, rfl, rfl⟩ := hunfolds.unique hunfolds'
    refine ⟨hle.trans hroom, ?_⟩
    unfold render
    rw [StateT.run_bind, hruns]
    rfl
  · intro stack hstack
    exact Nat.succ_le_succ ((length_le_of_isChain hstack).trans hroom)

end Site

end ContentGate
