/-
  ContentGate.Proofs.Page.Meaning — a nested page renders to its meaning.

  The MEANING of a template is read off its structure: a text stands for
  itself; a conditional stands for its first branch when its tag is
  decided to hold, for its second branch when it is not, and for nothing
  when the tag has errors.  Rendering knows nothing of this structure: it
  scans a page, decides the tags it finds, and renders the branches as
  pages again.  `render_print` says that the two agree on every
  template that is nested no deeper than there are names for tags, where
  the site's functions have no side effects.

  All decisions are asked in one session.  While a page is rendered only
  the log changes, so every session on the way is of a kind with the
  first one, and the functions are steady in this kind.

  The induction is on the template.  It carries the text that the scan
  has collected but not yet emitted, and the number of renderings that
  may still stand inside one another.
-/
import ContentGate.Page
import ContentGate.Proofs.Page.Template
import ContentGate.Proofs.Page.Verdict

namespace ContentGate

variable {κ : Type}

/-! ## §1. The meaning -/

namespace Template

/-- What a template stands for, inside `depth` conditionals.  The
decisions are asked in the session `σ`. -/
def meaning (s : Site κ) (v : Visitor) (σ : Session κ) : (depth : Nat) → Template → List Char
  | _, .nil => []
  | depth, .text t rest => t ++ meaning s v σ depth rest
  | depth, .conditional attributes yes no rest =>
    let (i, holds) := ((s.invoke v (tag depth attributes none)).run σ).1
    (if i.hasErrors then []
      else if holds then meaning s v σ (depth + 1) yes
      else meaning s v σ (depth + 1) no)
      ++ meaning s v σ depth rest

/-- The debug mode of every tag is off. -/
def Quiet (s : Site κ) (v : Visitor) : (depth : Nat) → Template → Prop
  | _, .nil => True
  | depth, .text _ rest => Quiet s v depth rest
  | depth, .conditional attributes yes no rest =>
    (s.compile v (tag depth attributes none)).debug = .off
      ∧ Quiet s v (depth + 1) yes ∧ Quiet s v (depth + 1) no ∧ Quiet s v depth rest

instance decidableQuiet (s : Site κ) (v : Visitor) :
    ∀ (depth : Nat) (t : Template), Decidable (t.Quiet s v depth)
  | _, .nil => inferInstanceAs (Decidable True)
  | depth, .text _ rest => decidableQuiet s v depth rest
  | depth, .conditional attributes yes no rest =>
    have := decidableQuiet s v (depth + 1) yes
    have := decidableQuiet s v (depth + 1) no
    have := decidableQuiet s v depth rest
    inferInstanceAs (Decidable ((s.compile v (tag depth attributes none)).debug = .off
      ∧ Quiet s v (depth + 1) yes ∧ Quiet s v (depth + 1) no ∧ Quiet s v depth rest))

end Template

/-! ## §2. One segment -/

namespace Site

/-- What a segment of a page becomes; `nested` renders a branch. -/
def showSegment (s : Site κ) (v : Visitor)
    (nested : String → OptionT (StateM (Session κ)) String) :
    Segment → OptionT (StateM (Session κ)) String
  | .text text => pure text
  | .tag t => do
    let r ← s.reply v t
    match r.branch? with
    | some branch => do
      let inner ← nested branch
      pure (r.lead ++ inner)
    | none => pure r.lead

theorem renderWithin_succ (s : Site κ) (v : Visitor) (levels : Nat) (page : String) :
    s.renderWithin v (levels + 1) page
      = (Segment.scan s.tagNames page).mapM (s.showSegment v (s.renderWithin v levels))
        >>= fun pieces => pure (String.join pieces) := by
  rw [renderWithin]
  rfl

variable {P : Session κ → Prop}

/-- In every session of a kind the computation succeeds with `a`, and the session stays of that
kind. -/
def Yields {α : Type} (P : Session κ → Prop) (x : OptionT (StateM (Session κ)) α) (a : α) :
    Prop := ReturnsIn P x.run (some a)

theorem Yields.pure {α : Type} (a : α) :
    Yields P (Pure.pure a : OptionT (StateM (Session κ)) α) a := ReturnsIn.pure _

theorem Yields.bind {α β : Type} {x : OptionT (StateM (Session κ)) α}
    {f : α → OptionT (StateM (Session κ)) β} {a : α} {b : β}
    (hx : Yields P x a) (hf : Yields P (f a) b) : Yields P (x >>= f) b := by
  unfold Yields
  rw [OptionT.run_bind]
  exact ReturnsIn.bind hx hf

theorem Yields.lift {α : Type} {x : StateM (Session κ) α} {a : α} (h : ReturnsIn P x a) :
    Yields P (liftM x : OptionT (StateM (Session κ)) α) a := by
  have hx : (liftM x : OptionT (StateM (Session κ)) α).run
      = x >>= fun a => Pure.pure (some a) := rfl
  unfold Yields
  rw [hx]
  exact h.bind (ReturnsIn.pure _)

/-- A tag whose debug mode is off becomes its chosen branch, rendered, or
nothing if it has errors. -/
theorem showSegment_tag {s : Site κ} {v : Visitor}
    {nested : String → OptionT (StateM (Session κ)) String} {t : Tag}
    {i : Invocation} {holds : Bool} {out : String} (hlog : IgnoresLog P)
    (hi : ReturnsIn P (s.invoke v t) (i, holds)) (hd : i.debug = .off)
    (herr : i.hasErrors = true → out = "")
    (hnested : i.hasErrors = false → Yields P (nested (i.branches.choose holds)) out) :
    Yields P (s.showSegment v nested (.tag t)) out := by
  have hreply : ReturnsIn P (s.reply v t)
      ⟨"", if i.hasErrors then none else some (i.branches.choose holds)⟩ :=
    hi.bind (replyTo_returns hlog hd holds)
  show Yields P (liftM (s.reply v t) >>= _) out
  refine Yields.bind (Yields.lift hreply) ?_
  cases he : i.hasErrors with
  | true =>
    rw [herr he]
    exact Yields.pure _
  | false =>
    have hout : out = "" ++ out := by simp
    rw [hout]
    exact (hnested he).bind (Yields.pure _)

/-! ## §3. Rows of segments -/

/-- In every session of a kind a row of segments becomes `out`. -/
def Shows (P : Session κ → Prop) (s : Site κ) (v : Visitor)
    (nested : String → OptionT (StateM (Session κ)) String)
    (segments : List Segment) (out : List Char) : Prop :=
  ∃ pieces, Yields P (segments.mapM (s.showSegment v nested)) pieces
    ∧ String.join pieces = String.ofList out

section
variable {s : Site κ} {v : Visitor} {nested : String → OptionT (StateM (Session κ)) String}

theorem Shows.nil : Shows P s v nested [] [] := ⟨[], Yields.pure _, rfl⟩

theorem Shows.singleton {segment : Segment} {out : List Char}
    (h : Yields P (s.showSegment v nested segment) (String.ofList out)) :
    Shows P s v nested [segment] out := by
  refine ⟨[String.ofList out], ?_, by simp⟩
  rw [List.mapM_cons]
  exact h.bind (Yields.pure _)

theorem Shows.append {segments₁ segments₂ : List Segment} {out₁ out₂ : List Char}
    (h₁ : Shows P s v nested segments₁ out₁) (h₂ : Shows P s v nested segments₂ out₂) :
    Shows P s v nested (segments₁ ++ segments₂) (out₁ ++ out₂) := by
  obtain ⟨pieces₁, hy₁, hj₁⟩ := h₁
  obtain ⟨pieces₂, hy₂, hj₂⟩ := h₂
  refine ⟨pieces₁ ++ pieces₂, ?_, by rw [String.join_append, hj₁, hj₂, String.ofList_append]⟩
  rw [List.mapM_append]
  exact hy₁.bind (hy₂.bind (Yields.pure _))

/-- Collected text becomes itself. -/
theorem Shows.ofText (reversed : List Char) :
    Shows P s v nested (Segment.ofText reversed) reversed.reverse := by
  unfold Segment.ofText
  split
  · rename_i h
    rw [List.isEmpty_iff.1 h]
    exact Shows.nil
  · exact Shows.singleton (Yields.pure _)

/-- A page becomes what its segments become. -/
theorem renderWithin_yields {levels : Nat} {page : String} {out : List Char}
    (h : Shows P s v (s.renderWithin v levels) (Segment.scan s.tagNames page) out) :
    Yields P (s.renderWithin v (levels + 1) page) (String.ofList out) := by
  obtain ⟨pieces, hy, hj⟩ := h
  rw [renderWithin_succ, ← hj]
  exact hy.bind (Yields.pure _)

end

end Site

/-! ## §4. Templates -/

namespace Template

open Site

variable {s : Site κ} {v : Visitor}

/-- The page of a template is scanned into its segments. -/
theorem scan_print (hname : s.options.options.name = "if") {t : Template} {d : Nat}
    (hd : d + t.height ≤ maxDepth + 1) (hw : t.WellFormed d) :
    Segment.scan s.tagNames (String.ofList (t.print d)) = t.segments d [] := by
  unfold Segment.scan tagNames
  rw [hname, String.toList_ofList]
  exact scanFrom_print t [] hd hw

section
variable {P : Session κ → Prop} (hshop : s.commerce? = none) (hcalls : s.functions.IsSteady P)
include hshop hcalls

/-- **A conditional, decided**: its errors and its answer are those of its tag, and its branches
are those of the template. -/
theorem invoke_conditional (helse : s.options.options.elseName = "else") {σ : Session κ} (hσ : P σ)
    (d : Nat) (attributes : List Char) (yes no : Template)
    (htrim : Markup.trimNoise (yes.print (d + 1)) = yes.print (d + 1)
      ∧ Markup.trimNoise (no.print (d + 1)) = no.print (d + 1))
    (hyes : yes.WellFormed (d + 1)) :
    ReturnsIn P (s.invoke v (tag d attributes (some (String.ofList (body d yes no)))))
      (((s.invoke v (tag d attributes none)).run σ).1.map (·.withBranches
        ⟨String.ofList (yes.print (d + 1)), String.ofList (no.print (d + 1))⟩) id) := by
  have hinvoke := invoke_fixed (v := v) hshop hcalls (tag d attributes none) hσ
    (some (String.ofList (body d yes no)))
  have hbranches : s.branchesOf (tag d attributes (some (String.ofList (body d yes no))))
      = ⟨String.ofList (yes.print (d + 1)), String.ofList (no.print (d + 1))⟩ := by
    have hdepth : TagName.depth (tag d attributes none).name = d := depth_name d
    show Branches.split _ s.options.options.elseName (TagName.depth (tag d attributes none).name) = _
    rw [helse, hdepth]
    exact split_body htrim hyes
  rw [← hbranches]
  exact hinvoke

/-- **The segments of a template become its meaning**, if a rendering is
left for each conditional inside another. -/
theorem segments_show (hname : s.options.options.name = "if")
    (helse : s.options.options.elseName = "else") (hlog : IgnoresLog P) {σ : Session κ}
    (hσ : P σ) :
    ∀ (t : Template) (d levels : Nat) (reversed : List Char),
      t.height ≤ levels → d + t.height ≤ maxDepth + 1 → t.WellFormed d → t.Quiet s v d →
      Shows P s v (s.renderWithin v levels) (t.segments d reversed)
        (reversed.reverse ++ t.meaning s v σ d) := by
  intro t
  induction t with
  | nil =>
    intro d levels reversed _ _ _ _
    show Shows P s v _ (Segment.ofText reversed) (reversed.reverse ++ [])
    rw [List.append_nil]
    exact Shows.ofText reversed
  | text t rest ih =>
    intro d levels reversed hl hd hw hq
    have h := ih d levels (t.reverse ++ reversed) hl hd hw.2 hq
    rw [List.reverse_append, List.reverse_reverse, List.append_assoc] at h
    exact h
  | conditional attributes yes no rest ihy ihn ihr =>
    intro d levels reversed hl hd ⟨hatt, htrim, hwy, hwn, hwr⟩ ⟨hqt, hqy, hqn, hqr⟩
    unfold height at hl hd
    obtain ⟨levels, rfl⟩ : ∃ l, levels = l + 1 := ⟨levels - 1, by omega⟩
    have hinvoke := invoke_conditional (v := v) hshop hcalls helse hσ d attributes yes no htrim hwy
    have hdebug := debug_decide (s := s) (v := v) (s.compile v (tag d attributes none)) σ
    rcases hdone : ((s.invoke v (tag d attributes none)).run σ).1 with ⟨i, holds⟩
    rw [hdone] at hinvoke
    have hoff : i.debug = .off := by
      rw [← hqt, ← hdebug]
      exact (congrArg (·.1.debug) hdone).symm
    -- a branch is a page, one conditional further in
    have hy : Yields P (s.renderWithin v (levels + 1) (String.ofList (yes.print (d + 1))))
        (String.ofList (yes.meaning s v σ (d + 1))) := by
      refine renderWithin_yields ?_
      rw [scan_print hname (by omega) hwy]
      exact ihy (d + 1) levels [] (by omega) (by omega) hwy hqy
    have hn : Yields P (s.renderWithin v (levels + 1) (String.ofList (no.print (d + 1))))
        (String.ofList (no.meaning s v σ (d + 1))) := by
      refine renderWithin_yields ?_
      rw [scan_print hname (by omega) hwn]
      exact ihn (d + 1) levels [] (by omega) (by omega) hwn hqn
    have htag : Yields P (s.showSegment v (s.renderWithin v (levels + 1))
          (.tag (tag d attributes (some (String.ofList (body d yes no))))))
        (String.ofList (if i.hasErrors then []
          else if holds then yes.meaning s v σ (d + 1)
          else no.meaning s v σ (d + 1))) := by
      refine showSegment_tag hlog hinvoke hoff ?_ ?_
      · intro he
        rw [Invocation.hasErrors_withBranches] at he
        rw [if_pos he]
      · intro he
        rw [Invocation.hasErrors_withBranches] at he
        rw [he]
        cases holds with
        | true => exact hy
        | false => exact hn
    have hmeaning : (conditional attributes yes no rest).meaning s v σ d
        = (if i.hasErrors then []
          else if holds then yes.meaning s v σ (d + 1)
          else no.meaning s v σ (d + 1)) ++ rest.meaning s v σ d := by
      rw [meaning, hdone]
    rw [hmeaning, ← List.append_assoc]
    exact ((Shows.ofText reversed).append (Shows.singleton htag)).append
      (ihr d (levels + 1) [] (by omega) (by omega) hwr hqr)

end

end Template

/-! ## §5. Whole pages -/

namespace Site

variable {s : Site κ} {t : Template}

/-- **In sessions in which the functions are steady** a page renders to the meaning that its
template has in any of them. -/
theorem render_print_of_steady (hname : s.options.options.name = "if")
    (helse : s.options.options.elseName = "else") (hshop : s.commerce? = none)
    {P : Session κ → Prop} (hcalls : s.functions.IsSteady P) (hlog : IgnoresLog P) (v : Visitor)
    (hheight : t.height ≤ maxDepth + 1) (hw : t.WellFormed 0) (hquiet : t.Quiet s v 0)
    {σ τ : Session κ} (hσ : P σ) (hτ : P τ) :
    ((s.render v (String.ofList (t.print 0))).run σ).1 = String.ofList (t.meaning s v τ 0) := by
  have hlevels : t.height ≤ maxDepth + 2 := by omega
  have hpage : Yields P (s.renderWithin v maxRenderings (String.ofList (t.print 0)))
      (String.ofList (t.meaning s v τ 0)) := by
    have hshows := Template.segments_show (v := v) hshop hcalls hname helse hlog hτ t 0
      (maxDepth + 2) [] hlevels (by omega) hw hquiet
    rw [← Template.scan_print hname (by omega) hw] at hshows
    exact renderWithin_yields hshows
  have hrun : ((s.render v (String.ofList (t.print 0))).run σ).1
      = (((s.renderWithin v maxRenderings (String.ofList (t.print 0))).run.run σ).1).getD "" :=
    rfl
  rw [hrun, (hpage.result hσ).1]
  rfl

/-- **A nested page renders to its meaning**, on a site without a shop, whose functions have no
side effects, and with the default names: for every template with at most one conditional inside
another for each name of the tag, the decisions are asked in the session in which the page is
rendered.  If the functions are pure, they may be asked in any session. -/
theorem render_print {s : Site κ} (hname : s.options.options.name = "if")
    (helse : s.options.options.elseName = "else") (hshop : s.commerce? = none)
    (hfunctions : s.functions.NoSideEffects) (v : Visitor)
    {t : Template} (hheight : t.height ≤ maxDepth + 1) (hw : t.WellFormed 0)
    (hquiet : t.Quiet s v 0) (σ : Session κ) :
    ((s.render v (String.ofList (t.print 0))).run σ).1 = String.ofList (t.meaning s v σ 0)
      ∧ (s.functions.IsPure → ∀ τ : Session κ,
          ((s.render v (String.ofList (t.print 0))).run σ).1
            = String.ofList (t.meaning s v τ 0)) := by
  constructor
  · exact render_print_of_steady hname helse hshop (hfunctions.isSteady σ)
      (ignoresLog_sameButLog σ) v hheight hw hquiet σ.sameButLog_self σ.sameButLog_self
  · intro hpure τ
    exact render_print_of_steady (P := fun _ => True) hname helse hshop (hpure.isSteady _)
      (fun _ _ _ => trivial) v hheight hw hquiet trivial trivial

/-- A greeting with a conditional inside another, and one that has an
error where direct conditions are not allowed. -/
def greeting : Template :=
  .text "Hello, ".toList <|
  .conditional "current_user_is_logged_in=\"true\"".toList
    (.text "member".toList <|
      .conditional "current_user_can='edit_posts'".toList
        (.text "!".toList .nil) (.text ".".toList .nil) .nil)
    (.text "guest".toList .nil) <|
  .text " Bye".toList <|
  .conditional "php=\"1\"".toList (.text "x".toList .nil) .nil .nil

/-- A site with the default options. -/
def plainSite : Site Unit := { options := ({} : Options).resolved }

/-- A logged-in user with one capability. -/
def editor : Visitor := Profile.visitor { id := 7, capabilities := ["edit_posts"] }

theorem render_greeting :
    plainSite.options.options.name = "if" ∧ plainSite.options.options.elseName = "else"
      ∧ plainSite.commerce? = none ∧ plainSite.functions.NoSideEffects
      ∧ greeting.height ≤ maxDepth + 1
      ∧ greeting.WellFormed 0 ∧ greeting.Quiet plainSite editor 0
      ∧ ((plainSite.render editor (String.ofList (greeting.print 0))).run ⟨(), {}, {}, []⟩).1
        = "Hello, member! Bye" := by
  have hheight : greeting.height ≤ maxDepth + 1 := by decide
  have hw : greeting.WellFormed 0 := by decide +kernel
  have hquiet : greeting.Quiet plainSite editor 0 := by decide +kernel
  have hpure : plainSite.functions.IsPure := LinkedRegistry.isPure_builtins
  refine ⟨rfl, rfl, rfl, hpure.noSideEffects, hheight, hw, hquiet, ?_⟩
  rw [(render_print rfl rfl rfl hpure.noSideEffects editor hheight hw hquiet ⟨(), {}, {}, []⟩).2
    hpure ⟨(), {}, {}, []⟩]
  decide +kernel

end Site

end ContentGate
