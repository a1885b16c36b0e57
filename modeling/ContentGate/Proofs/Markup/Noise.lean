/-
  ContentGate.Proofs.Markup.Noise — what is trimmed from the ends of a branch.

  A noise token is a blank, `&nbsp;`, a line break, or one half of a
  paragraph (`NoiseToken`); noise is any number of them in a row (`Noise`).
  No noise token begins another one, so there is one way at most to take
  noise from the head of a text (`Noise.of_append`).  That is why the reader
  of leading noise, which never looks back, finds all of it.

  Trailing noise is found from its start: the first place from which noise
  reaches the end.  No token stands in front of that place, or there would be
  an earlier one.

  Main statements:
    * `NoiseToken.drop`, `exists_token_of_dropNoise?` — what the reader takes for a token;
    * `exists_dropLeading`, `exists_dropTrailing` — what is dropped at either end;
    * `trimNoise_eq_self` — a text without noise at its ends is left alone;
    * `trim_strips_noise` — trimming takes the noise at both ends, and nothing else.
-/
import ContentGate.Markup.Noise
import ContentGate.Proofs.Text.Blank

namespace ContentGate.Markup

open Text

/-! ## §1. Noise -/

/-- A word of small letters and signs, written in any case. -/
def AnyCase (word : List Char) (cs : List Char) : Prop :=
  List.Forall₂ (fun a c => isLetter a c = true) word cs

/-- One piece of empty markup. -/
inductive NoiseToken : List Char → Prop where
  | blank {c : Char} (hc : isBlank c = true) : NoiseToken [c]
  /-- `&nbsp;` -/
  | space {name : List Char} (hname : AnyCase "nbsp;".toList name) : NoiseToken ('&' :: name)
  /-- `<br>`, with blanks behind the letters and a slash, or without. -/
  | lineBreak {name blanks slash : List Char} (hname : AnyCase ['b', 'r'] name)
      (hblanks : Text.blank blanks = true) (hslash : slash = [] ∨ slash = ['/']) :
      NoiseToken ('<' :: (name ++ (blanks ++ (slash ++ ['>']))))
  /-- `<p>` -/
  | paragraph {name : List Char} (hname : AnyCase ['p', '>'] name) : NoiseToken ('<' :: name)
  /-- `</p>` -/
  | paragraphEnd {name : List Char} (hname : AnyCase ['/', 'p', '>'] name) :
      NoiseToken ('<' :: name)

/-- Any number of noise tokens, one after another. -/
inductive Noise : List Char → Prop where
  | nil : Noise []
  | cons {token cs : List Char} (htoken : NoiseToken token) (h : Noise cs) : Noise (token ++ cs)

theorem NoiseToken.ne_nil {token : List Char} (h : NoiseToken token) : token ≠ [] := by
  cases h <;> exact List.cons_ne_nil _ _

/-! ## §2. The reader of a token -/

section
variable {word cs rest : List Char}

theorem AnyCase.drop {name : List Char} (h : AnyCase word name) (rest : List Char) :
    dropAnyCase? word (name ++ rest) = some rest := by
  induction h with
  | nil => rfl
  | cons hc _ ih =>
    rw [List.cons_append, dropAnyCase?, if_pos hc]
    exact ih

theorem exists_name_of_dropAnyCase? (h : dropAnyCase? word cs = some rest) :
    ∃ name, AnyCase word name ∧ cs = name ++ rest := by
  induction word generalizing cs with
  | nil => exact ⟨[], .nil, Option.some.inj h⟩
  | cons a word ih =>
    cases cs with
    | nil => cases h
    | cons c cs =>
      rw [dropAnyCase?] at h
      split at h
      · rename_i hc
        obtain ⟨name, hname, rfl⟩ := ih h
        exact ⟨c :: name, .cons hc hname, rfl⟩
      · cases h

/-- A letter other than the `s` has no cases but its capital and its small form. -/
theorem toLower_of_isLetter {a c : Char} (ha : a ≠ 's') (h : isLetter a c = true) :
    c.toLower = a := by
  simpa [isLetter, ha] using h

/-- Where a word is written, no word with another head is. -/
theorem dropAnyCase?_eq_none {a b : Char} {name : List Char} (h : AnyCase (a :: word) name)
    (ha : a ≠ 's') (hb : b ≠ 's') (hab : a ≠ b) (more rest : List Char) :
    dropAnyCase? (b :: more) (name ++ rest) = none := by
  cases h with
  | cons hc _ =>
    rw [List.cons_append, dropAnyCase?, if_neg]
    intro hc'
    exact hab ((toLower_of_isLetter ha hc).symm.trans (toLower_of_isLetter hb hc'))

/-- The end of a line break, behind its letters. -/
theorem endOfBreak?_eq_some_iff :
    endOfBreak? cs = some rest ↔ ∃ blanks slash, blank blanks = true ∧ (slash = [] ∨ slash = ['/'])
      ∧ cs = blanks ++ (slash ++ '>' :: rest) := by
  constructor
  · intro h
    have hcs : cs = cs.takeWhile isBlank ++ trimStart cs := List.takeWhile_append_dropWhile.symm
    unfold endOfBreak? at h
    split at h
    · rename_i heq
      rw [heq, Option.some.inj h] at hcs
      exact ⟨_, ['/'], List.all_takeWhile, .inr rfl, hcs⟩
    · rename_i heq
      rw [heq, Option.some.inj h] at hcs
      exact ⟨_, [], List.all_takeWhile, .inl rfl, hcs⟩
    · cases h
  · rintro ⟨blanks, slash, hblanks, hslash, rfl⟩
    have htrim (c : Char) (hc : isBlank c = false) (behind : List Char) :
        trimStart (blanks ++ c :: behind) = c :: behind :=
      dropWhile_run (List.all_eq_true.1 hblanks) fun d hd => by rwa [← Option.some.inj hd]
    unfold endOfBreak?
    rcases hslash with rfl | rfl
    · rw [List.nil_append, htrim '>' rfl]
      rfl
    · rw [List.singleton_append, htrim '/' rfl]
      rfl

/-- **The reader takes a noise token from the head of a text**, -/
theorem NoiseToken.drop {token : List Char} (h : NoiseToken token) (rest : List Char) :
    dropNoise? (token ++ rest) = some rest := by
  have hsign : isBlank '<' = false := rfl
  cases h with
  | @blank c hc => rw [List.singleton_append, dropNoise?, if_pos hc]
  | @space name hname =>
    show dropAnyCase? "nbsp;".toList (name ++ rest) = _
    exact hname.drop rest
  | @lineBreak name blanks slash hname hblanks hslash =>
    have hcs : '<' :: (name ++ (blanks ++ (slash ++ ['>']))) ++ rest
        = '<' :: (name ++ (blanks ++ (slash ++ '>' :: rest))) := by simp
    rw [hcs, dropNoise?, hsign, hname.drop]
    exact endOfBreak?_eq_some_iff.2 ⟨blanks, slash, hblanks, hslash, rfl⟩
  | @paragraph name hname =>
    have hbreak : dropAnyCase? ['b', 'r'] (name ++ rest) = none :=
      dropAnyCase?_eq_none hname (by decide) (by decide) (by decide) _ _
    rw [List.cons_append, dropNoise?, hsign, hbreak, hname.drop]
    rfl
  | @paragraphEnd name hname =>
    have hbreak : dropAnyCase? ['b', 'r'] (name ++ rest) = none :=
      dropAnyCase?_eq_none hname (by decide) (by decide) (by decide) _ _
    have hstart : dropAnyCase? ['p', '>'] (name ++ rest) = none :=
      dropAnyCase?_eq_none hname (by decide) (by decide) (by decide) _ _
    rw [List.cons_append, dropNoise?, hsign, hbreak, hstart, hname.drop]
    rfl

/-- **and nothing else.** -/
theorem exists_token_of_dropNoise? (h : dropNoise? cs = some rest) :
    ∃ token, NoiseToken token ∧ cs = token ++ rest := by
  cases cs with
  | nil => cases h
  | cons c cs =>
    rw [dropNoise?] at h
    split at h
    · rename_i hc
      exact ⟨[c], .blank hc, by rw [Option.some.inj h]; rfl⟩
    split at h
    · rename_i hc
      subst hc
      obtain ⟨name, hname, rfl⟩ := exists_name_of_dropAnyCase? h
      exact ⟨_, .space hname, rfl⟩
    split at h
    · rename_i hc
      subst hc
      split at h
      · rename_i behind hbreak
        obtain ⟨name, hname, rfl⟩ := exists_name_of_dropAnyCase? hbreak
        obtain ⟨blanks, slash, hblanks, hslash, rfl⟩ := endOfBreak?_eq_some_iff.1 h
        exact ⟨_, .lineBreak hname hblanks hslash, by simp⟩
      · rcases Option.or_eq_some_iff.1 h with h | ⟨-, h⟩
        · obtain ⟨name, hname, rfl⟩ := exists_name_of_dropAnyCase? h
          exact ⟨_, .paragraph hname, rfl⟩
        · obtain ⟨name, hname, rfl⟩ := exists_name_of_dropAnyCase? h
          exact ⟨_, .paragraphEnd hname, rfl⟩
    · cases h

/-- Where it finds nothing, no token stands. -/
theorem not_prefix_of_dropNoise? {token : List Char} (h : dropNoise? cs = none)
    (htoken : NoiseToken token) : ¬ token <+: cs := by
  rintro ⟨rest, rfl⟩
  rw [htoken.drop] at h
  cases h

end

/-! ## §3. Noise at the head of a text -/

section
variable {cs ds : List Char}

/-- Noise behind a token that is noise with it. -/
theorem Noise.of_token {token : List Char} (htoken : NoiseToken token) (h : Noise (token ++ cs)) :
    Noise cs := by
  generalize hds : token ++ cs = ds at h
  cases h with
  | nil => exact absurd (List.append_eq_nil_iff.1 hds).1 htoken.ne_nil
  | @cons token' rest htoken' hrest =>
    -- Both tokens stand at the head, so both leave the same rest.
    have hleft := htoken.drop cs
    rw [hds, htoken'.drop] at hleft
    rwa [← Option.some.inj hleft]

/-- **What is left of noise behind noise is noise.** -/
theorem Noise.of_append (hcs : Noise cs) (h : Noise (cs ++ ds)) : Noise ds := by
  induction hcs with
  | nil => exact h
  | cons htoken _ ih =>
    rw [List.append_assoc] at h
    exact ih (h.of_token htoken)

/-- Noise that is not empty ends with a token. -/
theorem Noise.exists_last (h : Noise cs) (hne : cs ≠ []) :
    ∃ token, NoiseToken token ∧ token <:+ cs := by
  induction h with
  | nil => exact absurd rfl hne
  | @cons token cs htoken _ ih =>
    by_cases hcs : cs = []
    · subst hcs
      exact ⟨token, htoken, [], by simp⟩
    · obtain ⟨last, hlast, hsuffix⟩ := ih hcs
      exact ⟨last, hlast, hsuffix.trans (List.suffix_append token cs)⟩

/-- **All leading noise is dropped**, with as much fuel as there are characters. -/
theorem exists_dropLeading {fuel : Nat} (hfuel : cs.length ≤ fuel) :
    ∃ front, cs = front ++ dropLeading fuel cs ∧ Noise front
      ∧ dropNoise? (dropLeading fuel cs) = none := by
  induction fuel generalizing cs with
  | zero =>
    obtain rfl := List.length_eq_zero_iff.1 (Nat.le_zero.1 hfuel)
    exact ⟨[], rfl, .nil, rfl⟩
  | succ fuel ih =>
    rw [dropLeading]
    cases hdrop : dropNoise? cs with
    | none => exact ⟨[], rfl, .nil, hdrop⟩
    | some rest =>
      obtain ⟨token, htoken, rfl⟩ := exists_token_of_dropNoise? hdrop
      have hlength := List.length_pos_iff.2 htoken.ne_nil
      rw [List.length_append] at hfuel
      have hrest_length : rest.length ≤ fuel := by omega
      obtain ⟨front, hrest, hfront, hnone⟩ := ih hrest_length
      refine ⟨token ++ front, ?_, .cons htoken hfront, hnone⟩
      rw [List.append_assoc, ← hrest]

theorem isNoise_iff {fuel : Nat} (hfuel : cs.length ≤ fuel) :
    isNoise fuel cs = true ↔ Noise cs := by
  obtain ⟨front, hcs, hfront, hnone⟩ := exists_dropLeading hfuel
  unfold isNoise
  rw [List.isEmpty_iff]
  constructor
  · intro hempty
    rw [hempty, List.append_nil] at hcs
    rwa [hcs]
  · intro h
    rw [hcs] at h
    have hrest := hfront.of_append h
    generalize dropLeading fuel cs = rest at hnone hrest
    cases hrest with
    | nil => rfl
    | cons htoken _ =>
      rw [htoken.drop] at hnone
      cases hnone

/-! ## §4. Noise at the end of a text -/

/-- **The longest end that is noise is dropped**: noise that begins earlier does not reach the
end. -/
theorem exists_dropTrailing {fuel : Nat} (hfuel : cs.length ≤ fuel) :
    ∃ back, cs = dropTrailing fuel cs ++ back ∧ Noise back
      ∧ ∀ behind, behind <:+ dropTrailing fuel cs → Noise (behind ++ back) → behind = [] := by
  induction cs with
  | nil => exact ⟨[], rfl, .nil, fun behind hsuffix _ => List.suffix_nil.1 hsuffix⟩
  | cons c cs ih =>
    rw [dropTrailing]
    by_cases hnoise : isNoise fuel (c :: cs) = true
    · rw [if_pos hnoise]
      exact ⟨c :: cs, rfl, (isNoise_iff hfuel).1 hnoise, fun behind hsuffix _ =>
        List.suffix_nil.1 hsuffix⟩
    · rw [if_neg hnoise]
      obtain ⟨back, hcs, hback, hlongest⟩ := ih (Nat.le_of_succ_le hfuel)
      refine ⟨back, ?_, hback, ?_⟩
      · rw [List.cons_append, ← hcs]
      · intro behind hsuffix hbehind
        rcases List.suffix_cons_iff.1 hsuffix with rfl | hsuffix
        · rw [List.cons_append, ← hcs] at hbehind
          exact absurd ((isNoise_iff hfuel).2 hbehind) hnoise
        · exact hlongest behind hsuffix hbehind

/-- A text that neither begins nor ends with a noise token. -/
def Clean (cs : List Char) : Prop :=
  ∀ token, NoiseToken token → ¬ token <+: cs ∧ ¬ token <:+ cs

/-- **A clean text is left alone.** -/
theorem trimNoise_eq_self (h : Clean cs) : trimNoise cs = cs := by
  have hleading : dropLeading cs.length cs = cs := by
    obtain ⟨front, hcs, hfront, -⟩ := exists_dropLeading (Nat.le_refl cs.length)
    cases hfront with
    | nil => exact hcs.symm
    | @cons token front htoken _ =>
      rw [List.append_assoc] at hcs
      exact absurd ⟨_, hcs.symm⟩ (h token htoken).1
  unfold trimNoise
  rw [hleading]
  obtain ⟨back, hcs, hback, -⟩ := exists_dropTrailing (Nat.le_refl cs.length)
  by_cases hne : back = []
  · rw [hne, List.append_nil] at hcs
    exact hcs.symm
  · obtain ⟨token, htoken, hsuffix⟩ := hback.exists_last hne
    have hback' : back <:+ cs := ⟨_, hcs.symm⟩
    exact absurd (hsuffix.trans hback') (h token htoken).2

/-- **Trimming takes noise from both ends, and leaves a clean text.** -/
theorem exists_trimNoise (cs : List Char) :
    ∃ front back, cs = front ++ (trimNoise cs ++ back) ∧ Noise front ∧ Noise back
      ∧ Clean (trimNoise cs) := by
  obtain ⟨front, hcs, hfront, hnone⟩ := exists_dropLeading (Nat.le_refl cs.length)
  have hlength : (dropLeading cs.length cs).length ≤ cs.length := by
    have hsum := congrArg List.length hcs
    rw [List.length_append] at hsum
    omega
  obtain ⟨back, hrest, hback, hlongest⟩ := exists_dropTrailing hlength
  refine ⟨front, back, ?_, hfront, hback, ?_⟩
  · unfold trimNoise
    rw [← hrest]
    exact hcs
  · intro token htoken
    constructor
    · -- A token at the head would have been leading noise.
      intro hhead
      have hstart : trimNoise cs <+: dropLeading cs.length cs := ⟨back, hrest.symm⟩
      exact not_prefix_of_dropNoise? hnone htoken (hhead.trans hstart)
    · -- With a token at the end, noise would have reached the end from an earlier place.
      intro hsuffix
      exact htoken.ne_nil (hlongest token hsuffix (.cons htoken hback))

theorem trimNoise_isInfix (cs : List Char) : trimNoise cs <:+: cs := by
  obtain ⟨front, back, hcs, -⟩ := exists_trimNoise cs
  exact ⟨front, back, by rw [List.append_assoc]; exact hcs.symm⟩

end

/-- **Trimming takes the outer noise, and nothing else.**  A text is noise, what trimming leaves,
and noise; what is left neither begins nor ends with a noise token.  So to trim again changes
nothing, and what is left is a contiguous part of the text. -/
theorem trim_strips_noise (s : String) :
    (∃ front back, s.toList = front ++ ((trim s).toList ++ back) ∧ Noise front ∧ Noise back
        ∧ Clean (trim s).toList)
      ∧ trim (trim s) = trim s
      ∧ (trim s).toList <:+: s.toList := by
  have hlist : (trim s).toList = trimNoise s.toList := String.toList_ofList
  rw [hlist]
  obtain ⟨front, back, hs, hfront, hback, hclean⟩ := exists_trimNoise s.toList
  refine ⟨⟨front, back, hs, hfront, hback, hclean⟩, ?_, trimNoise_isInfix s.toList⟩
  unfold trim
  rw [String.toList_ofList, trimNoise_eq_self hclean]

/-- The long s is a case of s, and a `<p >` is no noise. -/
example : trim "&nbſp; <P><BR />keep <br> inside<p ></p>\n" = "keep <br> inside<p >" := by
  decide +kernel

end ContentGate.Markup
