/-
  ContentGate.Proofs.Notation.FrontEnds — two notations for one formula.

  A formula of names, `!`, connectives and parentheses can be written for
  both notations: as the value of an attribute, with a name for each atom,
  and as a direct text, with a call without arguments.  The reader of
  attribute formulas goes through tokens from the left, the reader of
  direct texts splits the text from its end, and their trees differ where
  the spellings of a connective are mixed.  But both trees have the same
  meaning, and both readers refuse such a text for its limits only.

  A formula is a row of FACTORS with connectives between them.  A factor is
  an atom, a factor behind `!`, or a row between parentheses; it carries
  what each of the two readers finds in it.

  Main statements:
    * `exists_derivation_of_row` — a row derives from the grammar;
    * `PlainFormula.exists_row` — every formula is written as a row;
    * `notations_agree` — both notations mean the same.
-/
import ContentGate.Evaluation.Context
import ContentGate.Proofs.Notation.DirectRows
import ContentGate.Proofs.Notation.ReadingLimits

namespace ContentGate

open Text Notation Direct Expression
open Formula (Connective Category Derivation)

/-! ## §1. Tokens in front of other text -/

/-- In front of anything that does not carry on a word, a text lexes into these tokens. -/
def Spells (cs : List Char) (kinds : List TokenKind) : Prop :=
  ∀ rest more, (∀ c ∈ rest.head?, isBareChar c = false) → Lexes rest more →
    Lexes (cs ++ rest) (kinds ++ more)

theorem isBareChar_of_isNameChar {c : Char} (hc : isNameChar c = true) : isBareChar c = true :=
  of_isNameChar (P := fun c => isBareChar c = true) (by decide +kernel) hc

section
variable {cs ds : List Char} {kinds kinds' : List TokenKind}

theorem Spells.lexes (h : Spells cs kinds) : Lexes cs kinds := by
  have hend := h [] [] (fun _ hc => by cases hc) .nil
  rwa [List.append_nil, List.append_nil] at hend

theorem spells_word (hne : cs ≠ []) (hcs : ∀ c ∈ cs, isBareChar c = true) :
    Spells cs [.ofWord cs] := by
  intro rest more hrest hlex
  exact .lexeme (.word hne hcs hrest) hlex

theorem Spells.not (h : Spells cs kinds) : Spells ('!' :: cs) (.not :: kinds) := by
  intro rest more hrest hlex
  have hall : Lexes (['!'] ++ (cs ++ rest)) (.not :: (kinds ++ more)) :=
    .lexeme (.not _) (h rest more hrest hlex)
  exact hall

theorem Spells.group (h : Spells cs kinds) :
    Spells ('(' :: (cs ++ [')'])) (.openParen :: (kinds ++ [.closeParen])) := by
  intro rest more _ hlex
  have hclose : Lexes (')' :: rest) (.closeParen :: more) := .lexeme (.closeParen _) hlex
  have hbare : ∀ c ∈ (')' :: rest).head?, isBareChar c = false := by
    intro c hc
    obtain rfl : ')' = c := Option.some.inj hc
    decide +kernel
  have hinner := h _ _ hbare hclose
  have hall : Lexes (['('] ++ (cs ++ ')' :: rest)) (.openParen :: (kinds ++ .closeParen :: more)) :=
    .lexeme (.openParen _) hinner
  simpa using hall

/-- A spelling of a connective is its symbol, or a bare word for it. -/
theorem allSpellings_connective : ∀ p ∈ allSpellings, ∀ op ∈ [Connective.and, Connective.or],
    p.2 = op.operator →
      p.1 = op.operator.symbol.toList
        ∨ p.1 ≠ [] ∧ p.1.all isBareChar = true ∧ TokenKind.ofWord p.1 = op.kind := by
  decide +kernel

theorem lexeme_of_spelling (s : Spelling) {op : Connective} (hop : s.op = op.operator)
    {behind : List Char} (hend : ∀ c ∈ behind.head?, isBareChar c = false) :
    Lexeme s.chars behind op.kind := by
  have hmem : op ∈ [Connective.and, Connective.or] := by cases op <;> decide
  rcases allSpellings_connective _ s.mem_allSpellings op hmem hop with hsymbol | ⟨hne, hbare, hkind⟩
  · change s.chars = _ at hsymbol
    rw [hsymbol]
    cases op with
    | and => exact .and behind
    | or => exact .or behind
  · rw [← hkind]
    exact .word hne (List.all_eq_true.1 hbare) hend

end

namespace Direct

/-- A single space on each side of a spelling. -/
def Joint.ofSpelling (s : Spelling) : Joint := ⟨[], s, [], rfl, rfl⟩

end Direct

section
variable {cs ds : List Char} {kinds kinds' : List TokenKind}

/-- **A connective between single spaces.** -/
theorem Spells.join (h : Spells cs kinds) (s : Spelling) {op : Connective}
    (hop : s.op = op.operator) (h' : Spells ds kinds') :
    Spells (cs ++ ((Joint.ofSpelling s).text ++ ds)) (kinds ++ op.kind :: kinds') := by
  intro rest more hrest hlex
  have hspace : isBareChar ' ' = false := by decide +kernel
  have hbare : ∀ (behind : List Char), ∀ c ∈ (' ' :: behind).head?, isBareChar c = false := by
    intro behind c hc
    obtain rfl : ' ' = c := Option.some.inj hc
    exact hspace
  have hright : Lexes (' ' :: (ds ++ rest)) (kinds' ++ more) := .blank rfl (h' rest more hrest hlex)
  have hspelling := Lexes.lexeme (lexeme_of_spelling s hop (hbare (ds ++ rest))) hright
  have hall := h _ _ (hbare _) (.blank (c := ' ') rfl hspelling)
  simpa [Joint.ofSpelling, Joint.text, Joint.before, Joint.behind] using hall

end

/-! ## §2. Factors -/

/-- The call of a name, without arguments. -/
def callOf (items : Operand) : Expression := .call (items.headD "") []

/-- Every operand of a derivation is one name. -/
def IsNamed {c : Category} (d : Derivation c) : Prop :=
  ∀ o ∈ d.operands, ∃ name : String, o = [name] ∧ trim name.toList ≠ []

/-- A factor in both notations, and what the two readers find in it. -/
structure Factor where
  direct : List Char
  marks : List Marked
  tree : Expression
  levels : Nat
  atom : Atom levels direct marks tree
  plain : List Char
  derivation : Derivation .unary
  solid : Solid plain
  spells : Spells plain derivation.tokens
  named : IsNamed derivation
  alike : Alike (derivation.value callOf) tree

namespace Factor

/-- A factor as an operand of a direct row. -/
def term (u : Factor) : Term where
  text := u.direct
  marks := u.marks
  tree := u.tree
  levels := u.levels + 1
  part := u.atom.toPart
  solid := u.atom.solid
  clear := fun level hlevel => (u.atom.inert level hlevel).clear
  reads := u.atom.phrase.reads

/-- What a factor denotes as part of an attribute formula. -/
def value (u : Factor) : Expression := u.derivation.value callOf

/-- A factor behind `!`. -/
def negated (u : Factor) : Factor where
  direct := '!' :: u.direct
  marks := ('!', false) :: u.marks
  tree := .unary .not u.tree
  levels := u.levels + 1
  atom := u.atom.not
  plain := '!' :: u.plain
  derivation := .not u.derivation
  solid := u.solid.cons rfl
  spells := u.spells.not
  named := u.named
  alike := u.alike.unary .not

end Factor

/-- A name for an atom: an identifier that is no word for a connective, in any case. -/
structure AtomName where
  name : String
  identifier : isIdentifier name.toList = true
  no_and : isWordAnyCase "and".toList name.toList = false
  no_or : isWordAnyCase "or".toList name.toList = false

theorem AtomName.ofWord_eq (w : AtomName) : TokenKind.ofWord w.name.toList = .item w.name := by
  have hand : ¬ isWordAnyCase ['a', 'n', 'd'] w.name.toList = true := Bool.eq_false_iff.1 w.no_and
  have hor : ¬ isWordAnyCase ['o', 'r'] w.name.toList = true := Bool.eq_false_iff.1 w.no_or
  unfold TokenKind.ofWord
  rw [if_neg hand, if_neg hor, String.ofList_toList]

/-- An atom: a name, or a call without arguments. -/
def AtomName.factor (w : AtomName) : Factor where
  direct := w.name.toList ++ '(' :: ([] ++ [')'])
  marks := bare w.name.toList ++ enclosed []
  tree := .call (String.ofList w.name.toList) []
  levels := 1
  atom := atom_call w.identifier part_nil rfl (takes_ok [])
  plain := w.name.toList
  derivation := .operand w.name []
  solid := solid_of_isIdentifier w.identifier
  spells := by
    have hword := spells_word (solid_of_isIdentifier w.identifier).ne_nil fun c hc =>
      isBareChar_of_isNameChar (isNameChar_of_isIdentifier w.identifier c hc)
    rw [w.ofWord_eq] at hword
    exact hword
  named := by
    intro o ho
    obtain rfl := List.mem_singleton.1 ho
    refine ⟨w.name, rfl, ?_⟩
    rw [(solid_of_isIdentifier w.identifier).trim]
    exact (solid_of_isIdentifier w.identifier).ne_nil
  alike := by
    rw [String.ofList_toList]
    exact Alike.refl _

/-! ## §3. Rows of factors -/

/-- A row as a direct row. -/
def directRow (row : Row Spelling Factor) : Row Joint Term := row.map Joint.ofSpelling Factor.term

/-- The text of a row as an attribute formula. -/
def plainText (row : Row Spelling Factor) : List Char :=
  row.first.plain ++ row.rest.flatMap fun x => (Joint.ofSpelling x.1).text ++ x.2.plain

/-- What the operands of a row denote as parts of an attribute formula. -/
def valueRow (row : Row Spelling Factor) : Row Operator Expression :=
  row.map Spelling.op Factor.value

theorem plainText_join (left right : Row Spelling Factor) (s : Spelling) :
    plainText (left.join s right) = plainText left ++ ((Joint.ofSpelling s).text ++ plainText right) := by
  simp [plainText, Row.join]

theorem solid_plainText (row : Row Spelling Factor) : Solid (plainText row) := by
  induction row using Row.loosest_induction Spelling.rank with
  | single u =>
    have htext : plainText (.single u) = u.plain := List.append_nil _
    rw [htext]
    exact u.solid
  | join left s right _ _ hl hr =>
    rw [plainText_join]
    exact hl.append hr _

/-- A row derives in this way, and its operands are names. -/
structure Derives (row : Row Spelling Factor) {c : Category} (d : Derivation c) : Prop where
  spells : Spells (plainText row) d.tokens
  named : IsNamed d

/-- Two rows with a connective between them. -/
theorem Derives.link {left right : Row Spelling Factor} {s : Spelling} (op : Connective)
    {l : Derivation (.chain op)} {r : Derivation op.unit} (hl : Derives left l)
    (hop : s.op = op.operator) (hr : Derives right r) :
    Derives (left.join s right) (.link l r) where
  spells := by
    rw [plainText_join]
    exact hl.spells.join s hop hr.spells
  named := List.forall_mem_append.2 ⟨hl.named, hr.named⟩

theorem derives_single (u : Factor) : Derives (.single u) u.derivation where
  spells := by
    have htext : plainText (.single u) = u.plain := List.append_nil _
    rw [htext]
    exact u.spells
  named := u.named

theorem Derives.single {row : Row Spelling Factor} {op : Connective} {d : Derivation op.unit}
    (h : Derives row d) : Derives row (Derivation.single d) := ⟨h.spells, h.named⟩

/-- A row with nothing but `and` derives as a chain of it. -/
theorem exists_derivation_of_and (row : Row Spelling Factor) (h : ∀ s ∈ row.joints, s.op = .and) :
    ∃ d : Derivation (.chain .and), Derives row d ∧ d.value callOf = (valueRow row).conjunction := by
  -- All joints have the same rank here, so the last one is taken, and one factor is behind it.
  induction row using Row.loosest_induction fun _ => 0 with
  | single u => exact ⟨.single u.derivation, (derives_single u).single, rfl⟩
  | join left s right _ hright ihl _ =>
    rw [Row.joints_join] at h
    obtain ⟨hleft, hs, -⟩ := (List.forall_mem_append.1 h).imp_right List.forall_mem_cons.1
    obtain ⟨d, hd, hvalue⟩ := ihl hleft
    obtain ⟨u, xs⟩ := right
    cases xs with
    | cons x xs => exact absurd (hright x.1 List.mem_cons_self) (Nat.lt_irrefl 0)
    | nil =>
      refine ⟨.link d u.derivation, Derives.link .and hd hs (derives_single u), ?_⟩
      have hnone : GroupOp.all.operator ∉ (Row.single u.value).joints := by simp
      have hjoin := Row.joinedParts_join .all Row.compared (valueRow left) hnone
      have hrow : valueRow (left.join s (.single u)) = (valueRow left).join .and (.single u.value) := by
        unfold valueRow
        rw [Row.map_join, hs]
        rfl
      change Expression.binary (d.value callOf) .and u.value = (valueRow (left.join s (.single u))).conjunction
      rw [hvalue, hrow]
      exact hjoin.symm

/-- Rank of the connectives: `or` is looser than `and`. -/
def connectiveRank (s : Spelling) : Nat := if s.op = .or then 0 else 1

theorem not_or_of_and {row : Row Spelling Factor} (h : ∀ s ∈ row.joints, s.op = .and) :
    Operator.or ∉ (valueRow row).joints := by
  unfold valueRow
  rw [Row.joints_map, List.mem_map]
  rintro ⟨s, hs, hop⟩
  rw [h s hs] at hop
  cases hop

/-- **A row of factors derives from the grammar**, and denotes the tree that precedence gives. -/
theorem exists_derivation_of_row (row : Row Spelling Factor)
    (h : ∀ s ∈ row.joints, s.op.isLogical = true) :
    ∃ d : Derivation (.chain .or), Derives row d ∧ d.value callOf = (valueRow row).tree := by
  induction row using Row.loosest_induction connectiveRank with
  | single u => exact ⟨.single (.single u.derivation), (derives_single u).single.single, rfl⟩
  | join left s right hleft hright ihl _ =>
    have hall := h
    rw [Row.joints_join] at hall
    obtain ⟨hl, hs, hr⟩ := (List.forall_mem_append.1 hall).imp_right List.forall_mem_cons.1
    have hand : ∀ t : Spelling, t.op.isLogical = true → t.op ≠ .or → t.op = .and := by
      intro t hlogical hor
      cases hop : t.op <;> simp_all [Operator.isLogical, Operator.isComparison]
    by_cases hor : s.op = .or
    · -- Behind the last `or` there is a chain of `and`.
      have hzero : connectiveRank s = 0 := if_pos hor
      have hrightAnd : ∀ t ∈ right.joints, t.op = .and := fun t ht => hand t (hr t ht) fun htor => by
        have hlt := hright t ht
        rw [hzero, connectiveRank, if_pos htor] at hlt
        exact Nat.lt_irrefl 0 hlt
      obtain ⟨l, hdl, hvaluel⟩ := ihl hl
      obtain ⟨r, hdr, hvaluer⟩ := exists_derivation_of_and right hrightAnd
      refine ⟨.link l r, Derives.link .or hdl hor hdr, ?_⟩
      have hnone := not_or_of_and hrightAnd
      have hjoin := Row.joinedParts_join .any Row.conjunction (valueRow left) hnone
      have hone : (valueRow right).joinedParts .any Row.conjunction = (valueRow right).conjunction :=
        Row.joinedParts_of_none hnone
      have hrow : valueRow (left.join s right) = (valueRow left).join .or (valueRow right) := by
        unfold valueRow
        rw [Row.map_join, hor]
      change Expression.binary (l.value callOf) .or (r.value callOf) = (valueRow (left.join s right)).tree
      rw [hvaluel, hvaluer, hrow, ← hone]
      exact hjoin.symm
    · -- Without `or` the whole row is a chain of `and`.
      have hone : connectiveRank s = 1 := if_neg hor
      have hrowAnd : ∀ t ∈ (left.join s right).joints, t.op = .and := by
        intro t ht
        refine hand t (h t ht) fun htor => ?_
        have hzero : connectiveRank t = 0 := if_pos htor
        rw [Row.joints_join, List.mem_append, List.mem_cons] at ht
        rcases ht with ht | rfl | ht
        · have hle := hleft t ht
          omega
        · omega
        · have hlt := hright t ht
          omega
      obtain ⟨d, hd, hvalue⟩ := exists_derivation_of_and _ hrowAnd
      refine ⟨.single d, hd.single, ?_⟩
      have htree : (valueRow (left.join s right)).tree = (valueRow (left.join s right)).conjunction :=
        Row.joinedParts_of_none (not_or_of_and hrowAnd)
      rw [htree]
      exact hvalue

/-! ## §4. Formulas -/

/-- A formula of names, `!`, connectives and parentheses, as it is written. -/
inductive PlainFormula where
  | atom (w : AtomName)
  | not (inner : PlainFormula)
  | binary (left : PlainFormula) (s : Spelling) (logical : s.op.isLogical = true)
      (right : PlainFormula)
  | group (inner : PlainFormula)

namespace PlainFormula

/-- The text of a formula, where `atomText` says how atoms are written. -/
def text (atomText : String → String) : PlainFormula → String
  | atom w => atomText w.name
  | not inner => "!" ++ inner.text atomText
  | binary left s _ right => left.text atomText ++ " " ++ s.text ++ " " ++ right.text atomText
  | group inner => "(" ++ inner.text atomText ++ ")"

/-- The text of a formula as the value of an attribute. -/
def attributeText (F : PlainFormula) : String := F.text id

/-- The text of a formula as a direct condition. -/
def directText (F : PlainFormula) : String := F.text (· ++ "()")

/-- How a row of factors is written in both notations. -/
structure WritesAs (F : PlainFormula) (row : Row Spelling Factor) : Prop where
  logical : ∀ s ∈ row.joints, s.op.isLogical = true
  direct : F.directText.toList = rowText (directRow row)
  plain : F.attributeText.toList = plainText row

/-- What a row denotes as part of an attribute formula means the tree of the direct row. -/
theorem alike_valueRow (row : Row Spelling Factor) :
    Alike (valueRow row).tree (rowTree (directRow row)) := by
  have hvalues : valueRow row = (row.map Spelling.op id).map id Factor.value := by
    rw [Row.map_map]
    rfl
  have htrees : (directRow row).map Joint.op Term.tree
      = (row.map Spelling.op id).map id Factor.tree := by
    unfold directRow
    rw [Row.map_map, Row.map_map]
    rfl
  unfold rowTree
  rw [hvalues, htrees]
  exact Row.alike_tree_map fun u _ => u.alike

/-- **A row between parentheses is a factor.** -/
theorem exists_factor_of_row (row : Row Spelling Factor)
    (h : ∀ s ∈ row.joints, s.op.isLogical = true) :
    ∃ u : Factor, u.direct = '(' :: (rowText (directRow row) ++ [')'])
      ∧ u.plain = '(' :: (plainText row ++ [')']) := by
  obtain ⟨n, e, hreads, halike, -⟩ := row_reads (directRow row)
  obtain ⟨d, hd, hvalue⟩ := exists_derivation_of_row row h
  exact ⟨{
    direct := '(' :: (rowText (directRow row) ++ [')'])
    marks := enclosed (rowMarks (directRow row))
    tree := e
    levels := n + 1
    atom := atom_enclosed (row_part _) hreads
    plain := '(' :: (plainText row ++ [')'])
    derivation := .group d
    solid := .enclose rfl rfl _
    spells := hd.spells.group
    named := hd.named
    alike := by
      have hgroup : (Derivation.group d).value callOf = (valueRow row).tree := hvalue
      rw [hgroup]
      exact (alike_valueRow row).trans halike.symm }, rfl, rfl⟩

/-- **Every formula is written as a row of factors.** -/
theorem exists_row (F : PlainFormula) : ∃ row, F.WritesAs row := by
  induction F with
  | atom w =>
    refine ⟨.single w.factor, by simp, ?_, ?_⟩
    · simp [directText, text, directRow, rowText, Row.map, Row.single, Factor.term, AtomName.factor]
    · simp [attributeText, text, plainText, Row.single, AtomName.factor]
  | not inner ih =>
    obtain ⟨⟨u, xs⟩, hlogical, hdirect, hplain⟩ := ih
    refine ⟨⟨u.negated, xs⟩, hlogical, ?_, ?_⟩
    · have htext : (PlainFormula.not inner).directText.toList = '!' :: inner.directText.toList := by
        simp [directText, text]
      rw [htext, hdirect]
      rfl
    · have htext : (PlainFormula.not inner).attributeText.toList
          = '!' :: inner.attributeText.toList := by
        simp [attributeText, text]
      rw [htext, hplain]
      rfl
  | binary left s logical right ihl ihr =>
    obtain ⟨rowl, hlogicall, hdirectl, hplainl⟩ := ihl
    obtain ⟨rowr, hlogicalr, hdirectr, hplainr⟩ := ihr
    have htext : ∀ atomText, ((binary left s logical right).text atomText).toList
        = (left.text atomText).toList
            ++ ((Joint.ofSpelling s).text ++ (right.text atomText).toList) := by
      intro atomText
      simp [text, Joint.ofSpelling, Joint.text, Joint.before, Joint.behind, Spelling.chars]
    refine ⟨rowl.join s rowr, ?_, ?_, ?_⟩
    · rw [Row.joints_join]
      exact List.forall_mem_append.2 ⟨hlogicall, List.forall_mem_cons.2 ⟨logical, hlogicalr⟩⟩
    · have hrow : directRow (rowl.join s rowr)
          = (directRow rowl).join (Joint.ofSpelling s) (directRow rowr) := Row.map_join _ _ _ _ _
      rw [hrow, rowText_join, ← hdirectl, ← hdirectr]
      exact htext _
    · rw [plainText_join, ← hplainl, ← hplainr]
      exact htext _
  | group inner ih =>
    obtain ⟨row, hlogical, hdirect, hplain⟩ := ih
    obtain ⟨u, hudirect, huplain⟩ := exists_factor_of_row row hlogical
    refine ⟨.single u, by simp, ?_, ?_⟩
    · have htext : (PlainFormula.group inner).directText.toList
          = '(' :: (inner.directText.toList ++ [')']) := by
        simp [directText, text]
      have hrow : rowText (directRow (.single u)) = u.direct := List.append_nil _
      rw [htext, hrow, hudirect, hdirect]
    · have htext : (PlainFormula.group inner).attributeText.toList
          = '(' :: (inner.attributeText.toList ++ [')']) := by
        simp [attributeText, text]
      have hrow : plainText (.single u) = u.plain := List.append_nil _
      rw [htext, hrow, huplain, hplain]

/-- **Both notations mean the same.**  Whenever the readers of attribute
formulas and of direct texts accept a formula, their conditions have the
same value, and hold alike, in every context and for every host, after the
same calls in the same order; and either reader refuses a formula for its
limits only. -/
theorem notations_agree (F : PlainFormula) {meaning : Operand → Except ParseError Expression}
    (hmeaning : ∀ name : String, meaning [name] = .ok (.call name [])) :
    (∀ s d, Formula.condition F.attributeText meaning = .ok s → Direct.parse F.directText = .ok d →
      Alike s d
      ∧ (∀ (κ : Type) (c : Context κ), c.holds s = c.holds d)
      ∧ ∀ (m : Type → Type) [Monad m] [LawfulMonad m] (host : Host m),
          Expression.holds host s = Expression.holds host d)
    ∧ (∀ cause, Formula.condition F.attributeText meaning = .error cause →
        cause = .nestingTooDeep maxNesting)
    ∧ (∀ cause, Direct.parse F.directText = .error cause → cause = .nestingTooDeep maxNesting) := by
  obtain ⟨row, hlogical, hdirect, hplain⟩ := F.exists_row
  -- The direct text is read as a row is.
  obtain ⟨n, e, hreads, halike, -⟩ := row_reads (directRow row)
  have hraw : F.directText.toList = [] ++ (rowText (directRow row) ++ []) := by simp [hdirect]
  have hparse := parse_of_reads hraw rfl rfl (row_solid _) (row_part _) hreads
  -- The attribute formula derives from the grammar.
  obtain ⟨d, hd, hvalue⟩ := exists_derivation_of_row row hlogical
  have htrim : trim F.attributeText.toList = plainText row := by
    rw [hplain, (solid_plainText row).trim]
  have hitems : d.ItemsMatter := by
    intro items hmem item hitem
    obtain ⟨name, rfl, hname⟩ := hd.named items hmem
    obtain rfl := List.mem_singleton.1 hitem
    exact hname
  have hmeanings : ∀ o ∈ d.operands, meaning o = .ok (callOf o) := by
    intro o ho
    obtain ⟨name, rfl, -⟩ := hd.named o ho
    exact hmeaning name
  have hcondition := Formula.condition_of_lexes (htrim ▸ (solid_plainText row).ne_nil)
    (htrim ▸ hd.spells.lexes) hitems hmeanings
  refine ⟨fun s d' hs hd' => ?_, fun cause hcause => ?_, fun cause hcause => ?_⟩
  · have hsame : Alike s d' := by
      rcases hcondition with hok | hrefused
      · obtain rfl := Except.ok.inj (hs.symm.trans hok)
        by_cases hn : n ≤ maxNesting
        · rw [if_pos hn] at hparse
          obtain rfl := Except.ok.inj (hd'.symm.trans hparse)
          rw [hvalue]
          exact (alike_valueRow row).trans halike.symm
        · rw [hparse, if_neg hn] at hd'
          cases hd'
      · rw [hs] at hrefused
        cases hrefused
    exact ⟨hsame, fun κ c => hsame.holds c.host, fun m _ _ host => hsame.holds host⟩
  · rcases hcondition with hok | hrefused
    · rw [hok] at hcause
      cases hcause
    · exact Except.error.inj (hcause.symm.trans hrefused)
  · by_cases hn : n ≤ maxNesting
    · rw [hparse, if_pos hn] at hcause
      cases hcause
    · rw [hparse, if_neg hn] at hcause
      exact (Except.error.inj hcause).symm

/-- A formula with both spellings of `or`, and a group behind `!`. -/
def membersOrGuests : PlainFormula :=
  .binary
    (.binary (.atom ⟨"is_member", rfl, rfl, rfl⟩) ⟨"||", .or, by decide⟩ rfl
      (.not (.group (.binary (.atom ⟨"has_card", rfl, rfl, rfl⟩) ⟨"AND", .and, by decide⟩ rfl
        (.atom ⟨"in_debt", rfl, rfl, rfl⟩)))))
    ⟨"or", .or, by decide⟩ rfl (.atom ⟨"is_guest", rfl, rfl, rfl⟩)

theorem notations_agree_membersOrGuests :
    membersOrGuests.attributeText = "is_member || !(has_card AND in_debt) or is_guest"
    ∧ membersOrGuests.directText = "is_member() || !(has_card() AND in_debt()) or is_guest()"
    ∧ (Formula.condition membersOrGuests.attributeText fun o => .ok (callOf o)).isOk = true
    ∧ (Direct.parse membersOrGuests.directText).isOk = true
    ∧ (∀ name : String, (.ok (callOf [name]) : Except ParseError Expression) = .ok (.call name []))
    ∧ ∀ s d, Formula.condition membersOrGuests.attributeText (fun o => .ok (callOf o)) = .ok s →
        Direct.parse membersOrGuests.directText = .ok d → Alike s d := by
  have hmeaning : ∀ name : String,
      (.ok (callOf [name]) : Except ParseError Expression) = .ok (.call name []) := fun name => rfl
  refine ⟨by decide +kernel, by decide +kernel, by decide +kernel, by decide +kernel, hmeaning, ?_⟩
  intro s d hs hd
  exact ((notations_agree membersOrGuests hmeaning).1 s d hs hd).1

end PlainFormula

end ContentGate
