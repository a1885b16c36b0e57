/-
  ContentGate.Proofs.Notation.DirectRoundTrip — written conditions are read back.

  A condition is written with parentheses around the operands that are
  operators or groups themselves, and around every member of a group.
  The direct notation reads such a text back.  It has no groups, though:
  where a group was written, the reader finds its members joined two by
  two, to the left (`Expression.normal`).

  Each form of a condition is written as a phrase, and as an atom where
  it is an operand (`Written`); the proof goes form by form.  The reader
  takes fewer than three levels for each level of the condition, since it
  goes down for a parenthesis, for an operator and for an operand.

  Main statements:
    * `written` — every writable condition is written as a phrase and as an atom;
    * `parse_text` — the text of a condition is read back, if there are
      levels enough, and there are for conditions of depth twenty.
-/
import ContentGate.Proofs.Condition.Nodes
import ContentGate.Proofs.Notation.DirectPhrases

namespace ContentGate

namespace Expression

/-! ## §1. Writable conditions and their normal form -/

/-- A node whose written form the direct notation has. -/
def isWritableNode : Expression → Bool
  | .literal (.string _) | .literal (.bool _) | .literal .null => true
  | .literal _ => false
  | .predicate _ => false
  | .call name _ => Direct.isIdentifier name.toList
  | .binary _ _ _ => true
  | .unary _ _ => true
  | .group _ members => 2 ≤ members.length

/-- A condition all of whose nodes are writable, those in arguments too. -/
def IsWritable (e : Expression) : Prop := ∀ x ∈ e.nodes, isWritableNode x.2 = true

/-- Conditions joined two by two, to the left. -/
def joinedLeft (op : GroupOp) : List Expression → Expression
  | [] => .group op []
  | e :: es => es.foldl (fun left right => .binary left op.operator right) e

mutual

/-- A condition with the members of every group joined two by two. -/
def normal : Expression → Expression
  | .literal v => .literal v
  | .predicate p => .predicate p
  | .call name args => .call name (normalAll args)
  | .binary left op right => .binary (normal left) op (normal right)
  | .unary op operand => .unary op (normal operand)
  | .group op members => joinedLeft op (normalAll members)

/-- Several conditions. -/
def normalAll : List Expression → List Expression
  | [] => []
  | e :: es => normal e :: normalAll es

end

end Expression

namespace Direct

open Text Notation Expression

/-! ## §2. Texts -/

/-- The text of an operand. -/
def operandText (e : Expression) : List Char := (bracketedIf e.isCompound e.text).toList

/-- The text of the members of a group behind the first one. -/
def membersBehind (op : GroupOp) (es : List Expression) : List Char :=
  es.flatMap fun e => spaced op.operator ++ ('(' :: (e.text.toList ++ [')']))

section
variable {e : Expression} {es : List Expression}

theorem operandText_of_compound (h : e.isCompound = true) :
    operandText e = '(' :: (e.text.toList ++ [')']) := by
  simp [operandText, bracketedIf, h]

theorem operandText_of_simple (h : e.isCompound = false) : operandText e = e.text.toList := by
  simp [operandText, bracketedIf, h]

theorem text_binary (left : Expression) (op : Operator) (right : Expression) :
    (Expression.binary left op right).text.toList
      = operandText left ++ (spaced op ++ operandText right) := by
  simp [Expression.text, operandText, spaced]

theorem text_unary (op : UnaryOp) (e : Expression) :
    (Expression.unary op e).text.toList = op.symbol.toList ++ operandText e := by
  simp [Expression.text, operandText]

theorem text_call (name : String) (args : List Expression) :
    (Expression.call name args).text.toList
      = name.toList ++ '(' :: ((textArgs args).toList ++ [')']) := by
  simp [Expression.text]

theorem textArgs_cons (e f : Expression) (es : List Expression) :
    (textArgs (e :: f :: es)).toList
      = e.text.toList ++ ([',', ' '] ++ (textArgs (f :: es)).toList) := by
  simp [textArgs]

theorem textMembers_cons (op : GroupOp) (e : Expression) (es : List Expression) :
    (textMembers op (e :: es)).toList = '(' :: (e.text.toList ++ [')']) ++ membersBehind op es := by
  induction es generalizing e with
  | nil => simp [textMembers, membersBehind]
  | cons f es ih =>
    have hsymbol : op.operator.symbol = op.connective := by cases op <;> rfl
    have hcons : (textMembers op (e :: f :: es)).toList
        = '(' :: (e.text.toList ++ [')']) ++ (spaced op.operator ++ (textMembers op (f :: es)).toList) := by
      simp [textMembers, spaced, hsymbol]
    rw [hcons, ih f]
    simp [membersBehind]

/-! ## §3. Conditions as phrases and as atoms -/

/-- How a condition is written by itself, and as an operand; and that its
reading takes fewer than three levels for each of its own. -/
structure Written (e : Expression) : Prop where
  phrase : ∃ n ms, Phrase n e.text.toList ms e.normal ∧ n + 1 ≤ 3 * e.normal.depth
  operand : ∃ n ms, Atom n (operandText e) ms e.normal ∧ n ≤ 3 * e.normal.depth

theorem written_of_atom (hsimple : e.isCompound = false) {n : Nat} {ms : List Marked}
    (h : Atom n e.text.toList ms e.normal) (hn : n + 2 ≤ 3 * e.normal.depth) : Written e where
  phrase := ⟨n + 1, ms, h.phrase, hn⟩
  operand := ⟨n, ms, operandText_of_simple hsimple ▸ h, by omega⟩

theorem written_of_phrase (hcompound : e.isCompound = true) {n : Nat} {ms : List Marked}
    (h : Phrase n e.text.toList ms e.normal) (hn : n + 1 ≤ 3 * e.normal.depth) : Written e where
  phrase := ⟨n, ms, h, hn⟩
  operand := ⟨n + 1, enclosed ms, operandText_of_compound hcompound ▸ h.enclosed, hn⟩

/-- The levels for a chain with one operand more. -/
theorem link_levels {n k : Nat} {left right : Expression} (op : Operator)
    (hleft : n ≤ 3 * left.depth + 1) (hright : k ≤ 3 * right.depth) :
    max n (k + 1) + 1 + 1 ≤ 3 * (Expression.binary left op right).depth := by
  rw [Expression.depth]
  omega

theorem written_literal {v : Value} (h : isWritableNode (.literal v) = true) :
    Written (.literal v) := by
  have hatom : ∃ ms, Atom 1 v.text.toList ms (.literal v) := by
    cases v with
    | string s =>
      rw [Value.text]
      exact ⟨_, atom_quoted s⟩
    | bool b => exact ⟨_, atom_keyword (by cases b <;> simp)⟩
    | null => exact ⟨_, atom_keyword (.inr (.inr rfl))⟩
    | number x => cases h
    | array items => cases h
  obtain ⟨ms, hatom⟩ := hatom
  have htext : (Expression.literal v).text = v.text := by rw [Expression.text]
  have hnormal : normal (.literal v) = .literal v := by rw [normal]
  have hdepth : (normal (.literal v)).depth = 1 := by rw [hnormal, Expression.depth]
  rw [← htext, ← hnormal] at hatom
  exact written_of_atom rfl hatom (by omega)

theorem items_of_written (h : ∀ f ∈ e :: es, Written f) :
    ∃ n ms, Items n (textArgs (e :: es)).toList ms (normalAll (e :: es))
      ∧ n + 1 ≤ 3 * depthList (normalAll (e :: es)) := by
  induction es generalizing e with
  | nil =>
    obtain ⟨n, ms, hphrase, hn⟩ := (h e List.mem_cons_self).phrase
    refine ⟨n, ms, ?_, ?_⟩
    · rw [textArgs, normalAll, normalAll]
      exact hphrase.items
    · rw [normalAll, normalAll, depthList, depthList]
      omega
  | cons f es ih =>
    obtain ⟨he, hes⟩ := List.forall_mem_cons.1 h
    obtain ⟨n, ms, hphrase, hn⟩ := he.phrase
    obtain ⟨k, ns, hitems, hk⟩ := ih hes
    refine ⟨max n k, ms ++ (bare [',', ' '] ++ ns), ?_, ?_⟩
    · rw [textArgs_cons, normalAll]
      exact hphrase.consItems hitems
    · rw [normalAll, depthList]
      omega

theorem written_call {name : String} {args : List Expression}
    (hname : isIdentifier name.toList = true) (hargs : ∀ e ∈ args, Written e) :
    Written (.call name args) := by
  have hnormal : normal (.call name args) = .call (String.ofList name.toList) (normalAll args) := by
    rw [normal, String.ofList_toList]
  cases args with
  | nil =>
    have hatom : Atom 1 (Expression.call name []).text.toList (bare name.toList ++ enclosed [])
        (normal (.call name [])) := by
      rw [text_call, hnormal, textArgs, normalAll]
      exact atom_call hname part_nil rfl (takes_ok [])
    refine written_of_atom rfl hatom ?_
    rw [normal, Expression.depth]
    omega
  | cons e es =>
    obtain ⟨n, ms, hitems, hn⟩ := items_of_written hargs
    have hatom : Atom (n + 1) (Expression.call name (e :: es)).text.toList
        (bare name.toList ++ enclosed ms) (normal (.call name (e :: es))) := by
      rw [text_call, hnormal]
      exact atom_call hname hitems.toPart hitems.arguments hitems.reads
    refine written_of_atom rfl hatom ?_
    rw [normal, Expression.depth]
    omega

theorem written_unary (op : UnaryOp) (h : Written e) : Written (.unary op e) := by
  obtain ⟨n, ms, hatom, hn⟩ := h.operand
  have hdepth : n + 1 + 2 ≤ 3 * (normal (.unary op e)).depth := by
    rw [normal, Expression.depth]
    omega
  obtain ⟨ns, hsign⟩ : ∃ ns, Atom (n + 1) (Expression.unary op e).text.toList ns
      (normal (.unary op e)) := by
    rw [text_unary, normal]
    cases op with
    | not => exact ⟨_, hatom.not⟩
    | negate => exact ⟨_, hatom.minus⟩
  exact written_of_atom rfl hsign hdepth

theorem written_binary {left right : Expression} (op : Operator) (hleft : Written left)
    (hright : Written right) : Written (.binary left op right) := by
  obtain ⟨n, ms, hl, hn⟩ := hleft.operand
  obtain ⟨k, ns, hr, hk⟩ := hright.operand
  have hlink := (hl.chain op).link hr
  have hlevels : n + 1 ≤ 3 * left.normal.depth + 1 := Nat.succ_le_succ hn
  have hphrase : Phrase (max (n + 1) (k + 1) + 1) (Expression.binary left op right).text.toList
      (ms ++ (bare (spaced op) ++ ns)) (normal (.binary left op right)) := by
    rw [text_binary, normal]
    exact hlink.toPhrase
  refine written_of_phrase rfl hphrase ?_
  rw [normal]
  exact link_levels op hlevels hk

/-- A member of a group. -/
theorem Written.member (h : Written e) :
    ∃ n ms, Atom n ('(' :: (e.text.toList ++ [')'])) ms e.normal ∧ n ≤ 3 * e.normal.depth := by
  obtain ⟨n, ms, hphrase, hn⟩ := h.phrase
  exact ⟨n + 1, enclosed ms, hphrase.enclosed, hn⟩

/-- **Further members join to the left.** -/
theorem chain_members {op : GroupOp} (h : ∀ e ∈ es, Written e) {n : Nat} {cs : List Char}
    {ms : List Marked} {left : Expression} (hchain : Chain op.operator n cs ms left)
    (hn : n + 1 ≤ 3 * left.depth) :
    ∃ k ns, Chain op.operator k (cs ++ membersBehind op es) ns
        (joinedLeft op (left :: normalAll es))
      ∧ k + 1 ≤ 3 * (joinedLeft op (left :: normalAll es)).depth := by
  induction es generalizing n cs ms left with
  | nil =>
    refine ⟨n, ms, ?_, hn⟩
    rw [membersBehind, List.flatMap_nil, List.append_nil]
    exact hchain
  | cons e es ih =>
    obtain ⟨he, hes⟩ := List.forall_mem_cons.1 h
    obtain ⟨k, ns, hmember, hk⟩ := he.member
    have hleft : n ≤ 3 * left.depth + 1 := by omega
    have hlevels := link_levels op.operator hleft hk
    obtain ⟨l, rs, hall, hl⟩ := ih hes (hchain.link hmember) hlevels
    refine ⟨l, rs, ?_, hl⟩
    rw [List.append_assoc, List.append_assoc] at hall
    rw [membersBehind, List.flatMap_cons, List.append_assoc]
    exact hall

theorem written_group {op : GroupOp} {members : List Expression} (hlength : 2 ≤ members.length)
    (h : ∀ e ∈ members, Written e) : Written (.group op members) := by
  obtain ⟨e, f, es, rfl⟩ : ∃ e f es, members = e :: f :: es := by
    cases members with
    | nil => cases hlength
    | cons e es =>
      cases es with
      | nil => exact absurd (Nat.le_of_succ_le_succ hlength) (Nat.not_succ_le_zero 0)
      | cons f es => exact ⟨e, f, es, rfl⟩
  obtain ⟨he, hes⟩ := List.forall_mem_cons.1 h
  obtain ⟨hf, hes⟩ := List.forall_mem_cons.1 hes
  obtain ⟨n, ms, hfirst, hn⟩ := he.member
  obtain ⟨k, ns, hsecond, hk⟩ := hf.member
  -- Two members make the first node; each further one makes a node more.
  have hlink := (hfirst.chain op.operator).link hsecond
  have hlevels := link_levels op.operator (Nat.succ_le_succ hn) hk
  obtain ⟨l, rs, hall, hl⟩ := chain_members hes hlink hlevels
  have htext : (Expression.group op (e :: f :: es)).text.toList
      = '(' :: (e.text.toList ++ [')']) ++ (spaced op.operator ++ ('(' :: (f.text.toList ++ [')'])))
          ++ membersBehind op es := by
    rw [Expression.text, textMembers_cons, membersBehind, List.flatMap_cons, ← membersBehind,
      List.append_assoc, List.append_assoc, List.append_assoc]
  have hphrase : Phrase l (Expression.group op (e :: f :: es)).text.toList rs
      (normal (.group op (e :: f :: es))) := by
    rw [htext, normal]
    exact hall.toPhrase
  exact written_of_phrase rfl hphrase hl

mutual

/-- **Every writable condition is written as a phrase and as an atom.** -/
theorem written {calls : List String} (e : Expression)
    (h : ∀ x ∈ nodesIn calls e, isWritableNode x.2 = true) : Written e := by
  cases e with
  | literal v => exact written_literal (forall_nodesIn_literal.1 h)
  | predicate p => exact absurd (forall_nodesIn_predicate.1 h) Bool.false_ne_true
  | call name args =>
    obtain ⟨hname, hargs⟩ := forall_nodesIn_call.1 h
    exact written_call hname (writtenAll args hargs)
  | binary left op right =>
    obtain ⟨-, hleft, hright⟩ := forall_nodesIn_binary.1 h
    exact written_binary op (written left hleft) (written right hright)
  | unary op operand => exact written_unary op (written operand (forall_nodesIn_unary.1 h).2)
  | group op members =>
    obtain ⟨hlength, hmembers⟩ := forall_nodesIn_group.1 h
    exact written_group (of_decide_eq_true hlength) (writtenAll members hmembers)

theorem writtenAll {calls : List String} (es : List Expression)
    (h : ∀ e ∈ es, ∀ x ∈ nodesIn calls e, isWritableNode x.2 = true) : ∀ e ∈ es, Written e := by
  cases es with
  | nil => exact fun e he => absurd he List.not_mem_nil
  | cons e es =>
    obtain ⟨he, hes⟩ := List.forall_mem_cons.1 h
    exact List.forall_mem_cons.2 ⟨written e he, writtenAll es hes⟩

end

end

/-! ## §4. Reading back -/

/-- **The text of a condition is read back.**  The reader gives the normal
form of the condition or runs out of levels; it has levels enough for
conditions of depth twenty, and so for every string, whatever is in it. -/
theorem parse_text (e : Expression) (h : e.IsWritable) :
    (parse e.text = .error (.nestingTooDeep maxNesting) ∨ parse e.text = .ok e.normal)
      ∧ (e.normal.depth ≤ 20 → parse e.text = .ok e.normal)
      ∧ ∀ s : String, parse (literal (.string s)).text = .ok (literal (.string s)) := by
  obtain ⟨n, ms, hphrase, hn⟩ := (written e h).phrase
  refine ⟨?_, ?_, ?_⟩
  · rw [hphrase.parse]
    split
    · exact .inr rfl
    · exact .inl rfl
  · intro hdepth
    have hlevels : n ≤ maxNesting := by
      unfold maxNesting
      omega
    rw [hphrase.parse, if_pos hlevels]
  · intro s
    have hstring : (literal (.string s)).text.toList = (quoted s).toList := by
      rw [Expression.text, Value.text]
    have hphrase := (atom_quoted s).phrase
    rw [← hstring] at hphrase
    exact hphrase.parse

/-- A role with an apostrophe in its name, or nothing at all. -/
def roleOrNothing : Expression :=
  .group .any [.call "has_role" [.literal (.string "editor's")], .unary .not (.literal .null)]

theorem parse_text_roleOrNothing :
    roleOrNothing.IsWritable ∧ roleOrNothing.normal.depth ≤ 20
      ∧ roleOrNothing.text = "(has_role('editor\\'s')) || (!null)"
      ∧ parse roleOrNothing.text
        = .ok (.binary (.call "has_role" [.literal (.string "editor's")]) .or
            (.unary .not (.literal .null))) := by
  have hwritable : roleOrNothing.IsWritable := by unfold IsWritable; decide
  have hdepth : roleOrNothing.normal.depth ≤ 20 := by decide
  exact ⟨hwritable, hdepth, by decide +kernel, (parse_text roleOrNothing hwritable).2.1 hdepth⟩

end Direct

end ContentGate
