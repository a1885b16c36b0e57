/-
  ContentGate.Proofs.Condition.StoredForm — stored conditions are read back.

  A condition is stored as JSON, each node as the variant of its kind, with
  records for what it carries.  Of its text three things are needed: it is
  read back to the same JSON, it nests no deeper than a reader goes, and the
  JSON is read as the condition.

  The first two are about what is written.  Only numbers are not given back as
  they are; without them the JSON of a condition is faithful.  A node takes
  one level for its variant, one for its record and one for a list in it, and
  a reader counts the same levels down.  So it reads everything that nests
  within its levels (`ofJson?_toJson`), and whatever it has read, in this form
  or another one, nests within them when it is written (`nesting_le`).

  Main statements:
    * `Expression.ofStored?_of_nesting` — a condition without numbers is read
      back from its text, within the levels of a reader;
    * `Expression.nesting_le` — what was read needs no more levels;
    * `Expression.stored_reads_back` — both together.
-/
import ContentGate.Condition.Stored
import ContentGate.Proofs.Json.Faithful

namespace ContentGate

open Json (IsFaithful AreFaithful nesting nestingItems)

/-! ## §1. Lists -/

/-- What is read of a list is read item by item. -/
theorem forall_of_mapM_option {α β : Type} {read : α → Option β} {P : β → Prop}
    (hread : ∀ {a b}, read a = some b → P b) {as : List α} {bs : List β}
    (h : as.mapM read = some bs) : ∀ b ∈ bs, P b := by
  induction as generalizing bs with
  | nil =>
    rw [List.mapM_nil] at h
    cases h
    exact fun b hb => absurd hb List.not_mem_nil
  | cons a as ih =>
    rw [List.mapM_cons] at h
    obtain ⟨b, hb, h⟩ := Option.bind_eq_some_iff.1 h
    obtain ⟨bs', hbs, h⟩ := Option.bind_eq_some_iff.1 h
    cases h
    exact List.forall_mem_cons.2 ⟨hread hb, ih hbs⟩

/-! ## §2. Values -/

namespace Value

mutual

/-- Is there no number in a value? -/
def hasNoNumber : Value → Bool
  | .number _ => false
  | .array items => haveNoNumber items
  | _ => true

/-- Is there no number in any of several values? -/
def haveNoNumber : List Value → Bool
  | [] => true
  | v :: vs => hasNoNumber v && haveNoNumber vs

end

mutual

theorem isFaithful_toJson {v : Value} (h : v.hasNoNumber = true) : IsFaithful v.toJson := by
  cases v with
  | null => exact .null
  | bool b => exact .bool b
  | number x => cases h
  | string s => exact .string s
  | array items => exact .array (isFaithful_of_mem h)

theorem isFaithful_of_mem {vs : List Value} (h : haveNoNumber vs = true) :
    ∀ j ∈ listToJson vs, IsFaithful j := by
  cases vs with
  | nil => exact fun j hj => absurd hj List.not_mem_nil
  | cons v vs =>
    obtain ⟨hv, hvs⟩ := Bool.and_eq_true_iff.1 h
    exact List.forall_mem_cons.2 ⟨isFaithful_toJson hv, isFaithful_of_mem hvs⟩

end

mutual

/-- **A value without numbers is read back**, with the levels that it needs. -/
theorem ofJson?_toJson {v : Value} (h : v.hasNoNumber = true) {levels : Nat}
    (hlevels : v.toJson.nesting ≤ levels) : ofJson? levels v.toJson = some v := by
  cases v with
  | null => rw [toJson, ofJson?]
  | bool b => rw [toJson, ofJson?]
  | number x => cases h
  | string s => rw [toJson, ofJson?]
  | array items =>
    rw [toJson, nesting] at hlevels
    obtain ⟨levels, rfl⟩ : ∃ n, levels = n + 1 := ⟨levels - 1, by omega⟩
    rw [toJson, ofJson?, mapM_ofJson?_listToJson h (by omega)]
    rfl

theorem mapM_ofJson?_listToJson {vs : List Value} (h : haveNoNumber vs = true) {levels : Nat}
    (hlevels : nestingItems (listToJson vs) ≤ levels) :
    (listToJson vs).mapM (ofJson? levels) = some vs := by
  cases vs with
  | nil => rfl
  | cons v vs =>
    obtain ⟨hv, hvs⟩ := Bool.and_eq_true_iff.1 h
    rw [listToJson, nestingItems, Nat.max_le] at hlevels
    rw [listToJson, List.mapM_cons, ofJson?_toJson hv hlevels.1,
      mapM_ofJson?_listToJson hvs hlevels.2]
    rfl

end

theorem nestingItems_le {vs : List Value} {n : Nat} (h : ∀ v ∈ vs, v.toJson.nesting ≤ n) :
    nestingItems (listToJson vs) ≤ n := by
  induction vs with
  | nil => exact Nat.zero_le n
  | cons v vs ih =>
    obtain ⟨hv, hvs⟩ := List.forall_mem_cons.1 h
    exact Nat.max_le.2 ⟨hv, ih hvs⟩

/-- An array was read from items, with one level less. -/
theorem ofJson?_eq_array {levels : Nat} {j : Json} {vs : List Value}
    (h : ofJson? levels j = some (.array vs)) :
    ∃ (n : Nat) (js : List Json), levels = n + 1 ∧ js.mapM (ofJson? n) = some vs := by
  unfold ofJson? at h
  split at h
  · cases h
  · cases h
  · obtain ⟨x, -, hx⟩ := Option.map_eq_some_iff.1 h
    cases hx
  · cases h
  · obtain ⟨vs', hread, hvs⟩ := Option.map_eq_some_iff.1 h
    cases hvs
    exact ⟨_, _, rfl, hread⟩
  · cases h

/-- **A value needs no more levels than it was read with.** -/
theorem nesting_le {levels : Nat} {j : Json} {v : Value} (h : ofJson? levels j = some v) :
    v.toJson.nesting ≤ levels := by
  induction levels using Nat.strongRecOn generalizing j v with
  | ind levels ih =>
    cases v with
    | null | bool _ | string _ => exact Nat.zero_le levels
    | number x => exact Nat.le_trans (Nat.le_of_eq (Json.nesting_float x)) (Nat.zero_le levels)
    | array items =>
      obtain ⟨n, js, rfl, hread⟩ := ofJson?_eq_array h
      have hitems := nestingItems_le (forall_of_mapM_option (ih n n.lt_succ_self) hread)
      rw [toJson, nesting]
      omega

end Value

/-! ## §3. Names -/

theorem Operator.ofStoredName?_storedName (op : Operator) :
    Operator.ofStoredName? op.storedName = some op := by
  cases op <;> rfl

theorem GroupOp.ofStoredName?_storedName (op : GroupOp) :
    GroupOp.ofStoredName? op.storedName = some op := by
  cases op <;> rfl

theorem UnaryOp.ofStoredName?_storedName (op : UnaryOp) :
    UnaryOp.ofStoredName? op.storedName = some op := by
  cases op <;> rfl

/-- The name of a variant without content is read at any level. -/
theorem Json.unit?_string {α : Type} (levels : Nat) (f : String → Option α) (s : String) :
    Json.unit? levels f (.string s) = f s := by
  cases levels <;> rfl

/-! ## §4. Predicates -/

namespace Predicate

theorem isFaithful_toJson (p : Predicate) : IsFaithful p.toJson := by
  cases p with
  | userLoggedIn => exact .string _
  | userCan capability =>
    exact .object (.cons rfl (.object (.cons rfl (.string _) .nil)) .nil)
  | userCanForBlog blog capability =>
    exact .object (.cons rfl (.object (.cons rfl (.int _) (.cons rfl (.string _) .nil))) .nil)
  | userOption user key | userMeta user key | boughtProduct user key =>
    exact .object (.cons rfl (.object (.cons rfl (.int _) (.cons rfl (.string _) .nil))) .nil)
  | payingCustomer user =>
    exact .object (.cons rfl (.object (.cons rfl (.int _) .nil)) .nil)

theorem nesting_toJson (p : Predicate) :
    p.toJson.nesting = if p = .userLoggedIn then 0 else 2 := by
  cases p <;> rfl

/-- **A predicate is read back**, with the levels that it needs. -/
theorem ofJson?_toJson {p : Predicate} {levels : Nat} (hlevels : p.toJson.nesting ≤ levels) :
    ofJson? levels p.toJson = some p := by
  cases p with
  | userLoggedIn => rfl
  | userCan capability =>
    obtain ⟨n, rfl⟩ := Nat.le.dest hlevels
    rw [Nat.add_comm]
    rfl
  | userCanForBlog blog capability =>
    obtain ⟨n, rfl⟩ := Nat.le.dest hlevels
    rw [Nat.add_comm]
    show ((Json.int blog.toInt).int64?.bind fun blog =>
      some (Predicate.userCanForBlog blog capability)) = _
    rw [Json.int64?_int]
    rfl
  | userOption user key | userMeta user key | boughtProduct user key =>
    obtain ⟨n, rfl⟩ := Nat.le.dest hlevels
    rw [Nat.add_comm]
    show ((Json.int user.toNat).uint64?.bind fun user => some (_ : Predicate)) = _
    rw [Json.uint64?_int]
    rfl
  | payingCustomer user =>
    obtain ⟨n, rfl⟩ := Nat.le.dest hlevels
    rw [Nat.add_comm]
    show (Json.int user.toNat).uint64?.map Predicate.payingCustomer = _
    rw [Json.uint64?_int]
    rfl

/-- **A predicate needs no more levels than it was read with.** -/
theorem nesting_le {levels : Nat} {j : Json} {p : Predicate} (h : ofJson? levels j = some p) :
    p.toJson.nesting ≤ levels := by
  rw [nesting_toJson]
  by_cases hp : p = .userLoggedIn
  · rw [if_pos hp]
    exact Nat.zero_le levels
  · rw [if_neg hp]
    unfold ofJson? at h
    obtain ⟨⟨name, content⟩, -, h⟩ := Option.bind_eq_some_iff.1 h
    dsimp only at h
    split at h
    · exact absurd (Option.some.inj h).symm hp
    · split at h
      · exact absurd (Option.some.inj h).symm hp
      · cases h
    · -- Every other variant is refused with less than two levels.
      split at h
      · cases h
      · omega
    · cases h

end Predicate

/-! ## §5. Conditions -/

namespace Expression

mutual

/-- Is there no number among the literals of a condition? -/
def hasNoNumber : Expression → Bool
  | .literal v => v.hasNoNumber
  | .predicate _ => true
  | .call _ args => haveNoNumber args
  | .binary left _ right => hasNoNumber left && hasNoNumber right
  | .unary _ operand => hasNoNumber operand
  | .group _ members => haveNoNumber members

/-- Is there no number in any of several conditions? -/
def haveNoNumber : List Expression → Bool
  | [] => true
  | e :: es => hasNoNumber e && haveNoNumber es

end

mutual

theorem isFaithful_toJson {e : Expression} (h : e.hasNoNumber = true) : IsFaithful e.toJson := by
  cases e with
  | literal v => exact .object (.cons rfl (Value.isFaithful_toJson h) .nil)
  | predicate p => exact .object (.cons rfl p.isFaithful_toJson .nil)
  | call name args =>
    exact .object (.cons rfl (.object (.cons rfl (.string _)
      (.cons rfl (.array (isFaithful_of_mem h)) .nil))) .nil)
  | binary left op right =>
    obtain ⟨hleft, hright⟩ := Bool.and_eq_true_iff.1 h
    exact .object (.cons rfl (.object (.cons rfl (isFaithful_toJson hleft)
      (.cons rfl (.string _) (.cons rfl (isFaithful_toJson hright) .nil)))) .nil)
  | unary op operand =>
    exact .object (.cons rfl (.object (.cons rfl (.string _)
      (.cons rfl (isFaithful_toJson h) .nil))) .nil)
  | group op members =>
    exact .object (.cons rfl (.object (.cons rfl (.string _)
      (.cons rfl (.array (isFaithful_of_mem h)) .nil))) .nil)

theorem isFaithful_of_mem {es : List Expression} (h : haveNoNumber es = true) :
    ∀ j ∈ listToJson es, IsFaithful j := by
  cases es with
  | nil => exact fun j hj => absurd hj List.not_mem_nil
  | cons e es =>
    obtain ⟨he, hes⟩ := Bool.and_eq_true_iff.1 h
    exact List.forall_mem_cons.2 ⟨isFaithful_toJson he, isFaithful_of_mem hes⟩

end

theorem nesting_literal (v : Value) : (literal v).toJson.nesting = v.toJson.nesting + 1 := by
  simp [toJson, nesting, Json.nestingMembers, Nat.add_comm]

theorem nesting_predicate (p : Predicate) :
    (predicate p).toJson.nesting = p.toJson.nesting + 1 := by
  simp [toJson, nesting, Json.nestingMembers, Nat.add_comm]

theorem nesting_call (name : String) (args : List Expression) :
    (call name args).toJson.nesting = nestingItems (listToJson args) + 3 := by
  simp [toJson, nesting, Json.nestingMembers]
  omega

theorem nesting_binary (left : Expression) (op : Operator) (right : Expression) :
    (binary left op right).toJson.nesting = max left.toJson.nesting right.toJson.nesting + 2 := by
  simp [toJson, nesting, Json.nestingMembers]
  omega

theorem nesting_unary (op : UnaryOp) (operand : Expression) :
    (unary op operand).toJson.nesting = operand.toJson.nesting + 2 := by
  simp [toJson, nesting, Json.nestingMembers]
  omega

theorem nesting_group (op : GroupOp) (members : List Expression) :
    (group op members).toJson.nesting = nestingItems (listToJson members) + 3 := by
  simp [toJson, nesting, Json.nestingMembers]
  omega

mutual

/-- **A condition without numbers is read back**, with the levels that it needs. -/
theorem ofJson?_toJson {e : Expression} (h : e.hasNoNumber = true) {levels : Nat}
    (hlevels : e.toJson.nesting ≤ levels) : ofJson? levels e.toJson = some e := by
  -- By the kind of node: what it nests gives the reader its levels, and its parts are read with
  -- the levels that are left.
  cases e with
  | literal v =>
    rw [nesting_literal] at hlevels
    obtain ⟨n, rfl⟩ : ∃ n, levels = n + 1 := ⟨levels - 1, by omega⟩
    show (Value.ofJson? n v.toJson).map literal = _
    rw [Value.ofJson?_toJson h (by omega)]
    rfl
  | predicate p =>
    rw [nesting_predicate] at hlevels
    obtain ⟨n, rfl⟩ : ∃ n, levels = n + 1 := ⟨levels - 1, by omega⟩
    show (Predicate.ofJson? n p.toJson).map predicate = _
    rw [Predicate.ofJson?_toJson (by omega)]
    rfl
  | call name args =>
    rw [nesting_call] at hlevels
    obtain ⟨n, rfl⟩ : ∃ n, levels = n + 3 := ⟨levels - 3, by omega⟩
    show ((listToJson args).mapM (ofJson? n)).bind (fun args => some (call name args)) = _
    rw [mapM_ofJson?_listToJson h (by omega)]
    rfl
  | binary left op right =>
    rw [nesting_binary] at hlevels
    obtain ⟨hleft, hright⟩ := Bool.and_eq_true_iff.1 h
    obtain ⟨n, rfl⟩ : ∃ n, levels = n + 2 := ⟨levels - 2, by omega⟩
    rw [toJson, ofJson?]
    show ((ofJson? n left.toJson).bind fun left =>
      (Json.unit? n Operator.ofStoredName? (.string op.storedName)).bind fun op =>
        (ofJson? n right.toJson).bind fun right => some (binary left op right)) = _
    rw [ofJson?_toJson hleft (by omega), ofJson?_toJson hright (by omega), Json.unit?_string,
      Operator.ofStoredName?_storedName]
    rfl
  | unary op operand =>
    rw [nesting_unary] at hlevels
    obtain ⟨n, rfl⟩ : ∃ n, levels = n + 2 := ⟨levels - 2, by omega⟩
    rw [toJson, ofJson?]
    show ((Json.unit? n UnaryOp.ofStoredName? (.string op.storedName)).bind fun op =>
      (ofJson? n operand.toJson).bind fun operand => some (unary op operand)) = _
    rw [ofJson?_toJson (e := operand) h (by omega), Json.unit?_string, UnaryOp.ofStoredName?_storedName]
    rfl
  | group op members =>
    rw [nesting_group] at hlevels
    obtain ⟨n, rfl⟩ : ∃ n, levels = n + 3 := ⟨levels - 3, by omega⟩
    show ((Json.unit? (n + 1) GroupOp.ofStoredName? (.string op.storedName)).bind fun op =>
      ((listToJson members).mapM (ofJson? n)).bind fun members => some (group op members)) = _
    rw [mapM_ofJson?_listToJson h (by omega), Json.unit?_string, GroupOp.ofStoredName?_storedName]
    rfl

theorem mapM_ofJson?_listToJson {es : List Expression} (h : haveNoNumber es = true) {levels : Nat}
    (hlevels : nestingItems (listToJson es) ≤ levels) :
    (listToJson es).mapM (ofJson? levels) = some es := by
  cases es with
  | nil => rfl
  | cons e es =>
    obtain ⟨he, hes⟩ := Bool.and_eq_true_iff.1 h
    rw [listToJson, nestingItems, Nat.max_le] at hlevels
    rw [listToJson, List.mapM_cons, ofJson?_toJson he hlevels.1,
      mapM_ofJson?_listToJson hes hlevels.2]
    rfl

end

theorem nestingItems_le {es : List Expression} {n : Nat} (h : ∀ e ∈ es, e.toJson.nesting ≤ n) :
    nestingItems (listToJson es) ≤ n := by
  induction es with
  | nil => exact Nat.zero_le n
  | cons e es ih =>
    obtain ⟨he, hes⟩ := List.forall_mem_cons.1 h
    exact Nat.max_le.2 ⟨he, ih hes⟩

/-- A list of conditions takes a level more than the conditions. -/
theorem nestingItems_of_list? {levels : Nat} {j : Json} {es : List Expression}
    (h : (match levels with
      | 0 => none
      | n + 1 => list? (ofJson? n) j) = some es)
    (ih : ∀ n < levels, ∀ {j e}, ofJson? n j = some e → e.toJson.nesting ≤ n) :
    nestingItems (listToJson es) + 1 ≤ levels := by
  cases levels with
  | zero => cases h
  | succ n =>
    cases j with
    | array items =>
      exact Nat.succ_le_succ (nestingItems_le (forall_of_mapM_option (ih n n.lt_succ_self) h))
    | null | bool _ | number _ | string _ | object _ | unreadable => cases h

/-- **A condition needs no more levels than it was read with.** -/
theorem nesting_le {levels : Nat} {j : Json} {e : Expression} (h : ofJson? levels j = some e) :
    e.toJson.nesting ≤ levels := by
  -- On the levels, since the JSON may have any of the forms that are read.
  induction levels using Nat.strongRecOn generalizing j e with
  | ind levels ih =>
    unfold ofJson? at h
    split at h
    · obtain ⟨v, hv, rfl⟩ := Option.map_eq_some_iff.1 h
      rw [nesting_literal]
      exact Nat.succ_le_succ (Value.nesting_le hv)
    · obtain ⟨p, hp, rfl⟩ := Option.map_eq_some_iff.1 h
      rw [nesting_predicate]
      exact Nat.succ_le_succ (Predicate.nesting_le hp)
    · rename_i levels name _ content _ _
      have ih' : ∀ n < levels, ∀ {j e}, ofJson? n j = some e → e.toJson.nesting ≤ n :=
        fun n hn => ih n (by omega)
      dsimp only at h
      -- One case for each kind of node, and none for other names.
      split at h
      · split at h
        · obtain ⟨name, -, h⟩ := Option.bind_eq_some_iff.1 h
          obtain ⟨args, hargs, h⟩ := Option.bind_eq_some_iff.1 h
          cases h
          rw [nesting_call]
          exact Nat.add_le_add_right (nestingItems_of_list? hargs ih') 2
        · cases h
      · split at h
        · obtain ⟨left, hleft, h⟩ := Option.bind_eq_some_iff.1 h
          obtain ⟨op, -, h⟩ := Option.bind_eq_some_iff.1 h
          obtain ⟨right, hright, h⟩ := Option.bind_eq_some_iff.1 h
          cases h
          rw [nesting_binary]
          have hle := Nat.max_le.2 ⟨ih levels (by omega) hleft, ih levels (by omega) hright⟩
          exact Nat.add_le_add_right hle 2
        · cases h
      · split at h
        · obtain ⟨op, -, h⟩ := Option.bind_eq_some_iff.1 h
          obtain ⟨operand, hoperand, h⟩ := Option.bind_eq_some_iff.1 h
          cases h
          rw [nesting_unary]
          exact Nat.add_le_add_right (ih levels (by omega) hoperand) 2
        · cases h
      · split at h
        · obtain ⟨op, -, h⟩ := Option.bind_eq_some_iff.1 h
          obtain ⟨members, hmembers, h⟩ := Option.bind_eq_some_iff.1 h
          cases h
          rw [nesting_group]
          exact Nat.add_le_add_right (nestingItems_of_list? hmembers ih') 2
        · cases h
      · cases h
    · cases h

/-- **A stored condition without numbers is read back from its text**, if arrays and objects do not
stand too deep inside one another. -/
theorem ofStored?_of_nesting {e : Expression} (h : e.hasNoNumber = true)
    (hlevels : e.toJson.nesting ≤ Json.maxLevels) : ofStored? e.stored = some e := by
  unfold ofStored? stored
  rw [(isFaithful_toJson h).read?_compact]
  exact ofJson?_toJson h hlevels

/-- What was read from a text needs no more levels than a text may have. -/
theorem nesting_le_of_ofStored? {text : String} {e : Expression} (h : ofStored? text = some e) :
    e.toJson.nesting ≤ Json.maxLevels := by
  obtain ⟨j, -, hj⟩ := Option.bind_eq_some_iff.1 h
  exact nesting_le hj

/-- **Storing and reading a condition gives it back**: every condition without numbers whose text
nests at most a hundred arrays and objects, and every one that was read from any text at all. -/
theorem stored_reads_back {e : Expression} (h : e.hasNoNumber = true) :
    (e.toJson.nesting ≤ 100 → ofStored? e.stored = some e)
      ∧ ∀ text, ofStored? text = some e → ofStored? e.stored = some e := by
  constructor
  · intro hlevels
    exact ofStored?_of_nesting h (Nat.le_trans hlevels (by decide))
  · intro text hread
    exact ofStored?_of_nesting h (nesting_le_of_ofStored? hread)

/-- Not an editor of the second site. -/
def noEditor : Expression := .not (.predicate (.userCanForBlog 2 "editor"))

/-- That condition in another of the forms that are read: with records as arrays, and the operator
as an object. -/
def noEditorJson : Json :=
  .object [("Unary", .array [.object [("Not", .null)],
    .object [("Predicate", .object [("UserCanForBlog", .array [.int 2, .string "editor"])])]])]

theorem ofStored?_noEditorJson : ofStored? noEditorJson.compact = some noEditor := by
  have hnot : IsFaithful (.object [("Not", .null)]) := .object (.cons rfl .null .nil)
  have hrecord : IsFaithful (.array [.int 2, .string "editor"]) :=
    .array (List.forall_mem_cons.2 ⟨.int 2, List.forall_mem_singleton.2 (.string _)⟩)
  have hpredicate : IsFaithful (.object [("Predicate",
      .object [("UserCanForBlog", .array [.int 2, .string "editor"])])]) :=
    .object (.cons rfl (.object (.cons rfl hrecord .nil)) .nil)
  have hunary := IsFaithful.array
    (List.forall_mem_cons.2 ⟨hnot, List.forall_mem_singleton.2 hpredicate⟩)
  have hfaithful : IsFaithful noEditorJson := .object (.cons rfl hunary .nil)
  unfold ofStored?
  rw [hfaithful.read?_compact]
  rfl

theorem noEditor_reads_back :
    noEditor.hasNoNumber = true ∧ noEditor.toJson.nesting ≤ 100
      ∧ ofStored? noEditor.stored = some noEditor
      ∧ ofStored? noEditorJson.compact = some noEditor
      ∧ ((ofStored? noEditorJson.compact).bind fun e => ofStored? e.stored) = some noEditor := by
  refine ⟨rfl, by decide, (stored_reads_back rfl).1 (by decide), ofStored?_noEditorJson, ?_⟩
  rw [ofStored?_noEditorJson, Option.bind_some]
  exact (stored_reads_back rfl).2 _ ofStored?_noEditorJson

end Expression

end ContentGate
