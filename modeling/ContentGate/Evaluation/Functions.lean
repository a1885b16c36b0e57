/-
  ContentGate.Evaluation.Functions — functions that conditions may call.

  A call is resolved by name in a `Registry`.  A function is given its
  arguments and its `Caller`: who looks at the page, on what kind of
  site, with what shop, and the registry, by which it can call functions
  itself.  It is an evaluation like those of the shop: it may ask the
  shop, and it may read and change the session, in which its own state,
  if it has one, stands behind the catalog.

  In a `LinkedRegistry` it is settled what comes of every call.  A call is
  the body of its function, and so are the calls that the body makes.

  A registry starts with questions about the visitor; a site may add its
  own functions or replace these.
-/
import ContentGate.Commerce.Lookup
import ContentGate.Evaluation.Error
import ContentGate.Text.Printable
import ContentGate.Visitor

namespace ContentGate

variable {κ : Type}

/-- Where a call is made: for whom, with what shop, and on what kind of site. -/
structure Surroundings (κ : Type) where
  visitor : Visitor
  /-- The shop, if commerce is active. -/
  commerce? : Option (Commerce κ) := none
  /-- Is the site part of a network? -/
  multisite : Bool := false

/-- Calls of functions by their names, with the values of their arguments. -/
abbrev Calls (κ : Type) := Surroundings κ → (name : String) → (args : List Value) →
  Evaluation κ Value

/-- What a function has besides its arguments: where it is called, and the registry. -/
structure Caller (κ : Type) extends Surroundings κ where
  /-- Is there a function of this name? -/
  isRegistered : String → Bool
  /-- The registry as it is shown to a developer. -/
  registryShown : String
  /-- Calls a function, here or in other surroundings. -/
  call : Calls κ

/-- A function.  It may do whatever an evaluation may do, and call other functions. -/
abbrev Function (κ : Type) := Caller κ → List Value → Evaluation κ Value

/-! ## Arguments -/

namespace Function

/-- The expected number of arguments, in words. -/
def countInWords : Nat → String
  | 0 => "no arguments"
  | 1 => "1 argument"
  | n => toString n ++ " arguments"

/-- The refusal of a call with the wrong number of arguments. -/
def wrongCount {α : Type} (function : String) (count : Nat) : Except EvalError α :=
  .error (.invalidArguments function (countInWords count))

/-- An argument as text: a string, or the text of a number or truth value. -/
def stringArgument (function : String) : Value → Except EvalError String
  | .string s => .ok s
  | .number x => .ok (Value.number x).text
  | .bool b => .ok (Value.bool b).text
  | _ => .error (.invalidArguments function "a string argument")

/-- An argument as a whole number, kept within 64 bits. -/
def intArgument (function : String) (v : Value) : Except EvalError Int64 :=
  match v.int64? with
  | some n => .ok n
  | none => .error (.invalidArguments function "an integer argument")

/-! ## The visitor's functions -/

/-- A function that only computes: it answers from its arguments and from where it is called. -/
def computing (answer : Surroundings κ → List Value → Except EvalError Value) : Function κ :=
  fun caller args => liftM (answer caller.toSurroundings args)

/-- A function without arguments. -/
def constant (name : String) (answer : Surroundings κ → Value) : Function κ :=
  computing fun here args =>
    match args with
    | [] => .ok (answer here)
    | _ => wrongCount name 0

/-- A function of one text. -/
def ofText (name : String) (answer : Surroundings κ → String → Value) : Function κ :=
  computing fun here args =>
    match args with
    | [v] => do
      let s ← stringArgument name v
      .ok (answer here s)
    | _ => wrongCount name 1

/-- A function of a whole number and a text. -/
def ofIntAndText (name : String) (answer : Surroundings κ → Int64 → String → Value) : Function κ :=
  computing fun here args =>
    match args with
    | [v, w] => do
      let n ← intArgument name v
      let s ← stringArgument name w
      .ok (answer here n s)
    | _ => wrongCount name 2

/-- The user with a number; negative numbers are nobody's. -/
def userOfInt (n : Int64) : UserId := UInt64.ofNat n.toInt.toNat

/-- The functions that every registry may start with. -/
def builtins : List (String × Function κ) :=
  [ ("is_user_logged_in",
      constant "is_user_logged_in" fun c => .bool c.visitor.isLoggedIn),
    ("get_current_user_id",
      constant "get_current_user_id" fun c => .number (Decimal.ofNat c.visitor.id.toNat)),
    ("is_multisite",
      constant "is_multisite" fun c => .bool c.multisite),
    ("current_user_can",
      ofText "current_user_can" fun c capability => .bool (c.visitor.can capability)),
    ("current_user_can_for_blog",
      ofIntAndText "current_user_can_for_blog" fun c blog capability =>
        .bool (c.visitor.canForBlog blog capability)),
    ("get_user_option",
      ofText "get_user_option" fun c key => c.visitor.option c.visitor.id key),
    ("get_user_meta",
      ofIntAndText "get_user_meta" fun c user key => c.visitor.userMeta (userOfInt user) key) ]

/-- The functions about the visitor only compute. -/
theorem exists_computing_of_builtins :
    ∀ entry ∈ (builtins : List (String × Function κ)), ∃ answer, entry.2 = computing answer := by
  unfold builtins
  simp only [List.forall_mem_cons]
  exact ⟨⟨_, rfl⟩, ⟨_, rfl⟩, ⟨_, rfl⟩, ⟨_, rfl⟩, ⟨_, rfl⟩, ⟨_, rfl⟩, ⟨_, rfl⟩, List.forall_mem_nil _⟩

/-- The function calls no other. -/
def Standalone (f : Function κ) : Prop :=
  ∀ (caller : Caller κ) (call : Calls κ) (args : List Value),
    f { caller with call } args = f caller args

theorem standalone_computing (answer : Surroundings κ → List Value → Except EvalError Value) :
    Standalone (computing answer) := fun _ _ _ => rfl

end Function

/-! ## Registries -/

/-- Functions by name. -/
structure Registry (κ : Type) where
  functions : List (String × Function κ) := []

namespace Registry

/-- No functions. -/
def empty : Registry κ := {}

/-- The functions about the visitor. -/
def builtins : Registry κ := ⟨Function.builtins⟩

instance : Inhabited (Registry κ) := ⟨builtins⟩

/-- Adds a function; it replaces one of the same name. -/
def register (r : Registry κ) (name : String) (f : Function κ) : Registry κ :=
  ⟨(name, f) :: r.functions.filter (·.1 != name)⟩

/-- Is there a function of this name? -/
def contains (r : Registry κ) (name : String) : Bool := r.functions.any (·.1 == name)

/-- The function of a name. -/
def find? (r : Registry κ) (name : String) : Option (Function κ) :=
  (r.functions.find? (·.1 == name)).map (·.2)

/-- The names in order. -/
def names (r : Registry κ) : List String :=
  (r.functions.map (·.1)).mergeSort fun a b => !decide (b < a)

/-- A registry as it is shown to a developer. -/
def shown (r : Registry κ) : String :=
  "FunctionRegistry \x7b functions: [" ++ ", ".intercalate (r.names.map Text.shown) ++ "] \x7d"

/-- Calls a function, which makes its own calls by `call`. -/
def callBy (r : Registry κ) (call : Calls κ) : Calls κ := fun here name args =>
  match r.find? name with
  | some f =>
    f { toSurroundings := here, isRegistered := r.contains, registryShown := r.shown, call } args
  | none => throw (.undefinedFunction name)

/-- No function calls another. -/
def Standalone (r : Registry κ) : Prop := ∀ entry ∈ r.functions, Function.Standalone entry.2

theorem standalone_builtins : Standalone (builtins : Registry κ) := by
  intro entry hentry
  obtain ⟨answer, hanswer⟩ := Function.exists_computing_of_builtins entry hentry
  rw [hanswer]
  exact Function.standalone_computing answer

theorem Standalone.register {r : Registry κ} (h : r.Standalone) (name : String) {f : Function κ}
    (hf : Function.Standalone f) : (r.register name f).Standalone := by
  intro entry hentry
  rcases List.mem_cons.1 hentry with rfl | hold
  · exact hf
  · exact h entry (List.mem_filter.1 hold).1

/-- Where no function calls another, it does not matter how calls would be made. -/
theorem callBy_eq {r : Registry κ} (h : r.Standalone) (call call' : Calls κ) :
    r.callBy call = r.callBy call' := by
  funext here name args
  unfold callBy
  cases hfind : r.find? name with
  | none => rfl
  | some f =>
    obtain ⟨entry, hentry, rfl⟩ := Option.map_eq_some_iff.1 hfind
    exact h entry (List.mem_of_find?_eq_some hentry)
      { toSurroundings := here, isRegistered := r.contains, registryShown := r.shown, call := call' }
      call args

end Registry

/-- A registry whose functions can call each other and always return.  Something comes of every
call: what comes of the function's body, where the same holds of the calls in it. -/
structure LinkedRegistry (κ : Type) extends Registry κ where
  call : Calls κ
  call_eq : call = toRegistry.callBy call

namespace LinkedRegistry

/-- Functions that do not call each other. -/
def ofStandalone (r : Registry κ) (h : r.Standalone) : LinkedRegistry κ where
  toRegistry := r
  call := r.callBy fun _ name _ => throw (.undefinedFunction name)
  call_eq := r.callBy_eq h _ _

/-- The functions about the visitor. -/
def builtins : LinkedRegistry κ := ofStandalone .builtins Registry.standalone_builtins

end LinkedRegistry

end ContentGate
