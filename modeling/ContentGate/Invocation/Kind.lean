/-
  ContentGate.Invocation.Kind — what the attributes of a tag are for.

  Each built-in name has a kind of its own; three names are modifiers,
  which change how the other attributes are read; every other name is an
  author's.  Before an author's attributes are looked at, a tag has all
  built-in attributes with their default values.
-/
import ContentGate.Condition.Expression
import ContentGate.Decimal.Binary
import ContentGate.Tag.Attributes
import ContentGate.Text.Blank

namespace ContentGate

/-- What an attribute contributes. -/
inductive AttributeKind where
  /-- A direct condition. -/
  | direct
  /-- Is the visitor logged in? -/
  | loggedIn
  /-- Capabilities of the visitor. -/
  | userCan
  /-- Options of the visitor. -/
  | userOption
  /-- Meta entries of the visitor. -/
  | userMeta
  /-- Is the visitor a paying customer? -/
  | payingCustomer
  /-- Products that the visitor bought. -/
  | boughtProduct
  /-- How the other attributes are read. -/
  | modifier
  /-- A function of the site. -/
  | arbitrary
  deriving Repr, DecidableEq, Inhabited

/-! ## Names -/

namespace AttributeName

/-- A condition written out in full. -/
def direct : String := "php"
/-- Is the visitor logged in? -/
def loggedIn : String := "current_user_is_logged_in"
/-- A formula over capabilities. -/
def userCan : String := "current_user_can"
/-- A formula over the visitor's options. -/
def userOption : String := "current_user_option"
/-- A formula over the visitor's meta entries. -/
def userMeta : String := "current_user_meta"
/-- Is the visitor a paying customer? -/
def payingCustomer : String := "current_user_is_paying_customer"
/-- A formula over products. -/
def boughtProduct : String := "current_user_bought_product"
/-- The site that capabilities are asked about. -/
def forBlog : String := "_for_blog"
/-- How the conditions of the tag combine. -/
def satisfy : String := "_satisfy"
/-- What the tag shows about itself. -/
def debug : String := "_debug"

end AttributeName

namespace AttributeKind

/-- The built-in names and their kinds, in the order of the default attributes. -/
def builtins : List (String × AttributeKind) :=
  [ (AttributeName.direct, .direct), (AttributeName.loggedIn, .loggedIn),
    (AttributeName.userCan, .userCan), (AttributeName.userOption, .userOption),
    (AttributeName.userMeta, .userMeta), (AttributeName.payingCustomer, .payingCustomer),
    (AttributeName.boughtProduct, .boughtProduct), (AttributeName.forBlog, .modifier),
    (AttributeName.satisfy, .modifier), (AttributeName.debug, .modifier) ]

/-- The kind of a name. -/
def ofName (name : String) : AttributeKind :=
  ((builtins.find? (·.1 == name)).map (·.2)).getD .arbitrary

/-- Is the kind built in? -/
def isBuiltin (k : AttributeKind) : Bool := k != .arbitrary

end AttributeKind

/-- The attributes of a tag on which nothing is written. -/
def defaultAttributes (debugDefault : String) : Attributes :=
  Attributes.ofPairs
    [ (AttributeName.direct, ""), (AttributeName.loggedIn, ""), (AttributeName.userCan, ""),
      (AttributeName.userOption, ""), (AttributeName.userMeta, ""),
      (AttributeName.payingCustomer, ""), (AttributeName.boughtProduct, ""),
      (AttributeName.forBlog, "0"), (AttributeName.satisfy, "all"),
      (AttributeName.debug, debugDefault) ]

/-- The values that switch an attribute off. -/
def isFalsy (value : String) : Bool := value == "" || value == "0"

/-- May an author's attribute have this name?  A small ASCII letter, then
small letters, digits and underscores, with no underscore at the end; at
least two characters, and at least `minLength` bytes. -/
def isValidName (name : String) (minLength : Nat) : Bool :=
  let isLetter (c : Char) : Bool := 'a' ≤ c && c ≤ 'z'
  let cs := name.toList
  minLength ≤ name.utf8ByteSize && 2 ≤ cs.length
    && (cs.head?.map isLetter).getD false
    && cs.all (fun c => isLetter c || c.isDigit || c == '_')
    && cs.getLast? != some '_'

/-! ## Modifiers -/

/-- How the conditions of a tag combine. -/
inductive SatisfyMode where
  | all
  | any
  deriving Repr, DecidableEq, Inhabited

namespace SatisfyMode

/-- Exactly `any` asks for any; everything else for all. -/
def ofText (s : String) : SatisfyMode := if s = "any" then .any else .all

/-- The mode in normal form. -/
def text : SatisfyMode → String
  | .all => "all"
  | .any => "any"

/-- How the conditions are joined. -/
def groupOp : SatisfyMode → GroupOp
  | .all => .all
  | .any => .any

end SatisfyMode

/-- What a tag shows about itself. -/
inductive DebugMode where
  | off
  | on
  | verbose
  deriving Repr, DecidableEq, Inhabited

namespace DebugMode

/-- Exactly `verbose` asks for everything; the usual words switch on. -/
def ofText (s : String) : DebugMode :=
  if s = "verbose" then .verbose
  else if isFalsy s then .off
  else
    let word := String.ofList ((Text.trim s.toList).map Char.toLower)
    if ["1", "on", "yes", "true"].contains word then .on else .off

/-- Are errors shown on the page? -/
def isEnabled (d : DebugMode) : Bool := d != .off

end DebugMode

/-- The value of a digit. -/
def digitValue (c : Char) : Int := c.toNat - '0'.toNat

/-- The integer at the head of a text, kept within 64 bits; zero when
there is none.  Blanks and one sign may stand before the digits. -/
def lenientInt (s : String) : Int64 :=
  let (negative, cs) := match Text.trimStart s.toList with
    | '-' :: cs => (true, cs)
    | '+' :: cs => (false, cs)
    | cs => (false, cs)
  let size := (cs.takeWhile Char.isDigit).foldl
    (fun n c => min (min (n * 10) Decimal.int64Max + digitValue c) Decimal.int64Max) 0
  Int64.ofInt (if negative then -size else size)

end ContentGate
