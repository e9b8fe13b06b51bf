import ImageWorkflow.Number.Binary64

/-!
# JSON values

`Json` : a JSON value.  Integers and binary floating-point numbers are kept apart, integers are
unbounded, and an object keeps its members in the order in which their keys were first written.
* `get?`, `insert`, `keys` : look-up, update and the keys of a list of members;
* `same` : equality of values: numbers and booleans compare by their exact numeric value, the order
  of an object's members does not matter;
* `Distinct` : no object of the value has two members with one key;
* `isFinite` : the value has no number that is infinite or not a number;
* `withoutInfinities` : the value with nothing in place of such numbers.
-/

namespace ImageWorkflow

/-- A JSON value. -/
inductive Json where
  | null
  | bool (value : Bool)
  | int (value : Int)
  | float (value : Binary64)
  | str (value : String)
  | array (items : List Json)
  | object (members : List (String × Json))
  deriving Inhabited

/-- The members of an object. -/
abbrev Members := List (String × Json)

namespace Members

/-- The value of the first member with key `key`. -/
def get? (members : Members) (key : String) : Option Json :=
  match members with
  | [] => none
  | (k, v) :: rest => if k = key then some v else get? rest key

/-- Set the value of `key`: in place if there is such a member, else at the end. -/
def insert (members : Members) (key : String) (value : Json) : Members :=
  match members with
  | [] => [(key, value)]
  | (k, v) :: rest => if k = key then (k, value) :: rest else (k, v) :: insert rest key value

/-- Set every member of `other` in turn. -/
def update (members other : Members) : Members :=
  other.foldl (fun acc member => acc.insert member.1 member.2) members

/-- The keys in order. -/
def keys (members : Members) : List String := members.map (·.1)

end Members

namespace Json

/-- The exact value of a number or boolean. -/
inductive Scalar where
  | exact (q : Rat)
  | infinite (negative : Bool)
  | undefined
  deriving DecidableEq

/-- The value of a binary number; both zeros have one value, and so has not-a-number. -/
def Scalar.ofBinary64 : Binary64 → Scalar
  | .nan => .undefined
  | .infinity negative => .infinite negative
  | x => match x.toRat? with
    | some q => .exact q
    | none => .undefined

/-- The numeric value of a number or boolean. -/
def scalar? : Json → Option Scalar
  | .bool b => some (.exact (if b then 1 else 0))
  | .int n => some (.exact n)
  | .float x => some (.ofBinary64 x)
  | _ => none

mutual

/-- Equality of JSON values by value. -/
def same : Json → Json → Bool
  | .null, .null => true
  | .str a, .str b => a == b
  | .array a, .array b => sameItems a b
  | .object a, .object b => a.length == b.length && sameMembers a b
  | .bool a, b => b.scalar? == (Json.bool a).scalar?
  | .int a, b => b.scalar? == (Json.int a).scalar?
  | .float a, b => b.scalar? == (Json.float a).scalar?
  | _, _ => false

/-- Equality of items, one by one. -/
def sameItems : List Json → List Json → Bool
  | [], [] => true
  | a :: as, b :: bs => same a b && sameItems as bs
  | _, _ => false

/-- Whether each member of the first list has an equal one in the second. -/
def sameMembers : List (String × Json) → List (String × Json) → Bool
  | [], _ => true
  | (key, value) :: rest, other =>
    (match Members.get? other key with
      | some w => same value w
      | none => false) && sameMembers rest other

end

mutual

/-- No object of the value has two members with one key. -/
def Distinct : Json → Prop
  | .array items => DistinctItems items
  | .object members => (members.map (·.1)).Nodup ∧ DistinctMembers members
  | _ => True

/-- `Distinct` for each item. -/
def DistinctItems : List Json → Prop
  | [] => True
  | item :: rest => Distinct item ∧ DistinctItems rest

/-- `Distinct` for each member's value. -/
def DistinctMembers : List (String × Json) → Prop
  | [] => True
  | (_, value) :: rest => Distinct value ∧ DistinctMembers rest

end

mutual

/-- Whether every number of the value is finite. -/
def isFinite : Json → Bool
  | .float x => x.isFinite
  | .array items => itemsFinite items
  | .object members => membersFinite members
  | _ => true

/-- `isFinite` for each item. -/
def itemsFinite : List Json → Bool
  | [] => true
  | item :: rest => isFinite item && itemsFinite rest

/-- `isFinite` for each member's value. -/
def membersFinite : List (String × Json) → Bool
  | [] => true
  | (_, value) :: rest => isFinite value && membersFinite rest

end

mutual

/-- The value with nothing in place of numbers that are not finite. -/
def withoutInfinities : Json → Json
  | .float x => if x.isFinite then .float x else .null
  | .array items => .array (itemsWithoutInfinities items)
  | .object members => .object (membersWithoutInfinities members)
  | value => value

/-- `withoutInfinities` for each item. -/
def itemsWithoutInfinities : List Json → List Json
  | [] => []
  | item :: rest => withoutInfinities item :: itemsWithoutInfinities rest

/-- `withoutInfinities` for each member's value. -/
def membersWithoutInfinities : List (String × Json) → List (String × Json)
  | [] => []
  | (key, value) :: rest => (key, withoutInfinities value) :: membersWithoutInfinities rest

end

/-- The word for the kind of a value in messages. -/
def kindName : Json → String
  | .null => "NoneType"
  | .bool _ => "bool"
  | .int _ => "int"
  | .float _ => "float"
  | .str _ => "str"
  | .array _ => "list"
  | .object _ => "dict"

/-- Whether a value counts as true in a condition: not null, false, zero or empty. -/
def isTruthy : Json → Bool
  | .null => false
  | .bool b => b
  | .int n => n != 0
  | .float x => !x.isZero
  | .str s => s != ""
  | .array items => !items.isEmpty
  | .object members => !members.isEmpty

/-- Whether a value is null. -/
def isNull : Json → Bool
  | .null => true
  | _ => false

/-- The members of an object. -/
def members? : Json → Option Members
  | .object members => some members
  | _ => none

/-- The text of a string value. -/
def str? : Json → Option String
  | .str s => some s
  | _ => none

/-- An object's member. -/
def get? (value : Json) (key : String) : Option Json := value.members?.bind (·.get? key)

end Json

end ImageWorkflow
