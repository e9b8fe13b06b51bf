import ImageWorkflow.Json.Basic

/-!
# Numbers as they were given

`Quantity` : an integer or a binary floating-point number.  Requests show the two differently (`1`
and `1.0`), so a parameter keeps the kind of number that it was given.

`Json.integer?`, `Json.real?` : the number that a JSON value holds where an integer or a number is
wanted.  Booleans, not-a-number and the infinities are no numbers there; an integer beyond the range
of the floating-point numbers is a fault of its own (`NumberFault.tooLarge`).
-/

namespace ImageWorkflow

/-- A number of either kind. -/
inductive Quantity where
  | whole (n : Int)
  | real (x : Binary64)
  deriving DecidableEq, Repr

/-- The JSON number. -/
def Quantity.toJson : Quantity → Json
  | .whole n => .int n
  | .real x => .float x

/-- Why a JSON value is not the number wanted. -/
inductive NumberFault where
  /-- Not a number of the wanted kind. -/
  | wrongKind
  /-- An integer that no floating-point number comes near. -/
  | tooLarge
  deriving DecidableEq, Repr

/-- The finite number that a JSON value holds, as a floating-point number. -/
def Json.real? : Json → Except NumberFault Binary64
  | .int n => match Binary64.ofInt? n with
    | some x => .ok x
    | none => .error .tooLarge
  | .float x => if x.isFinite then .ok x else .error .wrongKind
  | _ => .error .wrongKind

/-- The integer that a JSON value holds; a floating-point number may be integral. -/
def Json.integer? : Json → Except NumberFault Int
  | .int n => match Binary64.ofInt? n with
    | some _ => .ok n
    | none => .error .tooLarge
  | .float x => match x.toInt? with
    | some n => .ok n
    | none => .error .wrongKind
  | _ => .error .wrongKind

/-- The complaint about an integer past every floating-point number. -/
def tooLargeMessage : String := "int too large to convert to float"

end ImageWorkflow
