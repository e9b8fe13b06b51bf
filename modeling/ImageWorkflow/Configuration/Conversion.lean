import ImageWorkflow.Files.Path
import ImageWorkflow.Json.Basic
import ImageWorkflow.Number.Numeral
import ImageWorkflow.Text.Quoted

/-!
# Lenient conversions

The value of a setting may come from a file or the environment, where everything is text.  So a
number may be given as a text or a truth value, and a truth value as a word or a number:
* `Json.asInteger`, `Json.asReal`, `Json.asFlag`, `Json.asText`, `Json.asPath` : the value wanted,
  or what is wrong with the value given (`ValueFault`);
* `Bound.check` : a bound that a number must keep to.
-/

namespace ImageWorkflow

/-- A bound of a number. -/
inductive Bound where
  | atLeast (n : Int)
  | atMost (n : Int)
  | above (n : Int)
  deriving DecidableEq, Repr

/-- What is wrong with the value of a setting. -/
inductive ValueFault where
  | notInteger
  /-- A text that writes no integer. -/
  | integerText
  /-- A number between two integers. -/
  | fractional
  /-- An integral number past the machine's integers, or a text too long to read. -/
  | integerTooLarge
  | notFinite
  | notNumber
  /-- A text that writes no number. -/
  | numberText
  | notFlag
  /-- A word or a number that is no truth value. -/
  | flagText
  | notText
  | notPath
  /-- None of the words that are allowed. -/
  | notAmong (choices : List String)
  | outOfBounds (bound : Bound)
  /-- There is no setting of that name. -/
  | unknownName
  deriving DecidableEq, Repr

/-- Words as alternatives. -/
def alternatives : List String → String
  | [] => ""
  | [word] => Text.quote word
  | [first, last] => s!"{Text.quote first} or {Text.quote last}"
  | first :: rest => s!"{Text.quote first}, {alternatives rest}"

namespace ValueFault

/-- The code of a fault. -/
def code : ValueFault → String
  | notInteger => "int_type"
  | integerText => "int_parsing"
  | fractional => "int_from_float"
  | integerTooLarge => "int_parsing_size"
  | notFinite => "finite_number"
  | notNumber => "float_type"
  | numberText => "float_parsing"
  | notFlag => "bool_type"
  | flagText => "bool_parsing"
  | notText => "string_type"
  | notPath => "path_type"
  | notAmong _ => "literal_error"
  | outOfBounds (.atLeast _) => "greater_than_equal"
  | outOfBounds (.atMost _) => "less_than_equal"
  | outOfBounds (.above _) => "greater_than"
  | unknownName => "extra_forbidden"

/-- The wording of a fault. -/
def message : ValueFault → String
  | notInteger => "Input should be a valid integer"
  | integerText => "Input should be a valid integer, unable to parse string as an integer"
  | fractional => "Input should be a valid integer, got a number with a fractional part"
  | integerTooLarge => "Unable to parse input string as an integer, exceeded maximum size"
  | notFinite => "Input should be a finite number"
  | notNumber => "Input should be a valid number"
  | numberText => "Input should be a valid number, unable to parse string as a number"
  | notFlag => "Input should be a valid boolean"
  | flagText => "Input should be a valid boolean, unable to interpret input"
  | notText => "Input should be a valid string"
  | notPath => "Input is not a valid path for <class 'pathlib.Path'>"
  | notAmong choices => s!"Input should be {alternatives choices}"
  | outOfBounds (.atLeast n) => s!"Input should be greater than or equal to {n}"
  | outOfBounds (.atMost n) => s!"Input should be less than or equal to {n}"
  | outOfBounds (.above n) => s!"Input should be greater than {n}"
  | unknownName => "Extra inputs are not permitted"

end ValueFault

/-- The machine's integers reach up to this number. -/
def maxMachineInteger : Int := 9223372036854775807

/-- The machine integer that a floating-point number equals. -/
def Binary64.asMachineInteger (x : Binary64) : Except ValueFault Int :=
  match x.toRat? with
  | none => .error .notFinite
  | some q =>
    if q.den ≠ 1 then .error .fractional
    else if -maxMachineInteger - 1 < q.num ∧ q.num ≤ maxMachineInteger then .ok q.num
    else .error .integerTooLarge

/-- An integer. -/
def Json.asInteger : Json → Except ValueFault Int
  | .int n => .ok n
  | .bool b => .ok (if b then 1 else 0)
  | .float x => x.asMachineInteger
  | .str s => (Text.readInteger s).mapError fun
    | .malformed => .integerText
    | .tooLong => .integerTooLarge
  | _ => .error .notInteger

/-- A number. -/
def Json.asReal : Json → Except ValueFault Binary64
  | .int n => match Binary64.ofInt? n with
    | some x => .ok x
    | none => .error .notNumber
  | .bool b => .ok (Binary64.ofRat (if b then 1 else 0))
  | .float x => .ok x
  | .str s => match Text.readReal? s with
    | some x => .ok x
    | none => .error .numberText
  | _ => .error .notNumber

/-- The words for yes and for no, in lower case. -/
def flagWords : List (String × Bool) := [
  ("1", true), ("t", true), ("y", true), ("on", true), ("yes", true), ("true", true),
  ("0", false), ("f", false), ("n", false), ("no", false), ("off", false), ("false", false)]

/-- A truth value. -/
def Json.asFlag : Json → Except ValueFault Bool
  | .bool b => .ok b
  | .str s => match flagWords.lookup (s.map Char.toLower) with
    | some b => .ok b
    | none => .error .flagText
  | .int n =>
    if n = 0 then .ok false
    else if n = 1 then .ok true
    else if -maxMachineInteger - 1 ≤ n ∧ n ≤ maxMachineInteger then .error .flagText
    else .error .notFlag
  | .float x => match x.asMachineInteger with
    | .ok n =>
      if n = 0 then .ok false
      else if n = 1 then .ok true
      else .error .flagText
    | .error _ => .error .notFlag
  | _ => .error .notFlag

/-- A text. -/
def Json.asText : Json → Except ValueFault String
  | .str s => .ok s
  | _ => .error .notText

/-- A path in its plain spelling. -/
def Json.asPath : Json → Except ValueFault String
  | .str s => .ok (FilePath.plainSpelling s)
  | _ => .error .notPath

/-- One of the words that are allowed. -/
def Json.asWord (choices : List String) : Json → Except ValueFault String
  | .str s => if choices.contains s then .ok s else .error (.notAmong choices)
  | _ => .error (.notAmong choices)

namespace Bound

/-- Whether an integer keeps to a bound. -/
def admits : Bound → Int → Bool
  | atLeast n, k => n ≤ k
  | atMost n, k => k ≤ n
  | above n, k => n < k

/-- Whether a number keeps to a bound; not-a-number keeps to none. -/
def admitsReal : Bound → Binary64 → Bool
  | atLeast n, x => (Binary64.ofRat n).le x
  | atMost n, x => x.le (.ofRat n)
  | above n, x => (Binary64.ofRat n).lt x

/-- The first of the bounds that is not kept. -/
def check {α : Type} (bounds : List Bound) (admitted : Bound → α → Bool) (value : α) :
    Except ValueFault α :=
  match bounds.find? fun bound => !admitted bound value with
  | some bound => .error (.outOfBounds bound)
  | none => .ok value

end Bound

end ImageWorkflow
