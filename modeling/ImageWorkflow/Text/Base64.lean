/-!
# Base64

Bytes as text: three bytes are four digits, and a last group of one or two bytes is filled up with
`=`.
* `Base64.encode` : the text of bytes;
* `Base64.decode` : the bytes of a text, or the first thing that is wrong with it.  A text whose
  groups are complete may go on with any number of `=`.
-/

namespace ImageWorkflow.Base64

/-- What is wrong with a text. -/
inductive Fault where
  /-- A character outside ASCII. -/
  | notAscii
  /-- A text that starts with `=`. -/
  | leadingPadding
  /-- A character that is neither a digit nor `=`. -/
  | notADigit
  /-- A digit behind a `=` that did not complete the last group. -/
  | discontinuousPadding
  /-- Anything behind the `=` that completed the last group. -/
  | excessData
  /-- A last group with one digit, of `count` digits in all. -/
  | loneDigit (count : Nat)
  /-- A last group that is not complete. -/
  | incorrectPadding
  deriving DecidableEq, Repr

/-- The wording of a fault. -/
def Fault.message : Fault → String
  | .notAscii => "string argument should contain only ASCII characters"
  | .leadingPadding => "Leading padding not allowed"
  | .notADigit => "Only base64 data is allowed"
  | .discontinuousPadding => "Discontinuous padding not allowed"
  | .excessData => "Excess data after padding"
  | .loneDigit count =>
    s!"Invalid base64-encoded string: number of data characters ({count}) cannot be 1 more than " ++
      "a multiple of 4"
  | .incorrectPadding => "Incorrect padding"

/-- The character that fills up a group. -/
def filler : Char := '='

/-- The digit of a value below 64. -/
def digit (value : Nat) : Char :=
  if value < 26 then Char.ofNat (value + 65)
  else if value < 52 then Char.ofNat (value - 26 + 97)
  else if value < 62 then Char.ofNat (value - 52 + 48)
  else if value = 62 then '+'
  else '/'

/-- The value of a digit. -/
def value? (c : Char) : Option Nat :=
  if 'A' ≤ c ∧ c ≤ 'Z' then some (c.toNat - 65)
  else if 'a' ≤ c ∧ c ≤ 'z' then some (c.toNat - 97 + 26)
  else if '0' ≤ c ∧ c ≤ '9' then some (c.toNat - 48 + 52)
  else if c = '+' then some 62
  else if c = '/' then some 63
  else none

/-- Whether a character is a digit. -/
def isDigit (c : Char) : Bool := (value? c).isSome

/-- The text of bytes. -/
def encode : List UInt8 → List Char
  | [] => []
  | [a] => [digit (a.toNat / 4), digit (a.toNat % 4 * 16), filler, filler]
  | [a, b] =>
    [digit (a.toNat / 4), digit (a.toNat % 4 * 16 + b.toNat / 16), digit (b.toNat % 16 * 4), filler]
  | a :: b :: c :: rest =>
    digit (a.toNat / 4) :: digit (a.toNat % 4 * 16 + b.toNat / 16) ::
      digit (b.toNat % 16 * 4 + c.toNat / 64) :: digit (c.toNat % 64) :: encode rest

/-- The bytes that values of digits spell; the bits left over are dropped. -/
def bytesOf : List Nat → List UInt8
  | a :: b :: c :: d :: rest =>
    UInt8.ofNat (a * 4 + b / 16) :: UInt8.ofNat (b % 16 * 16 + c / 4) ::
      UInt8.ofNat (c % 4 * 64 + d) :: bytesOf rest
  | [a, b, c] => [UInt8.ofNat (a * 4 + b / 16), UInt8.ofNat (b % 16 * 16 + c / 4)]
  | [a, b] => [UInt8.ofNat (a * 4 + b / 16)]
  | _ => []

/-- What is wrong behind `count` digits, of which the last group is not completed by `=`: the
characters `rest` follow the `=`, of which there are some if `isPadded`. -/
def restFault? (count : Nat) ( isPadded : Bool) (rest : List Char) : Option Fault :=
  match rest with
  | c :: _ => some (if isPadded && isDigit c then .discontinuousPadding else .notADigit)
  | [] =>
    match count % 4 with
    | 0 => none
    | 1 => some (.loneDigit count)
    | _ => some .incorrectPadding

/-- The first thing that is wrong with an ASCII text. -/
def fault? (text : List Char) : Option Fault :=
  let count := (text.takeWhile isDigit).length
  let tail := text.dropWhile isDigit
  let fillers := (tail.takeWhile (· = filler)).length
  let rest := tail.dropWhile (· = filler)
  if text.head? = some filler then some .leadingPadding
  else if 2 ≤ count % 4 ∧ 4 ≤ count % 4 + fillers then
    if count % 4 + fillers = 4 ∧ rest = [] then none else some .excessData
  else restFault? count (fillers ≠ 0) rest

/-- The bytes of a text, or the first thing that is wrong with it. -/
def decode (text : List Char) : Except Fault (List UInt8) :=
  if text.any fun c => 127 < c.toNat then .error .notAscii
  else
    match fault? text with
    | some fault => .error fault
    | none => .ok (bytesOf ((text.takeWhile isDigit).filterMap value?))

end ImageWorkflow.Base64
