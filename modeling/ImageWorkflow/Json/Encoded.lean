import ImageWorkflow.Json.Parser
import ImageWorkflow.Text.Utf8

/-!
# JSON in bytes

JSON that arrives as bytes may be in an encoding with units of one, two or four bytes.  JSON starts
with an ASCII character, and the next is one as a rule, so zeros among the first bytes tell which.
* `Encoding.detect?` : the encoding with wide units that bytes are in;
* `Json.parseEncoded` : the value of bytes, which are given as the text that they are in UTF-8.
-/

namespace ImageWorkflow

/-- An encoding with wide units. -/
structure Encoding where
  /-- Whether a unit has four bytes, and not two. -/
  isLong : Bool
  /-- Whether the highest byte of a unit comes first. -/
  startsHigh : Bool
  deriving DecidableEq, Repr

namespace Encoding

/-- The encoding with wide units that bytes are in, if there is one. -/
def detect? : List UInt8 → Option Encoding
  | b0 :: b1 :: b2 :: b3 :: _ =>
    if b0 = 0 then some ⟨b1 = 0, true⟩
    else if b1 = 0 then some ⟨b2 = 0 ∧ b3 = 0, false⟩
    else none
  | [b0, b1] => if b0 = 0 then some ⟨false, true⟩ else if b1 = 0 then some ⟨false, false⟩ else none
  | _ => none

/-- The number that the bytes of a unit write. -/
def unit (e : Encoding) (bytes : List UInt8) : Nat :=
  (if e.startsHigh then bytes else bytes.reverse).foldl (fun n b => n * 256 + b.toNat) 0

/-- The units of bytes, unless some bytes are left over. -/
def units? (e : Encoding) : List UInt8 → Option (List Nat)
  | [] => some []
  | a :: b :: rest =>
    if e.isLong then
      match rest with
      | c :: d :: rest => (units? e rest).map (e.unit [a, b, c, d] :: ·)
      | _ => none
    else (units? e rest).map (e.unit [a, b] :: ·)
  | [_] => none

/-- The characters of units; half of a pair stands for none. -/
def charsOf : List Nat → List Char
  | [] => []
  | high :: low :: rest =>
    if 0xd800 ≤ high ∧ high < 0xdc00 ∧ 0xdc00 ≤ low ∧ low < 0xe000 then
      Char.ofNat (0x10000 + (high - 0xd800) * 0x400 + (low - 0xdc00)) :: charsOf rest
    else
      (if 0xd800 ≤ high ∧ high < 0xe000 then Text.Utf8.replacement else Char.ofNat high) ::
        charsOf (low :: rest)
  | [last] => [if 0xd800 ≤ last ∧ last < 0xe000 then Text.Utf8.replacement else Char.ofNat last]

/-- The text of bytes, if it is one. -/
def decode? (e : Encoding) (bytes : List UInt8) : Option (List Char) := do
  let units ← e.units? bytes
  guard (units.all (· < 0x110000))
  return charsOf units

end Encoding

/-- The characters that the bytes of a text are meant as, if they are a text; a byte order mark at
the front is dropped. -/
def encodedChars? (text : String) : Option (List Char) :=
  match text.toList with
  | '\ufeff' :: rest => some rest
  | cs =>
    let start := if cs.length ≤ 4 then text else String.ofList (cs.take 4)
    match Encoding.detect? (Text.Utf8.encode start) with
    | some e => e.decode? (Text.Utf8.encode text)
    | none => some cs

/-- The JSON value that the bytes of a text write; nothing when they are no text. -/
def Json.parseEncoded (text : String) : Option (Except JsonError Json) :=
  (encodedChars? text).map Json.parseUnmarked

end ImageWorkflow
