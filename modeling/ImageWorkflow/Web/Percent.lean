import ImageWorkflow.Text.Utf8

/-!
# Percent encoding

A byte may be written as `%` and two hexadecimal digits.
* `Percent.encode` : a text with every character outside a class written by its bytes;
* `Percent.decode` : a text with all such bytes read.
-/

namespace ImageWorkflow.Web.Percent

/-- A hexadecimal digit. -/
def hexDigit (value : Nat) : Char :=
  if value < 10 then Char.ofNat (value + 48) else Char.ofNat (value - 10 + 65)

/-- The value of a hexadecimal digit of either case. -/
def hexValue? (c : Char) : Option Nat :=
  if '0' ≤ c ∧ c ≤ '9' then some (c.toNat - 48)
  else if 'A' ≤ c ∧ c ≤ 'F' then some (c.toNat - 55)
  else if 'a' ≤ c ∧ c ≤ 'f' then some (c.toNat - 87)
  else none

/-- A byte as it is written. -/
def encodeByte (b : UInt8) : List Char := ['%', hexDigit (b.toNat / 16), hexDigit (b.toNat % 16)]

/-- A text with every character outside the class `isSafe` written by its bytes. -/
def encode (isSafe : Char → Bool) (s : String) : String :=
  String.ofList (s.toList.flatMap fun c =>
    if isSafe c then [c] else (Text.Utf8.encode c.toString).flatMap encodeByte)

/-- The bytes of a text, those that are written by digits among them. -/
def decodeBytes : List Char → List UInt8
  | [] => []
  | '%' :: high :: low :: rest =>
    match hexValue? high, hexValue? low with
    | some high, some low => UInt8.ofNat (high * 16 + low) :: decodeBytes rest
    | _, _ => 37 :: decodeBytes (high :: low :: rest)
  | c :: rest => Text.Utf8.encode c.toString ++ decodeBytes rest

/-- A text with all written bytes read. -/
def decode (s : String) : String := String.ofList (Text.Utf8.decode (decodeBytes s.toList))

end ImageWorkflow.Web.Percent
