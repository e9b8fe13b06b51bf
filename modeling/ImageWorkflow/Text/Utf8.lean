/-!
# Text and bytes

* `Utf8.encode` : the bytes of a text in UTF-8;
* `Utf8.decode` : the text of bytes.  Bytes that are no character are replaced by U+FFFD, the
  longest start of a character by one of them.
-/

namespace ImageWorkflow.Text.Utf8

/-- The bytes of a text. -/
def encode (s : String) : List UInt8 := s.toUTF8.data.toList

/-- What stands for bytes that are no character. -/
def replacement : Char := '\ufffd'

/-- What a first byte asks for: how many bytes follow, between which bounds the next of them is, and
the bits that it has itself. -/
def lead? (b : Nat) : Option (Nat × Nat × Nat × Nat) :=
  if b < 0x80 then some (0, 0x80, 0xbf, b)
  else if 0xc2 ≤ b ∧ b ≤ 0xdf then some (1, 0x80, 0xbf, b - 0xc0)
  else if b = 0xe0 then some (2, 0xa0, 0xbf, 0)
  else if b = 0xed then some (2, 0x80, 0x9f, 0xd)
  else if 0xe1 ≤ b ∧ b ≤ 0xef then some (2, 0x80, 0xbf, b - 0xe0)
  else if b = 0xf0 then some (3, 0x90, 0xbf, 0)
  else if b = 0xf4 then some (3, 0x80, 0x8f, 4)
  else if 0xf1 ≤ b ∧ b ≤ 0xf3 then some (3, 0x80, 0xbf, b - 0xf0)
  else none

/-- Read `count` bytes that follow on the bits of `value`, the next of them between bounds: the
character, if they are there, and what is left. -/
def follow (low high value : Nat) : (count : Nat) → List UInt8 → Char × List UInt8
  | 0, bytes => (Char.ofNat value, bytes)
  | _ + 1, [] => (replacement, [])
  | count + 1, b :: bytes =>
    if low ≤ b.toNat ∧ b.toNat ≤ high then
      follow 0x80 0xbf (value * 64 + b.toNat % 64) count bytes
    else (replacement, b :: bytes)

/-- The text of bytes; `fuel` bounds the number of characters. -/
def decodeWithin : (fuel : Nat) → List UInt8 → List Char
  | 0, _ | _, [] => []
  | fuel + 1, b :: bytes =>
    match lead? b.toNat with
    | none => replacement :: decodeWithin fuel bytes
    | some (count, low, high, value) =>
      let (c, rest) := follow low high value count bytes
      c :: decodeWithin fuel rest

/-- The text of bytes. -/
def decode (bytes : List UInt8) : List Char := decodeWithin bytes.length bytes

end ImageWorkflow.Text.Utf8
