import ImageWorkflow.Image.Basic
import ImageWorkflow.Image.Deflate

/-!
# Images as PNG data

The format is a row of named pieces, each with a check sum.  Images are written in the plain form:
eight-bit channels, rows without a filter, data that is stored and not compressed.
* `Png.chunk` : the bytes of a piece, with the check sum `Png.crc`;
* `Png.stored` : the stream with the bytes of the rows;
* `Image.toPng` : the data of an image, or why it has none.
-/

namespace ImageWorkflow.Png

/-- The bytes of data. -/
abbrev Bytes := List UInt8

/-- A number as four bytes, the highest first. -/
def word (n : Nat) : Bytes :=
  [UInt8.ofNat (n / 0x1000000), UInt8.ofNat (n / 0x10000), UInt8.ofNat (n / 0x100), UInt8.ofNat n]

/-- The number whose bytes these are, the highest first. -/
def number (bytes : Bytes) : Nat := bytes.foldl (fun n b => n * 256 + b.toNat) 0

/-- The bytes of an ASCII text. -/
def ascii (s : String) : Bytes := s.toList.map fun c => UInt8.ofNat c.toNat

/-- What the data starts with. -/
def signature : Bytes := [137, 80, 78, 71, 13, 10, 26, 10]

/-- One bit of the cyclic check sum. -/
def crcBit (sum : UInt32) : UInt32 :=
  if sum % 2 = 0 then sum / 2 else (sum / 2) ^^^ 0xEDB88320

/-- One byte of the cyclic check sum. -/
def crcByte (sum : UInt32) (b : UInt8) : UInt32 :=
  crcBit (crcBit (crcBit (crcBit (crcBit (crcBit (crcBit (crcBit (sum ^^^ b.toUInt32))))))))

/-- The cyclic check sum of bytes. -/
def crc (bytes : Bytes) : Nat := (bytes.foldl crcByte 0xFFFFFFFF ^^^ 0xFFFFFFFF).toNat

/-- A named piece of the data. -/
structure Chunk where
  name : Bytes
  content : Bytes
  deriving DecidableEq, Repr

/-- The bytes of a piece. -/
def chunk (c : Chunk) : Bytes :=
  word c.content.length ++ c.name ++ c.content ++ word (crc (c.name ++ c.content))

/-- The name of the first piece, which holds size and mode. -/
def headerName : Bytes := ascii "IHDR"

/-- The name of the pieces with the pixels. -/
def pixelsName : Bytes := ascii "IDAT"

/-- The name of the last piece. -/
def endName : Bytes := ascii "IEND"

/-- The most bytes of one stored block. -/
def blockSize : Nat := 65535

/-- A number as two bytes, the lowest first. -/
def half (n : Nat) : Bytes := [UInt8.ofNat n, UInt8.ofNat (n / 256)]

/-- The head of a stored block with `size` bytes. -/
def blockHead ( isLast : Bool) (size : Nat) : Bytes :=
  (if isLast then 1 else 0) :: (half size ++ half (65535 - size))

/-- Bytes as stored blocks, of which there are at most `more` before the last. -/
def blocks (bytes : Bytes) : (more : Nat) → Bytes
  | 0 => blockHead true bytes.length ++ bytes
  | more + 1 =>
    if bytes.length ≤ blockSize then blockHead true bytes.length ++ bytes
    else blockHead false blockSize ++ bytes.take blockSize ++ blocks (bytes.drop blockSize) more

/-- The head of a stream. -/
def streamHead : Bytes := [0x78, 0x01]

/-- Bytes as a stored stream. -/
def stored (bytes : Bytes) : Bytes :=
  streamHead ++ blocks bytes (bytes.length / blockSize) ++ word (Deflate.adler bytes)

/-- The number of a mode. -/
def modeNumber? : ImageMode → Option UInt8
  | .grey => some 0
  | .rgb => some 2
  | .greyAlpha => some 4
  | .rgba => some 6
  | .cmyk => none

/-- The mode with a number. -/
def modeOf? (n : UInt8) : Option ImageMode := ImageMode.all.find? fun m => modeNumber? m = some n

/-- The bytes of the rows of an image, each behind the number of its filter, which is none. -/
def rows (i : Image) : Bytes :=
  (List.range i.height).flatMap fun y =>
    0 :: (List.range i.width).flatMap fun x => (i.pixel x y).toList.take i.mode.channelCount

/-- The content of the first piece. -/
def header (i : Image) (mode : UInt8) : Bytes := word i.width ++ word i.height ++ [8, mode, 0, 0, 0]

end Png

/-- Why an image cannot be written. -/
inductive FormatFault where
  /-- The format does not have the mode. -/
  | mode (mode : ImageMode)
  /-- There is no pixel. -/
  | empty
  deriving DecidableEq, Repr

/-- The wording of a fault. -/
def FormatFault.message : FormatFault → String
  | .mode m => s!"cannot write mode {m.name} as PNG"
  | .empty => "cannot write empty image"

namespace Image
open Png

/-- What keeps an image from being written. -/
def formatFault? (i : Image) : Option FormatFault :=
  if (modeNumber? i.mode).isNone then some (.mode i.mode)
  else if i.width = 0 ∨ i.height = 0 then some .empty
  else none

/-- The data of an image, or why it has none. -/
def toPng (i : Image) : Except FormatFault Bytes :=
  match i.formatFault? with
  | some fault => .error fault
  | none =>
    .ok (signature ++ chunk ⟨headerName, header i ((modeNumber? i.mode).getD 0)⟩ ++
      chunk ⟨pixelsName, stored (rows i)⟩ ++ chunk ⟨endName, []⟩)

end Image

end ImageWorkflow
