import ImageWorkflow.Image.Png
import ImageWorkflow.Image.Scanline
import ImageWorkflow.Text.Quoted

/-!
# Images from PNG data

`Image.ofPng` : the image of data, or why it is none (`PngFault`).  Reading goes from piece to
piece:
* `Png.readHeader` : the pieces before the pixels, each with its check sum, and the header among
  them;
* `Png.Pixels` : the pixels, which may be spread over several pieces in a row;
* `Png.skipTrailer` : the pieces behind the pixels, of which only the lengths matter.

The pixels are taken as far as they are needed, so data may break off behind the last row.  A stream
that ends between two rows leaves the rest of the image black.
-/

namespace ImageWorkflow

/-- Why data are no image. -/
inductive PngFault where
  /-- The start is not that of an image. -/
  | notAnImage
  /-- A piece is longer than the data. -/
  | longPiece
  /-- The header is too short. -/
  | shortHeader
  /-- There is no piece with pixels. -/
  | noPixels
  /-- The data end within the pixels. -/
  | cutShort
  /-- The pieces with pixels end before the last row does. -/
  | missingRows
  /-- The pixels are no compressed data. -/
  | brokenPixels
  /-- A row has a filter that does not exist. -/
  | unknownFilter
  /-- What stands for the name of a piece among the pixels is none. -/
  | brokenName (name : Png.Bytes)
  /-- The image is larger than anybody should unpack. -/
  | tooManyPixels (count : Nat)
  deriving DecidableEq, Repr

namespace Png

/-- A byte of a name in words. -/
def byteWord (mark b : UInt8) : String :=
  if b = mark ∨ b = 92 then String.ofList ['\\', Char.ofNat b.toNat]
  else if b = 9 then "\\t"
  else if b = 10 then "\\n"
  else if b = 13 then "\\r"
  else if 32 ≤ b ∧ b < 127 then (Char.ofNat b.toNat).toString
  else "\\x" ++ Text.hexPadded 2 b.toNat

/-- Bytes in words, between quotes. -/
def bytesWord (bytes : Bytes) : String :=
  let mark : UInt8 := if bytes.contains 39 && !bytes.contains 34 then 34 else 39
  let quote := (Char.ofNat mark.toNat).toString
  "b" ++ quote ++ String.join (bytes.map (byteWord mark)) ++ quote

/-- The most pixels that are unpacked. -/
def maxPixels : Nat := 178956970

end Png

/-- The wording of a fault. -/
def PngFault.message : PngFault → String
  | .notAnImage => "cannot identify image file <_io.BytesIO object>"
  | .longPiece => "Truncated File Read"
  | .shortHeader => "Truncated IHDR chunk"
  | .noPixels => "cannot load this image"
  | .cutShort => "image file is truncated"
  | .missingRows => "image file is truncated (0 bytes not processed)"
  | .brokenPixels => "broken data stream when reading image file"
  | .unknownFilter => "unrecognized data stream contents when reading image file"
  | .brokenName name => s!"broken PNG file (chunk {Png.bytesWord name})"
  | .tooManyPixels count =>
    s!"Image size ({count} pixels) exceeds limit of {Png.maxPixels} pixels, could be " ++
      "decompression bomb DoS attack."

namespace Png

/-! ## Pieces -/

/-- What stands at the start of a piece. -/
inductive Opening where
  /-- Not even a length. -/
  | nothing
  /-- Something that is no name. -/
  | misnamed (name : Bytes)
  /-- Name and length of a piece, and what follows them. -/
  | piece (name : Bytes) (size : Nat) (rest : Bytes)

/-- Whether a byte may stand in a name: an ASCII letter or digit, or an underscore. -/
def isNameByte (b : UInt8) : Bool := (Char.ofNat b.toNat).isAlphanum && b < 128 || b == 95

/-- What stands at the start of the bytes. -/
def openPiece (bytes : Bytes) : Opening :=
  let name := (bytes.drop 4).take 4
  if (bytes.take 4).length < 4 then .nothing
  else if name.length < 4 ∨ !name.all isNameByte then .misnamed name
  else .piece name (number (bytes.take 4)) (bytes.drop 8)

/-! ## Header -/

/-- What the header says. -/
structure Header where
  width : Nat := 0
  height : Nat := 0
  /-- Channels and the bits of one, where the format has both together. -/
  samples : Option (ImageMode × Nat) := none
  isInterlaced : Bool := false

/-- Whether a channel of a mode can be read when it has so many bits; below eight only grey levels
can be. -/
def isReadable (channels : ImageMode) (depth : UInt8) : Bool :=
  match depth with
  | 8 => true
  | 16 => channels != .grey
  | 4 | 2 => channels == .grey
  | _ => false

/-- The channels of the mode with a number, and the bits of one. -/
def samplesOf? (depth mode : UInt8) : Option (ImageMode × Nat) := do
  let channels ← modeOf? mode
  if isReadable channels depth then some (channels, depth.toNat) else none

/-- The header that a piece's content is. -/
def headerOf (earlier : Header) (content : Bytes) : Except PngFault Header :=
  match content with
  | w0 :: w1 :: w2 :: w3 :: h0 :: h1 :: h2 :: h3 :: depth :: mode :: _ :: filter :: passes :: _ =>
    if filter ≠ 0 then .error .notAnImage
    else
      .ok { width := number [w0, w1, w2, w3], height := number [h0, h1, h2, h3]
            samples := (samplesOf? depth mode).or earlier.samples
            isInterlaced := passes != 0 || earlier.isInterlaced }
  | _ => .error .shortHeader

/-- The header, and the length of the first piece with pixels and what follows it; `fuel` bounds the
number of pieces. -/
def readHeader (header : Header) (bytes : Bytes) :
    (fuel : Nat) → Except PngFault (Header × Option (Nat × Bytes))
  | 0 => .error .notAnImage
  | fuel + 1 =>
    match openPiece bytes with
    | .nothing | .misnamed _ => .error .notAnImage
    | .piece name size rest =>
      if name = pixelsName then .ok (header, some (size, rest))
      else if name = endName then .ok (header, none)
      else do
        let content := rest.take size
        if content.length < size then .error .longPiece
        else
          let header ← if name = headerName then headerOf header content else .ok header
          let sum := (rest.drop size).take 4
          if sum = word (crc (name ++ content)) then
            readHeader header (rest.drop (size + 4)) fuel
          else .error .notAnImage

/-! ## Pixels -/

/-- The most bytes that are taken at a time. -/
def portionSize : Nat := 65536

/-- What is met instead of more pixels behind a piece that has `size` bytes at most: the piece may
be longer than the data. -/
def endOfData (size available : Nat) : PngFault :=
  if available % portionSize = 0 ∨ portionSize < size - available / portionSize * portionSize then
    .missingRows
  else .cutShort

/-- The pieces with pixels, each with what follows it, and what is met behind the last. -/
structure Pixels where
  pieces : List (Bytes × Bytes)
  behind : PngFault

/-- The pieces with pixels, the first of which has `size` bytes at the start of `bytes`; `fuel`
bounds their number. -/
def readPixels (size : Nat) (bytes : Bytes) : (fuel : Nat) → Pixels
  | 0 => ⟨[], .cutShort⟩
  | fuel + 1 =>
    let content := bytes.take size
    let rest := bytes.drop size
    let more : Pixels :=
      if content.length < size then ⟨[], endOfData size content.length⟩
      else
        match openPiece (rest.drop 4) with
        | .nothing => ⟨[], .cutShort⟩
        | .misnamed name => ⟨[], .brokenName name⟩
        | .piece name size rest =>
          if name = pixelsName then readPixels size rest fuel else ⟨[], .missingRows⟩
    { more with pieces := (content, rest) :: more.pieces }

/-- The pieces behind the pixels: each is as long as it says, as far as they can be told;
`fuel` bounds their number. -/
def skipTrailer (bytes : Bytes) : (fuel : Nat) → Except PngFault Unit
  | 0 => .ok ()
  | fuel + 1 =>
    match openPiece (bytes.drop 4) with
    | .nothing | .misnamed _ => .ok ()
    | .piece name size rest =>
      if name = endName then .ok ()
      else if (rest.take size).length < size then .error .longPiece
      else skipTrailer (rest.drop size) fuel

open Scanline

/-- The rows of a picture, by the passes they belong to. -/
abbrev Rows := List (Pass × Array (Array UInt8))

/-- How many bytes of rows come out of a piece, of which `before` came out of those before it: the
row at which the input ends is finished as far as there are data, and none is begun. -/
def seenBytes (l : Layout) (before : Nat) (stream : Deflate.Inflated) : Nat :=
  match stream.drained with
  | none => stream.data.size
  | some count => min stream.data.size (l.rowEnd (max count (before + 1)) l.passes)

/-- What the stream so far comes to, of which `before` bytes came out of earlier pieces and `seen`
are out now: the rows, or why there are none, if that is settled. -/
def settle (l : Layout) (before seen : Nat) (stream : Deflate.Inflated) :
    Option (Except PngFault Rows) :=
  let stop := if seen < stream.data.size then .starved else stream.stop
  let whole := if stop = .broken then seen - 1 else seen
  match l.readPasses (stream.data.extract 0 whole) 0 l.passes with
  | none => some (.error .unknownFilter)
  | some rows =>
    if stop = .broken ∨ stop = .outOfReach then some (.error .brokenPixels)
    else if seen = l.size then some (.ok rows)
    else if stop = .finished ∧ before < seen ∧ l.rowEnd seen l.passes = seen then some (.ok rows)
    else none

/-- The rows of a picture from the pieces with pixels: from as many as it takes, of which `taken`
are the data of those before, with `before` bytes of rows. -/
def collect (l : Layout) (behind : PngFault) (taken : Bytes) (before : Nat) :
    List (Bytes × Bytes) → Except PngFault Rows
  | [] => .error behind
  | (content, rest) :: more =>
    let taken := taken ++ content
    let stream := Deflate.inflate l.size taken
    let seen := seenBytes l before stream
    match settle l before seen stream with
    | none => collect l behind taken seen more
    | some rows =>
      match skipTrailer rest (rest.length + 1) with
      | .error fault => .error fault
      | .ok () => rows

end Png

namespace Image
open Png Scanline

/-- The image of data, or why it is none. -/
def ofPng (bytes : Bytes) : Except PngFault Image := do
  if bytes.take 8 = signature then
    let (header, first) ← readHeader {} (bytes.drop 8) bytes.length
    match header.samples with
    | none => .error .notAnImage
    | some (channels, depth) =>
      let count := header.width * header.height
      if count = 0 then .error .notAnImage
      else if maxPixels < count then .error (.tooManyPixels count)
      else
        match first with
        | none => .error .noPixels
        | some (size, rest) =>
          let passes := if header.isInterlaced then interlacedPasses else plainPasses
          let l : Layout :=
            { width := header.width, height := header.height, channels, depth, passes }
          let pixels := readPixels size rest (rest.length + 1)
          return l.image (← collect l pixels.behind [] 0 pixels.pieces)
  else .error .notAnImage

end Image

end ImageWorkflow
