/-!
# Images

`Image` : a picture of eight-bit channels in one of five modes, as a function from places to
colours; outside its bounds every pixel is zero, so two images with the same bounds are equal when
they agree inside.
* `Image.ofFn`, `Image.solid` : images from a function, or of one colour;
* `Image.toRgba`, `Image.toGrey` : conversion pixel by pixel;
* `Image.crop`, `Image.paste`, `Image.resize` : geometry;
* `Image.visibleBox?` : the smallest box with every pixel that is not fully transparent;
* `Image.description` : mode, size and some pixels in words.
-/

namespace ImageWorkflow

/-- The channels of an image. -/
inductive ImageMode where
  | grey
  | greyAlpha
  | rgb
  | rgba
  | cmyk
  deriving DecidableEq, Repr

namespace ImageMode

/-- The name of a mode. -/
def name : ImageMode → String
  | .grey => "L"
  | .greyAlpha => "LA"
  | .rgb => "RGB"
  | .rgba => "RGBA"
  | .cmyk => "CMYK"

/-- Every mode. -/
def all : List ImageMode := [.grey, .greyAlpha, .rgb, .rgba, .cmyk]

/-- The mode with a name. -/
def ofName? (name : String) : Option ImageMode := all.find? (·.name == name)

/-- The number of channels. -/
def channelCount : ImageMode → Nat
  | .grey => 1
  | .greyAlpha => 2
  | .rgb => 3
  | .rgba | .cmyk => 4

end ImageMode

/-- The channels of a pixel; those that a mode lacks are zero. -/
structure Color where
  c0 : UInt8 := 0
  c1 : UInt8 := 0
  c2 : UInt8 := 0
  c3 : UInt8 := 0
  deriving DecidableEq, Repr, Inhabited

namespace Color

/-- The channels in order. -/
def toList (c : Color) : List UInt8 := [c.c0, c.c1, c.c2, c.c3]

/-- The colour with the given channels in order, zero where there is none. -/
def ofList (channels : List UInt8) : Color where
  c0 := channels.getD 0 0
  c1 := channels.getD 1 0
  c2 := channels.getD 2 0
  c3 := channels.getD 3 0

/-- `a · b / 255`, to the nearest integer. -/
def mulDiv255 (a b : Nat) : Nat :=
  let t := a * b + 128
  (t / 256 + t) / 256

/-- The red, green and blue of printing inks. -/
def ofInks (c : Color) : Color :=
  let light := 255 - c.c3.toNat
  let channel (ink : UInt8) := UInt8.ofNat (light - mulDiv255 ink.toNat light)
  { c0 := channel c.c0, c1 := channel c.c1, c2 := channel c.c2 }

/-- The colour as red, green, blue and opacity. -/
def toRgba (mode : ImageMode) (c : Color) : Color :=
  match mode with
  | .grey => { c0 := c.c0, c1 := c.c0, c2 := c.c0, c3 := 255 }
  | .greyAlpha => { c0 := c.c0, c1 := c.c0, c2 := c.c0, c3 := c.c1 }
  | .rgb => { c with c3 := 255 }
  | .rgba => c
  | .cmyk => { c.ofInks with c3 := 255 }

/-- The brightness of a colour. -/
def luma (c : Color) : UInt8 :=
  UInt8.ofNat ((c.c0.toNat * 19595 + c.c1.toNat * 38470 + c.c2.toNat * 7471 + 0x8000) / 0x10000)

/-- The colour as a grey level. -/
def toGrey (mode : ImageMode) (c : Color) : Color :=
  match mode with
  | .grey | .greyAlpha => { c0 := c.c0 }
  | .rgb | .rgba => { c0 := c.luma }
  | .cmyk => { c0 := c.ofInks.luma }

/-- One channel through a change to premultiplied opacity and back. -/
def throughOpacity (channel alpha : UInt8) : UInt8 :=
  if alpha = 255 then channel
  else if alpha = 0 then 0
  else UInt8.ofNat (min 255 (255 * mulDiv255 channel.toNat alpha.toNat / alpha.toNat))

/-- What resampling leaves of a colour whose neighbours all agree with it: modes with opacity are
resampled with the other channels multiplied by it. -/
def resampled (mode : ImageMode) (c : Color) : Color :=
  match mode with
  | .rgba =>
    { c0 := throughOpacity c.c0 c.c3, c1 := throughOpacity c.c1 c.c3,
      c2 := throughOpacity c.c2 c.c3, c3 := c.c3 }
  | .greyAlpha => { c0 := throughOpacity c.c0 c.c1, c1 := c.c1 }
  | _ => c

end Color

/-- A box of pixels; the right and the lower bound are outside. -/
structure Box where
  left : Nat
  upper : Nat
  right : Nat
  lower : Nat
  deriving DecidableEq, Repr

/-- A picture. -/
structure Image where
  mode : ImageMode
  width : Nat
  height : Nat
  pixel : Nat → Nat → Color
  pixel_outside : ∀ x y, ¬(x < width ∧ y < height) → pixel x y = {}

namespace Image

/-- The image with the given pixels. -/
def ofFn (mode : ImageMode) (width height : Nat) (f : Nat → Nat → Color) : Image where
  mode := mode
  width := width
  height := height
  pixel := fun x y => if x < width ∧ y < height then f x y else {}
  pixel_outside := fun _ _ outside => if_neg outside

instance : Inhabited Image := ⟨ofFn .grey 0 0 fun _ _ => {}⟩

/-- Images with the same bounds that agree inside are equal. -/
theorem ext_inside {a b : Image} (mode : a.mode = b.mode) (width : a.width = b.width)
    (height : a.height = b.height)
    (pixel : ∀ x y, x < a.width → y < a.height → a.pixel x y = b.pixel x y) : a = b := by
  cases a with
  | mk m w h p out =>
    cases b with
    | mk m' w' h' p' out' =>
      cases mode
      cases width
      cases height
      have : p = p' := by
        funext x y
        by_cases inside : x < w ∧ y < h
        · exact pixel x y inside.1 inside.2
        · rw [out x y inside, out' x y inside]
      cases this
      rfl

/-- The image of one colour. -/
def solid (mode : ImageMode) (width height : Nat) (color : Color) : Image :=
  ofFn mode width height fun _ _ => color

/-- Width and height. -/
def size (i : Image) : Nat × Nat := (i.width, i.height)

/-- The image as red, green, blue and opacity. -/
def toRgba (i : Image) : Image :=
  ofFn .rgba i.width i.height fun x y => (i.pixel x y).toRgba i.mode

/-- The image as grey levels. -/
def toGrey (i : Image) : Image :=
  ofFn .grey i.width i.height fun x y => (i.pixel x y).toGrey i.mode

/-- The opacity of a pixel. -/
def opacity (i : Image) (x y : Nat) : UInt8 := ((i.pixel x y).toRgba i.mode).c3

/-- The image's opacity as grey levels. -/
def alphaChannel (i : Image) : Image :=
  ofFn .grey i.width i.height fun x y => { c0 := i.opacity x y }

/-- The part of the image in a box. -/
def crop (i : Image) (box : Box) : Image :=
  ofFn i.mode (box.right - box.left) (box.lower - box.upper) fun x y =>
    i.pixel (x + box.left) (y + box.upper)

/-- The image with `top` over it, the corner of `top` at `(x, y)`; the rest of `top` is cut off. -/
def paste (i top : Image) (x y : Int) : Image :=
  ofFn i.mode i.width i.height fun px py =>
    let tx := (px : Int) - x
    let ty := (py : Int) - y
    if 0 ≤ tx ∧ tx < top.width ∧ 0 ≤ ty ∧ ty < top.height then top.pixel tx.toNat ty.toNat
    else i.pixel px py

/-- The image at another size: itself at its own size, else each pixel from the proportional
place. -/
def resize (i : Image) (width height : Nat) : Image :=
  if i.width = width ∧ i.height = height then i
  else
    ofFn i.mode width height fun x y =>
      (i.pixel (x * i.width / width) (y * i.height / height)).resampled i.mode

theorem size_resize (i : Image) (width height : Nat) :
    (i.resize width height).size = (width, height) := by
  unfold resize
  split
  · rename_i h
    exact Prod.ext h.1 h.2
  · rfl

/-- Whether a column has a pixel that is not fully transparent. -/
def columnVisible (i : Image) (x : Nat) : Bool :=
  (List.range i.height).any fun y => i.opacity x y != 0

/-- Whether a row has a pixel that is not fully transparent. -/
def rowVisible (i : Image) (y : Nat) : Bool :=
  (List.range i.width).any fun x => i.opacity x y != 0

/-- The smallest box with every pixel that is not fully transparent. -/
def visibleBox? (i : Image) : Option Box := do
  let left ← (List.range i.width).find? i.columnVisible
  let right ← (List.range i.width).reverse.find? i.columnVisible
  let upper ← (List.range i.height).find? i.rowVisible
  let lower ← (List.range i.height).reverse.find? i.rowVisible
  return { left, upper, right := right + 1, lower := lower + 1 }

/-- The channels of a pixel in words; a place outside has none. -/
def pixelWords (i : Image) (place : Nat × Nat) : String :=
  if place.1 < i.width ∧ place.2 < i.height then
    let channels := (i.pixel place.1 place.2).toList.take i.mode.channelCount
    " [" ++ ",".intercalate (channels.map fun c => toString c.toNat) ++ "]"
  else " -"

/-- Mode, size and the pixels at some places in words. -/
def description (i : Image) (places : List (Nat × Nat)) : String :=
  s!"{i.mode.name} {i.width}x{i.height}" ++ String.join (places.map i.pixelWords)

end Image

end ImageWorkflow
