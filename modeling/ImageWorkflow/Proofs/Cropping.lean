import Mathlib
import ImageWorkflow.Proofs.Undone

/-!
# What a crop keeps

A crop cuts canvas and mask to the smallest box around what can be seen of the canvas, and there is
nothing left to cut off after that.
* `Image.Visible i x y` : the pixel is there and not fully transparent; `Image.Frames i b` : the box
  has all of these inside and one at each side, so no box with all of them is smaller
  (`Image.Frames.least`) and no other box does the same (`Image.Frames.unique`);
* `Image.visibleBox?_eq_some_iff`, `Image.visibleBox?_eq_none_iff` : the box that is found;
* `Image.CutFrom part whole b` : the pixels of a part are those of the whole in a box;
* `Image.Frames.crop` : what is cut out is framed by its own bounds;
* `Engine.visit_crop` : canvas and mask after a crop, and after another.
-/

namespace ImageWorkflow

/-! ## The last index with a property -/

theorem find?_reverse_range_eq_some {n k : Nat} {p : Nat → Bool} :
    (List.range n).reverse.find? p = some k ↔
      p k = true ∧ k < n ∧ ∀ j, k < j → j < n → p j = false := by
  induction n with
  | zero => simp
  | succ n ih =>
    rw [List.range_succ, List.reverse_append, List.reverse_singleton, List.singleton_append]
    cases hn : p n with
    | true =>
      rw [List.find?_cons_of_pos hn, Option.some.injEq]
      constructor
      · rintro rfl
        exact ⟨hn, Nat.lt_succ_self _, fun j hj hj' => by omega⟩
      · rintro ⟨-, hk, hlast⟩
        by_contra hne
        have := hlast n (by omega) (Nat.lt_succ_self n)
        simp [hn] at this
    | false =>
      rw [List.find?_cons_of_neg (by simp [hn]), ih]
      constructor
      · rintro ⟨hk, hlt, hlast⟩
        refine ⟨hk, Nat.lt_succ_of_lt hlt, fun j hj hj' => ?_⟩
        obtain hj' | rfl := Nat.lt_succ_iff_lt_or_eq.mp hj'
        · exact hlast j hj hj'
        · exact hn
      · rintro ⟨hk, hlt, hlast⟩
        have hne : k ≠ n := fun heq => by simp [heq, hn] at hk
        exact ⟨hk, by omega, fun j hj hj' => hlast j hj (Nat.lt_succ_of_lt hj')⟩

/-! ## Boxes -/

/-- The place lies in the box. -/
def Box.Contains (b : Box) (x y : Nat) : Prop :=
  b.left ≤ x ∧ x < b.right ∧ b.upper ≤ y ∧ y < b.lower

instance (b : Box) (x y : Nat) : Decidable (b.Contains x y) :=
  inferInstanceAs (Decidable (b.left ≤ x ∧ x < b.right ∧ b.upper ≤ y ∧ y < b.lower))

/-- The first box lies in the second. -/
structure Box.Within (b c : Box) : Prop where
  left : c.left ≤ b.left
  right : b.right ≤ c.right
  upper : c.upper ≤ b.upper
  lower : b.lower ≤ c.lower

namespace Image
variable {i part whole : Image} {b c : Box} {x y : Nat}

/-- The pixel is there, and not fully transparent. -/
def Visible (i : Image) (x y : Nat) : Prop := x < i.width ∧ y < i.height ∧ i.opacity x y ≠ 0

instance (i : Image) (x y : Nat) : Decidable (i.Visible x y) :=
  inferInstanceAs (Decidable (x < i.width ∧ y < i.height ∧ i.opacity x y ≠ 0))

/-- Every visible pixel lies in the box, and there is one in each border row and column of it. -/
structure Frames (i : Image) (b : Box) : Prop where
  contains : ∀ x y, i.Visible x y → b.Contains x y
  left : ∃ y, i.Visible b.left y
  right : ∃ x, x + 1 = b.right ∧ ∃ y, i.Visible x y
  upper : ∃ x, i.Visible x b.upper
  lower : ∃ y, y + 1 = b.lower ∧ ∃ x, i.Visible x y

/-- The whole image as a box. -/
def bounds (i : Image) : Box where
  left := 0
  upper := 0
  right := i.width
  lower := i.height

/-- A box around all visible pixels is no smaller. -/
theorem Frames.least (h : i.Frames b) (hc : ∀ x y, i.Visible x y → c.Contains x y) :
    b.Within c := by
  obtain ⟨y, hleft⟩ := h.left
  obtain ⟨x, hx, y', hright⟩ := h.right
  obtain ⟨x', hupper⟩ := h.upper
  obtain ⟨y'', hy, x'', hlower⟩ := h.lower
  have hleft := hc _ _ hleft
  have hright := hc _ _ hright
  have hupper := hc _ _ hupper
  have hlower := hc _ _ hlower
  unfold Box.Contains at hleft hright hupper hlower
  constructor <;> omega

theorem Frames.unique (hb : i.Frames b) (hc : i.Frames c) : b = c := by
  obtain ⟨hleft, hright, hupper, hlower⟩ := hb.least hc.contains
  obtain ⟨hleft', hright', hupper', hlower'⟩ := hc.least hb.contains
  cases b
  cases c
  dsimp only at *
  congr <;> omega

theorem Frames.within_bounds (h : i.Frames b) : b.Within i.bounds := by
  refine h.least fun x y hvisible => ?_
  exact ⟨Nat.zero_le _, hvisible.1, Nat.zero_le _, hvisible.2.1⟩

/-! ## The box that is found -/

theorem columnVisible_iff (hx : x < i.width) : i.columnVisible x = true ↔ ∃ y, i.Visible x y := by
  simp [columnVisible, Visible, hx]

theorem rowVisible_iff (hy : y < i.height) : i.rowVisible y = true ↔ ∃ x, i.Visible x y := by
  simp [rowVisible, Visible, hy]

theorem frames_of_visibleBox? (h : i.visibleBox? = some b) : i.Frames b := by
  simp only [visibleBox?, Option.bind_eq_bind, Option.bind_eq_some_iff, Option.pure_def,
    Option.some.injEq, List.find?_range_eq_some, find?_reverse_range_eq_some, List.mem_range] at h
  obtain ⟨left, ⟨hleft, hleft', hbefore⟩, right, ⟨hright, hright', hafter⟩, upper,
    ⟨hupper, hupper', habove⟩, lower, ⟨hlower, hlower', hbelow⟩, rfl⟩ := h
  refine ⟨fun x y hvisible => ?_, (columnVisible_iff hleft').mp hleft,
    ⟨right, rfl, (columnVisible_iff hright').mp hright⟩, (rowVisible_iff hupper').mp hupper,
    ⟨lower, rfl, (rowVisible_iff hlower').mp hlower⟩⟩
  have hcolumn := (columnVisible_iff hvisible.1).mpr ⟨y, hvisible⟩
  have hrow := (rowVisible_iff hvisible.2.1).mpr ⟨x, hvisible⟩
  refine ⟨Nat.not_lt.mp fun hlt => ?_, Nat.lt_succ_of_le (Nat.not_lt.mp fun hlt => ?_),
    Nat.not_lt.mp fun hlt => ?_, Nat.lt_succ_of_le (Nat.not_lt.mp fun hlt => ?_)⟩
  · simpa [hcolumn] using hbefore x hlt
  · simpa [hcolumn] using hafter x hlt hvisible.1
  · simpa [hrow] using habove y hlt
  · simpa [hrow] using hbelow y hlt hvisible.2.1

theorem exists_visibleBox? (h : i.Visible x y) : ∃ b, i.visibleBox? = some b := by
  have hcolumn := (columnVisible_iff h.1).mpr ⟨y, h⟩
  have hrow := (rowVisible_iff h.2.1).mpr ⟨x, h⟩
  have hx := List.mem_range.mpr h.1
  have hy := List.mem_range.mpr h.2.1
  obtain ⟨left, hleft⟩ := Option.isSome_iff_exists.mp (List.find?_isSome.mpr ⟨x, hx, hcolumn⟩)
  obtain ⟨right, hright⟩ := Option.isSome_iff_exists.mp
    (List.find?_isSome.mpr ⟨x, List.mem_reverse.mpr hx, hcolumn⟩)
  obtain ⟨upper, hupper⟩ := Option.isSome_iff_exists.mp (List.find?_isSome.mpr ⟨y, hy, hrow⟩)
  obtain ⟨lower, hlower⟩ := Option.isSome_iff_exists.mp
    (List.find?_isSome.mpr ⟨y, List.mem_reverse.mpr hy, hrow⟩)
  simp [visibleBox?, hleft, hright, hupper, hlower]

theorem visibleBox?_eq_some_iff : i.visibleBox? = some b ↔ i.Frames b := by
  refine ⟨frames_of_visibleBox?, fun h => ?_⟩
  obtain ⟨y, hvisible⟩ := h.left
  obtain ⟨c, hc⟩ := exists_visibleBox? hvisible
  rw [hc, (frames_of_visibleBox? hc).unique h]

theorem visibleBox?_eq_none_iff : i.visibleBox? = none ↔ ∀ x y, ¬ i.Visible x y := by
  constructor
  · intro h x y hvisible
    obtain ⟨b, hb⟩ := exists_visibleBox? hvisible
    simp [h] at hb
  · intro h
    by_contra hsome
    obtain ⟨b, hb⟩ := Option.ne_none_iff_exists'.mp hsome
    obtain ⟨y, hvisible⟩ := (frames_of_visibleBox? hb).left
    exact h _ _ hvisible

/-! ## Parts of an image -/

/-- The part has the size of the box, and the pixels that the whole has there. -/
structure CutFrom (part whole : Image) (b : Box) : Prop where
  mode : part.mode = whole.mode
  size : part.size = (b.right - b.left, b.lower - b.upper)
  pixel : ∀ x y, x < part.width → y < part.height →
    part.pixel x y = whole.pixel (x + b.left) (y + b.upper)

theorem cutFrom_crop (i : Image) (b : Box) : (i.crop b).CutFrom i b where
  mode := rfl
  size := rfl
  pixel _ _ hx hy := if_pos ⟨hx, hy⟩

theorem visible_crop_iff (h : b.Within i.bounds) :
    (i.crop b).Visible x y ↔
      x < b.right - b.left ∧ y < b.lower - b.upper ∧ i.Visible (x + b.left) (y + b.upper) := by
  refine and_congr_right fun hx => and_congr_right fun hy => ?_
  have hright : b.right ≤ i.width := h.right
  have hlower : b.lower ≤ i.height := h.lower
  have hopacity : (i.crop b).opacity x y = i.opacity (x + b.left) (y + b.upper) := by
    have hpixel := (cutFrom_crop i b).pixel x y hx hy
    unfold opacity
    rw [hpixel]
    rfl
  change x < b.right - b.left at hx
  change y < b.lower - b.upper at hy
  rw [hopacity, Visible]
  exact ⟨fun hne => ⟨by omega, by omega, hne⟩, fun hvisible => hvisible.2.2⟩

/-- What is cut out of an image along the box around the visible pixels has such pixels at all its
own borders. -/
theorem Frames.crop (h : i.Frames b) : (i.crop b).Frames (i.crop b).bounds := by
  have hvisible {x y : Nat} (hv : i.Visible x y) :
      b.Contains x y ∧ (i.crop b).Visible (x - b.left) (y - b.upper) := by
    obtain ⟨hleft, hright, hupper, hlower⟩ := h.contains x y hv
    refine ⟨h.contains x y hv, (visible_crop_iff h.within_bounds).mpr ⟨by omega, by omega, ?_⟩⟩
    rwa [Nat.sub_add_cancel hleft, Nat.sub_add_cancel hupper]
  constructor
  · exact fun x y hv => ⟨Nat.zero_le _, hv.1, Nat.zero_le _, hv.2.1⟩
  · obtain ⟨y, hv⟩ := h.left
    have := (hvisible hv).2
    rw [Nat.sub_self] at this
    exact ⟨_, this⟩
  · obtain ⟨x, hx, y, hv⟩ := h.right
    obtain ⟨hin, hv⟩ := hvisible hv
    refine ⟨x - b.left, ?_, _, hv⟩
    have := hin.1
    change x - b.left + 1 = b.right - b.left
    omega
  · obtain ⟨x, hv⟩ := h.upper
    have := (hvisible hv).2
    rw [Nat.sub_self] at this
    exact ⟨_, this⟩
  · obtain ⟨y, hy, x, hv⟩ := h.lower
    obtain ⟨hin, hv⟩ := hvisible hv
    refine ⟨y - b.upper, ?_, _, hv⟩
    have := hin.2.2.1
    change y - b.upper + 1 = b.lower - b.upper
    omega

theorem crop_bounds (i : Image) : i.crop i.bounds = i :=
  ext_inside rfl rfl rfl fun x y hx hy => by
    rw [(cutFrom_crop i i.bounds).pixel x y hx hy]
    rfl

theorem resize_self (i : Image) : i.resize i.width i.height = i := if_pos ⟨rfl, rfl⟩

end Image

/-! ## Crops -/

namespace RunState
variable {s : RunState} {canvas : Canvas} {box : Box}

/-- Canvas and mask cut along a box. -/
def cut (s : RunState) (image : Image) (box : Box) : RunState :=
  { s with canvas := some { image := image.crop box }, mask := s.mask.map (·.crop box) }

theorem maskFits_cut (s : RunState) (image : Image) (box : Box) : (s.cut image box).MaskFits := by
  intro mask after hmask hafter
  obtain ⟨whole, -, rfl⟩ := Option.map_eq_some_iff.mp hmask
  cases hafter
  rfl

theorem crop_eq_ok (hcanvas : s.canvas = some canvas) (hfits : s.MaskFits)
    (hbox : canvas.image.Frames box) : s.crop = .ok (s.cut canvas.image box,
      s!"Cropped to {box.right - box.left}x{box.lower - box.upper}") := by
  have hmask : (s.mask.map fun mask =>
      (mask.resize canvas.image.width canvas.image.height).crop box) =
        s.mask.map (·.crop box) := by
    cases hm : s.mask with
    | none => rfl
    | some mask =>
      obtain ⟨hwidth, hheight⟩ := Prod.mk.inj (hfits mask canvas hm hcanvas)
      change some ((mask.resize canvas.image.width canvas.image.height).crop box) = _
      rw [← hwidth, ← hheight, Image.resize_self]
      rfl
  unfold crop
  rw [requireCanvas, hcanvas]
  simp only [bind, Except.bind, Image.visibleBox?_eq_some_iff.mpr hbox, hmask]
  rfl

theorem crop_eq_error (hcanvas : s.canvas = some canvas)
    (hnone : ∀ x y, ¬ canvas.image.Visible x y) : s.crop = refuseVisit .transparentCanvas := by
  unfold crop
  rw [requireCanvas, hcanvas]
  simp only [bind, Except.bind, Image.visibleBox?_eq_none_iff.mpr hnone]

/-- After a cut there is nothing left to cut off. -/
theorem cut_cut (s : RunState) (image : Image) (box : Box) :
    (s.cut image box).cut (image.crop box) (image.crop box).bounds = s.cut image box := by
  have hmask (mask : Image) : (mask.crop box).crop (image.crop box).bounds = mask.crop box :=
    (mask.crop box).crop_bounds
  unfold cut
  rw [Image.crop_bounds, Option.map_map]
  simp only [Function.comp_def, hmask]

end RunState

namespace Engine
variable {σ : Type} (e : Engine σ) (w : Workflow) (scene : Scene σ) (index : Nat)

theorem visit_crop_eq_done {canvas : Canvas} {box : Box}
    (hcanvas : scene.state.canvas = some canvas) (hfits : scene.state.MaskFits)
    (hbox : canvas.image.Frames box) : e.visit w scene index .crop =
      ({ atVisit index scene with state := (atVisit index scene).state.cut canvas.image box },
        .done s!"Cropped to {box.right - box.left}x{box.lower - box.upper}") := by
  have hcrop : (atVisit index scene).state.crop = .ok _ :=
    RunState.crop_eq_ok hcanvas (hfits.congr rfl rfl) hbox
  rw [visit_of_isLocal e w scene index rfl (by decide)]
  simp only [RunState.perform, hcrop]
  rw [(RunState.maskFits_cut _ _ _).fitMask]

theorem visit_crop_eq_failed {canvas : Canvas} (hcanvas : scene.state.canvas = some canvas)
    (hnone : ∀ x y, ¬ canvas.image.Visible x y) : e.visit w scene index .crop =
      (atVisit index scene, .failed (.fault .transparentCanvas)) := by
  have hcrop : (atVisit index scene).state.crop = refuseVisit .transparentCanvas :=
    RunState.crop_eq_error hcanvas hnone
  rw [visit_of_isLocal e w scene index rfl (by decide)]
  simp only [RunState.perform, hcrop]
  rfl

theorem breaks_crop {canvas : Canvas} (hcanvas : scene.state.canvas = some canvas)
    (hfits : scene.state.MaskFits) : e.breaks w scene index .crop = false := by
  refine e.breaks_of_isLocal w scene index rfl fun s message hperform => ?_
  have hperform : (atVisit index scene).state.crop = .ok (s, message) := hperform
  have hcanvas : (atVisit index scene).state.canvas = some canvas := hcanvas
  cases hbox : canvas.image.visibleBox? with
  | none =>
    rw [RunState.crop_eq_error hcanvas (Image.visibleBox?_eq_none_iff.mp hbox)] at hperform
    cases hperform
  | some box =>
    rw [RunState.crop_eq_ok hcanvas (hfits.congr rfl rfl) (Image.visibleBox?_eq_some_iff.mp hbox)]
      at hperform
    cases hperform
    exact RunState.maskFits_cut _ _ _

/-- What a visit of a crop does where there is a canvas, and a mask of its size or none.  If all of
the canvas is transparent it fails and changes nothing.  Otherwise it succeeds: canvas and mask are
cut to the smallest box of the canvas with all its visible pixels, one of which is in each border
row and column; and another crop changes nothing. -/
theorem visit_crop {canvas : Canvas} (hcanvas : scene.state.canvas = some canvas)
    (hfits : scene.state.MaskFits) :
    e.breaks w scene index .crop = false ∧
    ((∀ x y, ¬ canvas.image.Visible x y) → e.visit w scene index .crop =
      (atVisit index scene, .failed (.fault .transparentCanvas))) ∧
    ((∃ x y, canvas.image.Visible x y) →
      ∃ (box : Box) (part : Image) (mask : Option Image) (message : String),
        let after : Scene σ := { atVisit index scene with
          state := { (atVisit index scene).state with canvas := some { image := part }, mask } }
        e.visit w scene index .crop = (after, .done message) ∧
        (∀ x y, canvas.image.Visible x y → box.Contains x y) ∧
        (∀ c : Box, (∀ x y, canvas.image.Visible x y → c.Contains x y) → box.Within c) ∧
        part.CutFrom canvas.image box ∧ part.Frames part.bounds ∧
        (scene.state.mask = none → mask = none) ∧
        (∀ whole, scene.state.mask = some whole →
          ∃ cut, mask = some cut ∧ cut.CutFrom whole box ∧ cut.size = part.size) ∧
        ∀ next, e.visit w after next .crop = (atVisit next after, .done message) ∧
          e.breaks w after next .crop = false) := by
  refine ⟨e.breaks_crop w scene index hcanvas hfits,
    fun hnone => e.visit_crop_eq_failed w scene index hcanvas hnone, ?_⟩
  rintro ⟨x, y, hvisible⟩
  obtain ⟨box, hbox⟩ := Image.exists_visibleBox? hvisible
  have hframes := Image.frames_of_visibleBox? hbox
  refine ⟨box, canvas.image.crop box, scene.state.mask.map fun mask => Image.crop mask box, _,
    e.visit_crop_eq_done w scene index hcanvas hfits hframes, hframes.contains,
    fun c hc => hframes.least hc, canvas.image.cutFrom_crop box, hframes.crop, ?_, ?_,
    fun next => ?_⟩
  · intro hmask
    rw [hmask, Option.map_none]
  · intro whole hmask
    rw [hmask, Option.map_some]
    exact ⟨_, rfl, whole.cutFrom_crop box, rfl⟩
  -- the second crop finds its own bounds as the box, and cutting along these does nothing
  · have hfits' := RunState.maskFits_cut (atVisit index scene).state canvas.image box
    refine ⟨(e.visit_crop_eq_done w _ next rfl hfits' hframes.crop).trans ?_,
      e.breaks_crop w _ next rfl hfits'⟩
    have hcut := RunState.cut_cut { (atVisit index scene).state with counter := next + 1 }
      canvas.image box
    exact congrArg (fun state => ({ atVisit index scene with state }, _)) hcut

/-- A picture of which two pixels are visible, and a mask that tells all pixels apart. -/
theorem visit_crop_corners :
    let e := Run.rehearsalEngine {}
    let picture := Image.ofFn .rgba 4 3 fun x y =>
      if (x = 1 ∧ y = 1) ∨ (x = 2 ∧ y = 0) then { c0 := 9, c3 := 1 } else { c0 := 7 }
    let mask := Image.ofFn .grey 4 3 fun x y => { c0 := UInt8.ofNat (10 * x + y) }
    let state : RunState :=
      { canvas := some { image := picture, origin := some 0 }, mask := some mask }
    let scene : Scene Rehearsal := { state, files := ⟨[]⟩, memory := {} }
    (∃ x y, picture.Visible x y) ∧ state.MaskFits ∧
      ∃ (part cut : Image) (message : String) (after : Scene Rehearsal),
        e.visit [] scene 5 .crop = (after, .done message) ∧
        after.state.canvas = some { image := part } ∧ after.state.mask = some cut ∧
        part.size = (2, 2) ∧ part.pixel 0 1 = { c0 := 9, c3 := 1 } ∧
        cut.size = (2, 2) ∧ cut.pixel 0 1 = { c0 := 11 } ∧
        e.visit [] after 6 .crop = (atVisit 6 after, .done message) := by
  intro e picture mask state scene
  have hvisible : ∃ x y, picture.Visible x y := ⟨1, 1, by decide⟩
  have hfits : state.MaskFits := by decide
  obtain ⟨-, -, hcrop⟩ := e.visit_crop [] scene 5 rfl hfits
  obtain ⟨box, part, _, message, hdone, hinside, hleast, hpart, -, -, hmask, hagain⟩ :=
    hcrop hvisible
  obtain ⟨cut, rfl, hcut, hsize⟩ := hmask mask rfl
  have hbox : box = ⟨1, 0, 3, 2⟩ := by
    have hall : ∀ x < 4, ∀ y < 3, picture.Visible x y → Box.Contains ⟨1, 0, 3, 2⟩ x y := by decide
    obtain ⟨hleft, hright, hupper, hlower⟩ :=
      hleast ⟨1, 0, 3, 2⟩ fun x y hxy => hall x hxy.1 y hxy.2.1 hxy
    obtain ⟨hleft', -, -, hlower'⟩ := hinside 1 1 (by decide)
    obtain ⟨-, hright', hupper', -⟩ := hinside 2 0 (by decide)
    cases box
    dsimp only at *
    congr <;> omega
  subst hbox
  have hpixels : part.size = (2, 2) := hpart.size
  obtain ⟨hwidth, hheight⟩ := Prod.mk.inj hpixels
  obtain ⟨hwidth', hheight'⟩ := Prod.mk.inj (hsize.trans hpixels)
  refine ⟨hvisible, hfits, part, cut, message, _, hdone, rfl, rfl, hpixels, ?_,
    hsize.trans hpixels, ?_, (hagain 6).1⟩
  · rw [hpart.pixel 0 1 (by omega) (by omega)]
    decide
  · rw [hcut.pixel 0 1 (by omega) (by omega)]
    decide

end Engine

end ImageWorkflow
