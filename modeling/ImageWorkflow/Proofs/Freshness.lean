import Mathlib
import ImageWorkflow.Proofs.Edits
import ImageWorkflow.Proofs.Requests

/-!
# Generated images that wait for a save

A state knows whether a generated image waits for the next save.
* `Easel` : the canvas and this mark; `Easel.Step` : what a visit can do to them
  (`Engine.visit_easel`);
* `Run.save_settles` : what becomes of the mark by a save, and when the save after it renders;
* `Run.Origin` : how a canvas with the mark came from a generated image; `Run.canvas_origin` : every
  such canvas did, and only such a canvas is saved as a generated image.
-/

namespace ImageWorkflow

/-- The canvas, and whether a generated image waits for the next save. -/
structure Easel where
  canvas : Option Canvas
  fresh : Bool

/-- The easel of a state. -/
def RunState.easel (s : RunState) : Easel := ⟨s.canvas, s.fresh⟩

namespace Instruction

/-- The instructions that change canvas or mark when they succeed. -/
def touchesEasel (i : Instruction) : Bool :=
  i.isEdit || i.isLoad || i.isSave ||
    [.canvasClear, .depthToCanvas, .loopEnd, .generate].contains i.kind

theorem isLoad_of_isSave {i : Instruction} (hi : i.isSave = true) : i.isLoad = false := by
  cases i <;> first | rfl | cases hi

theorem isEdit_of_isSave {i : Instruction} (hi : i.isSave = true) : i.isEdit = false := by
  cases i <;> first | rfl | cases hi

end Instruction

/-- What the visit of an instruction, successful or not, can do to canvas and mark. -/
inductive Easel.Step : Instruction → Bool → Easel → Easel → Prop
  | same {i : Instruction} {done : Bool} {p : Easel} :
      (done = true → i.touchesEasel = false) → Step i done p p
  | clear {p : Easel} : Step .canvasClear true p { p with canvas := none }
  | load {i : Instruction} {p : Easel} (canvas : Canvas) :
      i.isLoad = true → Step i true p ⟨some canvas, false⟩
  | copy {p : Easel} (canvas : Canvas) :
      Step .depthToCanvas true p { p with canvas := some canvas }
  | edit {i : Instruction} {p : Easel} (canvas : Canvas) : i.isEdit = true →
      p.canvas.isSome = true → Step i true p { p with canvas := some canvas }
  | close {p : Easel} : Step .loopEnd true p { p with fresh := false }
  | generate {p : Easel} (canvas : Canvas) : Step .generate true p ⟨some canvas, true⟩
  | take {i : Instruction} {done : Bool} {p : Easel} : i.isSave = true → p.fresh = true →
      p.canvas.isSome = true → Step i done p { p with fresh := false }
  | render {i : Instruction} {done : Bool} {p : Easel} (canvas : Canvas) : i.isSave = true →
      (p.fresh && p.canvas.isSome) = false → Step i done p { p with canvas := some canvas }
  | keep {i : Instruction} {done : Bool} {p : Easel} : i.isSave = true → p.fresh = false →
      p.canvas.isSome = true → Step i done p p

namespace Easel
variable {i : Instruction} {done : Bool} {p p' : Easel}

/-- A save that succeeds leaves the mark just if there was no canvas. -/
theorem Step.fresh_of_isSave (h : Step i true p p') (hi : i.isSave = true) :
    p'.fresh = (p.fresh && p.canvas.isNone) := by
  cases h with
  | same hsame =>
    have huntouched := hsame rfl
    simp [Instruction.touchesEasel, hi] at huntouched
  | load _ hload =>
    rw [Instruction.isLoad_of_isSave hi] at hload
    cases hload
  | edit _ hedit =>
    rw [Instruction.isEdit_of_isSave hi] at hedit
    cases hedit
  | take _ hfresh hcanvas => rw [Option.isNone_eq_false_iff.mpr hcanvas, Bool.and_false]
  | render canvas _ hwaits =>
    cases hf : p.fresh with
    | false => rfl
    | true =>
      rw [hf, Bool.true_and] at hwaits
      rw [Option.isSome_eq_false_iff.mp hwaits, Bool.and_true]
  | keep _ hfresh _ => rw [hfresh, Bool.false_and]
  | _ => cases hi

/-- The mark is set by a generation only. -/
theorem Step.fresh_before (h : Step i done p p') (hfresh : p'.fresh = true) :
    p.fresh = true ∨ i = .generate ∧ done = true := by
  cases h with
  | load | close | take => cases hfresh
  | generate => exact .inr ⟨rfl, rfl⟩
  | _ => exact .inl hfresh

/-- The mark without a canvas: the canvas was cleared. -/
theorem Step.of_canvas_none (h : Step i done p p') (hfresh : p'.fresh = true)
    (hnone : p'.canvas = none) : p.fresh = true ∧ (p.canvas = none ∨ i = .canvasClear) := by
  cases h with
  | same | keep => exact ⟨hfresh, .inl hnone⟩
  | clear => exact ⟨hfresh, .inr rfl⟩
  | take | close => cases hfresh
  | _ => cases hnone

/-- With the mark set, how the canvas came from the canvas before, if not from a generation. -/
theorem Step.of_fresh (h : Step i done p p') (hfresh : p'.fresh = true) :
    (i = .generate ∧ done = true) ∨ p.fresh = true ∧
      (p'.canvas = p.canvas ∨ (i.isEdit = true ∧ done = true) ∨
        (i = .depthToCanvas ∧ done = true) ∨ (i = .canvasClear ∧ done = true) ∨
        (i.isSave = true ∧ p.canvas = none)) := by
  cases h with
  | same | keep => exact .inr ⟨hfresh, .inl rfl⟩
  | clear => exact .inr ⟨hfresh, .inr (.inr (.inr (.inl ⟨rfl, rfl⟩)))⟩
  | load | close | take => cases hfresh
  | copy => exact .inr ⟨hfresh, .inr (.inr (.inl ⟨rfl, rfl⟩))⟩
  | edit _ hi => exact .inr ⟨hfresh, .inr (.inl ⟨hi, rfl⟩)⟩
  | generate => exact .inl ⟨rfl, rfl⟩
  | render _ hi hwaits =>
    have hfresh : p.fresh = true := hfresh
    have hnone : p.canvas = none := by simpa [hfresh] using hwaits
    exact .inr ⟨hfresh, .inr (.inr (.inr (.inr ⟨hi, hnone⟩)))⟩

end Easel

namespace RunState
variable {s s' : RunState} {i : Instruction}

theorem Performed.easel (h : Performed s i s') : Easel.Step i true s.easel s'.easel := by
  cases h with
  | loopEnd => exact .close
  | canvasClear => exact .clear
  | load image hi => exact .load _ hi
  | moveScale image mask hs | adaptSize image hs | crop image mask hs => exact .edit _ rfl hs
  | depthToCanvas image => exact .copy _
  | moodboard _ hi | mask _ hi => exact .same fun _ => by cases i <;> first | rfl | cases hi
  | idle hi => exact .same fun _ => by cases i <;> first | rfl | simp [Instruction.kind] at hi
  | _ => exact .same fun _ => rfl

theorem Conducted.easel {done : Bool} (h : Conducted s i done s') :
    Easel.Step i done s.easel s'.easel := by
  cases h with
  | failed => exact .same nofun
  | performed _ h => exact h.easel
  | toolMask _ hi | toolDepth _ hi | toolPose _ hi =>
    exact .same fun _ => by cases i <;> first | rfl | cases hi
  | toolCanvas image hi hs => exact .edit _ (by cases i <;> first | rfl | cases hi) hs
  | generated canvas => exact .generate canvas
  | taken hi hfresh hcanvas => exact .take hi hfresh hcanvas
  | rendered canvas mask hi hwaits => exact .render canvas hi hwaits
  | kept hi hfresh hcanvas => exact .keep hi hfresh hcanvas

end RunState

theorem Engine.visit_easel {σ : Type} (e : Engine σ) (w : Workflow) (scene : Scene σ) (index : Nat)
    (i : Instruction) : Easel.Step i (e.visit w scene index i).2.isDone scene.state.easel
      (e.visit w scene index i).1.state.easel := by
  obtain ⟨s, hs, mask, hmask⟩ := e.visit_conducted w scene index i
  rw [hmask]
  exact hs.easel

namespace Run
variable {σ : Type} {e : Engine σ} {w : Workflow} {r r' : Run σ} {i : Instruction}
  {us vs : List (Run σ × Instruction)} {v : Run σ × Instruction}

/-- The visit is a success. -/
def Succeeds (e : Engine σ) (w : Workflow) (u : Run σ × Instruction) : Prop :=
  (u.1.visitDue e w u.2).2.isDone = true

theorem succeeds_of_done {message : String} (h : (r.visitDue e w i).2 = .done message) :
    Succeeds e w (r, i) := by
  unfold Succeeds
  rw [h]
  rfl

theorem visited_easel (r : Run σ) (i : Instruction) :
    Easel.Step i (r.visitDue e w i).2.isDone r.scene.state.easel
      (r.visited e w i).scene.state.easel := by
  rw [visited_scene]
  exact e.visit_easel w r.scene _ i

/-! ## Saves -/

/-- If an image waits and there is no canvas, the canvas was cleared while an image waited. -/
theorem Course.exists_canvasClear (h : Course e w r us r') (hr : r.scene.state.fresh = false)
    (hfresh : r'.scene.state.fresh = true) (hnone : r'.scene.state.canvas = none) :
    ∃ u ∈ us, u.2 = .canvasClear ∧ u.1.scene.state.fresh = true := by
  refine h.induction_on_last (P := fun us q => q.scene.state.fresh = true →
    q.scene.state.canvas = none → ∃ u ∈ us, u.2 = .canvasClear ∧ u.1.scene.state.fresh = true)
    (fun hfresh => ?_) (fun us q i _ _ ih hfresh hnone => ?_) hfresh hnone
  · rw [hr] at hfresh
    cases hfresh
  · obtain ⟨hbefore, hclear⟩ := (visited_easel q i).of_canvas_none hfresh hnone
    rcases hclear with hmissing | rfl
    · obtain ⟨u, hu, hclear⟩ := ih hbefore hmissing
      exact ⟨u, List.mem_append_left _ hu, hclear⟩
    · exact ⟨_, List.mem_append_right _ (List.mem_singleton_self _), rfl, hbefore⟩

/-- The mark stays away as long as nothing is generated. -/
theorem Course.fresh_eq_false (h : Course e w r us r') (hr : r.scene.state.fresh = false)
    (hus : ∀ u ∈ us, u.2 ≠ .generate) : r'.scene.state.fresh = false := by
  refine h.induction_on_last (P := fun us q => (∀ u ∈ us, u.2 ≠ .generate) →
    q.scene.state.fresh = false) (fun _ => hr) (fun us q i _ _ ih hus => ?_) hus
  have hbefore := ih fun u hu => hus u (List.mem_append_left _ hu)
  by_contra hfresh
  rcases (visited_easel q i).fresh_before (Bool.not_eq_false _ ▸ hfresh) with hq | ⟨hi, -⟩
  · rw [show q.scene.state.easel.fresh = false from hbefore] at hq
    cases hq
  · exact hus _ (List.mem_append_right _ (List.mem_singleton_self _)) hi

theorem asked_eq_requests (hi : i.isSave = true) :
    r.asked e w i = e.requests (Engine.atVisit r.scene.state.counter r.scene).state i := by
  have hsupport := Instruction.support_of_isTrigger (Instruction.isTrigger_of_isSave hi)
  rw [asked, Engine.asked_eq, hsupport]
  exact if_neg (by decide)

/-- A save that succeeds asks for what a save asks for in the state before it. -/
theorem asked_of_isSave (hi : i.isSave = true) (h : Succeeds e w (r, i)) :
    r.asked e w i = e.saveRequests (Engine.atVisit r.scene.state.counter r.scene).state := by
  rw [asked_eq_requests hi]
  rcases e.save_cases w (Engine.atVisit r.scene.state.counter r.scene) r.scene.state.counter hi with
    ⟨hrefused, -⟩ | ⟨name, -, hrequests⟩
  · obtain ⟨message, mask, hconduct, -⟩ := e.visit_of_isDone w r.scene _ h
    rw [hrefused] at hconduct
    cases hconduct
  · exact hrequests

/-- With a prompt in force, a save that succeeds makes one call for images, unless an image waits
for it. -/
theorem exists_asked_of_isSave (hi : i.isSave = true) (h : Succeeds e w (r, i))
    (hprompt : r.scene.state.hasPrompt = true)
    (hwaits : (r.scene.state.fresh && r.scene.state.canvas.isSome) = false) :
    ∃ call, r.asked e w i = [.generate call] := by
  obtain ⟨name, hsaved, -⟩ := e.visit_of_isSave w r.scene _ hi (Engine.Verdict.eq_done h)
  obtain ⟨source, -, -, hsource, -⟩ := e.renderAndSave_eq_ok _ _ hsaved
  let s := (Engine.atVisit r.scene.state.counter r.scene).state
  have hprompt : s.hasPrompt = true := hprompt
  have hwaits : (s.fresh && s.canvas.isSome) = false := hwaits
  rw [asked_of_isSave hi h, e.saveRequests_of_hasPrompt hwaits hprompt]
  exact e.renderRequests_of_settleSave _ _ hwaits hprompt hsource

/-- What becomes of the mark by a save that succeeds: it stays just if there was no canvas, so only
if the canvas was cleared while an image waited.  Once it is away, a later save with a prompt in
force makes a call, unless there was a `generate` in between. -/
theorem save_settles {connected : Bool} {interruption : Option Interruption} {files : FileTree}
    {memory : σ}
    (hc : Course e w (start e connected interruption files memory) (us ++ v :: vs) r')
    (hi : v.2.isSave = true) (hv : Succeeds e w v) :
    (v.1.visited e w v.2).scene.state.fresh =
        (v.1.scene.state.fresh && v.1.scene.state.canvas.isNone) ∧
    ((∀ u ∈ us, u.2 = .canvasClear → u.1.scene.state.fresh = false) →
      (v.1.visited e w v.2).scene.state.fresh = false) ∧
    ∀ ms v' vs', vs = ms ++ v' :: vs' → (v.1.visited e w v.2).scene.state.fresh = false →
      (∀ m ∈ ms, m.2 ≠ .generate) → v'.2.isSave = true → Succeeds e w v' →
      v'.1.scene.state.hasPrompt = true → ∃ call, v'.1.asked e w v'.2 = [.generate call] := by
  have hfresh : (v.1.visited e w v.2).scene.state.fresh =
      (v.1.scene.state.fresh && v.1.scene.state.canvas.isNone) :=
    Easel.Step.fresh_of_isSave (hv ▸ visited_easel v.1 v.2) hi
  refine ⟨hfresh, fun hclear => ?_, ?_⟩
  · rw [hfresh, Bool.and_eq_false_iff]
    by_contra hwaits
    obtain ⟨hmark, hnone⟩ : v.1.scene.state.fresh = true ∧ v.1.scene.state.canvas = none := by
      simpa [not_or] using hwaits
    obtain ⟨u, hu, hui, hmarked⟩ := hc.before.exists_canvasClear rfl hmark hnone
    rw [hclear u hu hui] at hmarked
    cases hmarked
  · rintro ms v' vs' rfl haway hms hi' hv' hprompt
    have hstale : v'.1.scene.state.fresh = false := hc.split.2.before.fresh_eq_false haway hms
    exact exists_asked_of_isSave hi' hv' hprompt (by rw [hstale, Bool.false_and])

/-- The mark outlives a save: two saves in a row succeed, and the second makes no call. -/
theorem save_keeps_mark :
    let script : Script := { steps := [{ images := .inl [Image.solid .rgb 1 1 {}] }] }
    let w : Workflow := [.prompt "a", .generate, .canvasClear, .canvasSave "a.png"]
    ∃ r r', (rehearsalSession.run (rehearsalEngine script) w).2 = .ok r ∧
      r.entries.map (·.outcome) = List.replicate 4 .executed ∧ r.scene.state.fresh = true ∧
      (rehearsalSession.run (rehearsalEngine script) (w ++ [.canvasSave "b.png"])).2 = .ok r' ∧
      r'.entries.map (·.outcome) = List.replicate 5 .executed ∧
      r'.entries.head?.map (·.message) = some "Saved generated image: b.png" ∧
      r.scene.memory.generated = 2 ∧ r'.scene.memory.generated = 2 := by
  intro script w
  have h : (rehearsalSession.run (rehearsalEngine script) w).2 = .ok _ :=
    Session.run_of_ending (by decide) rfl rfl (by decide +kernel)
  have h' :
      (rehearsalSession.run (rehearsalEngine script) (w ++ [.canvasSave "b.png"])).2 = .ok _ :=
    Session.run_of_ending (by decide) rfl rfl (by decide +kernel)
  exact ⟨_, _, h, by decide +kernel, by decide +kernel, h', by decide +kernel, by decide +kernel,
    by decide +kernel, by decide +kernel⟩

/-- Two saves after a prompt: the second makes a call of its own. -/
theorem save_settles_twice :
    let script : Script := { steps := [{ images := .inl [Image.solid .rgb 1 1 {}] }] }
    let e := rehearsalEngine script
    let w : Workflow := [.prompt "a", .canvasSave "a.png", .canvasSave "b.png"]
    let r₀ := start e true none ⟨[]⟩ {}
    let r₁ := r₀.visited e w (.prompt "a")
    let r₂ := r₁.visited e w (.canvasSave "a.png")
    Succeeds e w (r₁, .canvasSave "a.png") ∧ Succeeds e w (r₂, .canvasSave "b.png") ∧
      r₂.scene.state.hasPrompt = true ∧ r₂.scene.state.fresh = false ∧
      ∃ call, r₂.asked e w (.canvasSave "b.png") = [.generate call] := by
  intro script e w r₀ r₁ r₂
  have h₀ : r₀.Due w (.prompt "a") := ⟨rfl, rfl, rfl⟩
  have h₁ : r₁.Due w (.canvasSave "a.png") := ⟨rfl, rfl, rfl⟩
  have hcounter : r₂.scene.state.counter = 2 := by decide +kernel
  have h₂ : r₂.Due w (.canvasSave "b.png") :=
    ⟨by decide +kernel, by decide +kernel, by rw [hcounter]; rfl⟩
  have hfirst : Succeeds e w (r₁, .canvasSave "a.png") := by
    unfold Succeeds
    decide +kernel
  have hsecond : Succeeds e w (r₂, .canvasSave "b.png") := by
    unfold Succeeds
    decide +kernel
  have hprompt : r₂.scene.state.hasPrompt = true := by decide +kernel
  have hc : Course e w r₀ ([(r₀, .prompt "a")] ++ (r₁, .canvasSave "a.png") ::
      [(r₂, .canvasSave "b.png")]) (r₂.visited e w (.canvasSave "b.png")) :=
    .cons h₀ (.cons h₁ (.cons h₂ (.nil _)))
  have hclear : ∀ u ∈ [(r₀, Instruction.prompt "a")], u.2 = .canvasClear →
      u.1.scene.state.fresh = false := by
    intro u hu hi
    rw [List.mem_singleton.mp hu] at hi
    cases hi
  obtain ⟨-, hstale, hcall⟩ := save_settles hc rfl hfirst
  have hstale := hstale hclear
  have hcall := hcall [] (r₂, .canvasSave "b.png") [] rfl hstale (List.forall_mem_nil _) rfl hsecond
    hprompt
  exact ⟨hfirst, hsecond, hprompt, hstale, hcall⟩

/-! ## Where the canvas comes from -/

/-- The visit leaves the canvas as it was. -/
def LeavesCanvas (e : Engine σ) (w : Workflow) (u : Run σ × Instruction) : Prop :=
  (u.1.visited e w u.2).scene.state.canvas = u.1.scene.state.canvas

/-- The visit makes of the image on the canvas what its instruction makes of images. -/
def EditsCanvas (e : Engine σ) (w : Workflow) (u : Run σ × Instruction) : Prop :=
  ∃ before after, u.1.scene.state.canvasImage = some before ∧
    (u.1.visited e w u.2).scene.state.canvasImage = some after ∧
    u.2.Edits (e.toolAnswer u.1.scene) before after

/-- How a run `r` with the mark came from the most recent successful `generate` by the visits `ms`
after it. -/
structure Origin (e : Engine σ) (w : Workflow) (g : Run σ × Instruction)
    (ms : List (Run σ × Instruction)) (r : Run σ) : Prop where
  generate : g.2 = .generate
  success : Succeeds e w g
  latest : ∀ m ∈ ms, m.2 = .generate → ¬ Succeeds e w m
  /-- What happened to the canvas on the way. -/
  ways : ∀ m ∈ ms, LeavesCanvas e w m ∨ EditsCanvas e w m ∨
    (m.2 = .depthToCanvas ∧ Succeeds e w m) ∨ (m.2 = .canvasClear ∧ Succeeds e w m) ∨
    (m.2.isSave = true ∧ m.1.scene.state.canvas = none)
  /-- If it was neither cleared nor taken from the depth layer, it was edited at most. -/
  direct : (∀ m ∈ ms, Succeeds e w m → m.2 ≠ .depthToCanvas ∧ m.2 ≠ .canvasClear) →
    r.scene.state.canvas.isSome = true ∧ ∀ m ∈ ms, LeavesCanvas e w m ∨ EditsCanvas e w m

/-- A `generate` that succeeds makes one call, puts the first image of the answer on the canvas and
names the mode of the call. -/
theorem generate_eq_done {message : String} (h : (r.visitDue e w .generate).2 = .done message) :
    ∃ call first rest, r.asked e w .generate = [.generate call] ∧
      (e.provider.generate r.scene.memory call).1.result = .ok (first :: rest) ∧
      (r.visited e w .generate).scene.state.canvasImage = some first ∧
      message = s!"Generated {rest.length + 1} image(s) via {call.mode.word}" := by
  obtain ⟨message', mask, hconduct, hvisit⟩ := e.visit_of_isDone w r.scene _ (succeeds_of_done h)
  cases hrender : (e.render (Engine.atVisit r.scene.state.counter r.scene)
      r.scene.state.counter).2 with
  | error failure =>
    rw [e.conduct_generate_of_error w _ _ hrender] at hconduct
    cases hconduct
  | ok answer =>
    obtain ⟨mode, count⟩ := answer
    obtain ⟨call, first, rest, hrequests, rfl, rfl, hresult, hcanvas⟩ := e.render_eq_ok _ _ hrender
    rw [e.conduct_generate_of_ok w _ _ hrender] at hconduct hvisit
    cases hconduct
    refine ⟨call, first, rest, ?_, hresult, ?_, ?_⟩
    · rw [asked, Engine.asked_eq, if_neg (by decide)]
      exact hrequests
    · rw [visited_scene, visitDue, hvisit]
      exact hcanvas
    · rw [visitDue, hvisit] at h
      cases h
      rfl

theorem generate_eq_ok (h : Succeeds e w (r, .generate)) :
    ∃ call first rest, r.asked e w .generate = [.generate call] ∧
      (e.provider.generate r.scene.memory call).1.result = .ok (first :: rest) ∧
      (r.visited e w .generate).scene.state.canvasImage = some first := by
  obtain ⟨call, first, rest, hasked, hresult, hcanvas, -⟩ :=
    generate_eq_done (Engine.Verdict.eq_done h)
  exact ⟨call, first, rest, hasked, hresult, hcanvas⟩

theorem editsCanvas_of_isEdit (hi : i.isEdit = true) (h : Succeeds e w (r, i)) :
    EditsCanvas e w (r, i) := by
  obtain ⟨before, after, hbefore, hafter, hedits⟩ := e.visit_of_isEdit w r.scene _ hi h
  exact ⟨before, after, hbefore, by rw [visited_scene]; exact hafter, hedits⟩

theorem origin_of_generate (h : Succeeds e w (r, .generate)) :
    Origin e w (r, .generate) [] (r.visited e w .generate) where
  generate := rfl
  success := h
  latest := List.forall_mem_nil _
  ways := List.forall_mem_nil _
  direct _ := by
    obtain ⟨call, first, rest, -, -, hcanvas⟩ := generate_eq_ok h
    exact ⟨RunState.isSome_of_canvasImage hcanvas, List.forall_mem_nil _⟩

theorem Origin.visited {g : Run σ × Instruction} {ms : List (Run σ × Instruction)}
    (h : Origin e w g ms r) (hgenerate : i = .generate → ¬ Succeeds e w (r, i))
    (hfresh : (r.visited e w i).scene.state.fresh = true) :
    Origin e w g (ms ++ [(r, i)]) (r.visited e w i) := by
  have hway : LeavesCanvas e w (r, i) ∨ EditsCanvas e w (r, i) ∨
      (i = .depthToCanvas ∧ Succeeds e w (r, i)) ∨ (i = .canvasClear ∧ Succeeds e w (r, i)) ∨
      (i.isSave = true ∧ r.scene.state.canvas = none) := by
    rcases (visited_easel r i).of_fresh hfresh with ⟨hi, hdone⟩ | ⟨-, hway⟩
    · exact absurd hdone (hgenerate hi)
    · rcases hway with hleft | ⟨hi, hdone⟩ | hcopied | hcleared | hrendered
      · exact .inl hleft
      · exact .inr (.inl (editsCanvas_of_isEdit hi hdone))
      · exact .inr (.inr (.inl hcopied))
      · exact .inr (.inr (.inr (.inl hcleared)))
      · exact .inr (.inr (.inr (.inr hrendered)))
  refine ⟨h.generate, h.success, ?_, ?_, fun hms => ?_⟩
  · exact List.forall_mem_append.mpr ⟨h.latest, List.forall_mem_singleton.mpr hgenerate⟩
  · exact List.forall_mem_append.mpr ⟨h.ways, List.forall_mem_singleton.mpr hway⟩
  · obtain ⟨hms, hlast⟩ := List.forall_mem_append.mp hms
    have hlast := List.forall_mem_singleton.mp hlast
    obtain ⟨hsome, hdirect⟩ := h.direct hms
    rcases hway with hleft | hedits | ⟨rfl, hdone⟩ | ⟨rfl, hdone⟩ | ⟨-, hnone⟩
    · refine ⟨?_, List.forall_mem_append.mpr ⟨hdirect, List.forall_mem_singleton.mpr (.inl hleft)⟩⟩
      exact (congrArg Option.isSome hleft).trans hsome
    · have ⟨before, after, _, hafter, _⟩ := hedits
      exact ⟨RunState.isSome_of_canvasImage hafter, List.forall_mem_append.mpr
        ⟨hdirect, List.forall_mem_singleton.mpr (.inr hedits)⟩⟩
    · exact absurd rfl (hlast hdone).1
    · exact absurd rfl (hlast hdone).2
    · rw [hnone] at hsome
      cases hsome

/-- Where the mark comes from. -/
theorem Course.exists_origin (h : Course e w r us r') (hr : r.scene.state.fresh = false)
    (hfresh : r'.scene.state.fresh = true) :
    ∃ as g ms, us = as ++ g :: ms ∧ Origin e w g ms r' := by
  refine h.induction_on_last (P := fun us q => q.scene.state.fresh = true →
    ∃ as g ms, us = as ++ g :: ms ∧ Origin e w g ms q)
    (fun hfresh => ?_) (fun us q i _ _ ih hfresh => ?_) hfresh
  · rw [hr] at hfresh
    cases hfresh
  · by_cases hnew : i = .generate ∧ Succeeds e w (q, i)
    · obtain ⟨rfl, hdone⟩ := hnew
      exact ⟨us, (q, .generate), [], rfl, origin_of_generate hdone⟩
    · rcases (visited_easel q i).fresh_before hfresh with hbefore | hgenerate
      · obtain ⟨as, g, ms, rfl, horigin⟩ := ih hbefore
        refine ⟨as, g, ms ++ [(q, i)], by simp, ?_⟩
        exact horigin.visited (fun hi hdone => hnew ⟨hi, hdone⟩) hfresh
      · exact absurd hgenerate hnew

/-- The message of a save tells what was saved, and under which name. -/
theorem eq_of_saved_message {source told : Engine.SaveSource} {name taken : String}
    (h : s!"Saved {source.word} image: {name}" = s!"Saved {told.word} image: {taken}") :
    source = told ∧ name = taken := by
  have h : "Saved " ++ source.word ++ " image: " ++ name =
      "Saved " ++ told.word ++ " image: " ++ taken := h
  have hlist := congrArg String.toList h
  -- no two sources have words that begin alike
  rcases source with _ | (_ | _ | _) | _ <;> rcases told with _ | (_ | _ | _) | _ <;>
    simp [Engine.SaveSource.word, GenerationMode.word, String.toList_inj] at hlist ⊢ <;> exact hlist

/-- The message that a generated image was saved is of a save that took it. -/
theorem eq_pending_of_message {source : Engine.SaveSource} {name taken : String}
    (h : s!"Saved {source.word} image: {name}" = s!"Saved generated image: {taken}") :
    source = .pending ∧ name = taken := by
  have hpending : "Saved " ++ Engine.SaveSource.pending.word ++ " image: " =
      "Saved generated image: " := by decide
  exact eq_of_saved_message (h.trans (congrArg (· ++ taken) hpending.symm))

/-- What is saved as a generated image is the canvas of a state with the mark. -/
theorem save_generated {name : String} (hi : i.isSave = true)
    (h : (r.visitDue e w i).2 = .done s!"Saved generated image: {name}") :
    r.scene.state.fresh = true ∧ ∃ canvas parameters path, r.scene.state.canvas = some canvas ∧
      e.save r.scene.files canvas.image name parameters = ((r.visitDue e w i).1.files, .ok path) := by
  obtain ⟨name', hsaved, hfiles⟩ := e.visit_of_isSave w r.scene _ hi h
  obtain ⟨source, canvas, path, hsource, hcanvas, hsave, -, hmessage⟩ :=
    e.renderAndSave_eq_ok _ _ hsaved
  obtain ⟨rfl, rfl⟩ := eq_pending_of_message hmessage.symm
  obtain ⟨hfresh, hsettled⟩ := e.settleSave_eq_pending _ _ hsource
  rw [hsettled] at hcanvas hsave
  rw [← hfiles] at hsave
  exact ⟨hfresh, canvas, _, path, hcanvas, hsave⟩

/-- A canvas with the mark began as the first image of the most recent successful `generate`.  If
since then it was neither cleared nor taken from the depth layer, it was at most edited.  What is
saved as a generated image is such a canvas. -/
theorem canvas_origin {connected : Bool} {interruption : Option Interruption} {files : FileTree}
    {memory : σ} (hc : Course e w (start e connected interruption files memory) us r) :
    (r.scene.state.fresh = true → ∃ as g ms, us = as ++ g :: ms ∧ Origin e w g ms r ∧
      ∃ call first rest, g.1.asked e w g.2 = [.generate call] ∧
        (e.provider.generate g.1.scene.memory call).1.result = .ok (first :: rest) ∧
        (g.1.visited e w g.2).scene.state.canvasImage = some first) ∧
    ∀ i name, i.isSave = true →
      (r.visitDue e w i).2 = .done s!"Saved generated image: {name}" →
        r.scene.state.fresh = true ∧ ∃ canvas parameters path,
          r.scene.state.canvas = some canvas ∧
          e.save r.scene.files canvas.image name parameters =
            ((r.visitDue e w i).1.files, .ok path) := by
  refine ⟨fun hfresh => ?_, fun i name => save_generated⟩
  obtain ⟨as, g, ms, hus, horigin⟩ := hc.exists_origin rfl hfresh
  obtain ⟨q, i⟩ := g
  obtain rfl : i = .generate := horigin.generate
  exact ⟨as, _, ms, hus, horigin, generate_eq_ok horigin.success⟩

/-- A loaded image is saved as a generated one: the generated image is replaced by a depth map that
was made of the loaded image before. -/
theorem canvas_from_depth :
    let loaded := Image.solid .rgb 1 1 { c0 := 9 }
    let script : Script := { steps := [{ images := .inl [Image.solid .rgb 1 1 { c0 := 5 }] }] }
    let w : Workflow := [.canvasLoad "x.png", .depthCanvas, .prompt "a", .generate,
      .depthToCanvas, .canvasSave "out.png"]
    let session : Session Rehearsal :=
      { rehearsalSession with files := ⟨[(⟨["x.png"]⟩, .file (.image loaded))]⟩ }
    ∃ r, (session.run (rehearsalEngine script) w).2 = .ok r ∧
      r.entries.map (·.outcome) = List.replicate 6 .executed ∧
      r.entries.head?.map (·.message) = some "Saved generated image: out.png" ∧
      (match r.scene.files.node? ⟨["out.png"]⟩ with
        | some (.file (.image image)) => some (image.pixel 0 0)
        | _ => none) = some { c0 := 9 } := by
  intro loaded script w session
  have h : (session.run (rehearsalEngine script) w).2 = .ok _ :=
    Session.run_of_ending (by decide) rfl rfl (by decide +kernel)
  exact ⟨_, h, by decide +kernel, by decide +kernel, by decide +kernel⟩

/-- A generated image that is cropped before it is saved. -/
theorem canvas_origin_cropped :
    let script : Script := { steps := [{ images := .inl [Image.solid .rgb 1 1 { c0 := 5 }] }] }
    let e := rehearsalEngine script
    let w : Workflow := [.prompt "a", .generate, .crop, .canvasSave "a.png"]
    let r₀ := start e true none ⟨[]⟩ {}
    let r₁ := r₀.visited e w (.prompt "a")
    let r₂ := r₁.visited e w .generate
    let r₃ := r₂.visited e w .crop
    (∃ as g ms, [(r₀, .prompt "a"), (r₁, .generate), (r₂, .crop)] = as ++ g :: ms ∧
      Origin e w g ms r₃ ∧ ∃ call first rest, g.1.asked e w g.2 = [.generate call] ∧
        (e.provider.generate g.1.scene.memory call).1.result = .ok (first :: rest) ∧
        (g.1.visited e w g.2).scene.state.canvasImage = some first) ∧
    (r₃.visitDue e w (.canvasSave "a.png")).2 = .done "Saved generated image: a.png" ∧
    ∃ canvas parameters path, r₃.scene.state.canvas = some canvas ∧
      e.save r₃.scene.files canvas.image "a.png" parameters =
        ((r₃.visitDue e w (.canvasSave "a.png")).1.files, .ok path) := by
  intro script e w r₀ r₁ r₂ r₃
  have h₀ : r₀.Due w (.prompt "a") := ⟨rfl, rfl, rfl⟩
  have h₁ : r₁.Due w .generate := ⟨rfl, rfl, rfl⟩
  have hcounter : r₂.scene.state.counter = 2 := by decide +kernel
  have h₂ : r₂.Due w .crop := ⟨by decide +kernel, by decide +kernel, by rw [hcounter]; rfl⟩
  have hc : Course e w r₀ [(r₀, .prompt "a"), (r₁, .generate), (r₂, .crop)] r₃ :=
    .cons h₀ (.cons h₁ (.cons h₂ (.nil _)))
  have hfresh : r₃.scene.state.fresh = true := by decide +kernel
  have hdone : (r₃.visitDue e w (.canvasSave "a.png")).2.isDone = true := by decide +kernel
  have htext : (r₃.visitDue e w (.canvasSave "a.png")).2.message =
      "Saved generated image: a.png" := by
    decide +kernel
  have hmessage : (r₃.visitDue e w (.canvasSave "a.png")).2 =
      .done "Saved generated image: a.png" :=
    htext ▸ Engine.Verdict.eq_done hdone
  obtain ⟨horigin, hsave⟩ := canvas_origin hc
  obtain ⟨-, hsaved⟩ := hsave (.canvasSave "a.png") "a.png" rfl hmessage
  exact ⟨horigin hfresh, hmessage, hsaved⟩

end Run

end ImageWorkflow
