import Mathlib
import ImageWorkflow.Proofs.CallShape
import ImageWorkflow.Proofs.Records

/-!
# Saves that fail

A save changes the state before it writes; what it changed stays when it cannot write.
* `Run.RendersInVain` : a save renders and then fails; `Run.mask_fits` : mask and canvas have one
  size after every visit, unless there was such a save since the last visit that succeeded;
* `Run.save_as_it_is`, `Run.save_renders` : what a save comes to that succeeds;
* `Run.failed_save` : an image that waits is not lost by a save that fails, but waits no longer,
  unless the save was refused.
-/

namespace ImageWorkflow
variable {σ : Type}

/-! ## Parts of a visit -/

namespace Engine
variable (e : Engine σ) (w : Workflow) (scene : Scene σ) (index : Nat) {failure : VisitFailure}

theorem visit_maskFits_of_isDone {i : Instruction} (h : (e.visit w scene index i).2.isDone = true) :
    (e.visit w scene index i).1.state.MaskFits := by
  by_cases hi : i.kind.support = .unsupported
  · rw [visit, if_pos hi] at h
    cases h
  · rw [visit_of_not_unsupported e w scene index hi] at h ⊢
    generalize e.conduct w (atVisit index scene) index i = result at h ⊢
    obtain ⟨after, answer⟩ := result
    cases answer with
    | error failure => cases h
    | ok message => exact after.state.maskFits_fitMask

/-- The mask fits once it is settled what is saved, unless this is a new image. -/
theorem settleSave_maskFits (hfits : scene.state.MaskFits) :
    (e.settleSave scene index).1.state.MaskFits ∨
      ∃ mode, (e.settleSave scene index).2 = .ok (.rendered mode) := by
  obtain ⟨-, -, hstate, -⟩ | ⟨-, ⟨mask, failure, -, hresult⟩ | ⟨canvas, mask, mode, -, hresult⟩ |
    ⟨-, -, hstate, -⟩⟩ := settleSave_cases e scene index
  · rw [hstate]
    exact .inl (hfits.congr rfl rfl)
  · rw [(e.settleSave_undone scene index hresult).state_eq hfits]
    exact .inl hfits
  · exact .inr ⟨mode, hresult⟩
  · rw [hstate]
    exact .inl hfits

/-- An image that waits no longer does so, although it could not be written. -/
theorem renderAndSave_of_waits {name : String} (hfresh : scene.state.fresh = true)
    (hcanvas : scene.state.canvas.isSome = true)
    (h : (e.renderAndSave scene index name).2 = .error failure) : failure.ofWriting = true ∧
      ∃ files, (e.renderAndSave scene index name).1 =
        { scene with state.fresh := false, files } := by
  have hsettled : e.settleSave scene index =
      ({ scene with state.fresh := false }, .ok .pending) := by
    unfold settleSave
    rw [hfresh, hcanvas]
    rfl
  obtain ⟨canvas, hcanvas⟩ := Option.isSome_iff_exists.mp hcanvas
  unfold renderAndSave at h ⊢
  rw [hsettled] at h ⊢
  dsimp only at h ⊢
  rw [hcanvas] at h ⊢
  dsimp only at h ⊢
  split
  · rename_i files failure' hsave
    rw [hsave] at h
    cases h
    exact ⟨save_ofWriting e (congrArg Prod.snd hsave), files, rfl⟩
  · rename_i hsave
    rw [hsave] at h
    cases h

end Engine

namespace Run
variable {e : Engine σ} {w : Workflow} {r q : Run σ} {i i' : Instruction}
  {us ms : List (Run σ × Instruction)}

/-! ## The mask -/

/-- A save renders an image and then fails: the canvas is the new image, but the mask has the size
of the old one. -/
structure RendersInVain (e : Engine σ) (w : Workflow) (u : Run σ × Instruction) : Prop where
  save : u.2.isSave = true
  failed : ¬ Succeeds e w u
  rendered : ∃ call first rest, u.1.asked e w u.2 = [.generate call] ∧
    (e.provider.generate u.1.scene.memory call).1.result = .ok (first :: rest) ∧
    (u.1.visited e w u.2).scene.state.canvasImage = some first

theorem visited_maskFits_of_isSave {failure : VisitFailure} (hi : i.isSave = true)
    (h : (r.visitDue e w i).2 = .failed failure) (hfits : r.scene.state.MaskFits) :
    (r.visited e w i).scene.state.MaskFits ∨ RendersInVain e w (r, i) := by
  have hfits : (Engine.atVisit r.scene.state.counter r.scene).state.MaskFits := hfits.congr rfl rfl
  have hconduct := e.conduct_of_failed w r.scene _ h
  rcases e.save_cases w (Engine.atVisit r.scene.state.counter r.scene) r.scene.state.counter hi with
    ⟨hrefused, -⟩ | ⟨name, hname, hrequests⟩
  · rw [hrefused] at hconduct
    rw [visited_scene, visitDue, ← congrArg Prod.fst hconduct]
    exact .inl hfits
  · -- the visit leaves the state in which it was settled what is saved
    have hstate : (r.visited e w i).scene.state =
        (e.settleSave (Engine.atVisit r.scene.state.counter r.scene)
          r.scene.state.counter).1.state := by
      rw [← e.renderAndSave_state _ _ name, ← hname, hconduct, visited_scene]
      rfl
    rcases e.settleSave_maskFits _ r.scene.state.counter hfits with hsettled | ⟨mode, hmode⟩
    · rw [hstate]
      exact .inl hsettled
    · rcases e.settleSave_eq_ok _ _ hmode with
        ⟨-, -, ⟨hsource, -⟩ | ⟨hsource, -⟩⟩ | ⟨call, first, rest, hasked, -, hresult, hcanvas⟩
      · cases hsource
      · cases hsource
      · refine .inr ⟨hi, ?_, call, first, rest, ?_, hresult, ?_⟩
        · unfold Succeeds
          rw [h]
          exact Bool.false_ne_true
        · rw [asked_eq_requests hi, hrequests, hasked]
        · rw [hstate, hcanvas]

theorem visited_maskFits (hfits : r.scene.state.MaskFits) :
    (r.visited e w i).scene.state.MaskFits ∨ RendersInVain e w (r, i) := by
  by_cases hdone : Succeeds e w (r, i)
  · rw [visited_scene]
    exact .inl (e.visit_maskFits_of_isDone w r.scene _ hdone)
  have hbegun : (Engine.atVisit r.scene.state.counter r.scene).state.MaskFits := hfits.congr rfl rfl
  rcases e.visit_of_not_isDone w r.scene _ (Bool.not_eq_true _ ▸ hdone) with
    hpassed | ⟨failure, hverdict⟩
  · rw [visited_scene, visitDue, hpassed]
    exact .inl hbegun
  by_cases hi : i.isSave = true
  · exact visited_maskFits_of_isSave hi hverdict hfits
  · have hconduct := e.conduct_of_failed w r.scene _ hverdict
    have hundone := e.conduct_undone w (Engine.atVisit r.scene.state.counter r.scene) _
      (fun h => absurd h hi) (congrArg Prod.snd hconduct)
    rw [hconduct] at hundone
    rw [visited_scene, visitDue, hundone.state_eq hbegun]
    exact .inl hbegun

/-- Mask and canvas have one size in every state of a run, unless since the last visit that
succeeded a save rendered an image and failed. -/
theorem mask_fits {connected : Bool} {interruption : Option Interruption} {files : FileTree}
    {memory : σ} (hc : Course e w (start e connected interruption files memory) us r) :
    r.scene.state.MaskFits ∨ ∃ as v ms, us = as ++ v :: ms ∧ RendersInVain e w v ∧
      ∀ m ∈ ms, ¬ Succeeds e w m := by
  refine hc.induction_on_last (P := fun us q => q.scene.state.MaskFits ∨ ∃ as v ms,
    us = as ++ v :: ms ∧ RendersInVain e w v ∧ ∀ m ∈ ms, ¬ Succeeds e w m)
    (.inl fun _ _ hmask => by cases hmask) fun us q i _ _ ih => ?_
  by_cases hdone : Succeeds e w (q, i)
  · rw [visited_scene]
    exact .inl (e.visit_maskFits_of_isDone w q.scene _ hdone)
  rcases ih with hfits | ⟨as, v, ms, rfl, hvain, hms⟩
  · rcases visited_maskFits (i := i) hfits with hfits | hvain
    · exact .inl hfits
    · exact .inr ⟨us, (q, i), [], rfl, hvain, List.forall_mem_nil _⟩
  · refine .inr ⟨as, v, ms ++ [(q, i)], by simp, hvain, ?_⟩
    exact List.forall_mem_append.mpr ⟨hms, List.forall_mem_singleton.mpr hdone⟩

/-- The size of the mask is not that of the canvas: the last save rendered an image that it could
not write. -/
theorem mask_misfits :
    let script : Script := { steps := [{ images := .inl [Image.solid .rgb 1 1 {}] },
      { images := .inl [Image.solid .rgb 2 1 {}] }] }
    let w : Workflow := [.prompt "a", .canvasSave "a.png", .maskGet, .canvasSave ""]
    ∃ r, (rehearsalSession.run (rehearsalEngine script) w).2 = .ok r ∧
      r.entries.head?.map (fun entry => (entry.outcome, entry.message)) =
        some (.failed, "Empty path") ∧
      r.scene.state.mask.map Image.size = some (1, 1) ∧
      r.scene.state.canvasImage.map Image.size = some (2, 1) ∧ ¬ r.scene.state.MaskFits := by
  intro script w
  have h : (rehearsalSession.run (rehearsalEngine script) w).2 = .ok _ :=
    Session.run_of_ending (by decide) rfl rfl (by decide +kernel)
  exact ⟨_, h, by decide +kernel, by decide +kernel, by decide +kernel, by decide +kernel⟩

/-- The same save, and a visit after it that succeeds: the mask fits again. -/
theorem mask_fits_again :
    let script : Script := { steps := [{ images := .inl [Image.solid .rgb 1 1 {}] },
      { images := .inl [Image.solid .rgb 2 1 {}] }] }
    let e := rehearsalEngine script
    let w : Workflow := [.prompt "a", .canvasSave "a.png", .maskGet, .canvasSave "", .prompt "b"]
    let r₀ := start e true none ⟨[]⟩ {}
    let r₁ := r₀.visited e w (.prompt "a")
    let r₂ := r₁.visited e w (.canvasSave "a.png")
    let r₃ := r₂.visited e w .maskGet
    let r₄ := r₃.visited e w (.canvasSave "")
    let r₅ := r₄.visited e w (.prompt "b")
    Course e w r₀ [(r₀, .prompt "a"), (r₁, .canvasSave "a.png"), (r₂, .maskGet),
        (r₃, .canvasSave ""), (r₄, .prompt "b")] r₅ ∧
      Succeeds e w (r₄, .prompt "b") ∧ r₅.scene.state.mask.map Image.size = some (2, 1) ∧
      r₅.scene.state.MaskFits := by
  intro script e w r₀ r₁ r₂ r₃ r₄ r₅
  have h₀ : r₀.Due w (.prompt "a") := ⟨rfl, rfl, rfl⟩
  have h₁ : r₁.Due w (.canvasSave "a.png") := ⟨rfl, rfl, rfl⟩
  have hcounter₂ : r₂.scene.state.counter = 2 := by decide +kernel
  have h₂ : r₂.Due w .maskGet :=
    ⟨by decide +kernel, by decide +kernel, by rw [hcounter₂]; rfl⟩
  have hcounter₃ : r₃.scene.state.counter = 3 := by decide +kernel
  have h₃ : r₃.Due w (.canvasSave "") :=
    ⟨by decide +kernel, by decide +kernel, by rw [hcounter₃]; rfl⟩
  have hcounter₄ : r₄.scene.state.counter = 4 := by decide +kernel
  have h₄ : r₄.Due w (.prompt "b") :=
    ⟨by decide +kernel, by decide +kernel, by rw [hcounter₄]; rfl⟩
  have hc : Course e w r₀ _ r₅ :=
    .cons h₀ (.cons h₁ (.cons h₂ (.cons h₃ (.cons h₄ (.nil _)))))
  have hdone : Succeeds e w (r₄, .prompt "b") := rfl
  refine ⟨hc, hdone, by decide +kernel, ?_⟩
  rcases mask_fits hc with hfits | ⟨as, v, ms, hus, hvain, hms⟩
  · exact hfits
  · -- the visit that succeeds is the last one
    have hlast : (r₄, .prompt "b") ∈ v :: ms := by
      have hend : some (r₄, .prompt "b") = (as ++ v :: ms).getLast? := congrArg List.getLast? hus
      rw [List.getLast?_append, List.getLast?_cons, Option.some_or, ← List.getLast?_cons] at hend
      exact List.mem_of_getLast? hend.symm
    rcases List.mem_cons.mp hlast with rfl | hlast
    · exact absurd hdone hvain.failed
    · exact absurd hdone (hms _ hlast)

/-! ## The image that waits -/

/-- The visit leaves the canvas as it was, and whether a generated image waits. -/
def LeavesEasel (e : Engine σ) (w : Workflow) (u : Run σ × Instruction) : Prop :=
  (u.1.visited e w u.2).scene.state.easel = u.1.scene.state.easel

theorem Course.easel_eq (h : Course e w r ms q) (hms : ∀ m ∈ ms, LeavesEasel e w m) :
    q.scene.state.easel = r.scene.state.easel := by
  induction h with
  | nil r => rfl
  | cons _ _ ih =>
    obtain ⟨hm, hms⟩ := List.forall_mem_cons.mp hms
    exact (ih hms).trans hm

/-- A save writes an image without a call, and its message calls the image by a word. -/
structure Saves (e : Engine σ) (w : Workflow) (u : Run σ × Instruction) (word : String)
    (image : Image) : Prop where
  asked : u.1.asked e w u.2 = []
  written : ∃ name path, (u.1.visitDue e w u.2).2 = .done s!"Saved {word} image: {name}" ∧
    e.save u.1.scene.files image name
        (e.saveParameters u.1.scene.state u.1.scene.state.counter) =
      ((u.1.visited e w u.2).scene.files, .ok path)

/-- A save takes an image that waits, or without a prompt any canvas, as it is. -/
theorem save_as_it_is {canvas : Canvas} (hi : i.isSave = true) (h : Succeeds e w (r, i))
    (hcanvas : r.scene.state.canvas = some canvas)
    (hdue : r.scene.state.fresh = true ∨ r.scene.state.hasPrompt = false) :
    Saves e w (r, i) (if r.scene.state.fresh then "generated" else "canvas") canvas.image := by
  have hnone : e.saveRequests (Engine.atVisit r.scene.state.counter r.scene).state = [] := by
    have hsome : r.scene.state.canvas.isSome = true := by
      rw [hcanvas]
      rfl
    unfold Engine.saveRequests
    rcases hdue with hfresh | hprompt
    · exact if_pos (Bool.and_eq_true_iff.mpr ⟨hfresh, hsome⟩)
    · split
      · rfl
      · exact if_neg (Bool.not_eq_true _ ▸ hprompt)
  have hdone := Engine.Verdict.eq_done h
  obtain ⟨name, hsaved, hfiles⟩ := e.visit_of_isSave w r.scene _ hi hdone
  obtain ⟨source, canvas', path, hsource, hcanvas', hsave, -, hmessage⟩ :=
    e.renderAndSave_eq_ok _ _ hsaved
  rcases e.settleSave_eq_ok _ _ hsource with
    ⟨-, hsame, hcases⟩ | ⟨call, first, rest, hrequests, -⟩
  · obtain rfl : canvas' = canvas :=
      Option.some.inj (hcanvas'.symm.trans (hsame.trans hcanvas))
    have hword : source.word = if r.scene.state.fresh then "generated" else "canvas" := by
      rcases hcases with ⟨rfl, hfresh⟩ | ⟨rfl, hfresh⟩
      · exact (if_pos hfresh).symm
      · exact (if_neg (Bool.not_eq_true _ ▸ hfresh)).symm
    rw [e.settleSave_files, e.saveParameters_settleSave, ← hfiles] at hsave
    rw [← hword]
    refine ⟨(asked_of_isSave hi h).trans hnone, name, path, ?_, ?_⟩
    · rw [← hmessage]
      exact hdone
    · rw [visited_scene]
      exact hsave
  · rw [hnone] at hrequests
    cases hrequests

/-- With a prompt in force and no image waiting, a save makes a call from the canvas. -/
theorem save_renders {canvas : Canvas} (hi : i.isSave = true) (h : Succeeds e w (r, i))
    (hcanvas : r.scene.state.canvas = some canvas) (hfresh : r.scene.state.fresh = false)
    (hprompt : r.scene.state.hasPrompt = true) :
    ∃ call, r.asked e w i = [.generate call] ∧ call.source = some canvas.image := by
  obtain ⟨call, hasked⟩ :=
    exists_asked_of_isSave hi h hprompt (by rw [hfresh, Bool.false_and])
  obtain ⟨-, hsource, -⟩ :=
    wellFormed_of_mem_asked (hasked ▸ List.mem_singleton_self (Request.generate call))
  refine ⟨call, hasked, ?_⟩
  rw [hsource, RunState.canvasImage, hcanvas]
  rfl

/-- What a save that fails does to an image that waits: the canvas and the records stay as they are,
and nothing is asked of the provider, but the image waits no longer, unless the save was refused
for want of a loop. -/
theorem visited_of_failed_save {failure : VisitFailure} (hi : i.isSave = true)
    (hfresh : r.scene.state.fresh = true) (hsome : r.scene.state.canvas.isSome = true)
    (h : (r.visitDue e w i).2 = .failed failure) :
    (r.visited e w i).scene.state.canvas = r.scene.state.canvas ∧
      (r.visited e w i).scene.images = r.scene.images ∧ r.asked e w i = [] ∧
      ((r.visited e w i).scene.state.fresh = true ↔ failure = .fault (.needsLoop .loopSave)) := by
  have hconduct := e.conduct_of_failed w r.scene _ h
  rw [asked_eq_requests hi]
  rcases e.save_cases w (Engine.atVisit r.scene.state.counter r.scene) r.scene.state.counter hi with
    ⟨hrefused, hrequests⟩ | ⟨name, hname, hrequests⟩
  · rw [hrefused] at hconduct
    rw [visited_scene, visitDue, ← congrArg Prod.fst hconduct]
    refine ⟨rfl, rfl, hrequests, fun _ => ?_, fun _ => hfresh⟩
    exact (Except.error.inj (congrArg Prod.snd hconduct)).symm
  · rw [hname] at hconduct
    obtain ⟨hwriting, files, hafter⟩ :=
      e.renderAndSave_of_waits (Engine.atVisit r.scene.state.counter r.scene) _ hfresh hsome
        (congrArg Prod.snd hconduct)
    rw [hconduct] at hafter
    have hafter : (r.visited e w i).scene = _ := visited_scene.trans hafter
    have hnone : e.saveRequests (Engine.atVisit r.scene.state.counter r.scene).state = [] :=
      if_pos (Bool.and_eq_true_iff.mpr ⟨hfresh, hsome⟩)
    rw [hafter]
    refine ⟨rfl, rfl, hrequests.trans hnone, fun hfresh => ?_, ?_⟩
    · cases hfresh
    · rintro rfl
      cases hwriting

/-- A save that fails while an image waits keeps the image on the canvas, but only if it was refused
for want of a loop does the image wait for the next save.  This writes just that image, as a
generated one if it waited, as the canvas if it did not and there is no prompt; with a prompt it
makes another call, with the image as its source. -/
theorem failed_save {canvas : Canvas} {failure : VisitFailure} (hi : i.isSave = true)
    (hfresh : r.scene.state.fresh = true) (hcanvas : r.scene.state.canvas = some canvas)
    (h : (r.visitDue e w i).2 = .failed failure) :
    (r.visited e w i).scene.state.canvas = some canvas ∧
      (r.visited e w i).scene.images = r.scene.images ∧ r.asked e w i = [] ∧
      ((r.visited e w i).scene.state.fresh = true ↔ failure = .fault (.needsLoop .loopSave)) ∧
      ∀ ms q i', Course e w (r.visited e w i) ms q → (∀ m ∈ ms, LeavesEasel e w m) →
        i'.isSave = true → Succeeds e w (q, i') →
        (failure = .fault (.needsLoop .loopSave) →
          Saves e w (q, i') "generated" canvas.image) ∧
        (failure ≠ .fault (.needsLoop .loopSave) → q.scene.state.hasPrompt = false →
          Saves e w (q, i') "canvas" canvas.image) ∧
        (failure ≠ .fault (.needsLoop .loopSave) → q.scene.state.hasPrompt = true →
          ∃ call, q.asked e w i' = [.generate call] ∧ call.source = some canvas.image) := by
  have hsome : r.scene.state.canvas.isSome = true := by
    rw [hcanvas]
    rfl
  obtain ⟨hkept, himages, hasked, hwaits⟩ := visited_of_failed_save hi hfresh hsome h
  rw [hcanvas] at hkept
  refine ⟨hkept, himages, hasked, hwaits, fun ms q i' hc hms hi' hdone => ?_⟩
  -- the visits in between leave canvas and mark as the failed save left them
  have heasel := hc.easel_eq hms
  have hcanvas' : q.scene.state.canvas = some canvas := (congrArg Easel.canvas heasel).trans hkept
  have hwaits' : q.scene.state.fresh = true ↔ failure = .fault (.needsLoop .loopSave) := by
    rw [← hwaits]
    exact Eq.congr_left (congrArg Easel.fresh heasel)
  refine ⟨fun hrefused => ?_, fun hfailure hprompt => ?_, fun hfailure hprompt => ?_⟩
  · have hfresh' := hwaits'.mpr hrefused
    have hsaves := save_as_it_is hi' hdone hcanvas' (.inl hfresh')
    rwa [if_pos hfresh'] at hsaves
  · have hfresh' := mt hwaits'.mp hfailure
    have hsaves := save_as_it_is hi' hdone hcanvas' (.inr hprompt)
    rwa [if_neg hfresh'] at hsaves
  · have hfresh' := mt hwaits'.mp hfailure
    exact save_renders hi' hdone hcanvas' (Bool.not_eq_true _ ▸ hfresh') hprompt

/-- A save outside of any loop is refused, and the next save writes the image that waits. -/
theorem failed_save_refused :
    let script : Script := { steps := [{ images := .inl [Image.solid .rgb 1 1 {}] }] }
    let e := rehearsalEngine script
    let w : Workflow := [.prompt "a", .generate, .loopSave "v_", .canvasSave "a.png"]
    let r₀ := start e true none ⟨[]⟩ {}
    let r₁ := r₀.visited e w (.prompt "a")
    let r₂ := r₁.visited e w .generate
    let r₃ := r₂.visited e w (.loopSave "v_")
    (r₂.visitDue e w (.loopSave "v_")).2 = .failed (.fault (.needsLoop .loopSave)) ∧
      ∃ canvas, r₂.scene.state.canvas = some canvas ∧
        Saves e w (r₃, .canvasSave "a.png") "generated" canvas.image := by
  intro script e w r₀ r₁ r₂ r₃
  have hloops : r₂.scene.state.loops = [] := by decide +kernel
  have hverdict : (r₂.visitDue e w (.loopSave "v_")).2 = .failed (.fault (.needsLoop .loopSave)) :=
    (visit_needsLoop_iff e w r₂.scene _ rfl).mpr hloops
  have hfresh : r₂.scene.state.fresh = true := by decide +kernel
  have hsome : r₂.scene.state.canvas.isSome = true := by decide +kernel
  have hdone : Succeeds e w (r₃, .canvasSave "a.png") := by
    unfold Succeeds
    decide +kernel
  obtain ⟨canvas, hcanvas⟩ := Option.isSome_iff_exists.mp hsome
  obtain ⟨-, -, -, -, hnext⟩ := failed_save rfl hfresh hcanvas hverdict
  have hsaves := hnext [] r₃ (.canvasSave "a.png") (.nil r₃) (List.forall_mem_nil _) rfl hdone
  exact ⟨hverdict, canvas, hcanvas, hsaves.1 rfl⟩

/-- A generated image is lost: after a save under no name the next one renders another image, which
replaces it. -/
theorem failed_save_loses_image :
    let script : Script := { steps := [{ images := .inl [Image.solid .rgb 1 1 {}] }] }
    let w : Workflow := [.prompt "a", .generate, .canvasSave "", .canvasSave "a.png"]
    ∃ r, (rehearsalSession.run (rehearsalEngine script) w).2 = .ok r ∧
      r.entries.map (fun entry => (entry.outcome, entry.message)) =
        [(.executed, "Saved img2img image: a.png"), (.failed, "Empty path"),
          (.executed, "Generated 1 image(s) via txt2img"), (.executed, "Prompt set")] ∧
      r.scene.memory.generated = 2 ∧ r.scene.images.map (·.savedAt.isSome) = [false, true] := by
  intro script w
  have h : (rehearsalSession.run (rehearsalEngine script) w).2 = .ok _ :=
    Session.run_of_ending (by decide) rfl rfl (by decide +kernel)
  exact ⟨_, h, by decide +kernel, by decide +kernel, by decide +kernel⟩

end Run

end ImageWorkflow
