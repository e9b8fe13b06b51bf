import Mathlib
import ImageWorkflow.Proofs.Course
import ImageWorkflow.Proofs.Effects

/-!
# Visits that come to nothing

A visit has nothing to take back when it fails: it changes nothing before the last point at which it
can fail, but for the mask, which is fitted to the canvas before a render.
* `RunState.MaskFits` : mask and canvas have one size; then fitting the mask does nothing;
* `Scene.Undone` : images, files and state are as they were, but for a fitted mask;
* `Engine.render_undone`, `Engine.settleSave_undone`, `Engine.applyTool_undone`,
  `Engine.conduct_undone` : what the parts of a visit leave when they fail;
* `Engine.visit_undone` : what a visit leaves that fails, is interrupted or is passed over.  Saves
  are another matter once something is there to be written.
-/

namespace ImageWorkflow
variable {σ : Type}

/-! ## Masks that fit -/

namespace RunState
variable {s s' : RunState}

/-- Mask and canvas, if there are both, have one size. -/
def MaskFits (s : RunState) : Prop :=
  ∀ mask canvas, s.mask = some mask → s.canvas = some canvas → mask.size = canvas.image.size

instance (s : RunState) : Decidable s.MaskFits :=
  match hmask : s.mask, hcanvas : s.canvas with
  | some mask, some canvas => decidable_of_iff (mask.size = canvas.image.size) <| by
    simp [MaskFits, hmask, hcanvas]
  | none, _ => .isTrue fun _ _ h => by simp [hmask] at h
  | some _, none => .isTrue fun _ _ _ h => by simp [hcanvas] at h

theorem MaskFits.congr (h : s.MaskFits) (hmask : s'.mask = s.mask)
    (hcanvas : s'.canvas = s.canvas) : s'.MaskFits := by
  intro mask canvas hm hc
  rw [hmask] at hm
  rw [hcanvas] at hc
  exact h mask canvas hm hc

theorem fitMask_of_some {mask : Image} {canvas : Canvas} (hmask : s.mask = some mask)
    (hcanvas : s.canvas = some canvas) :
    s.fitMask = { s with mask := some (mask.resize canvas.image.width canvas.image.height) } := by
  unfold fitMask
  rw [hmask, hcanvas]
  dsimp only
  by_cases hsize : mask.size = canvas.image.size
  · obtain ⟨hwidth, hheight⟩ := Prod.mk.inj hsize
    rw [if_pos hsize, Image.resize, if_pos ⟨hwidth, hheight⟩, ← hmask, ← hcanvas]
  · rw [if_neg hsize, ← hcanvas]

theorem maskFits_fitMask (s : RunState) : s.fitMask.MaskFits := by
  intro mask canvas hmask hcanvas
  cases hbefore : s.mask with
  | none => simp [fitMask, hbefore] at hmask
  | some before =>
    cases honto : s.canvas with
    | none => simp [fitMask, hbefore, honto] at hcanvas
    | some onto =>
      rw [fitMask_of_some hbefore honto] at hmask hcanvas
      obtain rfl : onto = canvas := Option.some.inj (honto.symm.trans hcanvas)
      obtain rfl := Option.some.inj hmask
      exact Image.size_resize ..

theorem MaskFits.fitMask (h : s.MaskFits) : s.fitMask = s := by
  unfold RunState.fitMask
  split
  · rename_i mask canvas hmask hcanvas
    exact if_pos (h mask canvas hmask hcanvas)
  · rfl

theorem MaskFits.canFit (h : s.MaskFits) : s.canFit = true := by
  unfold RunState.canFit
  split
  · rename_i mask canvas hmask hcanvas
    simp [h mask canvas hmask hcanvas]
  · rfl

end RunState

/-- An instruction that the state carries out itself does not break the run if it leaves a mask that
fits. -/
theorem Engine.breaks_of_isLocal (e : Engine σ) (w : Workflow) (scene : Scene σ) (index : Nat)
    {i : Instruction} (hi : i.isLocal = true)
    (hfits : ∀ s message,
      (atVisit index scene).state.perform w e.workingDirectory scene.files index i =
        .ok (s, message) → s.MaskFits) : e.breaks w scene index i = false := by
  by_contra hbreaks
  obtain ⟨-, after, message, hconduct, hfit⟩ :=
    (e.breaks_iff w scene index).mp (Bool.not_eq_false _ ▸ hbreaks)
  rw [conduct_of_isLocal e w _ index hi] at hconduct
  split at hconduct
  · rename_i s _ hperform
    cases hconduct
    simp [(hfits s message hperform).canFit] at hfit
  · cases hconduct

/-! ## What failures leave -/

/-- Nothing but the mask is other than before, and that only if it was fitted to the canvas. -/
structure Scene.Undone (before after : Scene σ) : Prop where
  state : after.state = before.state ∨ after.state = before.state.fitMask
  images : after.images = before.images
  files : after.files = before.files

namespace Scene
variable {before after : Scene σ}

theorem Undone.refl (scene : Scene σ) : Undone scene scene := ⟨.inl rfl, rfl, rfl⟩

theorem Undone.state_eq (h : Undone before after) (hfits : before.state.MaskFits) :
    after.state = before.state := by
  rcases h.state with hstate | hstate
  · exact hstate
  · rw [hstate, hfits.fitMask]

end Scene

namespace Engine
variable (e : Engine σ) (w : Workflow) (scene : Scene σ) (index : Nat) {failure : VisitFailure}

theorem render_undone (h : (e.render scene index).2 = .error failure) :
    Scene.Undone scene (e.render scene index).1 := by
  unfold render at h ⊢
  by_cases hcan : scene.state.canGenerate = true
  · rw [if_pos hcan] at h ⊢
    by_cases hfit : scene.state.canFit = true
    · rw [if_pos hfit] at h ⊢
      dsimp only at h ⊢
      split
      · exact ⟨.inr rfl, rfl, rfl⟩
      · exact ⟨.inr rfl, rfl, rfl⟩
      · rename_i hresult
        rw [hresult] at h
        cases h
    · rw [if_neg hfit]
      exact .refl scene
  · rw [if_neg hcan]
    exact .refl scene

/-- As long as nothing is there to be written, a save has changed nothing. -/
theorem settleSave_undone (h : (e.settleSave scene index).2 = .error failure) :
    Scene.Undone scene (e.settleSave scene index).1 := by
  have hrender (failure : VisitFailure) (hfailed : (e.render scene index).2 = .error failure) :
      Scene.Undone scene (e.render scene index).1 := e.render_undone scene index hfailed
  unfold settleSave at h ⊢
  by_cases hwaits : (scene.state.fresh && scene.state.canvas.isSome) = true
  · rw [if_pos hwaits] at h
    cases h
  rw [if_neg hwaits] at h ⊢
  by_cases hprompt : scene.state.hasPrompt = true
  · rw [if_pos hprompt] at h ⊢
    generalize e.render scene index = result at h hrender ⊢
    obtain ⟨after, answer⟩ := result
    cases answer with
    | ok => cases h
    | error failure => exact hrender failure rfl
  · rw [if_neg hprompt] at h ⊢
    by_cases hcanvas : scene.state.canvas.isSome = true
    · rw [if_pos hcanvas] at h
      cases h
    · rw [if_neg hcanvas]
      exact .refl scene

theorem renderAndSave_undone (name : String) (h : (e.settleSave scene index).2 = .error failure) :
    Scene.Undone scene (e.renderAndSave scene index name).1 := by
  have hsettled := e.settleSave_undone scene index h
  unfold renderAndSave
  generalize e.settleSave scene index = result at h hsettled ⊢
  obtain ⟨after, answer⟩ := result
  cases h
  exact hsettled

theorem applyTool_undone {i : Instruction} {target : ToolTarget}
    (h : (e.applyTool scene i target).2 = .error failure) :
    Scene.Undone scene (e.applyTool scene i target).1 := by
  unfold applyTool at h ⊢
  split
  · exact .refl scene
  · rename_i image hcanvas
    rw [hcanvas] at h
    dsimp only at h ⊢
    split
    · exact ⟨.inl rfl, rfl, rfl⟩
    · rename_i answer hanswer
      rw [hanswer] at h
      dsimp only at h
      split
      · exact ⟨.inl rfl, rfl, rfl⟩
      · rename_i hreceive
        rw [hreceive] at h
        cases h

/-- An instruction that fails leaves nothing behind; a save does so unless it fails in writing. -/
theorem conduct_undone {i : Instruction} (hi : i.isSave = true → failure.ofWriting = false)
    (h : (e.conduct w scene index i).2 = .error failure) :
    Scene.Undone scene (e.conduct w scene index i).1 := by
  have hsave (name : String) (hwriting : failure.ofWriting = false)
      (hname : (e.renderAndSave scene index name).2 = .error failure) :
      Scene.Undone scene (e.renderAndSave scene index name).1 := by
    rcases e.renderAndSave_eq_error scene index hname with hsettled | hwritten
    · exact e.renderAndSave_undone scene index name hsettled
    · rw [hwriting] at hwritten
      cases hwritten
  obtain hlocal | ⟨target, htarget⟩ | rfl | ⟨name, rfl⟩ | ⟨stem, rfl⟩ := i.carrier_cases
  · rw [conduct_of_isLocal e w scene index hlocal] at h ⊢
    split
    · rename_i hperform
      rw [hperform] at h
      cases h
    · exact .refl scene
  · rw [conduct_of_tool e w scene index htarget] at h ⊢
    exact e.applyTool_undone scene h
  · have hrender := (conduct_generate_eq_error_iff e w scene index).mp h
    rw [conduct_generate_of_error e w scene index hrender]
    exact e.render_undone scene index hrender
  · exact hsave name (hi rfl) h
  · rw [conduct_loopSave] at h ⊢
    split
    · rename_i hframe
      rw [hframe] at h
      exact hsave _ (hi rfl) h
    · exact .refl scene

/-! ## Visits -/

/-- A visit fails as its instruction does, and leaves what that left. -/
theorem conduct_of_failed {i : Instruction} (h : (e.visit w scene index i).2 = .failed failure) :
    e.conduct w (atVisit index scene) index i =
      ((e.visit w scene index i).1, .error failure) := by
  by_cases hi : i.kind.support = .unsupported
  · rw [visit, if_pos hi] at h
    cases h
  · rw [visit_of_not_unsupported e w scene index hi] at h ⊢
    generalize e.conduct w (atVisit index scene) index i = result at h ⊢
    obtain ⟨after, answer⟩ := result
    cases answer <;> cases h
    rfl

/-- A visit that does not succeed was passed over, or its instruction failed. -/
theorem visit_of_not_isDone {i : Instruction} (h : (e.visit w scene index i).2.isDone = false) :
    (e.visit w scene index i).1 = atVisit index scene ∨
      ∃ failure, (e.visit w scene index i).2 = .failed failure := by
  cases hverdict : (e.visit w scene index i).2 with
  | done message =>
    rw [hverdict] at h
    cases h
  | failed failure => exact .inr ⟨failure, rfl⟩
  | passedOver reason =>
    by_cases hi : i.kind.support = .unsupported
    · rw [visit, if_pos hi]
      exact .inl rfl
    · rw [visit_of_not_unsupported e w scene index hi] at hverdict
      split at hverdict <;> cases hverdict

end Engine

end ImageWorkflow
