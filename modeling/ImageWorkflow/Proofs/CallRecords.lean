import Mathlib
import ImageWorkflow.Proofs.Contacts
import ImageWorkflow.Proofs.Records

/-!
# Records of all images that a provider gave

A run records every image that a call gave, and nothing else, in the order of the calls.
* `Contact.records` : the records of the images that a contact gave, as the call tells them;
* `Engine.visit_images` : a visit adds the records of its contacts, whether it succeeds or not;
* `Session.images_recorded` : the records of a run are those of its transcript.
-/

namespace ImageWorkflow
variable {σ : Type}

/-! ## What the body of a request tells -/

namespace Generation
variable (g : Generation) {name shown : String}

theorem without_always (h : name ≠ "prompt") (value : Json) :
    (g.always name value).without ["prompt"] = g.always name value := by
  simp [Members.without, always, h]

theorem without_whenSet (h : shown ≠ "prompt") (value : Option Json) :
    (g.whenSet name shown value).without ["prompt"] = g.whenSet name shown value := by
  unfold whenSet
  split
  · simp [Members.without, h]
  · rfl

theorem without_unlessEmpty (h : name ≠ "prompt") (value : Json) :
    (g.unlessEmpty name value).without ["prompt"] = g.unlessEmpty name value := by
  unfold unlessEmpty
  dsimp only
  split
  · simp [Members.without, h]
  · rfl

/-- Apart from the prompt, the body of a request has the parameters. -/
theorem without_requestBody (prompt : String) :
    (g.requestBody prompt).without ["prompt"] = g.metadata := by
  have hparameters : g.metadata.without ["prompt"] = g.metadata := by
    have happend (a b : Members) :
        (a ++ b).without ["prompt"] = a.without ["prompt"] ++ b.without ["prompt"] :=
      List.filter_append ..
    simp (disch := simp) only [metadata, happend, without_always, without_whenSet,
      without_unlessEmpty]
  exact (List.filter_cons_of_neg (by simp)).trans hparameters

end Generation

/-- The records of the images that a contact gave, if the instruction at `index` made it. -/
def Contact.records (index : Nat) : Contact → List GeneratedImage
  | .generate call (.ok images) => images.map fun image =>
      { image
        prompt := call.prompt
        negativePrompt := call.parameters.negativePrompt
        parameters := (call.parameters.requestBody call.prompt).without ["prompt"]
        index }
  | _ => []

/-! ## Visits -/

namespace Engine
variable (e : Engine σ) (w : Workflow) (scene : Scene σ) (index : Nat)

/-- The records of the images that requests bring, if the instruction at `index` makes them. -/
def brought (memory : σ) (index : Nat) (requests : List Request) : List GeneratedImage :=
  requests.flatMap fun request => (e.provider.contact memory request).records index

/-- A call tells of its images what the state records of them. -/
theorem records_generateCall (s : RunState) (images : List Image) :
    (Contact.generate (s.fitMask.generateCall e.baseline) (.ok images)).records index =
      s.records e.baseline index images := by
  obtain ⟨mask, hmask⟩ := s.fitMask_eq
  simp only [Contact.records, Generation.without_requestBody, hmask]
  rfl

theorem render_images : (e.render scene index).1.images.map (·.unsaved) =
    scene.images.map (·.unsaved) ++
      e.brought scene.memory index (e.renderRequests scene.state) := by
  unfold render renderRequests
  by_cases hcan : scene.state.canGenerate = true
  · by_cases hfit : scene.state.canFit = true
    · have hbrought (call : GenerateCall) : e.brought scene.memory index [.generate call] =
          (Contact.generate call (e.provider.generate scene.memory call).1.result).records index :=
        List.append_nil _
      rw [if_pos hcan, if_pos hfit, if_pos (Bool.and_eq_true_iff.mpr ⟨hcan, hfit⟩), hbrought]
      dsimp only
      split
      · rename_i hresult
        rw [hresult]
        exact (List.append_nil _).symm
      · rename_i hresult
        rw [hresult]
        exact (List.append_nil _).symm
      · rename_i first rest hresult
        have hmask : scene.state.fitMask.records e.baseline index (first :: rest) =
            scene.state.records e.baseline index (first :: rest) := by
          obtain ⟨mask, hmask⟩ := scene.state.fitMask_eq
          rw [hmask]
          rfl
        rw [hresult, e.records_generateCall, List.map_append, hmask, map_unsaved_records]
    · rw [if_pos hcan, if_neg hfit, if_neg fun h => hfit (Bool.and_eq_true_iff.mp h).2]
      exact (List.append_nil _).symm
  · rw [if_neg hcan, if_neg fun h => hcan (Bool.and_eq_true_iff.mp h).1]
    exact (List.append_nil _).symm

theorem settleSave_images : (e.settleSave scene index).1.images.map (·.unsaved) =
    scene.images.map (·.unsaved) ++
      e.brought scene.memory index (e.saveRequests scene.state) := by
  have hrender := e.render_images scene index
  unfold settleSave saveRequests
  split
  · exact (List.append_nil _).symm
  · split
    · generalize e.render scene index = result at hrender ⊢
      obtain ⟨after, answer⟩ := result
      cases answer <;> exact hrender
    · split <;> exact (List.append_nil _).symm

/-- What becomes of a save after its render does not matter. -/
theorem renderAndSave_images (name : String) :
    (e.renderAndSave scene index name).1.images.map (·.unsaved) =
      scene.images.map (·.unsaved) ++
        e.brought scene.memory index (e.saveRequests scene.state) := by
  rw [← e.settleSave_images scene index]
  unfold renderAndSave
  generalize e.settleSave scene index = result
  obtain ⟨after, answer⟩ := result
  cases answer with
  | error failure => rfl
  | ok source =>
    dsimp only
    split
    · rfl
    · split
      · rfl
      · exact map_unsaved_noteSaved ..

theorem applyTool_images (i : Instruction) (target : ToolTarget) :
    (e.applyTool scene i target).1.images = scene.images := by
  unfold applyTool
  split
  · rfl
  · dsimp only
    split
    · rfl
    · split <;> rfl

theorem conduct_images (i : Instruction) :
    (e.conduct w scene index i).1.images.map (·.unsaved) =
      scene.images.map (·.unsaved) ++
        e.brought scene.memory index (e.requests scene.state i) := by
  obtain hlocal | ⟨target, htarget⟩ | rfl | ⟨name, rfl⟩ | ⟨stem, rfl⟩ := i.carrier_cases
  · rw [conduct_of_isLocal e w scene index hlocal, requests_of_isLocal e hlocal]
    split <;> exact (List.append_nil _).symm
  · have hbrought : e.brought scene.memory index (toolRequests scene.state i) = [] := by
      unfold toolRequests
      split <;> rfl
    rw [conduct_of_tool e w scene index htarget, requests_of_tool e htarget, applyTool_images,
      hbrought, List.append_nil]
  · have hrender := e.render_images scene index
    rw [conduct_generate]
    generalize e.render scene index = result at hrender ⊢
    obtain ⟨after, answer⟩ := result
    cases answer <;> exact hrender
  · exact e.renderAndSave_images scene index name
  · rw [requests_loopSave, conduct_loopSave, RunState.requireFrame]
    cases scene.state.frame? with
    | none => exact (List.append_nil _).symm
    | some frame => exact e.renderAndSave_images scene index _

/-- A visit adds the records of its contacts, whether it succeeds or not. -/
theorem visit_images (i : Instruction) : (e.visit w scene index i).1.images.map (·.unsaved) =
    scene.images.map (·.unsaved) ++ (e.contacts w scene index i).flatMap (·.records index) := by
  rw [contacts_eq, asked_eq, List.flatMap_map]
  by_cases hi : i.kind.support = .unsupported
  · rw [visit, if_pos hi, if_pos hi]
    exact (List.append_nil _).symm
  · have hconduct := e.conduct_images w (atVisit index scene) index i
    rw [visit_of_not_unsupported e w scene index hi, if_neg hi]
    generalize e.conduct w (atVisit index scene) index i = result at hconduct ⊢
    obtain ⟨after, answer⟩ := result
    cases answer <;> exact hconduct

end Engine

/-! ## Runs -/

namespace Run
variable {e : Engine σ} {w : Workflow} {r r' : Run σ} {vs : List (Run σ × Instruction)}

/-- The records of what a visit gets from the provider. -/
def newRecords (e : Engine σ) (w : Workflow) (r : Run σ) (i : Instruction) :
    List GeneratedImage :=
  (r.contacts e w i).flatMap (·.records r.scene.state.counter)

theorem Course.images (h : Course e w r vs r') : r'.scene.images.map (·.unsaved) =
    r.scene.images.map (·.unsaved) ++ vs.flatMap fun v => v.1.newRecords e w v.2 := by
  induction h with
  | nil r => simp
  | @cons r _ i vs _ _ ih =>
    have hvisit : (r.visited e w i).scene.images.map (·.unsaved) =
        r.scene.images.map (·.unsaved) ++ r.newRecords e w i := by
      rw [visited_scene]
      exact e.visit_images w r.scene _ i
    rw [ih, hvisit, List.append_assoc]
    rfl

end Run

/-! ## Sessions -/

namespace Session
variable {s : Session σ} {e : Engine σ} {w : Workflow} {checks : Option Bool} {enforces : Bool}

/-- Unless a run is refused, its records are those of the images that its calls gave, in the order
of the calls: each with the prompt and the parameters of the call, and the index of the visit that
made it.  So it is whether the saves that follow succeed or not, and however the run ends. -/
theorem images_recorded (s : Session σ) (e : Engine σ) (w : Workflow) (checks : Option Bool)
    (enforces : Bool) : s.Refuses e w checks enforces ∨
      ∃ vs stopped, s.Carries e w checks enforces vs stopped ∧
        s.contacts e w checks enforces =
          s.firstContacts e w checks ++ vs.flatMap (fun v => v.1.contacts e w v.2) ∧
        stopped.scene.images.map (·.unsaved) = vs.flatMap (fun v =>
          (v.1.contacts e w v.2).flatMap (·.records v.1.scene.state.counter)) ∧
        ∀ r, (s.run e w checks enforces).2 = .ok r →
          (r.report w).images = stopped.scene.images := by
  obtain ⟨hrefuses, -⟩ | ⟨vs, stopped, hcarries, hcontacts⟩ := s.contacts_cases e w checks enforces
  · exact .inl hrefuses
  obtain ⟨last, hc, hscene⟩ := hcarries.visits.exists_course
  refine .inr ⟨vs, stopped, hcarries, hcontacts, ?_, fun r hr => ?_⟩
  · rw [hscene, hc.images]
    rfl
  · obtain ⟨-, -, -, -, rfl⟩ := hcarries.ends hr
    rfl

end Session

end ImageWorkflow
