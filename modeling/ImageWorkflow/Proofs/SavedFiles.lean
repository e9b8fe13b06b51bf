import Mathlib
import ImageWorkflow.Proofs.Freshness
import ImageWorkflow.Proofs.Interruption
import ImageWorkflow.Proofs.Records

/-!
# Which saved files a report lists

A report lists the files of its records.  A save notes its file in the record of the image on the
canvas, as long as the canvas is known to be one of the recorded images.
* `Ledger` : the records with their files, and what of the state says where a save notes its file;
  `Ledger.Step` : what a visit can do to them (`Engine.visit_ledger`);
* `Ledger.Settled p k` : no save will note another file in the `k`-th record;
  `Run.Course.settled` : from then on the record stays as it is;
* `Ledger.Known` : the canvas is known to be a record; `Run.Course.known` : so is a generated image
  that waits, if it is `Run.Undisturbed`;
* `Session.saved_listed` : then its file is listed.
-/

namespace ImageWorkflow
variable {σ : Type}

/-! ## Records and their files -/

/-- The records of a run with their files, which of them the canvas is known to be, and whether a
generated image waits for a save. -/
structure Ledger where
  images : List GeneratedImage
  origin : Option Nat
  fresh : Bool

/-- The ledger of a scene. -/
def Scene.ledger (scene : Scene σ) : Ledger :=
  ⟨scene.images, scene.state.canvas.bind (·.origin), scene.state.fresh⟩

/-- The instructions that put an image that is not recorded on the canvas, or none, although a
generated image goes on to wait. -/
def Instruction.altersCanvas (i : Instruction) : Bool :=
  i.isEdit || [.canvasClear, .depthToCanvas].contains i.kind

/-- What the visit of an instruction, successful or not, can do to the ledger. -/
inductive Ledger.Step : Instruction → Bool → Ledger → Ledger → Prop
  | keep {i : Instruction} {done : Bool} {p : Ledger} (fresh : Bool) :
      (fresh = true → p.fresh = true) → Step i done p { p with fresh }
  | replace {i : Instruction} {p : Ledger} (fresh : Bool) :
      (fresh = true → p.fresh = true ∧ i.altersCanvas = true) →
        Step i true p { p with origin := none, fresh }
  /-- New records, the first of them with a file if the render was followed by a save. -/
  | render {i : Instruction} {done : Bool} {p : Ledger} (records : List GeneratedImage)
      (fresh : Bool) : records ≠ [] →
        (fresh = true → p.fresh = true ∨ i = .generate ∧ done = true) →
          Step i done p ⟨p.images ++ records, some p.images.length, fresh⟩
  /-- A save takes the image that waits. -/
  | take {i : Instruction} {p : Ledger} (path : FilePath) : i.isSave = true → p.fresh = true →
      Step i true p ⟨Engine.noteSaved p.images p.origin path, p.origin, false⟩

namespace Ledger
variable {i : Instruction} {done : Bool} {p p' : Ledger} {k : Nat}

theorem length_noteSaved (images : List GeneratedImage) (origin : Option Nat) (path : FilePath) :
    (Engine.noteSaved images origin path).length = images.length := by
  cases origin with
  | none => rfl
  | some place => exact List.length_modify ..

theorem savedAt_noteSaved {images : List GeneratedImage} (hk : k < images.length)
    (path : FilePath) :
    ((Engine.noteSaved images (some k) path)[k]?).bind (·.savedAt) = some path := by
  rw [Engine.noteSaved, List.getElem?_modify_eq, List.getElem?_eq_getElem hk]
  rfl

/-- No save will note another file in the `k`-th record. -/
def Settled (p : Ledger) (k : Nat) : Prop :=
  k < p.images.length ∧ (p.fresh = true → p.origin ≠ some k)

/-- Once settled, a record stays as it is. -/
theorem Step.settled (h : Step i done p p') (hp : p.Settled k) :
    p'.Settled k ∧ p'.images[k]? = p.images[k]? := by
  obtain ⟨hk, horigin⟩ := hp
  cases h with
  | keep fresh hfresh => exact ⟨⟨hk, fun h => horigin (hfresh h)⟩, rfl⟩
  | replace => exact ⟨⟨hk, nofun⟩, rfl⟩
  | render records fresh =>
    refine ⟨⟨?_, fun _ hlast => ?_⟩, List.getElem?_append_left hk⟩
    · rw [List.length_append]
      omega
    · have := Option.some.inj hlast
      omega
  | take path _ hfresh =>
    refine ⟨⟨by rwa [length_noteSaved], nofun⟩, ?_⟩
    cases hplace : p.origin with
    | none => rfl
    | some place =>
      have hne : place ≠ k := fun h => horigin hfresh (h ▸ hplace)
      exact List.getElem?_modify_ne _ _ hne

/-- The canvas is known to be one of the records. -/
def Known (p : Ledger) : Prop := ∃ k, p.origin = some k ∧ k < p.images.length

theorem known_append {images records : List GeneratedImage} {fresh : Bool}
    (hrecords : records ≠ []) : Known ⟨images ++ records, some images.length, fresh⟩ := by
  refine ⟨_, rfl, ?_⟩
  rw [List.length_append]
  exact Nat.lt_add_of_pos_right (List.length_pos_iff.mpr hrecords)

/-- An image that waits is still known, unless it was altered. -/
theorem Step.known (h : Step i done p p') (hp : p.fresh = true → p.Known)
    (hi : p.fresh = true → done = true → i.altersCanvas = false) (hfresh : p'.fresh = true) :
    p'.Known := by
  cases h with
  | keep fresh hbefore => exact hp (hbefore hfresh)
  | replace fresh hbefore =>
    obtain ⟨hwaits, halters⟩ := hbefore hfresh
    rw [hi hwaits rfl] at halters
    cases halters
  | render records fresh hrecords => exact known_append hrecords
  | take => cases hfresh

end Ledger

/-! ## What visits do to the ledger -/

namespace RunState
variable {s s' : RunState} {i : Instruction}

theorem Performed.ledger {images : List GeneratedImage} (h : Performed s i s') :
    Ledger.Step i true ⟨images, s.canvas.bind (·.origin), s.fresh⟩
      ⟨images, s'.canvas.bind (·.origin), s'.fresh⟩ := by
  cases h with
  | loopEnd => exact .keep false nofun
  | load => exact .replace false nofun
  | canvasClear | moveScale | adaptSize | crop | depthToCanvas =>
    exact .replace _ fun h => ⟨h, rfl⟩
  | _ => exact .keep _ id

end RunState

namespace Engine
open RunState
variable (e : Engine σ) (w : Workflow) (scene : Scene σ) (index : Nat)

/-- A render leaves the ledger as it is, or adds records, the first of which the canvas is. -/
theorem render_ledger :
    ((e.render scene index).1.ledger = scene.ledger ∧
      ∃ failure, (e.render scene index).2 = .error failure) ∨
    ∃ records answer, records ≠ [] ∧ (e.render scene index).2 = .ok answer ∧
      (e.render scene index).1.ledger =
        ⟨scene.images ++ records, some scene.images.length, scene.state.fresh⟩ := by
  obtain ⟨mask, hmask⟩ := scene.state.fitMask_eq
  unfold render
  split
  · split
    · dsimp only
      rw [hmask]
      split
      · exact .inl ⟨rfl, _, rfl⟩
      · exact .inl ⟨rfl, _, rfl⟩
      · exact .inr ⟨_, _, List.cons_ne_nil _ _, rfl, rfl⟩
    · exact .inl ⟨rfl, _, rfl⟩
  · exact .inl ⟨rfl, _, rfl⟩

/-- What a save does to the ledger before it writes. -/
theorem settleSave_ledger :
    ((e.settleSave scene index).2 = .ok .pending ∧ scene.state.fresh = true ∧
      (e.settleSave scene index).1.ledger = { scene.ledger with fresh := false }) ∨
    ((e.settleSave scene index).1.ledger = scene.ledger ∧
      ((e.settleSave scene index).2 = .ok .canvas ∨
        ∃ failure, (e.settleSave scene index).2 = .error failure)) ∨
    ∃ records mode, records ≠ [] ∧ (scene.state.fresh = true → scene.state.canvas = none) ∧
      (e.settleSave scene index).2 = .ok (.rendered mode) ∧
      (e.settleSave scene index).1.ledger =
        ⟨scene.images ++ records, some scene.images.length, scene.state.fresh⟩ := by
  have hrender := e.render_ledger scene index
  unfold settleSave
  split
  · rename_i hwaits
    exact .inl ⟨rfl, (Bool.and_eq_true_iff.mp hwaits).1, rfl⟩
  rename_i hwaits
  have hwaits (hfresh : scene.state.fresh = true) : scene.state.canvas = none := by
    rwa [hfresh, Bool.true_and, Bool.not_eq_true, Option.isSome_eq_false_iff,
      Option.isNone_iff_eq_none] at hwaits
  refine .inr ?_
  split
  · generalize e.render scene index = result at hrender ⊢
    obtain ⟨after, answer⟩ := result
    obtain ⟨hledger, failure, hresult⟩ | ⟨records, answer, hrecords, hresult, hledger⟩ := hrender
    · cases hresult
      exact .inl ⟨hledger, .inr ⟨failure, rfl⟩⟩
    · cases hresult
      exact .inr ⟨records, answer.1, hrecords, hwaits, rfl, hledger⟩
  · split
    · exact .inl ⟨rfl, .inl rfl⟩
    · exact .inl ⟨rfl, .inr ⟨_, rfl⟩⟩

/-- A save that fails after that does nothing more; one that succeeds notes the file. -/
theorem renderAndSave_ledger (name : String) :
    ((e.renderAndSave scene index name).1.ledger = (e.settleSave scene index).1.ledger ∧
      ∃ failure, (e.renderAndSave scene index name).2 = .error failure) ∨
    ∃ source message path, (e.settleSave scene index).2 = .ok source ∧
      (e.renderAndSave scene index name).2 = .ok message ∧
      (e.renderAndSave scene index name).1.ledger = { (e.settleSave scene index).1.ledger with
        images := noteSaved (e.settleSave scene index).1.images
          (if source = .canvas then none else (e.settleSave scene index).1.ledger.origin)
          path } := by
  unfold renderAndSave
  generalize e.settleSave scene index = settled
  obtain ⟨after, answer⟩ := settled
  cases answer with
  | error failure => exact .inl ⟨rfl, failure, rfl⟩
  | ok source =>
    dsimp only
    cases hcanvas : after.state.canvas with
    | none => exact .inl ⟨rfl, _, rfl⟩
    | some canvas =>
      dsimp only
      split
      · exact .inl ⟨rfl, _, rfl⟩
      · rename_i path _
        refine .inr ⟨source, _, path, rfl, rfl, ?_⟩
        simp only [Scene.ledger, hcanvas, Option.bind_some]

theorem step_renderAndSave {i : Instruction} (hi : i.isSave = true) (name : String) :
    Ledger.Step i (e.renderAndSave scene index name).2.isOk scene.ledger
      (e.renderAndSave scene index name).1.ledger := by
  obtain ⟨hledger, failure, hresult⟩ | ⟨source, message, path, hsource, hresult, hledger⟩ :=
    e.renderAndSave_ledger scene index name
  · rw [hledger]
    obtain ⟨-, -, hsettled⟩ | ⟨hsettled, -⟩ | ⟨records, mode, hrecords, -, -, hsettled⟩ :=
      e.settleSave_ledger scene index
    · exact hsettled ▸ .keep false nofun
    · exact hsettled ▸ .keep _ id
    · exact hsettled ▸ .render records _ hrecords .inl
  · have himages : (e.settleSave scene index).1.images =
        (e.settleSave scene index).1.ledger.images := rfl
    rw [hledger, hresult, himages]
    obtain ⟨hpending, hfresh, hsettled⟩ | ⟨hsettled, hcanvas | ⟨failure, hfailed⟩⟩ |
      ⟨records, mode, hrecords, -, hrendered, hsettled⟩ := e.settleSave_ledger scene index
    · obtain rfl := Except.ok.inj (hpending.symm.trans hsource)
      rw [hsettled]
      exact .take path hi hfresh
    · obtain rfl := Except.ok.inj (hcanvas.symm.trans hsource)
      rw [hsettled]
      exact .keep _ id
    · rw [hfailed] at hsource
      cases hsource
    · obtain rfl := Except.ok.inj (hrendered.symm.trans hsource)
      have hnoted : noteSaved (scene.images ++ records) (some scene.images.length) path =
          scene.images ++ records.modify 0 ({ · with savedAt := some path }) :=
        List.modifyTailIdx_add _ 0 scene.images records
      have hnonempty : records.modify 0 ({ · with savedAt := some path }) ≠ [] := by
        simpa using hrecords
      rw [hsettled, if_neg nofun, hnoted]
      exact .render _ _ hnonempty .inl

theorem step_applyTool {i : Instruction} {target : ToolTarget}
    (hi : toolTarget? i.kind = some target) :
    Ledger.Step i (e.applyTool scene i target).2.isOk scene.ledger
      (e.applyTool scene i target).1.ledger := by
  unfold applyTool
  split
  · exact .keep _ id
  · dsimp only
    split
    · exact .keep _ id
    · split
      · exact .keep _ id
      · rename_i hreceive
        unfold receive at hreceive
        split at hreceive <;> cases hreceive
        case h_5 =>
          exact .replace _ fun h => ⟨h, by cases i <;> first | rfl | cases hi⟩
        all_goals exact .keep _ id

theorem step_conduct (i : Instruction) :
    Ledger.Step i (e.conduct w scene index i).2.isOk scene.ledger
      (e.conduct w scene index i).1.ledger := by
  obtain hlocal | ⟨target, htarget⟩ | rfl | ⟨name, rfl⟩ | ⟨stem, rfl⟩ := i.carrier_cases
  · rw [conduct_of_isLocal e w scene index hlocal]
    split
    · rename_i hperform
      exact (performed_of_perform hlocal hperform).ledger
    · exact .keep _ id
  · rw [conduct_of_tool e w scene index htarget]
    exact e.step_applyTool scene htarget
  · obtain ⟨hledger, failure, hresult⟩ | ⟨records, answer, hrecords, hresult, hledger⟩ :=
      e.render_ledger scene index
    · rw [conduct_generate_of_error e w scene index hresult]
      exact hledger ▸ .keep _ id
    · have hmarked : ({ (e.render scene index).1 with state.fresh := true } : Scene σ).ledger =
          ⟨scene.images ++ records, some scene.images.length, true⟩ :=
        congrArg (fun p : Ledger => { p with fresh := true }) hledger
      rw [conduct_generate_of_ok e w scene index hresult, hmarked]
      exact .render records true hrecords fun _ => .inr ⟨rfl, rfl⟩
  · exact e.step_renderAndSave scene index rfl name
  · rw [conduct_loopSave]
    split
    · exact e.step_renderAndSave scene index rfl _
    · exact .keep _ id

theorem visit_ledger (i : Instruction) :
    Ledger.Step i (e.visit w scene index i).2.isDone scene.ledger
      (e.visit w scene index i).1.ledger := by
  by_cases hi : i.kind.support = .unsupported
  · rw [visit, if_pos hi]
    exact .keep _ id
  · have h := e.step_conduct w (atVisit index scene) index i
    rw [visit_of_not_unsupported e w scene index hi]
    generalize e.conduct w (atVisit index scene) index i = result at h ⊢
    obtain ⟨after, answer⟩ := result
    cases answer with
    | error failure => exact h
    | ok message =>
      obtain ⟨mask, hmask⟩ := after.state.fitMask_eq
      dsimp only
      rw [hmask]
      exact h

/-- After a generation that succeeds the canvas is known. -/
theorem known_of_generate (h : (e.visit w scene index .generate).2.isDone = true) :
    (e.visit w scene index .generate).1.ledger.Known := by
  obtain ⟨message, mask, hconduct, hvisit⟩ := e.visit_of_isDone w scene index h
  rw [hvisit]
  obtain ⟨-, failure, hresult⟩ | ⟨records, answer, hrecords, hresult, hledger⟩ :=
    e.render_ledger (atVisit index scene) index
  · rw [conduct_generate_of_error e w _ index hresult] at hconduct
    cases hconduct
  · have hknown : (e.render (atVisit index scene) index).1.ledger.Known :=
      hledger ▸ Ledger.known_append hrecords
    rw [conduct_generate_of_ok e w _ index hresult]
    exact hknown

/-- When a save takes an image that waits or renders one, and what waits is known, then so is what
it saves, and nothing waits any more. -/
theorem known_of_settleSave {source : SaveSource}
    (h : (e.settleSave scene index).2 = .ok source) (hsource : source ≠ .canvas)
    (hknown : scene.state.fresh = true → scene.ledger.Known) :
    (e.settleSave scene index).1.ledger.Known ∧
      (e.settleSave scene index).1.ledger.fresh = false := by
  obtain ⟨-, hfresh, hledger⟩ | ⟨-, hcanvas | ⟨failure, hfailed⟩⟩ |
    ⟨records, mode, hrecords, hwaits, -, hledger⟩ := e.settleSave_ledger scene index
  · rw [hledger]
    exact ⟨hknown hfresh, rfl⟩
  · exact absurd (Except.ok.inj (h.symm.trans hcanvas)) hsource
  · rw [hfailed] at h
    cases h
  · rw [hledger]
    refine ⟨Ledger.known_append hrecords, Bool.eq_false_iff.mpr fun hfresh => ?_⟩
    obtain ⟨k, horigin, -⟩ := hknown hfresh
    rw [Scene.ledger, hwaits hfresh] at horigin
    cases horigin

/-- A save that succeeds notes the path it wrote in a record, and that for good. -/
theorem renderAndSave_notes {name message : String}
    (h : (e.renderAndSave scene index name).2 = .ok message)
    (hknown : scene.state.fresh = true → scene.ledger.Known) :
    ∃ (source : SaveSource) (canvas : Canvas) (path : FilePath),
      message = s!"Saved {source.word} image: {name}" ∧
      (e.renderAndSave scene index name).1.state.canvas = some canvas ∧
      e.save scene.files canvas.image name (e.saveParameters scene.state index) =
        ((e.renderAndSave scene index name).1.files, .ok path) ∧
      (source ≠ .canvas → ∃ k, (e.renderAndSave scene index name).1.ledger.Settled k ∧
        ((e.renderAndSave scene index name).1.images[k]?).bind (·.savedAt) = some path) := by
  obtain ⟨source, canvas, path, hsource, hcanvas, hsave, himages, hmessage⟩ :=
    e.renderAndSave_eq_ok scene index h
  have hstate := e.renderAndSave_state scene index name
  rw [e.settleSave_files, e.saveParameters_settleSave] at hsave
  refine ⟨source, canvas, path, hmessage, hstate ▸ hcanvas, hsave, fun hne => ?_⟩
  obtain ⟨⟨k, horigin, hk⟩, hfresh⟩ := e.known_of_settleSave scene index hsource hne hknown
  have horigin : canvas.origin = some k := by
    rwa [Scene.ledger, hcanvas] at horigin
  rw [if_neg hne, horigin] at himages
  have hlength : (e.renderAndSave scene index name).1.images.length =
      (e.settleSave scene index).1.images.length := by
    rw [himages, Ledger.length_noteSaved]
  refine ⟨k, ⟨hlength ▸ hk, fun hwaits => ?_⟩, ?_⟩
  · have hwaits : (e.renderAndSave scene index name).1.state.fresh = true := hwaits
    rw [hstate] at hwaits
    exact absurd (hwaits.symm.trans hfresh) (by decide)
  · rw [himages]
    exact Ledger.savedAt_noteSaved hk path

end Engine

namespace Run
variable {e : Engine σ} {w : Workflow} {r r' q : Run σ} {i : Instruction}
  {us vs : List (Run σ × Instruction)} {k : Nat}

theorem visited_ledger (r : Run σ) (i : Instruction) :
    Ledger.Step i (r.visitDue e w i).2.isDone r.scene.ledger (r.visited e w i).scene.ledger := by
  rw [visited_scene]
  exact e.visit_ledger w r.scene _ i

/-- A settled record stays as it is all the way. -/
theorem Course.settled (h : Course e w r vs r') (hr : r.scene.ledger.Settled k) :
    r'.scene.images[k]? = r.scene.images[k]? := by
  refine (h.keeps (P := fun q => q.scene.ledger.Settled k ∧
    q.scene.images[k]? = r.scene.images[k]?) (fun q i ⟨hq, hsame⟩ _ => ?_) ⟨hr, rfl⟩).1.2
  obtain ⟨hsettled, hstep⟩ := (visited_ledger (e := e) (w := w) q i).settled hq
  exact ⟨hsettled, hstep.trans hsame⟩

/-- Since the latest successful `generate` of the visits, no visit altered the canvas while its
image waited. -/
def Undisturbed (e : Engine σ) (w : Workflow) (us : List (Run σ × Instruction)) : Prop :=
  ∀ as g ms, us = as ++ g :: ms → g.2 = .generate → Succeeds e w g →
    (∀ m ∈ ms, m.2 = .generate → ¬ Succeeds e w m) →
    ∀ m ∈ ms, m.1.scene.state.fresh = true → Succeeds e w m → m.2.altersCanvas = false

theorem undisturbed_of_forall (h : ∀ u ∈ us, u.2.altersCanvas = false) : Undisturbed e w us :=
  fun _ _ _ hus _ _ _ _ hm _ _ => h _ (hus ▸ List.mem_append_right _ (List.mem_cons_of_mem _ hm))

/-- An undisturbed image that waits is known all the way. -/
theorem Course.known (h : Course e w r us q) (hr : r.scene.state.fresh = false)
    (hus : Undisturbed e w us) (hfresh : q.scene.state.fresh = true) : q.scene.ledger.Known := by
  obtain ⟨as, ⟨p, i⟩, ms, rfl, horigin⟩ := h.exists_origin hr hfresh
  obtain rfl : i = .generate := horigin.generate
  have halters := hus as _ ms rfl rfl horigin.success horigin.latest
  have hknown : (p.visited e w .generate).scene.ledger.Known := by
    rw [visited_scene]
    exact e.known_of_generate w p.scene _ horigin.success
  -- on the visits after the generation
  refine h.split.2.induction_on_last (P := fun ms q =>
    (∀ m ∈ ms, m.1.scene.state.fresh = true → Succeeds e w m → m.2.altersCanvas = false) →
      q.scene.ledger.fresh = true → q.scene.ledger.Known)
    (fun _ _ => hknown) (fun ms q i _ _ ih halters => ?_) halters hfresh
  obtain ⟨hbefore, hlast⟩ := List.forall_mem_append.mp halters
  exact (visited_ledger q i).known (ih hbefore) (List.forall_mem_singleton.mp hlast)

/-- What a save of an undisturbed image leaves: the file it wrote, noted for good. -/
theorem save_notes {source : Engine.SaveSource} {name : String} (hi : i.isSave = true)
    (h : (q.visitDue e w i).2 = .done s!"Saved {source.word} image: {name}")
    (hsource : source ≠ .canvas)
    (hknown : q.scene.state.fresh = true → q.scene.ledger.Known) :
    ∃ canvas path k, (q.visited e w i).scene.state.canvas = some canvas ∧
      e.save q.scene.files canvas.image name
          (e.saveParameters q.scene.state q.scene.state.counter) =
        ((q.visited e w i).scene.files, .ok path) ∧
      (q.visited e w i).scene.ledger.Settled k ∧
      ((q.visited e w i).scene.images[k]?).bind (·.savedAt) = some path := by
  obtain ⟨message, mask, hconduct, hvisit⟩ := e.visit_of_isDone w q.scene _ (succeeds_of_done h)
  obtain ⟨name', hname⟩ := e.conduct_of_isSave w _ _ hi hconduct
  rw [hname] at hconduct hvisit
  obtain ⟨source', canvas, path, rfl, hcanvas, hsave, hnotes⟩ :=
    e.renderAndSave_notes _ _ hconduct hknown
  rw [visitDue, hvisit] at h
  obtain ⟨rfl, rfl⟩ := eq_of_saved_message (Engine.Verdict.done.inj h)
  obtain ⟨k, hsettled, hnoted⟩ := hnotes hsource
  rw [visited_scene, visitDue, hvisit]
  exact ⟨canvas, path, k, hcanvas, hsave, hsettled, hnoted⟩

end Run

namespace Session
variable {s : Session σ} {e : Engine σ} {w : Workflow} {checks : Option Bool} {enforces : Bool}
  {r q : Run σ} {us : List (Run σ × Instruction)} {i : Instruction}
  {source : Engine.SaveSource} {name : String}

/-- The file that a save wrote of an image that waited or that it rendered is listed in the report,
if the canvas was not altered while the image waited. -/
theorem saved_listed (h : (s.run e w checks enforces).2 = .ok r)
    (hc : Run.Course e w (s.start e w checks) us q) (hd : q.Due w i) (hi : i.isSave = true)
    (hdone : (q.visitDue e w i).2 = .done s!"Saved {source.word} image: {name}")
    (hsource : source ≠ .canvas) (hus : Run.Undisturbed e w us) :
    ∃ canvas path, (q.visited e w i).scene.state.canvas = some canvas ∧
      e.save q.scene.files canvas.image name
          (e.saveParameters q.scene.state q.scene.state.counter) =
        ((q.visited e w i).scene.files, .ok path) ∧
      path ∈ (r.report w).savedFiles := by
  obtain ⟨canvas, path, k, hcanvas, hsave, hsettled, hnoted⟩ :=
    Run.save_notes hi hdone hsource (hc.known rfl hus)
  obtain ⟨vs, stopped, hcarries⟩ := exists_carries h
  obtain ⟨last, hcourse, -, hends, rfl⟩ := hcarries.ends h
  obtain ⟨rest, rfl⟩ := (hc.concat hd).isPrefix hcourse hends
  rw [List.append_assoc] at hcourse
  have hlater := hcourse.split.2.settled hsettled
  obtain ⟨record, hrecord, hpath⟩ := Option.bind_eq_some_iff.mp (hlater ▸ hnoted)
  refine ⟨canvas, path, hcanvas, hsave, List.mem_filterMap.mpr ⟨record, ?_, hpath⟩⟩
  have hsame : ((stopped.finish e w).report w).images = last.scene.images :=
    congrArg Scene.images hends.scene
  exact hsame ▸ List.mem_of_getElem? hrecord

/-- A generated image is cropped, which leaves it as it is, and saved: its file is not listed. -/
theorem saved_listed_fails_cropped :
    let script : Script := { steps := [{ images := .inl [Image.solid .rgb 1 1 { c0 := 5 }] }] }
    let w : Workflow := [.prompt "a", .generate, .crop, .canvasSave "out.png"]
    ∃ r, (Run.rehearsalSession.run (Run.rehearsalEngine script) w).2 = .ok r ∧
      r.entries.map (·.outcome) = List.replicate 4 .executed ∧
      r.entries.head?.map (·.message) = some "Saved generated image: out.png" ∧
      r.scene.images.map (fun record => (record.image.size, record.image.pixel 0 0)) =
        [((1, 1), { c0 := 5 })] ∧
      (match r.scene.files.node? ⟨["out.png"]⟩ with
        | some (.file (.image image)) => some (image.size, image.pixel 0 0)
        | _ => none) = some ((1, 1), { c0 := 5 }) ∧
      (r.report w).savedFiles = [] := by
  intro script w
  have h : (Run.rehearsalSession.run (Run.rehearsalEngine script) w).2 = .ok _ :=
    run_of_ending (by decide) rfl rfl (by decide +kernel)
  exact ⟨_, h, by decide +kernel, by decide +kernel, by decide +kernel, by decide +kernel,
    by decide +kernel⟩

/-- Two saves after one generation: the first takes its image, the second renders another. -/
theorem saved_listed_twice :
    let script : Script := { steps := [{ images := .inl [Image.solid .rgb 1 1 { c0 := 5 }] }] }
    let e := Run.rehearsalEngine script
    let w : Workflow := [.prompt "a", .generate, .canvasSave "a.png", .canvasSave "b.png"]
    let r₀ := Run.rehearsalSession.start e w none
    let r₁ := r₀.visited e w (.prompt "a")
    let r₂ := r₁.visited e w .generate
    let r₃ := r₂.visited e w (.canvasSave "a.png")
    ∃ r, (Run.rehearsalSession.run e w).2 = .ok r ∧
      ∃ canvas path, (r₃.visited e w (.canvasSave "b.png")).scene.state.canvas = some canvas ∧
        e.save r₃.scene.files canvas.image "b.png"
            (e.saveParameters r₃.scene.state r₃.scene.state.counter) =
          ((r₃.visited e w (.canvasSave "b.png")).scene.files, .ok path) ∧
        path ∈ (r.report w).savedFiles := by
  intro script e w r₀ r₁ r₂ r₃
  have h : (Run.rehearsalSession.run e w).2 = .ok _ :=
    run_of_ending (by decide) rfl rfl (by decide +kernel)
  have h₀ : r₀.Due w (.prompt "a") := ⟨rfl, rfl, rfl⟩
  have h₁ : r₁.Due w .generate := ⟨rfl, rfl, rfl⟩
  have hcounter₂ : r₂.scene.state.counter = 2 := by decide +kernel
  have h₂ : r₂.Due w (.canvasSave "a.png") :=
    ⟨by decide +kernel, by decide +kernel, by rw [hcounter₂]; rfl⟩
  have hcounter₃ : r₃.scene.state.counter = 3 := by decide +kernel
  have h₃ : r₃.Due w (.canvasSave "b.png") :=
    ⟨by decide +kernel, by decide +kernel, by rw [hcounter₃]; rfl⟩
  have hdone : (r₃.visitDue e w (.canvasSave "b.png")).2.isDone = true := by decide +kernel
  let source : Engine.SaveSource := .rendered .imageToImage
  let name := "b.png"
  have hmessage : (r₃.visitDue e w (.canvasSave "b.png")).2.message =
      s!"Saved {source.word} image: {name}" := by
    decide +kernel
  have hsaved : (r₃.visitDue e w (.canvasSave "b.png")).2 =
      .done s!"Saved {source.word} image: {name}" :=
    hmessage ▸ Engine.Verdict.eq_done hdone
  have hus : Run.Undisturbed e w
      [(r₀, .prompt "a"), (r₁, .generate), (r₂, .canvasSave "a.png")] :=
    Run.undisturbed_of_forall <| List.forall_mem_cons.mpr
      ⟨rfl, List.forall_mem_cons.mpr ⟨rfl, List.forall_mem_singleton.mpr rfl⟩⟩
  exact ⟨_, h, saved_listed h (.cons h₀ (.cons h₁ (.cons h₂ (.nil _)))) h₃ rfl hsaved nofun hus⟩

end Session

end ImageWorkflow
