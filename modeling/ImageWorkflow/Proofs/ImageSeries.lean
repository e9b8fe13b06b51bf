import Mathlib
import ImageWorkflow.Proofs.ErasedRuns
import ImageWorkflow.Proofs.NumberedFiles

/-!
# A series of images

A workflow that sets a prompt and settings and then, in a loop, saves numbered images: each is
rendered from the one before it.
* `ImageSeries`, `ImageSeries.workflow` : such a workflow; `ImageSeries.call`, `ImageSeries.path` :
  what it asks for, and where it saves the answers;
* `Provider.GivesImages` : the provider is there and gives one image whenever it is asked;
* `Run.Goes` : a visit that succeeds; `ImageSeries.Way` : the visits so far, with the images that
  they saved; `ImageSeries.Way.save`, `ImageSeries.Way.close` : one iteration further;
* `ImageSeries.run_completes` : the whole run.
-/

namespace ImageWorkflow

/-- A prompt, settings, and a loop that saves images under numbered names. -/
structure ImageSeries where
  text : String
  settings : Settings
  count : Int
  start : Int
  stem : String

/-- The provider is there, and gives one image for each call, in a format that can be written. -/
structure Provider.GivesImages {σ : Type} (p : Provider σ) : Prop where
  connected : ∀ memory, (p.checkConnection memory).1 = .ok true
  uninterrupted : ∀ memory, p.checkInterruption memory = none
  image : ∀ memory call, ∃ image,
    (p.generate memory call).1.result = .ok [image] ∧ image.formatFault? = none

namespace ImageSeries

/-- The workflow of a series. -/
def workflow (series : ImageSeries) : Workflow :=
  [.prompt series.text, .config series.settings, .loop series.count series.start,
    .loopSave series.stem, .loopEnd]

/-- What the provider is asked for when `source` is the image before. -/
def call (series : ImageSeries) (baseline : Generation) (source : Option Image) : GenerateCall where
  prompt := series.text
  parameters := { baseline.withSettings series.settings with negativePrompt := "" }
  source
  mask := none
  moodboard := []

/-- The calls that images answer, each with the image before as its source. -/
def contacts (series : ImageSeries) (baseline : Generation) (images : List Image) : List Contact :=
  List.zipWith (fun source image => .generate (series.call baseline source) (.ok [image]))
    (none :: images.map some) images

/-- The path of the `j`-th image. -/
def path (series : ImageSeries) (directory : FilePath) (j : Nat) : FilePath :=
  numberedPath directory.normalize series.stem (series.start + j)

/-- The loop in its `n`-th iteration. -/
def frame (series : ImageSeries) (n : Nat) : LoopFrame where
  startIndex := 2
  start := series.start
  count := series.count
  current := series.start + n

/-- The state of a run that has made images. -/
def state (series : ImageSeries) (images : List Image) (loops : List LoopFrame) (counter : Nat) :
    RunState where
  canvas := images.getLast?.map fun image => { image, origin := some (images.length - 1) }
  settings := series.settings
  prompt := series.text
  loops
  counter

end ImageSeries

/-! ## Visits that succeed -/

namespace Run
variable {σ : Type} {e : Engine σ} {w : Workflow} {r : Run σ} {i : Instruction} {after : Scene σ}
  {message : String}

/-- The visit that is due succeeds and leaves `after`, and nothing ends the run. -/
structure Goes (e : Engine σ) (w : Workflow) (r : Run σ) (i : Instruction) (after : Scene σ) :
    Prop where
  due : r.Due w i
  unbroken : ¬ Breaks e w (r, i)
  scene : (r.visited e w i).scene = after
  entries : ∃ entry : Entry, entry.outcome = (if i.isControl then .control else .executed) ∧
    (r.visited e w i).entries = entry :: r.entries
  going : (r.visited e w i).fatalError = none
  unasked : (r.visited e w i).cancelRequested = false
  own : (r.visited e w i).ending = .own

/-- Without a mask, an instruction that succeeds leaves what it is to leave. -/
theorem goes_of_conduct (hquiet : e.Quiet) (hd : r.Due w i) (hi : i.kind.support ≠ .unsupported)
    (h : e.conduct w (Engine.atVisit r.scene.state.counter r.scene) r.scene.state.counter i =
      (after, .ok message)) (hmask : after.state.mask = none) : Goes e w r i after := by
  have hvisit : r.visitDue e w i = (after, .done message) := by
    rw [visitDue, Engine.visit_of_not_unsupported e w r.scene _ hi, h]
    simp [RunState.fitMask, hmask]
  have hunbroken : ¬ Breaks e w (r, i) := by
    intro hbreaks
    obtain ⟨-, after', message', h', hfit⟩ := (Engine.breaks_iff e w r.scene _).mp hbreaks
    obtain ⟨rfl, -⟩ := Prod.mk.inj (h.symm.trans h')
    simp [RunState.canFit, hmask] at hfit
  have hverdict : (r.visitDue e w i).2 = .done message := congrArg Prod.snd hvisit
  have hending (asked : Bool) : endingAfter asked (.done message) = .own := rfl
  obtain ⟨events, hvisited⟩ := visited_of_quiet (w := w) hquiet r i
  rw [hverdict, hending] at hvisited
  refine ⟨hd, hunbroken, ?_, ⟨r.entryDue e w i, ?_, ?_⟩, ?_, ?_, ?_⟩
  · rw [visited_scene, hvisit]
  · show (r.visitDue e w i).2.outcome i = _
    rw [hverdict]
    rfl
  · exact visited_entries
  · rw [hvisited]
    rfl
  · rw [hvisited]
    simp [hd.unasked]
  · rw [hvisited]

theorem goes_of_perform {state : RunState} (hquiet : e.Quiet) (hd : r.Due w i)
    (hi : i.isLocal = true) (hsupport : i.kind.support ≠ .unsupported)
    (h : (Engine.atVisit r.scene.state.counter r.scene).state.perform w e.workingDirectory
      r.scene.files r.scene.state.counter i = .ok (state, message)) (hmask : state.mask = none) :
    Goes e w r i { Engine.atVisit r.scene.state.counter r.scene with state } := by
  have hconduct : e.conduct w (Engine.atVisit r.scene.state.counter r.scene)
      r.scene.state.counter i =
      ({ Engine.atVisit r.scene.state.counter r.scene with state }, .ok message) := by
    rw [Engine.conduct_of_isLocal e w _ _ hi]
    have hfiles : (Engine.atVisit r.scene.state.counter r.scene).files = r.scene.files := rfl
    rw [hfiles, h]
    rfl
  exact goes_of_conduct hquiet hd hsupport hconduct hmask

end Run

/-! ## Renders and saves -/

namespace Engine
variable {σ : Type} {e : Engine σ} {scene : Scene σ} {name : String}

theorem save_of_no_plugins {files files' : FileTree} {path : FilePath} {image : Image}
    (hplugins : e.plugins.filter (·.isEnabled) = [])
    (hinside : insidePath e.workingDirectory name = .ok path)
    (hwritten : writeWithDirectories files path image = (files', .ok ())) (parameters : Members) :
    e.save files image name parameters = (files', .ok path) := by
  simp [save, hplugins, hinside, redirect, hwritten, accompany]

theorem noteSaved_concat (records : List GeneratedImage) (record : GeneratedImage)
    (path : FilePath) : noteSaved (records ++ [record]) (some records.length) path =
      records ++ [{ record with savedAt := some path }] := by
  unfold noteSaved
  induction records with
  | nil => rfl
  | cons first rest ih => simp [ih]

/-- With a prompt in force and no mask, a render that is answered by one image. -/
theorem render_of_hasPrompt {image : Image} {reply : Reply (List Image)} {memory : σ} (index : Nat)
    (hprompt : scene.state.hasPrompt = true) (hmask : scene.state.mask = none)
    (hreply : e.provider.generate scene.memory (scene.state.generateCall e.baseline) =
      (reply, memory)) (hresult : reply.result = .ok [image]) :
    e.render scene index =
      ({ scene with
          state := { scene.state with
            canvas := some { image, origin := some scene.images.length } }
          images := scene.images ++ scene.state.records e.baseline index [image]
          memory
          progress := scene.progress ++ reply.progress },
        .ok (scene.state.mode, 1)) := by
  have hcan := RunState.canGenerate_of_hasPrompt hprompt
  have hfit : scene.state.canFit = true := by simp [RunState.canFit, hmask]
  have hsame : scene.state.fitMask = scene.state := by simp [RunState.fitMask, hmask]
  simp [render, hcan, hfit, hsame, hreply, hresult]

/-- The image is saved, and this is noted in its record. -/
theorem renderAndSave_of_hasPrompt {image : Image} {files : FileTree} {path : FilePath}
    (index : Nat)
    (hfresh : scene.state.fresh = false) (hprompt : scene.state.hasPrompt = true)
    (hmask : scene.state.mask = none)
    (hresult : (e.provider.generate scene.memory (scene.state.generateCall e.baseline)).1.result =
      .ok [image])
    (hsave : ∀ parameters, e.save scene.files image name parameters = (files, .ok path)) :
    ∃ (record : GeneratedImage) (after : Scene σ) (message : String),
      e.renderAndSave scene index name = (after, .ok message) ∧
      after.state = { scene.state with
        canvas := some { image, origin := some scene.images.length } } ∧
      after.images = scene.images ++ [record] ∧ after.files = files ∧
      record.image = image ∧ record.savedAt = some path := by
  generalize hreply : e.provider.generate scene.memory (scene.state.generateCall e.baseline) =
    answer at hresult
  obtain ⟨reply, memory⟩ := answer
  have hrender := render_of_hasPrompt index hprompt hmask hreply hresult
  have hsettle : e.settleSave scene index = ((e.render scene index).1, .ok (.rendered
      scene.state.mode)) := by
    simp [settleSave, hfresh, hprompt, hrender]
  obtain ⟨record, hrecord, himage⟩ :
      ∃ record, scene.state.records e.baseline index [image] = [record] ∧ record.image = image :=
    ⟨_, rfl, rfl⟩
  have hsource : SaveSource.rendered scene.state.mode ≠ .canvas := by rintro ⟨⟩
  rw [renderAndSave, hsettle, hrender]
  simp only [hsave, hrecord, if_neg hsource, noteSaved_concat]
  exact ⟨_, _, _, rfl, rfl, rfl, rfl, himage, rfl⟩

end Engine

/-! ## One iteration after the other -/

namespace ImageSeries
variable {σ : Type} {series : ImageSeries} {e : Engine σ} {r₀ r : Run σ} {images : List Image}
  {state : RunState} {executed : Nat} {vs : List (Run σ × Instruction)}

/-- What a series takes, apart from its provider. -/
structure Ready (series : ImageSeries) (e : Engine σ) : Prop where
  quiet : e.Quiet
  plugins : e.plugins.filter (·.isEnabled) = []
  provider : e.provider.GivesImages
  prompt : Text.isBlankText series.text = false
  inside : ∀ j : Nat, (j : Int) < series.count →
    insidePath e.workingDirectory (numberedName series.stem (series.start + j)) =
      .ok (series.path e.workingDirectory j)

/-- What the images of a series leave in a scene. -/
structure Made (series : ImageSeries) (e : Engine σ) (images : List Image) (scene : Scene σ) :
    Prop where
  recorded : scene.images.map (·.image) = images
  saved : scene.images.map (·.savedAt) =
    (List.range images.length).map fun j => some (series.path e.workingDirectory j)
  held : ∀ j (hj : j < images.length),
    scene.files.read (series.path e.workingDirectory j) = .ok (.image images[j])
  room : ∀ j : Nat, (j : Int) < series.count →
    scene.files.Writable (series.path e.workingDirectory j)

/-- The visits `vs` lead from one run to another, which has made `images` and is in `state`. -/
structure Way (series : ImageSeries) (e : Engine σ) (r₀ : Run σ) (vs : List (Run σ × Instruction))
    (r : Run σ) (images : List Image) (state : RunState) (executed : Nat) : Prop where
  course : Run.Course e series.workflow r₀ vs r
  unbroken : ∀ v ∈ vs, ¬ Run.Breaks e series.workflow v
  contacts : (vs.flatMap fun v => v.1.contacts e series.workflow v.2) =
    series.contacts e.baseline images
  state : r.scene.state = state
  made : series.Made e images r.scene
  going : r.fatalError = none
  unasked : r.cancelRequested = false
  own : r.ending = .own
  executed : r.entries.countP (·.outcome = .executed) = executed
  succeeded : ∀ entry ∈ r.entries, entry.succeeded = true

theorem Way.extend {i : Instruction} {after : Scene σ} {images' : List Image}
    (h : series.Way e r₀ vs r images state executed) (hgoes : Run.Goes e series.workflow r i after)
    (hcontacts : series.contacts e.baseline images' =
      series.contacts e.baseline images ++ r.contacts e series.workflow i)
    (hmade : series.Made e images' after) :
    series.Way e r₀ (vs ++ [(r, i)]) (r.visited e series.workflow i) images' after.state
      (executed + if i.isControl then 0 else 1) := by
  obtain ⟨entry, houtcome, hentries⟩ := hgoes.entries
  refine ⟨h.course.concat hgoes.due, ?_, ?_, ?_, ?_, hgoes.going, hgoes.unasked, hgoes.own, ?_, ?_⟩
  · intro v hv
    rcases List.mem_append.mp hv with hv | hv
    · exact h.unbroken v hv
    · rw [List.mem_singleton.mp hv]
      exact hgoes.unbroken
  · rw [List.flatMap_append, h.contacts, hcontacts]
    simp
  · rw [hgoes.scene]
  · rwa [hgoes.scene]
  · rw [hentries, List.countP_cons, h.executed, houtcome]
    cases i.isControl <;> rfl
  · rw [hentries]
    refine List.forall_mem_cons.mpr ⟨?_, h.succeeded⟩
    rw [Entry.succeeded, houtcome]
    cases i.isControl <;> rfl

/-- An instruction of the workflow that makes no image. -/
theorem Way.perform {i : Instruction} {state' : RunState} {message : String}
    (h : series.Way e r₀ vs r images state executed) (hquiet : e.Quiet)
    (hhere : series.workflow[state.counter]? = some i) (hi : i.isLocal = true)
    (hfull : i.kind.support = .full)
    (hperform : ∀ files, { state with counter := state.counter + 1 }.perform series.workflow
      e.workingDirectory files state.counter i = .ok (state', message))
    (hmask : state'.mask = none) :
    ∃ vs' r', series.Way e r₀ vs' r' images state' (executed + if i.isControl then 0 else 1) := by
  have hsupport : i.kind.support ≠ .unsupported := by
    rw [hfull]
    decide
  obtain rfl := h.state
  have hd : r.Due series.workflow i := ⟨h.going, h.unasked, hhere⟩
  have hgoes := Run.goes_of_perform hquiet hd hi hsupport (hperform r.scene.files) hmask
  have hcontacts : r.contacts e series.workflow i = [] := by
    rw [Run.contacts, Engine.contacts_eq, Engine.asked_eq, if_neg hsupport,
      Engine.requests_of_isLocal e hi]
    rfl
  refine ⟨_, _, h.extend hgoes ?_ ⟨h.made.recorded, h.made.saved, h.made.held, h.made.room⟩⟩
  rw [hcontacts, List.append_nil]

/-- One image more. -/
theorem contacts_concat (baseline : Generation) (image : Image) :
    series.contacts baseline (images ++ [image]) = series.contacts baseline images ++
      [.generate (series.call baseline images.getLast?) (.ok [image])] := by
  have hfrom (source : Option Image) (images : List Image) :
      List.zipWith (fun source image => Contact.generate (series.call baseline source)
          (.ok [image])) (source :: (images ++ [image]).map some) (images ++ [image]) =
        List.zipWith (fun source image => Contact.generate (series.call baseline source)
          (.ok [image])) (source :: images.map some) images ++
        [.generate (series.call baseline (images.getLast?.or source)) (.ok [image])] := by
    induction images generalizing source with
    | nil => rfl
    | cons first rest ih =>
      rw [List.getLast?_cons, Option.some_or, ← Option.or_some]
      exact congrArg (List.cons _) (ih (some first))
  have hall := hfrom none images
  rwa [Option.or_none] at hall

theorem hasPrompt_state (hready : series.Ready e) (images : List Image) (loops : List LoopFrame)
    (counter : Nat) : (series.state images loops counter).hasPrompt = true := by
  show (!Text.isBlankText series.text) = true
  rw [hready.prompt]
  rfl

theorem generateCall_state (hready : series.Ready e) (loops : List LoopFrame) (counter : Nat)
    (baseline : Generation) : (series.state images loops counter).generateCall baseline =
      series.call baseline images.getLast? := by
  have hprompt := hasPrompt_state hready images loops counter
  have hparameters : (series.state images loops counter).parameters baseline =
      { baseline.withSettings series.settings with negativePrompt := "" } := by
    simp [RunState.parameters, state, Generation.withInpainting, Inpainting.merge,
      Generation.namesGiven, Members.without]
  rw [RunState.generateCall, hparameters, RunState.usedPrompt, if_pos hprompt]
  cases hlast : images.getLast? with
  | none => simp [call, state, RunState.canvasImage, hlast]
  | some image => simp [call, state, RunState.canvasImage, hlast]

theorem requests_state (hready : series.Ready e) (frame : LoopFrame) (counter : Nat) :
    e.requests (series.state images [frame] counter) (.loopSave series.stem) =
      [.generate (series.call e.baseline images.getLast?)] := by
  have hprompt := hasPrompt_state hready images [frame] counter
  have hcan := RunState.canGenerate_of_hasPrompt hprompt
  have hfit : (series.state images [frame] counter).canFit = true := by
    simp [RunState.canFit, state]
  have hsame : (series.state images [frame] counter).fitMask =
      series.state images [frame] counter := by
    simp [RunState.fitMask, state]
  have hframe : (series.state images [frame] counter).frame?.isSome = true := rfl
  rw [Engine.requests_loopSave, if_pos hframe, Engine.saveRequests_of_hasPrompt e rfl hprompt,
    Engine.renderRequests, hcan, hfit, hsame, generateCall_state hready]
  rfl

/-- A save makes one image more. -/
theorem conduct_save {scene : Scene σ} (hready : series.Ready e)
    (hstate : scene.state = series.state images [series.frame images.length] 4)
    (hmade : series.Made e images scene) (hmore : (images.length : Int) < series.count) :
    ∃ image after message,
      e.conduct series.workflow scene 3 (.loopSave series.stem) = (after, .ok message) ∧
      (e.provider.generate scene.memory (series.call e.baseline images.getLast?)).1.result =
        .ok [image] ∧
      after.state = series.state (images ++ [image]) [series.frame images.length] 4 ∧
      series.Made e (images ++ [image]) after := by
  have hlength : scene.images.length = images.length := by
    rw [← hmade.recorded, List.length_map]
  have hcall : scene.state.generateCall e.baseline = series.call e.baseline images.getLast? := by
    rw [hstate, generateCall_state hready]
  obtain ⟨image, hresult, hformat⟩ :=
    hready.provider.image scene.memory (series.call e.baseline images.getLast?)
  obtain ⟨files, hwritten, hread, hbeside, hroom⟩ :=
    (hmade.room images.length hmore).write_numbered hformat
  have hsave := Engine.save_of_no_plugins hready.plugins (hready.inside _ hmore) hwritten
  obtain ⟨record, after, message, hrender, hafter, himages, rfl, himage, hsaved⟩ :=
    Engine.renderAndSave_of_hasPrompt 3 (by rw [hstate]; rfl)
      (by rw [hstate]; exact hasPrompt_state hready _ _ _) (by rw [hstate]; rfl)
      (by rw [hcall]; exact hresult) hsave
  refine ⟨image, after, message, ?_, hresult, ?_, ?_, ?_, ?_, fun j hj => hroom _ (hmade.room j hj)⟩
  · rw [Engine.conduct_loopSave, RunState.requireFrame, hstate]
    exact hrender
  · rw [hafter, hstate, hlength]
    simp [state]
  · simp [himages, hmade.recorded, himage]
  · simp [himages, hmade.saved, hsaved, List.range_succ]
  · intro j hj
    rcases Nat.lt_or_ge j images.length with hlt | hge
    · rw [List.getElem_append_left hlt]
      exact hbeside _ _ (by omega) (hmade.held j hlt)
    · obtain rfl : j = images.length := by
        rw [List.length_append, List.length_singleton] at hj
        omega
      rw [List.getElem_concat_length rfl]
      exact hread

/-- An iteration's save. -/
theorem Way.save
    (h : series.Way e r₀ vs r images (series.state images [series.frame images.length] 3) executed)
    (hready : series.Ready e) (hmore : (images.length : Int) < series.count) :
    ∃ vs' r' image, series.Way e r₀ vs' r' (images ++ [image])
      (series.state (images ++ [image]) [series.frame images.length] 4) (executed + 1) := by
  have hcounter : r.scene.state.counter = 3 := by rw [h.state]; rfl
  have hbegun : (Engine.atVisit 3 r.scene).state =
      series.state images [series.frame images.length] 4 := by
    rw [Engine.atVisit, h.state]
    rfl
  have hmade : series.Made e images (Engine.atVisit 3 r.scene) :=
    ⟨h.made.recorded, h.made.saved, h.made.held, h.made.room⟩
  obtain ⟨image, after, message, hconduct, hresult, hafter, hmade'⟩ :=
    conduct_save hready hbegun hmade hmore
  have hd : r.Due series.workflow (.loopSave series.stem) :=
    ⟨h.going, h.unasked, by rw [hcounter]; rfl⟩
  have hsupport : (Instruction.loopSave series.stem).kind.support ≠ .unsupported := by rintro ⟨⟩
  have hgoes : Run.Goes e series.workflow r (.loopSave series.stem) after := by
    apply Run.goes_of_conduct hready.quiet hd hsupport
    · rw [hcounter]
      exact hconduct
    · rw [hafter]
      rfl
  have hcontacts : r.contacts e series.workflow (.loopSave series.stem) =
      [.generate (series.call e.baseline images.getLast?) (.ok [image])] := by
    rw [Run.contacts, Engine.contacts_eq, Engine.asked_eq, if_neg hsupport, hcounter, hbegun,
      requests_state hready]
    exact congrArg (fun answer => [Contact.generate _ answer]) hresult
  have hall : series.contacts e.baseline (images ++ [image]) = series.contacts e.baseline images ++
      r.contacts e series.workflow (.loopSave series.stem) := by
    rw [contacts_concat, hcontacts]
  have hway := h.extend hgoes hall hmade'
  rw [hafter] at hway
  exact ⟨_, _, image, hway⟩

theorem closeLoop_state (series : ImageSeries) (images : List Image) (n : Nat) : ∃ message,
    (series.state images [series.frame n] 5).closeLoop =
      .ok (if (n : Int) + 1 < series.count then series.state images [series.frame (n + 1)] 3
        else series.state images [] 5, message) := by
  have hnext : (series.start + n + 1 < series.start + series.count) ↔
      (n : Int) + 1 < series.count := by omega
  have hframe : series.frame (n + 1) =
      { series.frame n with current := series.start + n + 1 } := by
    simp [frame, Int.add_assoc]
  by_cases hmore : (n : Int) + 1 < series.count
  · rw [if_pos hmore, hframe]
    exact ⟨_, if_pos (hnext.mpr hmore)⟩
  · rw [if_neg hmore]
    exact ⟨_, if_neg (mt hnext.mp hmore)⟩

/-- An iteration's end. -/
theorem Way.close {n : Nat}
    (h : series.Way e r₀ vs r images (series.state images [series.frame n] 4) executed)
    (hquiet : e.Quiet) :
    ∃ vs' r', series.Way e r₀ vs' r' images
      (if (n : Int) + 1 < series.count then series.state images [series.frame (n + 1)] 3
        else series.state images [] 5) executed := by
  obtain ⟨message, hclose⟩ := closeLoop_state series images n
  have hmask : (if (n : Int) + 1 < series.count then series.state images [series.frame (n + 1)] 3
      else series.state images [] 5).mask = none := by
    split <;> rfl
  exact h.perform hquiet rfl rfl rfl (fun _ => hclose) hmask

/-- The visits before the loop's first iteration. -/
theorem Way.enter (h : series.Way e r₀ [] r₀ [] {} 0) (hquiet : e.Quiet)
    (hcount : 1 ≤ series.count) :
    ∃ vs r, series.Way e r₀ vs r [] (series.state [] [series.frame 0] 3) 2 := by
  have hsettings : ({} : Settings).merge series.settings = series.settings := by
    simp [Settings.merge]
  have henter : ({ settings := series.settings, prompt := series.text, counter := 3 } :
      RunState).enterLoop series.workflow 2 series.count series.start =
      (series.state [] [series.frame 0] 3,
        s!"Loop iteration 1/{series.count} (index {series.start})") := by
    have hfirst : series.frame 0 = ⟨2, series.start, series.count, series.start⟩ := by simp [frame]
    rw [RunState.enterLoop, if_neg (by omega), hfirst]
    rfl
  obtain ⟨vs₁, r₁, h₁⟩ := h.perform hquiet rfl rfl rfl (fun _ => rfl) rfl
  have h₁ : series.Way e r₀ vs₁ r₁ [] { prompt := series.text, counter := 1 } 1 := h₁
  obtain ⟨vs₂, r₂, h₂⟩ := h₁.perform hquiet rfl rfl rfl (fun _ => rfl) rfl
  have h₂ : series.Way e r₀ vs₂ r₂ []
      { settings := Settings.merge {} series.settings, prompt := series.text, counter := 2 } 2 :=
    h₂
  rw [hsettings] at h₂
  exact h₂.perform hquiet rfl rfl rfl (fun _ => congrArg Except.ok henter) rfl

/-- After a number of iterations, before the end of the latest one. -/
theorem Way.iterate
    (h : series.Way e r₀ vs r [] (series.state [] [series.frame 0] 3) 2)
    (hready : series.Ready e) (n : Nat) (hn : (n : Int) < series.count) :
    ∃ vs' r' images, images.length = n + 1 ∧
      series.Way e r₀ vs' r' images (series.state images [series.frame n] 4) (n + 3) := by
  induction n with
  | zero =>
    obtain ⟨vs', r', image, hway⟩ := h.save hready hn
    exact ⟨vs', r', [image], rfl, hway⟩
  | succ n ih =>
    obtain ⟨vs₁, r₁, images, hlength, hway₁⟩ := ih (by omega)
    obtain ⟨vs₂, r₂, hway₂⟩ := hway₁.close hready.quiet
    rw [if_pos (by omega), ← hlength] at hway₂
    obtain ⟨vs₃, r₃, image, hway₃⟩ := hway₂.save hready (by omega)
    refine ⟨vs₃, r₃, images ++ [image], by simp [hlength], ?_⟩
    rw [hlength] at hway₃
    exact hway₃

end ImageSeries

/-! ## Whole runs -/

namespace Session
variable {σ : Type} {s : Session σ} {e : Engine σ} {w : Workflow} {enforces : Bool}
  {files : FileTree}

/-- With a provider that is there, a run that is admitted is carried out. -/
theorem run_of_givesImages (checks : Option Bool) (hidle : s.status ≠ .running)
    (hadmitted : e.admission w enforces s.files = (files, .ok ()))
    (hprovider : e.provider.GivesImages) :
    ∃ memory, s.start e w checks = Run.start e true none files memory ∧
      s.run e w checks enforces = settle e w (Run.execute e w true none files memory) := by
  have hcheck : ∃ memory, Run.checkFirst e w (checks.getD e.checksConnection) s.memory =
      (.ok true, memory) := by
    unfold Run.checkFirst
    split
    · exact ⟨_, Prod.ext (hprovider.connected s.memory) rfl⟩
    · exact ⟨_, rfl⟩
  have hinterruption :
      Run.interruptedFirst e w (checks.getD e.checksConnection) s.memory = none := by
    unfold Run.interruptedFirst
    split
    · exact hprovider.uninterrupted s.memory
    · rfl
  obtain ⟨memory, hcheck⟩ := hcheck
  refine ⟨memory, ?_, ?_⟩
  · have hfiles := Engine.admission_eq_ok hadmitted
    simp only [start, hcheck, hinterruption, hfiles]
    rfl
  · rw [run_of_idle hidle, hadmitted]
    simp only [perform, hcheck, hinterruption]

end Session

namespace ImageSeries
variable {σ : Type} {series : ImageSeries} {s : Session σ} {e : Engine σ} {enforces : Bool}
  {files : FileTree}

/-- All visits of a run. -/
theorem exists_way (hready : series.Ready e) (hcount : 1 ≤ series.count) (memory : σ)
    (hroom : ∀ j : Nat, (j : Int) < series.count →
      files.Writable (series.path e.workingDirectory j)) :
    ∃ vs r images, images.length = series.count.toNat ∧
      series.Way e (Run.start e true none files memory) vs r images (series.state images [] 5)
        (series.count.toNat + 2) := by
  have hstart : series.Way e (Run.start e true none files memory) []
      (Run.start e true none files memory) [] {} 0 :=
    ⟨.nil _, List.forall_mem_nil _, rfl, rfl, ⟨rfl, rfl, by simp, hroom⟩, rfl, rfl, rfl, rfl,
      List.forall_mem_nil _⟩
  obtain ⟨vs₁, r₁, h₁⟩ := hstart.enter hready.quiet hcount
  obtain ⟨vs₂, r₂, images, hlength, h₂⟩ := h₁.iterate hready (series.count.toNat - 1) (by omega)
  obtain ⟨vs₃, r₃, h₃⟩ := h₂.close hready.quiet
  rw [if_neg (by omega)] at h₃
  have hexecuted : series.count.toNat - 1 + 3 = series.count.toNat + 2 := by omega
  rw [hexecuted] at h₃
  exact ⟨vs₃, r₃, images, by omega, h₃⟩

theorem path_injective (directory : FilePath) : Function.Injective (series.path directory) := by
  intro j k h
  have := numberedPath_injective _ _ h
  omega

/-- What a run of the workflow comes to: the visits of `Way`, and nothing else. -/
theorem exists_run (checks : Option Bool) (hready : series.Ready e) (hcount : 1 ≤ series.count)
    (hidle : s.status ≠ .running)
    (hadmitted : e.admission series.workflow enforces s.files = (files, .ok ()))
    (hroom : ∀ j : Nat, (j : Int) < series.count →
      files.Writable (series.path e.workingDirectory j)) :
    ∃ vs last images, images.length = series.count.toNat ∧
      series.Way e (s.start e series.workflow checks) vs last images (series.state images [] 5)
        (series.count.toNat + 2) ∧
      s.Carries e series.workflow checks enforces vs last := by
  obtain ⟨memory, hstart, hrun⟩ :=
    Session.run_of_givesImages checks hidle hadmitted hready.provider
  obtain ⟨vs, last, images, hlength, hway⟩ := exists_way hready hcount memory hroom
  have hends : Run.Ends series.workflow last last := .finished hway.going (by rw [hway.state]; rfl)
  have hstops := Run.StopsAfter.ends hway.course hway.unbroken hends
  obtain ⟨vs', hstops'⟩ := Run.exists_stopsAfter e series.workflow true none files memory
  obtain ⟨rfl, hlast⟩ := hstops.unique hstops'
  refine ⟨vs, last, images, hlength, hstart ▸ hway, hstart ▸ hstops, ?_⟩
  rw [hrun, hlast]
  rfl

/-- The report after such visits. -/
theorem Way.report {r₀ last : Run σ} {images : List Image} {state : RunState} {executed : Nat}
    {vs : List (Run σ × Instruction)} (h : series.Way e r₀ vs last images state executed) :
    let report := (last.finish e series.workflow).report series.workflow
    report.succeeded = true ∧ report.count .executed = executed ∧
      report.count .failed = 0 ∧ report.count .skipped = 0 ∧ report.images.map (·.image) = images ∧
      report.savedFiles = (List.range images.length).map (series.path e.workingDirectory) := by
  intro report
  have hstatus : report.status = .completed := if_pos h.own
  have hfatal : report.fatalError = none := h.going
  have hentries : report.entries = last.entries.reverse := by
    simp [report, Run.report, Run.finish, Run.emit, h.going]
  have hnone {outcome : Outcome} (hfailed : outcome ≠ .executed ∧ outcome ≠ .control) :
      report.count outcome = 0 := by
    rw [RunReport.count, hentries, List.countP_reverse, List.countP_eq_zero]
    intro entry hentry
    have hsucceeded := h.succeeded entry hentry
    rw [Entry.succeeded, Bool.or_eq_true, decide_eq_true_eq, decide_eq_true_eq] at hsucceeded
    rw [decide_eq_true_eq]
    rintro rfl
    exact hsucceeded.elim hfailed.1 hfailed.2
  have hsaved : report.savedFiles = (report.images.map (·.savedAt)).filterMap id := by
    rw [List.filterMap_map]
    rfl
  refine ⟨?_, ?_, hnone (by decide), hnone (by decide), h.made.recorded, ?_⟩
  · simp [RunReport.succeeded, hstatus, hfatal]
  · rw [RunReport.count, hentries, List.countP_reverse, h.executed]
  · rw [hsaved]
    show (last.scene.images.map (·.savedAt)).filterMap id = _
    rw [h.made.saved, List.filterMap_map]
    exact congrFun List.filterMap_eq_map' _

/-- For any number of images: each is asked for once, with the image before as its source, each is
saved under its number, and there is nothing else in the report. -/
theorem run_completes (checks : Option Bool) (hready : series.Ready e) (hcount : 1 ≤ series.count)
    (hidle : s.status ≠ .running)
    (hadmitted : e.admission series.workflow enforces s.files = (files, .ok ()))
    (hroom : ∀ j : Nat, (j : Int) < series.count →
      files.Writable (series.path e.workingDirectory j)) :
    ∃ images r, (images.length : Int) = series.count ∧
      (s.run e series.workflow checks enforces).2 = .ok r ∧
      s.contacts e series.workflow checks enforces =
        s.firstContacts e series.workflow checks ++ series.contacts e.baseline images ∧
      (let report := r.report series.workflow
       report.succeeded = true ∧ (report.count .executed : Int) = series.count + 2 ∧
        report.count .failed = 0 ∧ report.count .skipped = 0 ∧
        report.images.map (·.image) = images ∧
        report.savedFiles = (List.range images.length).map (series.path e.workingDirectory) ∧
        report.savedFiles.Nodup) ∧
      ∀ j (hj : j < images.length),
        (s.run e series.workflow checks enforces).1.files.read (series.path e.workingDirectory j) =
          .ok (.image images[j]) := by
  obtain ⟨vs, last, images, hlength, hway, hcarries⟩ :=
    exists_run checks hready hcount hidle hadmitted hroom
  have hunbroken : last.ending ≠ .broken := by rw [hway.own]; decide
  have hok : (s.run e series.workflow checks enforces).2 = .ok (last.finish e series.workflow) := by
    rw [hcarries.settles]
    exact Session.settle_of_ending hunbroken
  obtain ⟨hsucceeded, hexecuted, hfailed, hskipped, himages, hsaved⟩ := hway.report
  refine ⟨images, last.finish e series.workflow, by omega, hok, ?_, ⟨hsucceeded, by omega, hfailed,
    hskipped, himages, hsaved, ?_⟩, ?_⟩
  · obtain ⟨hrefuses, -⟩ | ⟨vs', last', hcarries', hcontacts⟩ :=
      s.contacts_cases e series.workflow checks enforces
    · exact absurd hrefuses hcarries.not_refuses
    · obtain ⟨rfl, -⟩ := hcarries.visits.unique hcarries'.visits
      rw [hcontacts, hway.contacts]
  · rw [hsaved]
    exact List.nodup_range.map (path_injective e.workingDirectory)
  · intro j hj
    rw [hcarries.files]
    exact hway.made.held j hj

/-- Two images, numbered from minus one on, in a folder that is not there yet. -/
theorem run_completes_from_minus_one :
    let image := Image.solid .rgb 1 1 { c0 := 5 }
    let script : Script := { steps := [{ images := .inl [image] }] }
    let series : ImageSeries :=
      { text := "a", settings := { steps := some 4 }, count := 2, start := -1, stem := "out/b" }
    let e := Run.rehearsalEngine script
    series.Ready e ∧ ∃ (images : List Image) (r : Run Rehearsal), images.length = 2 ∧
      (Run.rehearsalSession.run e series.workflow).2 = .ok r ∧
      (r.report series.workflow).savedFiles = [⟨["out", "b-1.png"]⟩, ⟨["out", "b0.png"]⟩] := by
  intro image script series e
  have hstep (k : Nat) : script.step k = { images := .inl [image] } := by
    simp [Script.step, script]
  have hprovider : e.provider.GivesImages := by
    refine ⟨fun _ => rfl, fun _ => rfl, fun memory call => ⟨image, ?_, rfl⟩⟩
    show (script.generate memory call).1.result = _
    simp [Script.generate, hstep]
  have hcases {j : Nat} (hj : (j : Int) < series.count) : j = 0 ∨ j = 1 := by
    have : (j : Int) < 2 := hj
    omega
  have hfirst : series.path e.workingDirectory 0 = ⟨["out", "b-1.png"]⟩ := by decide +kernel
  have hsecond : series.path e.workingDirectory 1 = ⟨["out", "b0.png"]⟩ := by decide +kernel
  have hready : series.Ready e := by
    refine ⟨List.forall_mem_nil _, rfl, hprovider, by decide, fun j hj => ?_⟩
    rw [insidePath_eq_ok]
    rcases hcases hj with rfl | rfl
    · exact ⟨by decide +kernel, by decide +kernel, rfl, List.nil_prefix⟩
    · exact ⟨by decide +kernel, by decide +kernel, rfl, List.nil_prefix⟩
  have hroom (j : Nat) (hj : (j : Int) < series.count) :
      FileTree.Writable ⟨[]⟩ (series.path e.workingDirectory j) := by
    rcases hcases hj with rfl | rfl
    · rw [hfirst]
      exact ⟨_, .text "", _, rfl, rfl⟩
    · rw [hsecond]
      exact ⟨_, .text "", _, rfl, rfl⟩
  have hadmitted : e.admission series.workflow false Run.rehearsalSession.files =
      (⟨[]⟩, .ok ()) := rfl
  obtain ⟨images, r, hlength, hrun, -, ⟨-, -, -, -, -, hsaved, -⟩, -⟩ :=
    run_completes none hready (by decide) (by decide) hadmitted hroom
  have hlength : images.length = 2 := Int.ofNat_inj.mp hlength
  rw [hlength] at hsaved
  refine ⟨hready, images, r, hlength, hrun, ?_⟩
  rw [hsaved, ← hfirst, ← hsecond]
  rfl

end ImageSeries

end ImageWorkflow
