import Mathlib
import ImageWorkflow.Proofs.ErasedRuns
import ImageWorkflow.Proofs.LoopPasses
import ImageWorkflow.Proofs.NumberedFiles
import ImageWorkflow.Proofs.Reading

/-!
# The images of a folder, one for each iteration

* `FileTree.Shelf t directory shelf` : the image files of a directory, in the order of their names,
  with their images; `FileTree.Shelf.imageNames_eq` : so they are listed;
* `iterationImage_of_numbered` : the file with an iteration's index for its name is preferred, by
  the order of the extensions; `iterationImage_of_shelf` : without such a file the iteration's place
  decides;
* `Run.Gives` : a visit puts the image of a file to its use;
* `Run.Pass.images_in_order` : which images a loop is given that runs all its iterations.
-/

namespace ImageWorkflow

/-! ## Files of a directory -/

namespace FilePath
variable {directory : FilePath} {a b : String}

theorem exists_text_child (directory : FilePath) :
    ∃ front : String, ∀ a, (directory.child a).text = front ++ a := by
  by_cases hparts : directory.parts = []
  · exact ⟨"/", fun a => by simp [text, child, hparts]⟩
  · refine ⟨"/" ++ ("/".intercalate directory.parts ++ "/"), fun a => ?_⟩
    rw [text, child, String.intercalate_append_of_ne_nil hparts (List.cons_ne_nil a []),
      String.intercalate_singleton, ← String.append_assoc]

/-- Shorter names are allowed where longer ones are. -/
theorem Allowed.of_le (h : (directory.child b).Allowed) (hnull : hasNull a = false)
    (hsize : a.utf8ByteSize ≤ b.utf8ByteSize) : (directory.child a).Allowed := by
  obtain ⟨front, hfront⟩ := exists_text_child directory
  have hnone := h.noNull
  have hshort := h.short
  have hparts := List.forall_mem_append.mp h.parts
  have hlast := hparts.2 b (List.mem_singleton_self b)
  rw [child, List.any_append, Bool.or_eq_false_iff] at hnone
  rw [hfront, String.utf8ByteSize_append] at hshort
  refine ⟨?_, ?_, List.forall_mem_append.mpr ⟨hparts.1, ?_⟩⟩
  · rw [child, List.any_append, hnone.1, List.any_cons, hnull]
    rfl
  · rw [hfront, String.utf8ByteSize_append]
    omega
  · rintro part hpart
    obtain rfl := List.mem_singleton.mp hpart
    omega

end FilePath

namespace FileTree
variable {t : FileTree} {p directory : FilePath} {name : String}

theorem exists_locate_of_isFile (h : t.isFile p = .ok true) : ∃ q, t.locate p = .ok q := by
  unfold isFile FileTree.test at h
  split at h
  · rename_i hget
    obtain ⟨q, hq, -⟩ := bind_eq_ok.mp hget
    exact ⟨q, hq⟩
  · cases h
  · cases h

/-- Whether there is a file of an allowed name in a directory has an answer. -/
theorem isFile_of_allowed (hplain : (directory.child name).Plain) (ht : t.Standing directory)
    (ha : (directory.child name).Allowed) (h : t.isFile (directory.child name) ≠ .ok true) :
    t.isFile (directory.child name) = .ok false := by
  have hparent : (directory.child name).parent = directory := by
    rw [FilePath.parent, FilePath.child, List.dropLast_concat]
  have hlocate : t.locate (directory.child name) = .ok (directory.child name) :=
    locate_of_allowed hplain ha (hparent.symm ▸ ht)
  rw [isFile, FileTree.test, get, hlocate] at h ⊢
  cases hnode : t.node? (directory.child name) with
  | none => simp [bind, Except.bind, hnode]
  | some node =>
    cases node with
    | directory => simp [bind, Except.bind, pure, Except.pure, hnode]
    | file => simp [bind, Except.bind, pure, Except.pure, hnode] at h

/-- The image files of a directory by name, with their images, in the order of their names. -/
structure Shelf (t : FileTree) (directory : FilePath) (shelf : List (String × Image)) : Prop where
  /-- No two entries have the same name. -/
  nodup : (t.entryNames directory).Nodup
  mem_names : ∀ name, name ∈ shelf.map (·.1) ↔ name ∈ t.entryNames directory ∧
    Text.lowerAscii (Text.extension name) ∈ Text.imageExtensions ∧
    t.isFile (directory.child name) = .ok true
  ordered : shelf.Pairwise fun file next => file.1 < next.1
  holds : ∀ file ∈ shelf, t.read (directory.child file.1) = .ok (.image file.2)

variable {shelf : List (String × Image)}

theorem Shelf.ordered_names (h : t.Shelf directory shelf) :
    (shelf.map (·.1)).Pairwise (· < ·) := List.pairwise_map.mpr h.ordered

/-- Files in different places have different names. -/
theorem Shelf.eq_of_name {j k : Nat} (h : t.Shelf directory shelf) {hj : j < shelf.length}
    {hk : k < shelf.length} (hname : shelf[j].1 = shelf[k].1) : j = k := by
  have hnodup : (shelf.map (·.1)).Nodup := h.ordered_names.imp ne_of_lt
  have hj : j < (shelf.map (·.1)).length := by rwa [List.length_map]
  have hk : k < (shelf.map (·.1)).length := by rwa [List.length_map]
  have hmapped : (shelf.map (·.1))[j] = (shelf.map (·.1))[k] := by
    rw [List.getElem_map, List.getElem_map, hname]
  exact hnodup.getElem_inj_iff.mp hmapped

/-- The image files are listed as they stand on the shelf. -/
theorem Shelf.imageNames_eq (h : t.Shelf directory shelf) :
    imageNames t directory = shelf.map (·.1) := by
  have hordered := h.ordered_names
  have hsorted : (shelf.map (·.1)).SortedLE := (hordered.imp le_of_lt).sortedLE
  refine List.Perm.eq_of_sortedLE List.sortedLE_mergeSort hsorted ?_
  refine (List.mergeSort_perm _ _).trans ?_
  rw [List.perm_ext_iff_of_nodup (h.nodup.filter _) (hordered.imp ne_of_lt)]
  intro name
  rw [h.mem_names, List.mem_filter, Bool.and_eq_true, List.contains_iff_mem]
  refine and_congr_right fun _ => and_congr_right fun _ => ?_
  cases t.isFile (directory.child name) <;> simp

end FileTree

/-! ## The image of an iteration -/

section iteration
variable {t : FileTree} {root directory : FilePath} {folder : String} {frame : LoopFrame}
  {image : Image}

/-- The name that a file of the iteration with index `k` has. -/
def numberedFile (k : Int) (extension : String) : String := toString k ++ extension

theorem openImage_of_read {path : FilePath} (h : t.read path = .ok (.image image))
    (label : String) : t.openImage path label = .ok image := by
  rw [FileTree.openImage, h]

theorem firstFile_of_none {names : List String}
    (h : ∀ name ∈ names, t.isFile (directory.child name) = .ok false) :
    firstFile t directory names = .ok none := by
  induction names with
  | nil => rfl
  | cons name names ih =>
    obtain ⟨hname, hnames⟩ := List.forall_mem_cons.mp h
    rw [firstFile, hname]
    exact ih hnames

theorem firstFile_of_first {before after : List String} {name : String}
    (hbefore : ∀ name ∈ before, t.isFile (directory.child name) = .ok false)
    (hname : t.isFile (directory.child name) = .ok true) :
    firstFile t directory (before ++ name :: after) = .ok (some name) := by
  induction before with
  | nil =>
    rw [List.nil_append, firstFile, hname]
    rfl
  | cons first before ih =>
    obtain ⟨hfirst, hbefore⟩ := List.forall_mem_cons.mp hbefore
    rw [List.cons_append, firstFile, hfirst]
    exact ih hbefore

/-- What an iteration is given by a folder that is there. -/
theorem iterationImage_eq (hdirectory : insidePath root folder = .ok directory)
    (hthere : t.isDirectory directory = .ok true) : iterationImage root t folder frame =
      firstFile t directory (Text.imageExtensions.map (numberedFile frame.current)) >>= fun first =>
        (match first with
          | some name => .ok name
          | none =>
            let names := imageNames t directory
            match names[frame.offset.toNat]? with
            | some name => .ok name
            | none => refuseVisit (.folderExhausted folder frame.offset names.length)) >>=
          fun name =>
            t.openImage (directory.child name) name >>= fun image => .ok (image, name) := by
  have hnumbered : (Text.imageExtensions.map fun extension => toString frame.current ++ extension) =
      Text.imageExtensions.map (numberedFile frame.current) := rfl
  unfold iterationImage
  simp only [hdirectory, hthere, hnumbered, askFiles, bind, Except.bind, Except.mapError, if_true]
  cases firstFile t directory (Text.imageExtensions.map (numberedFile frame.current)) with
  | error failure => rfl
  | ok first =>
    cases first with
    | some name => rfl
    | none => cases (imageNames t directory)[frame.offset.toNat]? <;> rfl

theorem extension_size : ∀ extension ∈ Text.imageExtensions, 4 ≤ extension.utf8ByteSize := by
  decide

theorem numberedFile_ne_parent {k : Int} {extension : String}
    (h : extension ∈ Text.imageExtensions) : numberedFile k extension ≠ ".." := by
  intro hparent
  have hsize := congrArg String.utf8ByteSize hparent
  have := extension_size extension h
  rw [numberedFile, String.utf8ByteSize_append, show "..".utf8ByteSize = 2 from rfl] at hsize
  omega

theorem hasNull_numberedFile {extension : String} (h : extension ∈ Text.imageExtensions) (k : Int) :
    FilePath.hasNull (numberedFile k extension) = false := by
  have hnulls : ∀ extension ∈ Text.imageExtensions, '\x00' ∉ extension.toList := by decide
  rw [FilePath.hasNull, ← Bool.not_eq_true, List.contains_iff_mem, numberedFile,
    String.toList_append, List.mem_append, not_or]
  exact ⟨notMem_toString (by decide) (by decide) k, hnulls extension h⟩

/-- There is no file of an iteration's index if the names are allowed and none is a file. -/
theorem isFile_numbered (hdirectory : insidePath root folder = .ok directory)
    (hthere : t.isDirectory directory = .ok true) {k : Int} {extension : String}
    (hextension : extension ∈ Text.imageExtensions)
    (ha : (directory.child (numberedFile k extension)).Allowed)
    (h : t.isFile (directory.child (numberedFile k extension)) ≠ .ok true) :
    t.isFile (directory.child (numberedFile k extension)) = .ok false := by
  obtain ⟨-, -, rfl, -⟩ := insidePath_eq_ok.mp hdirectory
  have hplain : (root.normalize.resolve folder).Plain := FilePath.plain_normalize _
  have hstanding := FileTree.isDirectory_eq_true hthere
  rw [hplain.normalize] at hstanding
  exact FileTree.isFile_of_allowed (hplain.child (numberedFile_ne_parent hextension)) hstanding ha h

/-- The first file with an iteration's index for its name is the iteration's, whatever else is
listed. -/
theorem iterationImage_of_numbered {k : Int} (hk : frame.current = k)
    (hdirectory : insidePath root folder = .ok directory)
    (hthere : t.isDirectory directory = .ok true) {before after : List String} {extension : String}
    (hextensions : Text.imageExtensions = before ++ extension :: after)
    (hbefore : ∀ other ∈ before, t.isFile (directory.child (numberedFile k other)) ≠ .ok true)
    (hfile : t.isFile (directory.child (numberedFile k extension)) = .ok true)
    (hread : t.read (directory.child (numberedFile k extension)) = .ok (.image image)) :
    iterationImage root t folder frame = .ok (image, numberedFile k extension) := by
  subst hk
  have hmem : extension ∈ Text.imageExtensions := by simp [hextensions]
  have hplain : directory.Plain := by
    obtain ⟨-, -, rfl, -⟩ := insidePath_eq_ok.mp hdirectory
    exact FilePath.plain_normalize _
  obtain ⟨q, hlocate⟩ := FileTree.exists_locate_of_isFile hfile
  have hallowed := FileTree.allowed_of_locate (hplain.child (numberedFile_ne_parent hmem)) hlocate
  have hnone : ∀ other ∈ before,
      t.isFile (directory.child (numberedFile frame.current other)) = .ok false := by
    intro other hother
    -- extensions that are tried later are no shorter
    have hsizes : Text.imageExtensions.Pairwise fun a b => a.utf8ByteSize ≤ b.utf8ByteSize := by
      decide
    rw [hextensions] at hsizes
    have hsize := (List.pairwise_append.mp hsizes).2.2 other hother extension List.mem_cons_self
    have hother' : other ∈ Text.imageExtensions := by
      rw [hextensions]
      exact List.mem_append_left _ hother
    refine isFile_numbered hdirectory hthere hother' ?_ (hbefore other hother)
    refine hallowed.of_le (hasNull_numberedFile hother' _) ?_
    rw [numberedFile, numberedFile, String.utf8ByteSize_append, String.utf8ByteSize_append]
    exact Nat.add_le_add_left hsize _
  have hfirst : firstFile t directory (Text.imageExtensions.map (numberedFile frame.current)) =
      .ok (some (numberedFile frame.current extension)) := by
    rw [hextensions, List.map_append, List.map_cons]
    exact firstFile_of_first (List.forall_mem_map.mpr hnone) hfile
  rw [iterationImage_eq hdirectory hthere, hfirst]
  simp only [bind, Except.bind, openImage_of_read hread]

/-- Without a file with an iteration's index for its name, its place on the shelf decides. -/
theorem iterationImage_of_shelf {k : Int} (hk : frame.current = k) {j : Nat}
    (hj : frame.offset = j) (hdirectory : insidePath root folder = .ok directory)
    (hthere : t.isDirectory directory = .ok true) {shelf : List (String × Image)}
    (hshelf : t.Shelf directory shelf)
    (hnone : ∀ extension ∈ Text.imageExtensions,
      t.isFile (directory.child (numberedFile k extension)) = .ok false) :
    iterationImage root t folder frame =
      match shelf[j]? with
      | some (name, image) => .ok (image, name)
      | none => refuseVisit (.folderExhausted folder j shelf.length) := by
  subst hk
  have hfirst := firstFile_of_none (List.forall_mem_map.mpr hnone)
  rw [iterationImage_eq hdirectory hthere, hfirst]
  simp only [bind, Except.bind]
  rw [hshelf.imageNames_eq, List.getElem?_map, List.length_map, hj, Int.toNat_natCast]
  cases hfile : shelf[j]? with
  | none => rfl
  | some file =>
    have hread := hshelf.holds file (List.mem_of_getElem? hfile)
    simp only [Option.map_some, openImage_of_read hread]

end iteration

/-! ## Visits -/

/-- The folder from which an instruction takes an image for each iteration of a loop. -/
def Instruction.imageFolder? : Instruction → Option String
  | .loopLoad folder | .loopAddMoodboard folder => some folder
  | _ => none

theorem Instruction.imageFolder?_cases {i : Instruction} {folder : String}
    (h : i.imageFolder? = some folder) : i = .loopLoad folder ∨ i = .loopAddMoodboard folder := by
  cases i <;> cases h
  · exact .inr rfl
  · exact .inl rfl

namespace Run
variable {σ : Type} {e : Engine σ} {w : Workflow} {r r' : Run σ} {i : Instruction}
  {count start : Int} {n : Nat} {folder name : String} {directory : FilePath} {frame : LoopFrame}
  {image : Image} {vs : List (Run σ × Instruction)}

/-- The visit puts the image of a file to its use: on the canvas, or at the end of the moodboard. -/
def Gives (e : Engine σ) (w : Workflow) (r : Run σ) (i : Instruction) (name : String)
    (image : Image) : Prop :=
  match i with
  | .loopLoad _ => (r.visitDue e w i).2 = .done s!"Loaded: {name}" ∧
      (r.visitDue e w i).1.state.canvas = some { image }
  | .loopAddMoodboard folder => (r.visitDue e w i).2 = .done s!"Moodboard image added: {name}" ∧
      (r.visitDue e w i).1.state.moodboard =
        r.scene.state.moodboard ++ [{ image, source := s!"{folder}/{name}" }]
  | _ => False

theorem Gives.name_unique {name' : String} {image' : Image} (h : Gives e w r i name image)
    (h' : Gives e w r i name' image') : name = name' := by
  have hdone {said : String}
      (heq : Engine.Verdict.done (said ++ name) = .done (said ++ name')) : name = name' := by
    have heq := Engine.Verdict.done.inj heq
    rwa [String.append_right_inj] at heq
  cases i with
  | loopLoad => exact hdone (h.1.symm.trans h'.1)
  | loopAddMoodboard => exact hdone (h.1.symm.trans h'.1)
  | _ => exact h.elim

theorem Gives.not_failed {failure : VisitFailure} (h : Gives e w r i name image) :
    (r.visitDue e w i).2 ≠ .failed failure := by
  intro hfailed
  cases i with
  | loopLoad => cases h.1.symm.trans hfailed
  | loopAddMoodboard => cases h.1.symm.trans hfailed
  | _ => exact h.elim

/-- What a visit makes of the image of its iteration, or of the want of one. -/
theorem visitDue_of_imageFolder (hfolder : i.imageFolder? = some folder)
    (hframe : r.scene.state.frame? = some frame) :
    match iterationImage e.workingDirectory r.scene.files folder frame with
    | .ok (image, name) => Gives e w r i name image
    | .error failure => (r.visitDue e w i).2 = .failed failure := by
  let scene := Engine.atVisit r.scene.state.counter r.scene
  have hrequire (kind : Kind) : scene.state.requireFrame kind = .ok frame := by
    have hframe : scene.state.frame? = some frame := hframe
    rw [RunState.requireFrame, hframe]
  have hreads : i.readsImage = true := by
    rcases Instruction.imageFolder?_cases hfolder with rfl | rfl <;> rfl
  have hvisit : r.visitDue e w i = _ :=
    e.visit_of_readsImage w r.scene r.scene.state.counter hreads r.scene.files
  cases himage : iterationImage e.workingDirectory r.scene.files folder frame with
  | error failure =>
    have hperform : scene.state.perform w e.workingDirectory r.scene.files r.scene.state.counter i =
        .error failure := by
      rcases Instruction.imageFolder?_cases hfolder with rfl | rfl
      all_goals simp only [RunState.perform, hrequire, himage, bind, Except.bind]
    rw [hperform] at hvisit
    exact congrArg Prod.snd hvisit
  | ok found =>
    obtain ⟨image, name⟩ := found
    rcases Instruction.imageFolder?_cases hfolder with rfl | rfl
    · have hperform : scene.state.perform w e.workingDirectory r.scene.files
          r.scene.state.counter (.loopLoad folder) =
            .ok (scene.state.loadCanvas image, s!"Loaded: {name}") := by
        simp only [RunState.perform, hrequire, himage, bind, Except.bind, pure, Except.pure]
      rw [hperform] at hvisit
      obtain ⟨mask, hmask⟩ := (scene.state.loadCanvas image).fitMask_eq
      refine ⟨congrArg Prod.snd hvisit, ?_⟩
      rw [hvisit]
      exact congrArg RunState.canvas hmask
    · have hperform : scene.state.perform w e.workingDirectory r.scene.files
          r.scene.state.counter (.loopAddMoodboard folder) =
            .ok (scene.state.addEntry image s!"{folder}/{name}",
              s!"Moodboard image added: {name}") := by
        simp only [RunState.perform, hrequire, himage, bind, Except.bind, pure, Except.pure]
      rw [hperform] at hvisit
      obtain ⟨mask, hmask⟩ := (scene.state.addEntry image s!"{folder}/{name}").fitMask_eq
      refine ⟨congrArg Prod.snd hvisit, ?_⟩
      rw [hvisit]
      exact congrArg RunState.moodboard hmask

/-! ## Whole loops -/

/-- The loops being run in the visit of the iteration with `j` of them behind it. -/
theorem Pass.frame_at (h : Pass e w r count start vs r')
    (hn : w.DirectlyIn r.scene.state.counter n) :
    (visitsAt n vs).length = count.toNat ∧
      ∀ j (hj : j < (visitsAt n vs).length),
        (visitsAt n vs)[j].1.scene.state.frame? = some (r.iterationFrame count start j) := by
  have hloops := h.loops_at hn
  have hlength := congrArg List.length hloops
  rw [List.length_map, List.length_map, List.length_range] at hlength
  refine ⟨hlength, fun j hj => ?_⟩
  have hget := congrArg (·[j]?) hloops
  simp only [List.getElem?_map, List.getElem?_eq_getElem hj, Option.map_some,
    List.getElem?_range (hlength ▸ hj)] at hget
  rw [RunState.frame?, Option.some.inj hget]
  rfl

/-- The first file with the index of an iteration for its name is the one that is given. -/
theorem gives_numbered {j : Nat} (hfolder : i.imageFolder? = some folder)
    (hframe : r.scene.state.frame? = some (r'.iterationFrame count start j))
    (hdirectory : insidePath e.workingDirectory folder = .ok directory)
    (hthere : r.scene.files.isDirectory directory = .ok true)
    {before after : List String} {extension : String}
    (hextensions : Text.imageExtensions = before ++ extension :: after)
    (hbefore : ∀ other ∈ before,
      r.scene.files.isFile (directory.child (numberedFile (start + j) other)) ≠ .ok true)
    (hfile : r.scene.files.isFile (directory.child (numberedFile (start + j) extension)) = .ok true)
    (hread : r.scene.files.read (directory.child (numberedFile (start + j) extension)) =
      .ok (.image image)) : Gives e w r i (numberedFile (start + j) extension) image := by
  have hcurrent : (r'.iterationFrame count start j).current = start + j := rfl
  have hgives := visitDue_of_imageFolder (e := e) (w := w) hfolder hframe
  rwa [iterationImage_of_numbered hcurrent hdirectory hthere hextensions hbefore hfile hread]
    at hgives

/-- Without such a file, the place of the iteration decides. -/
theorem gives_shelved {j : Nat} {shelf : List (String × Image)}
    (hfolder : i.imageFolder? = some folder)
    (hframe : r.scene.state.frame? = some (r'.iterationFrame count start j))
    (hdirectory : insidePath e.workingDirectory folder = .ok directory)
    (hthere : r.scene.files.isDirectory directory = .ok true)
    (hshelf : r.scene.files.Shelf directory shelf)
    (hnames : ∀ extension ∈ Text.imageExtensions,
      (directory.child (numberedFile (start + j) extension)).Allowed ∧
        r.scene.files.isFile (directory.child (numberedFile (start + j) extension)) ≠ .ok true) :
    (∀ file, shelf[j]? = some file → Gives e w r i file.1 file.2) ∧
      (shelf.length ≤ j → (r.visitDue e w i).2 =
        .failed (.fault (.folderExhausted folder j shelf.length))) := by
  have hnone : ∀ extension ∈ Text.imageExtensions,
      r.scene.files.isFile (directory.child (numberedFile (start + j) extension)) = .ok false := by
    intro extension hextension
    obtain ⟨hallowed, hnone⟩ := hnames extension hextension
    exact isFile_numbered hdirectory hthere hextension hallowed hnone
  have hoffset : (r'.iterationFrame count start j).offset = j := by
    simp [iterationFrame, LoopFrame.offset]
  have hgives := visitDue_of_imageFolder (e := e) (w := w) hfolder hframe
  rw [iterationImage_of_shelf rfl hoffset hdirectory hthere hshelf hnone] at hgives
  refine ⟨fun file hfile => ?_, fun hover => ?_⟩
  · rwa [hfile] at hgives
  · rwa [List.getElem?_eq_none hover] at hgives

/-- In a loop that runs all its iterations, an instruction directly in it that takes images from a
folder is visited once in each.  The first file with the iteration's index for its name is
preferred; where the names are allowed, but none of them is a file, the iterations are given the
images of an unchanging folder in the order of their names, each once, and fail when none is
left. -/
theorem Pass.images_in_order (h : Pass e w r count start vs r') (hi : w[n]? = some i)
    (hfolder : i.imageFolder? = some folder)
    (hopen : w.openLoops n = r.scene.state.counter :: w.openLoops r.scene.state.counter)
    (hdirectory : insidePath e.workingDirectory folder = .ok directory)
    (hthere : ∀ v ∈ visitsAt n vs, v.1.scene.files.isDirectory directory = .ok true) :
    (visitsAt n vs).length = count.toNat ∧
    (∀ j (hj : j < (visitsAt n vs).length), (visitsAt n vs)[j].2 = i ∧
      (visitsAt n vs)[j].1.scene.state.frame? =
        some { startIndex := r.scene.state.counter, start, count, current := start + j }) ∧
    (∀ j (hj : j < (visitsAt n vs).length),
      let q := (visitsAt n vs)[j].1
      ∀ before extension after, Text.imageExtensions = before ++ extension :: after →
        (∀ other ∈ before,
          q.scene.files.isFile (directory.child (numberedFile (start + j) other)) ≠ .ok true) →
        q.scene.files.isFile (directory.child (numberedFile (start + j) extension)) = .ok true →
        ∀ image, q.scene.files.read (directory.child (numberedFile (start + j) extension)) =
          .ok (.image image) → Gives e w q i (numberedFile (start + j) extension) image) ∧
    ∀ shelf : List (String × Image),
      (∀ v ∈ visitsAt n vs, v.1.scene.files.Shelf directory shelf) →
      (∀ k, start ≤ k → k < start + count → ∀ extension ∈ Text.imageExtensions,
        (directory.child (numberedFile k extension)).Allowed ∧ ∀ v ∈ visitsAt n vs,
          v.1.scene.files.isFile (directory.child (numberedFile k extension)) ≠ .ok true) →
      (∀ j (hj : j < (visitsAt n vs).length),
        let q := (visitsAt n vs)[j].1
        (∀ file, shelf[j]? = some file → Gives e w q i file.1 file.2) ∧
          (shelf.length ≤ j → (q.visitDue e w i).2 =
            .failed (.fault (.folderExhausted folder j shelf.length)))) ∧
      ∀ file ∈ shelf.take count.toNat, ∃! j, ∃ hj : j < (visitsAt n vs).length,
        Gives e w (visitsAt n vs)[j].1 i file.1 file.2 := by
  have hn : w.DirectlyIn r.scene.state.counter n := by
    refine ⟨hopen, fun other hother => ?_⟩
    obtain rfl := Option.some.inj (hi.symm.trans hother)
    rcases Instruction.imageFolder?_cases hfolder with rfl | rfl <;> rfl
  obtain ⟨hlength, hframe⟩ := h.frame_at hn
  refine ⟨hlength, fun j hj => ⟨?_, hframe j hj⟩, fun j hj before extension after hextensions
    hbefore hfile image hread => ?_, fun shelf hshelf hnames => ?_⟩
  · obtain ⟨hmem, hhere⟩ := List.mem_filter.mp (List.getElem_mem hj)
    have hdue := (h.course.due_of_mem hmem).here
    rw [of_decide_eq_true hhere, hi] at hdue
    exact (Option.some.inj hdue).symm
  · exact gives_numbered hfolder (hframe j hj) hdirectory (hthere _ (List.getElem_mem hj))
      hextensions hbefore hfile hread
  · have hlist (j : Nat) (hj : j < (visitsAt n vs).length) :=
      gives_shelved (w := w) hfolder (hframe j hj) hdirectory (hthere _ (List.getElem_mem hj))
        (hshelf _ (List.getElem_mem hj)) fun extension hextension =>
          (hnames (start + j) (by omega) (by omega) extension hextension).imp_right
            fun hnone => hnone _ (List.getElem_mem hj)
    refine ⟨hlist, fun file hfile => ?_⟩
    obtain ⟨j, hj, rfl⟩ := List.mem_take_iff_getElem.mp hfile
    have hjv : j < (visitsAt n vs).length := by omega
    have hjs : j < shelf.length := by omega
    refine ⟨j, ⟨hjv, (hlist j hjv).1 _ (List.getElem?_eq_getElem hjs)⟩, ?_⟩
    rintro j' ⟨hj', hgives⟩
    by_cases hover : shelf.length ≤ j'
    · exact absurd ((hlist j' hj').2 hover) (Gives.not_failed hgives)
    · have hgiven := (hlist j' hj').1 _ (List.getElem?_eq_getElem (Nat.lt_of_not_le hover))
      exact (hshelf _ (List.getElem_mem hj')).eq_of_name (Gives.name_unique hgiven hgives)

/-! ## A folder with one image -/

/-- A folder with one image. -/
def lonelyImage : FileTree :=
  ⟨[(⟨["frames"]⟩, .directory),
    (⟨["frames", "a.png"]⟩, .file (.image (Image.solid .rgb 1 1 { c0 := 5 })))]⟩

theorem shelf_lonelyImage :
    lonelyImage.Shelf ⟨["frames"]⟩ [("a.png", Image.solid .rgb 1 1 { c0 := 5 })] := by
  have hentries : lonelyImage.entryNames ⟨["frames"]⟩ = ["a.png"] := by decide +kernel
  refine ⟨by rw [hentries]; exact List.nodup_singleton _, fun name => ?_, by simp, ?_⟩
  · rw [hentries, List.map_singleton, List.mem_singleton]
    refine ⟨?_, fun h => h.1⟩
    rintro rfl
    exact ⟨rfl, by decide +kernel, by decide +kernel⟩
  · intro file hfile
    obtain rfl := List.mem_singleton.mp hfile
    have hlocate : lonelyImage.locate ⟨["frames", "a.png"]⟩ = .ok ⟨["frames", "a.png"]⟩ := by
      decide +kernel
    rw [FilePath.child, FileTree.read, FileTree.get]
    simp only [List.cons_append, List.nil_append, hlocate]
    rfl

theorem insidePath_frames (e : Engine σ) (he : e.workingDirectory = ⟨[]⟩) :
    insidePath e.workingDirectory "frames" = .ok ⟨["frames"]⟩ := by
  rw [he, insidePath_eq_ok]
  exact ⟨by decide, by decide, by decide +kernel, List.nil_prefix⟩

/-- A name that is too long has no answer. -/
theorem isFile_lonelyImage {name : String} (hnull : FilePath.hasNull name = false)
    (hlong : maxNameBytes < name.utf8ByteSize) :
    lonelyImage.isFile ⟨["frames", name]⟩ = .error (.fault .nameTooLong ⟨["frames", name]⟩) := by
  have hname : name ≠ ".." := by
    rintro rfl
    exact absurd hlong (by decide)
  have hfollow : lonelyImage.follow ⟨[]⟩ ["frames", name] = .error .nameTooLong := by
    have hfirst : lonelyImage.node? ⟨[]⟩ = some .directory := rfl
    have hsecond : lonelyImage.node? ⟨["frames"]⟩ = some .directory := rfl
    rw [FileTree.follow, hfirst, if_neg (by decide), if_neg (by decide)]
    show lonelyImage.follow ⟨["frames"]⟩ [name] = _
    rw [FileTree.follow, hsecond, if_neg hname, if_pos hlong]
  have hnone : (["frames", name].any FilePath.hasNull) = false := by
    rw [List.any_cons, List.any_cons, hnull]
    decide
  have hlocate : lonelyImage.locate ⟨["frames", name]⟩ =
      .error (.fault .nameTooLong ⟨["frames", name]⟩) := by
    rw [FileTree.locate, hnone, if_neg Bool.false_ne_true, hfollow]
    split <;> rfl
  rw [FileTree.isFile, FileTree.test, FileTree.get, hlocate]
  rfl

theorem files_visited (hi : i.savedName? r.scene.state.frame? = none) :
    (r.visited e w i).scene.files = r.scene.files := by
  rw [visited_scene]
  obtain hsame | ⟨name, image, parameters, hname, -⟩ :=
    e.visit_files w r.scene r.scene.state.counter i
  · exact hsame
  · rw [hi] at hname
    cases hname

theorem counter_of_position {index : Nat} {loops : List LoopFrame}
    (hp : r.scene.state.position = ⟨index, loops⟩) : r.scene.state.counter = index :=
  congrArg Position.counter hp

theorem loops_of_position {index : Nat} {loops : List LoopFrame}
    (hp : r.scene.state.position = ⟨index, loops⟩) : r.scene.state.loops = loops :=
  congrArg Position.loops hp

theorem due_of_position {index : Nat} {loops : List LoopFrame}
    (hp : r.scene.state.position = ⟨index, loops⟩) (hi : w[index]? = some i)
    (hgoing : r.fatalError = none) (hunasked : r.cancelRequested = false) : r.Due w i :=
  ⟨hgoing, hunasked, by rwa [counter_of_position hp]⟩

theorem Course.visit {q : Run σ} (hd : r.Due w i) (hq : q = r.visited e w i)
    (hc : Course e w q vs r') : Course e w r ((r, i) :: vs) r' :=
  .cons hd (hq ▸ hc)

/-- Two iterations, from below zero: the first is given the image, and none is left for the
second. -/
theorem images_in_order_one_left :
    let e := rehearsalEngine {}
    let w : Workflow := [.loop 2 (-1), .loopLoad "frames", .loopEnd]
    let r := Run.start e true none lonelyImage {}
    let r₁ := r.visited e w (.loop 2 (-1))
    let r₂ := r₁.visited e w (.loopLoad "frames")
    let r₃ := r₂.visited e w .loopEnd
    Gives e w r₁ (.loopLoad "frames") "a.png" (Image.solid .rgb 1 1 { c0 := 5 }) ∧
      (r₃.visitDue e w (.loopLoad "frames")).2 =
        .failed (.fault (.folderExhausted "frames" 1 1)) := by
  intro e w r r₁ r₂ r₃
  let r₄ := r₃.visited e w (.loopLoad "frames")
  let r' := r₄.visited e w .loopEnd
  have hp₁ : r₁.scene.state.position = ⟨1, [⟨0, -1, 2, -1⟩]⟩ := by decide +kernel
  have hp₂ : r₂.scene.state.position = ⟨2, [⟨0, -1, 2, -1⟩]⟩ := by decide +kernel
  have hp₃ : r₃.scene.state.position = ⟨1, [⟨0, -1, 2, 0⟩]⟩ := by decide +kernel
  have hp₄ : r₄.scene.state.position = ⟨2, [⟨0, -1, 2, 0⟩]⟩ := by decide +kernel
  have hp' : r'.scene.state.position = ⟨3, []⟩ := by decide +kernel
  have hd₁ := due_of_position (w := w) hp₁ rfl (by decide +kernel) (by decide +kernel)
  have hd₂ := due_of_position (w := w) hp₂ rfl (by decide +kernel) (by decide +kernel)
  have hd₃ := due_of_position (w := w) hp₃ rfl (by decide +kernel) (by decide +kernel)
  have hd₄ := due_of_position (w := w) hp₄ rfl (by decide +kernel) (by decide +kernel)
  have hr₁ : r₁ = r.visited e w (.loop 2 (-1)) := rfl
  have hr₂ : r₂ = r₁.visited e w (.loopLoad "frames") := rfl
  have hr₃ : r₃ = r₂.visited e w .loopEnd := rfl
  have hr₄ : r₄ = r₃.visited e w (.loopLoad "frames") := rfl
  have hr' : r' = r₄.visited e w .loopEnd := rfl
  -- what is known of the runs is enough from here on
  clear_value r' r₄ r₃ r₂ r₁
  let vs := [(r₁, Instruction.loopLoad "frames"), (r₂, .loopEnd), (r₃, .loopLoad "frames"),
    (r₄, .loopEnd)]
  have hpass : Pass e w r 2 (-1) vs r' := by
    refine ⟨⟨true, none, _, _, _, .nil r⟩, ⟨rfl, rfl, rfl⟩, by decide, ?_, ?_,
      loops_of_position hp'⟩
    · exact hr₁ ▸ .visit hd₁ hr₂ (.visit hd₂ hr₃ (.visit hd₃ hr₄ (.visit hd₄ hr' (.nil r'))))
    · have hnone : r.scene.state.loops = [] := rfl
      simp [vs, hnone, loops_of_position hp₁, loops_of_position hp₂, loops_of_position hp₃,
        loops_of_position hp₄]
  have hvisits : visitsAt 1 vs = [(r₁, .loopLoad "frames"), (r₃, .loopLoad "frames")] := by
    simp only [visitsAt, vs, List.filter_cons, counter_of_position hp₁, counter_of_position hp₂,
      counter_of_position hp₃, counter_of_position hp₄]
    rfl
  have hfiles : ∀ v ∈ visitsAt 1 vs, v.1.scene.files = lonelyImage := by
    have hfiles₁ : r₁.scene.files = lonelyImage := hr₁ ▸ files_visited rfl
    have hfiles₂ : r₂.scene.files = lonelyImage := hr₂ ▸ (files_visited rfl).trans hfiles₁
    have hfiles₃ : r₃.scene.files = lonelyImage := hr₃ ▸ (files_visited rfl).trans hfiles₂
    rw [hvisits]
    exact List.forall_mem_cons.mpr ⟨hfiles₁, List.forall_mem_singleton.mpr hfiles₃⟩
  have hnames : ∀ k ∈ [(-1 : Int), 0], ∀ extension ∈ Text.imageExtensions,
      let p := FilePath.child ⟨["frames"]⟩ (numberedFile k extension)
      (p.parts.any FilePath.hasNull = false ∧ p.text.utf8ByteSize ≤ maxPathBytes ∧
        ∀ part ∈ p.parts, part.utf8ByteSize ≤ maxNameBytes) ∧
        lonelyImage.isFile p ≠ .ok true := by
    decide +kernel
  obtain ⟨-, -, -, himages⟩ := hpass.images_in_order (n := 1) rfl rfl rfl
    (insidePath_frames e rfl) fun v hv => by rw [hfiles v hv]; decide +kernel
  obtain ⟨himages, -⟩ := himages [("a.png", Image.solid .rgb 1 1 { c0 := 5 })]
    (fun v hv => by rw [hfiles v hv]; exact shelf_lonelyImage)
    fun k hfrom hto extension hextension => by
      obtain ⟨⟨hnull, hshort, hparts⟩, hnone⟩ :=
        hnames k (by simp; omega) extension hextension
      exact ⟨⟨hnull, hshort, hparts⟩, fun v hv => by rwa [hfiles v hv]⟩
  rw [hvisits] at himages
  exact ⟨(himages 0 (Nat.succ_pos 1)).1 _ rfl, (himages 1 (Nat.lt_succ_self 1)).2 (Nat.le_refl 1)⟩

/-- An iteration whose index is too long for the name of a file is not given the image. -/
theorem images_in_order_long_index :
    let start : Int := 10 ^ 252
    let e := rehearsalEngine {}
    let w : Workflow := [.loop 1 start, .loopLoad "frames", .loopEnd]
    let r := Run.start e true none lonelyImage {}
    let r₁ := r.visited e w (.loop 1 start)
    let r₂ := r₁.visited e w (.loopLoad "frames")
    let r' := r₂.visited e w .loopEnd
    Pass e w r 1 start [(r₁, .loopLoad "frames"), (r₂, .loopEnd)] r' ∧
      insidePath e.workingDirectory "frames" = .ok ⟨["frames"]⟩ ∧
      r₁.scene.files.Shelf ⟨["frames"]⟩ [("a.png", Image.solid .rgb 1 1 { c0 := 5 })] ∧
      (∀ k, start ≤ k → k < start + 1 → ∀ extension ∈ Text.imageExtensions,
        r₁.scene.files.isFile (FilePath.child ⟨["frames"]⟩ (numberedFile k extension)) ≠
          .ok true) ∧
      (r₁.visitDue e w (.loopLoad "frames")).2 =
        .failed (.unforeseen (.file (.fault .nameTooLong
          ⟨["frames", numberedFile start ".png"]⟩))) := by
  intro start e w r r₁ r₂ r'
  have hlong : maxNameBytes - 4 < (toString start).utf8ByteSize := by decide +kernel
  -- nothing else matters about the index
  clear_value start
  have hquiet : e.Quiet := List.forall_mem_nil _
  have hp₁ : r₁.scene.state.position = ⟨1, [⟨0, start, 1, start⟩]⟩ := visited_position
  have hp₂ : r₂.scene.state.position = ⟨2, [⟨0, start, 1, start⟩]⟩ := by
    show (r₁.visited e w (.loopLoad "frames")).scene.state.position = _
    rw [visited_position, hp₁]
    rfl
  have hp' : r'.scene.state.position = ⟨3, []⟩ := by
    show (r₂.visited e w .loopEnd).scene.state.position = _
    rw [visited_position, hp₂]
    simp [Position.next]
  have hd₁ : r₁.Due w (.loopLoad "frames") := due_of_position hp₁ rfl rfl rfl
  have hfiles : r₁.scene.files = lonelyImage := files_visited rfl
  have hnone {extension : String} (hextension : extension ∈ Text.imageExtensions) :
      lonelyImage.isFile ⟨["frames", numberedFile start extension]⟩ =
        .error (.fault .nameTooLong ⟨["frames", numberedFile start extension]⟩) := by
    refine isFile_lonelyImage (hasNull_numberedFile hextension start) ?_
    have := extension_size extension hextension
    rw [maxNameBytes] at hlong
    rw [numberedFile, String.utf8ByteSize_append, maxNameBytes]
    omega
  have hverdict : (r₁.visitDue e w (.loopLoad "frames")).2 =
      .failed (.unforeseen (.file (.fault .nameTooLong
        ⟨["frames", numberedFile start ".png"]⟩))) := by
    have hfirst : firstFile lonelyImage ⟨["frames"]⟩
        (Text.imageExtensions.map (numberedFile start)) = .error (.unforeseen (.file
          (.fault .nameTooLong ⟨["frames", numberedFile start ".png"]⟩))) := by
      rw [Text.imageExtensions, List.map_cons, firstFile, FilePath.child, List.singleton_append,
        hnone (by decide)]
      rfl
    have hverdict := visitDue_of_imageFolder (e := e) (w := w) (i := .loopLoad "frames") rfl
      (congrArg List.head? (loops_of_position hp₁))
    rw [hfiles, iterationImage_eq (insidePath_frames e rfl) (by decide +kernel), hfirst] at hverdict
    exact hverdict
  have hd₂ : r₂.Due w .loopEnd := by
    obtain ⟨events, hvisited⟩ := visited_of_quiet (w := w) hquiet r₁ (.loopLoad "frames")
    rw [hverdict, hd₁.unasked] at hvisited
    refine due_of_position hp₂ rfl ?_ ?_
    · exact congrArg Run.fatalError hvisited
    · exact congrArg Run.cancelRequested hvisited
  refine ⟨⟨⟨true, none, _, _, _, .nil r⟩, ⟨rfl, rfl, rfl⟩, by decide,
    .cons hd₁ (.cons hd₂ (.nil r')), ?_, loops_of_position hp'⟩,
    insidePath_frames e rfl, hfiles ▸ shelf_lonelyImage, fun k hfrom hto extension hextension => ?_,
    hverdict⟩
  · have hnone : r.scene.state.loops = [] := rfl
    simp [hnone, loops_of_position hp₁, loops_of_position hp₂]
  · obtain rfl : k = start := by omega
    rw [hfiles, FilePath.child, List.singleton_append, hnone hextension]
    intro h
    cases h

end Run

end ImageWorkflow
