import Mathlib
import ImageWorkflow.Proofs.Results
import ImageWorkflow.Saving.Image

/-!
# Where file operations write

* `FilePath.Plain p` : `p` has no `..`; `FilePath.Below root q` : `q` lies below the directory
  `root`; `FilePath.Along root q` : `q` lies below `root`, above it or at it;
* `FileTree.locate_eq_ok` : a path leads to its normal form, through directories only;
* `FileTree.Standing t root` : `root` and everything above it are directories;
* `FileTree.ChangesWithin P t t'` : from `t` to `t'` nothing changes outside of `P`, and directories
  stay;
* `FileTree.makeDirectories_changes`, `FileTree.write_changes`, `FileTree.writeImage_changes` :
  making directories and writing along a standing `root` change what is below it only;
  `FileTree.standing_makeDirectories` : what was to be made is there;
  `FileTree.makeDirectories_moreDirectories` : no file changes.
-/

namespace ImageWorkflow

/-! ## Paths -/

namespace FilePath
variable {root p q : FilePath}

/-- The path lies below a directory, and is not the directory itself. -/
def Below (root q : FilePath) : Prop := root.parts <+: q.parts ∧ q ≠ root

instance : Decidable (root.Below q) := inferInstanceAs (Decidable (_ ∧ _))

/-- The path has no `..`. -/
def Plain (p : FilePath) : Prop := ".." ∉ p.parts

theorem Below.prefix_parent (h : root.Below q) : root.parts <+: q.parent.parts := by
  have hnil : q.parts ≠ [] := by
    intro hnil
    exact h.2 (congrArg FilePath.mk (hnil.trans (List.prefix_nil.mp (hnil ▸ h.1)).symm))
  have hroot := h.1
  rw [← List.dropLast_append_getLast hnil, List.prefix_concat_iff,
    List.dropLast_append_getLast] at hroot
  exact hroot.resolve_left fun heq => h.2 (congrArg FilePath.mk heq.symm)

theorem parent_prefix_parent (h : root.parts <+: q.parts) :
    root.parent.parts <+: q.parent.parts := by
  by_cases hq : q = root
  · rw [hq]
  · exact (List.dropLast_prefix _).trans (Below.prefix_parent ⟨h, hq⟩)

@[simp] theorem parent_child (p : FilePath) (name : String) : (p.child name).parent = p :=
  congrArg FilePath.mk List.dropLast_concat

theorem foldl_descend_of_notMem {parts : List String} (h : ".." ∉ parts) (here : List String) :
    parts.foldl descend here = here ++ parts := by
  induction parts generalizing here with
  | nil => simp
  | cons part parts ih =>
    obtain ⟨hpart, hparts⟩ := not_or.mp (mt List.mem_cons.mpr h)
    rw [List.foldl_cons, ih hparts, descend, if_neg (Ne.symm hpart), List.append_assoc]
    rfl

theorem notMem_foldl_descend {here : List String} (h : ".." ∉ here) (parts : List String) :
    ".." ∉ parts.foldl descend here := by
  induction parts generalizing here with
  | nil => exact h
  | cons part parts ih =>
    refine ih ?_
    unfold descend
    split
    · exact fun hmem => h (List.mem_of_mem_dropLast hmem)
    · simp [h, Ne.symm ‹_›]

theorem Plain.normalize (h : p.Plain) : p.normalize = p := by
  rw [FilePath.normalize, foldl_descend_of_notMem h, List.nil_append]

theorem plain_normalize (p : FilePath) : p.normalize.Plain :=
  notMem_foldl_descend List.not_mem_nil p.parts

theorem Plain.parent (h : p.Plain) : p.parent.Plain :=
  fun hmem => h (List.mem_of_mem_dropLast hmem)

theorem Plain.normalize_child (h : p.Plain) (part : String) :
    (p.child part).normalize = ⟨descend p.parts part⟩ := by
  rw [FilePath.normalize, child, List.foldl_append, foldl_descend_of_notMem h, List.nil_append]
  rfl

/-- The path lies below `root`, above it or at it. -/
def Along (root q : FilePath) : Prop := root.parts <+: q.parts ∨ q.parts <+: root.parts

theorem Along.below (h : root.Along q) (hq : ¬ q.parts <+: root.parts) : root.Below q := by
  refine ⟨h.resolve_right hq, ?_⟩
  rintro rfl
  exact hq (List.prefix_refl _)

theorem Along.parent (h : root.Along q) : root.Along q.parent := by
  by_cases hq : q.parts <+: root.parts
  · exact .inr ((List.dropLast_prefix _).trans hq)
  · exact .inl (h.below hq).prefix_parent

theorem along_root (q : FilePath) : Along ⟨[]⟩ q := .inl List.nil_prefix

/-- No `..` leads beyond the root of all paths; below any other there is to be none. -/
def PlainBelow (root p : FilePath) : Prop := root ≠ ⟨[]⟩ → p.Plain

theorem PlainBelow.parent (h : root.PlainBelow p) : root.PlainBelow p.parent :=
  fun hroot => (h hroot).parent

theorem PlainBelow.along_normalize (hp : root.PlainBelow p) (h : root.Along p) :
    root.Along p.normalize := by
  by_cases hroot : root = ⟨[]⟩
  · exact hroot ▸ along_root _
  · rwa [(hp hroot).normalize]

/-- Whatever an entry of a directory below `root` is called, it leads along `root`. -/
theorem PlainBelow.along_normalize_child (hp : root.PlainBelow p) (h : root.parts <+: p.parts)
    (part : String) : root.Along (p.child part).normalize := by
  by_cases hroot : root = ⟨[]⟩
  · exact hroot ▸ along_root _
  · rw [(hp hroot).normalize_child, descend]
    split
    · exact List.prefix_or_prefix_of_prefix h (List.dropLast_prefix _)
    · exact .inl (h.trans (List.prefix_append _ _))

end FilePath

/-! ## Trees -/

namespace FileTree
variable {t t' t'' : FileTree} {root p q : FilePath}

theorem find?_replace (nodes : List (FilePath × Node)) (p q : FilePath) (n : Node) :
    ((nodes.map fun entry => if entry.1 == p then (p, n) else entry).find? (·.1 == q)).map (·.2) =
      (nodes.find? (·.1 == q)).map fun entry => if q = p then n else entry.2 := by
  have hkeeps : ((·.1 == q) ∘ fun entry : FilePath × Node =>
      if entry.1 == p then (p, n) else entry) = (·.1 == q) := by
    funext entry
    rw [Function.comp_apply]
    split
    · rename_i hentry
      rw [eq_of_beq hentry]
    · rfl
  rw [List.find?_map, hkeeps, Option.map_map]
  refine Option.map_congr fun entry hentry => ?_
  have hq : (entry.1 == q) = true := by simpa using List.find?_some hentry
  rw [Function.comp_apply, ← eq_of_beq hq]
  by_cases hp : entry.1 = p
  · rw [if_pos (beq_iff_eq.mpr hp), if_pos hp]
  · rw [if_neg (mt eq_of_beq hp), if_neg hp]

theorem node?_setNode_of_ne (h : q ≠ p) (n : Node) : (t.setNode p n).node? q = t.node? q := by
  unfold node? setNode
  split
  · rfl
  · split
    · rw [find?_replace]
      simp only [if_neg h]
    · have hlast : List.find? (fun entry : FilePath × Node => entry.1 == q) [(p, n)] = none := by
        simpa using h.symm
      rw [List.find?_append, hlast, Option.or_none]

theorem node?_setNode_self (h : p.parts ≠ []) (n : Node) : (t.setNode p n).node? p = some n := by
  unfold node? setNode
  rw [List.isEmpty_eq_false_iff.mpr h, if_neg Bool.false_ne_true]
  split
  · rename_i hany
    rw [find?_replace]
    simp only [if_true]
    obtain ⟨entry, hentry⟩ :=
      Option.isSome_iff_exists.mp (List.find?_isSome.mpr (List.any_eq_true.mp hany))
    rw [hentry]
    rfl
  · rename_i hany
    have hnone : t.nodes.find? (·.1 == p) = none := by
      rw [List.find?_eq_none]
      exact fun entry hentry hp => hany (List.any_eq_true.mpr ⟨entry, hentry, hp⟩)
    have hlast : List.find? (fun entry : FilePath × Node => entry.1 == p) [(p, n)] = some (p, n) :=
      List.find?_cons_of_pos (beq_self_eq_true p)
    rw [List.find?_append, hnone, Option.none_or, hlast]
    rfl

/-! ## Where paths lead -/

/-- There are directories at the path and at every path above it. -/
def Standing (t : FileTree) (root : FilePath) : Prop :=
  ∀ q : FilePath, q.parts <+: root.parts → t.node? q = some .directory

theorem Standing.mono (h : t.Standing root) (hp : p.parts <+: root.parts) : t.Standing p :=
  fun q hq => h q (hq.trans hp)

theorem Standing.of_parent (h : t.Standing p.parent) (hp : t.node? p = some .directory) :
    t.Standing p := by
  intro q hq
  by_cases hqp : q = p
  · rwa [hqp]
  · exact h q (FilePath.Below.prefix_parent ⟨hq, Ne.symm hqp⟩)

/-- Components lead along directories. -/
theorem follow_eq_ok {here : FilePath} {parts : List String} (h : t.follow here parts = .ok q)
    (hhere : t.Standing here.parent) :
    q.parts = parts.foldl FilePath.descend here.parts ∧ t.Standing q.parent := by
  induction parts generalizing here with
  | nil =>
    cases h
    exact ⟨rfl, hhere⟩
  | cons part parts ih =>
    rw [follow] at h
    rw [List.foldl_cons, FilePath.descend]
    split at h
    · cases h
    · cases h
    · rename_i hdirectory
      have hstanding := hhere.of_parent hdirectory
      split at h
      · rename_i hup
        rw [if_pos hup]
        exact ih h (hhere.mono (List.dropLast_prefix _))
      · rename_i hdown
        rw [if_neg hdown]
        split at h
        · cases h
        · exact ih h ((here.parent_child part).symm ▸ hstanding)

theorem standing_root (t : FileTree) : t.Standing ⟨[]⟩ := by
  intro q hq
  rw [node?, List.prefix_nil.mp hq]
  rfl

/-- A path that leads somewhere leads to its normal form. -/
theorem locate_eq_ok (h : t.locate p = .ok q) : q = p.normalize ∧ t.Standing q.parent := by
  unfold locate at h
  split at h
  · cases h
  · split at h
    · cases h
    · obtain ⟨hq, hstanding⟩ := follow_eq_ok (mapError_eq_ok.mp h) t.standing_root
      exact ⟨congrArg FilePath.mk hq, hstanding⟩

/-! ## What changes -/

/-- From one tree to the other nothing changes outside of `P`, and directories stay. -/
structure ChangesWithin (P : FilePath → Prop) (before after : FileTree) : Prop where
  frame : ∀ q, ¬ P q → after.node? q = before.node? q
  directories : ∀ q, before.node? q = some .directory → after.node? q = some .directory

namespace ChangesWithin
variable {P Q : FilePath → Prop}

theorem refl (t : FileTree) : ChangesWithin P t t := ⟨fun _ _ => rfl, fun _ h => h⟩

theorem trans (h : ChangesWithin P t t') (h' : ChangesWithin P t' t'') : ChangesWithin P t t'' :=
  ⟨fun q hq => (h'.frame q hq).trans (h.frame q hq),
    fun q hq => h'.directories q (h.directories q hq)⟩

theorem setNode {n : Node} (hp : P p) (hn : t.node? p ≠ some .directory) :
    ChangesWithin P t (t.setNode p n) := by
  refine ⟨fun q hq => node?_setNode_of_ne ?_ n, fun q hq => ?_⟩
  · rintro rfl
    exact hq hp
  · have hne : q ≠ p := by
      rintro rfl
      exact hn hq
    rw [node?_setNode_of_ne hne, hq]

theorem standing (h : ChangesWithin P t t') (ht : t.Standing root) : t'.Standing root :=
  fun q hq => h.directories q (ht q hq)

end ChangesWithin

/-- A path along a standing directory at which there is no directory lies below it. -/
theorem Standing.below (h : t.Standing root) (hq : root.Along q)
    (hn : t.node? q ≠ some .directory) : root.Below q :=
  hq.below fun hline => hn (h q hline)

/-! ## Directories -/

theorem makeDirectory_eq_ok (h : t.makeDirectory p = .ok t') :
    t' = t.setNode p.normalize .directory ∧ t.node? p.normalize = none ∧
      t.Standing p.normalize.parent := by
  obtain ⟨q, hq, h⟩ := bind_eq_ok.mp h
  obtain ⟨rfl, hstanding⟩ := locate_eq_ok hq
  split at h
  · cases h
  · cases h
    exact ⟨rfl, ‹_›, hstanding⟩

theorem makeDirectory_changes (ht : t.Standing root) (hp : root.Along p.normalize)
    (h : t.makeDirectory p = .ok t') : ChangesWithin root.Below t t' := by
  obtain ⟨rfl, hnone, -⟩ := makeDirectory_eq_ok h
  have hn : t.node? p.normalize ≠ some .directory := by
    rw [hnone]
    exact nofun
  exact .setNode (ht.below hp hn) hn

theorem isDirectory_eq_true (h : t.isDirectory p = .ok true) : t.Standing p.normalize := by
  unfold isDirectory test at h
  split at h
  · rename_i n hget
    obtain ⟨q, hq, hget⟩ := bind_eq_ok.mp hget
    obtain ⟨rfl, hstanding⟩ := locate_eq_ok hq
    split at hget
    · rename_i hnode
      cases hget
      refine hstanding.of_parent ?_
      cases n with
      | directory => exact hnode
      | file => cases h
    · cases hget
  · cases h
  · cases h

theorem ensureDirectory_changes (ht : t.Standing root) (hp : root.Along p.normalize) :
    ChangesWithin root.Below t (t.ensureDirectory p).1 := by
  unfold ensureDirectory
  split
  · exact makeDirectory_changes ht hp ‹_›
  · exact .refl t
  · split <;> exact .refl t

theorem standing_ensureDirectory (h : t.ensureDirectory p = (t', .ok ())) :
    t'.Standing p.normalize := by
  unfold ensureDirectory at h
  split at h
  · rename_i hmade
    cases h
    obtain ⟨rfl, hnone, hstanding⟩ := makeDirectory_eq_ok hmade
    have hroot : p.normalize.parts ≠ [] := by
      intro hnil
      rw [node?, hnil] at hnone
      cases hnone
    have hchanges : ChangesWithin (· = p.normalize) t (t.setNode p.normalize .directory) :=
      .setNode rfl (by rw [hnone]; exact nofun)
    exact (hchanges.standing hstanding).of_parent (node?_setNode_self hroot _)
  · cases h
  · split at h
    · cases h
      exact isDirectory_eq_true ‹_›
    · cases h
    · cases h

theorem makeDirectoriesWithin_changes {depth : Nat} (ht : t.Standing root)
    (hp : root.PlainBelow p) (h : root.Along p) :
    ChangesWithin root.Below t (t.makeDirectoriesWithin p depth).1 := by
  induction depth generalizing p with
  | zero => exact ensureDirectory_changes ht (hp.along_normalize h)
  | succ depth ih =>
    have hlast {t : FileTree} (ht : t.Standing root) :=
      ensureDirectory_changes ht (hp.along_normalize h)
    rw [makeDirectoriesWithin]
    split
    · split
      · exact .refl t
      · have habove := ih hp.parent h.parent
        split
        · rename_i hmade
          rw [hmade] at habove
          exact habove.trans (hlast (habove.standing ht))
        · rename_i hmade
          rwa [hmade] at habove
    · exact hlast ht

theorem makeDirectories_changes (ht : t.Standing root) (hp : root.PlainBelow p)
    (h : root.Along p) : ChangesWithin root.Below t (t.makeDirectories p).1 :=
  makeDirectoriesWithin_changes ht hp h

/-- The same tree but for new directories where there was nothing. -/
def MoreDirectories (before after : FileTree) : Prop :=
  ∀ q, after.node? q = before.node? q ∨
    (before.node? q = none ∧ after.node? q = some .directory)

theorem MoreDirectories.refl (t : FileTree) : MoreDirectories t t := fun _ => .inl rfl

theorem MoreDirectories.trans (h : MoreDirectories t t') (h' : MoreDirectories t' t'') :
    MoreDirectories t t'' := by
  intro q
  rcases h q with hsame | ⟨hnone, hmade⟩
  · rw [← hsame]
    exact h' q
  · rcases h' q with hsame' | ⟨hnone', -⟩
    · exact .inr ⟨hnone, hsame'.trans hmade⟩
    · rw [hmade] at hnone'
      cases hnone'

theorem ensureDirectory_moreDirectories (t : FileTree) (p : FilePath) :
    MoreDirectories t (t.ensureDirectory p).1 := by
  unfold ensureDirectory
  split
  · rename_i hmade
    obtain ⟨rfl, hnone, -⟩ := makeDirectory_eq_ok hmade
    intro q
    by_cases hq : q = p.normalize
    · have hroot : p.normalize.parts ≠ [] := by
        intro hnil
        rw [node?, hnil] at hnone
        cases hnone
      rw [hq]
      exact .inr ⟨hnone, node?_setNode_self hroot _⟩
    · exact .inl (node?_setNode_of_ne hq _)
  · exact .refl t
  · split <;> exact .refl t

/-- Making directories changes no file. -/
theorem makeDirectories_moreDirectories (t : FileTree) (p : FilePath) :
    MoreDirectories t (t.makeDirectories p).1 := by
  have hwithin (depth : Nat) (p : FilePath) :
      MoreDirectories t (t.makeDirectoriesWithin p depth).1 := by
    induction depth generalizing p with
    | zero => exact ensureDirectory_moreDirectories t p
    | succ depth ih =>
      rw [makeDirectoriesWithin]
      split
      · split
        · exact .refl t
        · have habove := ih p.parent
          split
          · rename_i hmade
            rw [hmade] at habove
            exact habove.trans (ensureDirectory_moreDirectories _ p)
          · rename_i hmade
            rwa [hmade] at habove
      · exact ensureDirectory_moreDirectories t p
  exact hwithin _ p

/-- What was to be made is there. -/
theorem standing_makeDirectories (h : t.makeDirectories p = (t', .ok ())) :
    t'.Standing p.normalize := by
  unfold makeDirectories at h
  generalize p.parts.length = depth at h
  cases depth with
  | zero => exact standing_ensureDirectory h
  | succ depth =>
    rw [makeDirectoriesWithin] at h
    split at h
    · split at h
      · cases h
      · split at h
        · exact standing_ensureDirectory h
        · cases h
    · exact standing_ensureDirectory h

/-! ## Files -/

theorem write_eq_ok {content : Content} (h : t.write p content = .ok t') :
    t' = t.setNode p.normalize (.file content) ∧ t.node? p.normalize ≠ some .directory := by
  obtain ⟨q, hq, h⟩ := bind_eq_ok.mp h
  obtain ⟨rfl, -⟩ := locate_eq_ok hq
  split at h
  · cases h
  · rename_i hn
    cases h
    exact ⟨rfl, hn⟩

/-- What is written along a standing directory lies below it. -/
theorem write_changes {content : Content} (ht : t.Standing root) (hp : root.Along p.normalize)
    (h : t.write p content = .ok t') :
    root.Below p.normalize ∧ ChangesWithin root.Below t t' := by
  obtain ⟨rfl, hn⟩ := write_eq_ok h
  have hbelow := ht.below hp hn
  exact ⟨hbelow, .setNode hbelow hn⟩

theorem writeImage_changes (ht : t.Standing root) (hp : root.Along p.normalize) (image : Image) :
    ChangesWithin root.Below t (t.writeImage p image).1 ∧
      ((t.writeImage p image).2 = .ok () → root.Below p.normalize) := by
  unfold writeImage
  split
  · split
    · exact ⟨.refl t, nofun⟩
    · rename_i hwritten
      obtain ⟨hbelow, hchanges⟩ := write_changes ht hp hwritten
      exact ⟨hchanges, fun _ => hbelow⟩
  · split
    · exact ⟨.refl t, nofun⟩
    · rename_i hwritten
      refine ⟨?_, nofun⟩
      dsimp only
      split
      · exact (write_changes ht hp hwritten).2
      · exact .refl t

end FileTree

end ImageWorkflow
