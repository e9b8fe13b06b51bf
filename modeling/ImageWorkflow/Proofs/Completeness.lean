import Mathlib
import ImageWorkflow.Proofs.Termination

/-!
# Reports leave nothing out

A report has an entry for each visit, in their order, and after a fatal error one for each index
that was never visited.
* `Run.unvisited_map_index`, `Run.mem_unvisited` : the entries of what was never visited;
* `Run.Course.fatal_last` : a fatal visit is the last;
* `Session.report_complete` : the report of a run, however the run ends, and what the run leaves.
-/

namespace ImageWorkflow

namespace Run
variable {σ : Type} {e : Engine σ} {w : Workflow} {r r' : Run σ}
  {us vs : List (Run σ × Instruction)} {v : Run σ × Instruction} {error : String}

/-! ## What was never visited -/

theorem unvisited_map_index (w : Workflow) (visited : List Entry) (error : String) :
    (unvisited w visited error).map (·.index) =
      (List.range w.length).filter (· ∉ visited.map (·.index)) := by
  have hrange : ((List.range w.length).zip w).map Prod.fst = List.range w.length :=
    List.map_fst_zip (by simp)
  rw [unvisited, List.map_filterMap]
  conv_rhs => rw [← hrange, ← List.filterMap_eq_filter, List.filterMap_map]
  congr 1
  funext ⟨j, i⟩
  by_cases hj : j ∈ visited.map (·.index)
  · rw [List.mem_map] at hj
    simp [Option.guard, hj]
  · rw [List.mem_map] at hj
    simp [Option.guard, hj]

theorem mem_unvisited {visited : List Entry} {entry : Entry}
    (h : entry ∈ unvisited w visited error) :
    entry.outcome = .skipped ∧ entry.iteration = none ∧ entry.message = s!"Not run: {error}" ∧
      w[entry.index]?.map (·.kind) = some entry.kind := by
  obtain ⟨⟨j, i⟩, hji, hentry⟩ := List.mem_filterMap.mp h
  obtain ⟨n, hji⟩ := List.mem_iff_getElem?.mp hji
  obtain ⟨hnj, hni⟩ := List.getElem?_zip_eq_some.mp hji
  obtain ⟨hn, hnj⟩ := List.getElem?_eq_some_iff.mp hnj
  obtain rfl : n = j := by rwa [List.getElem_range] at hnj
  dsimp only at hentry
  split at hentry
  · cases hentry
  · cases hentry
    exact ⟨rfl, rfl, rfl, by rw [hni]; rfl⟩

theorem index_notMem_of_mem_unvisited {visited : List Entry} {entry : Entry}
    (h : entry ∈ unvisited w visited error) : entry.index ∉ visited.map (·.index) := by
  have hindex := List.mem_map_of_mem (f := fun entry : Entry => entry.index) h
  rw [unvisited_map_index] at hindex
  exact of_decide_eq_true (List.mem_filter.mp hindex).2

/-! ## The last visit -/

/-- A fatal visit is the last, and its message is why the run ends. -/
theorem Course.fatal_last (h : Course e w r (us ++ v :: vs) r')
    (hf : (v.1.visitDue e w v.2).2.fatalError = some error) :
    vs = [] ∧ r'.fatalError = some error := by
  obtain ⟨-, hc⟩ := h.split
  rw [← visited_fatalError] at hf
  cases hc with
  | nil => exact ⟨rfl, hf⟩
  | cons hd _ => rw [hd.going] at hf; cases hf

/-- What the last visit leaves is what there is at the end. -/
theorem Course.scene_last (h : Course e w r (us ++ [v]) r') :
    r'.scene = (v.1.visitDue e w v.2).1 := by
  obtain ⟨-, hc⟩ := h.split
  cases hc
  exact visited_scene

theorem Ends.fatalError_of_some (h : Ends w r r') (hf : r.fatalError = some error) :
    r'.fatalError = some error := by
  cases h with
  | finished => exact hf
  | aborted => exact hf
  | cancelled hn => rw [hn] at hf; cases hf

theorem Ends.finished_of_none (h : Ends w r r') (hf : r'.fatalError = none) :
    w.length ≤ r'.scene.state.counter := by
  cases h with
  | finished _ hn => exact List.getElem?_eq_none_iff.mp hn
  | aborted hn => exact absurd hf hn
  | cancelled => cases hf

theorem report_entries {last ended : Run σ} (hc : Course e w r vs last) (he : Ends w last ended)
    (hr : r.entries = []) :
    ((ended.finish e w).report w).entries = (vs.map fun v => v.1.entryDue e w v.2) ++
      match ended.fatalError with
      | some error => unvisited w ended.entries error
      | none => [] := by
  have hvs : ended.entries = (vs.map fun v => v.1.entryDue e w v.2).reverse := by
    rw [he.entries, hc.entries, hr, List.append_nil]
  rw [← List.reverse_reverse (vs.map _), ← hvs]
  rfl

theorem Course.map_index (h : Course e w r vs r') (hr : r.entries = []) :
    r'.entries.map (·.index) = (indices vs).reverse := by
  rw [h.entries, hr, List.append_nil, List.map_reverse, List.map_map]
  rfl

end Run

namespace Session
open Run
variable {σ : Type} {s : Session σ} {e : Engine σ} {w : Workflow} {checks : Option Bool}
  {enforces : Bool} {r : Run σ}

/-- However a run ends, its report has an entry for each visit and, exactly after a fatal error, one
for each index that was never visited; nothing happens after the last visit. -/
theorem report_complete (h : (s.run e w checks enforces).2 = .ok r) :
    ∃ vs last notRun,
      Course e w (s.start e w checks) vs last ∧
      (r.report w).entries = vs.map (fun v => v.1.entryDue e w v.2) ++ notRun ∧
      (r.fatalError = none → notRun = [] ∧ w.length ≤ r.scene.state.counter) ∧
      (∀ error, r.fatalError = some error →
        notRun.map (·.index) = (List.range w.length).filter (· ∉ indices vs) ∧
        (∀ entry ∈ notRun, entry.outcome = .skipped ∧ entry.iteration = none ∧
          entry.message = s!"Not run: {error}" ∧
          w[entry.index]?.map (·.kind) = some entry.kind) ∧
        (∀ j < w.length, j ∈ (r.report w).entries.map (·.index)) ∧
        ∀ j ∈ indices vs, j ∉ notRun.map (·.index)) ∧
      (∀ us v vs' error, vs = us ++ v :: vs' →
        (v.1.visitDue e w v.2).2.fatalError = some error →
          vs' = [] ∧ r.fatalError = some error) ∧
      (∀ us v, vs = us ++ [v] → r.scene = (v.1.visitDue e w v.2).1) ∧
      (vs = [] → r.scene = (s.start e w checks).scene) ∧
      (s.run e w checks enforces).1.files = r.scene.files ∧
      (s.run e w checks enforces).1.memory = r.scene.memory := by
  obtain ⟨vs, last, ended, hc, he, rfl⟩ := exists_course h
  have hreport := report_entries hc he rfl
  have hindices : ended.entries.map (·.index) = (indices vs).reverse := by
    rw [he.entries]
    exact hc.map_index rfl
  have hvisits : (vs.map fun v => v.1.entryDue e w v.2).map (·.index) = indices vs := by
    rw [List.map_map]
    rfl
  refine ⟨vs, last, match ended.fatalError with
    | some error => unvisited w ended.entries error
    | none => [], hc, hreport, fun hf => ?_, fun error hf => ?_, ?_, ?_, ?_, ?_, ?_⟩
  · have hf : ended.fatalError = none := hf
    exact ⟨by rw [hf], he.finished_of_none hf⟩
  · have hf : ended.fatalError = some error := hf
    have hnot : (unvisited w ended.entries error).map (·.index) =
        (List.range w.length).filter (· ∉ indices vs) := by
      rw [unvisited_map_index, hindices]
      simp only [List.mem_reverse]
    rw [hf]
    refine ⟨hnot, fun entry => mem_unvisited, fun j hj => ?_, fun j hj => ?_⟩
    · rw [hf] at hreport
      rw [hreport, List.map_append, hvisits, hnot, List.mem_append]
      by_cases hm : j ∈ indices vs
      · exact Or.inl hm
      · exact Or.inr (List.mem_filter.mpr ⟨List.mem_range.mpr hj, by simpa using hm⟩)
    · rw [hnot]
      simp [hj]
  · rintro us v vs' error rfl hv
    obtain ⟨hvs, hlast⟩ := hc.fatal_last hv
    exact ⟨hvs, he.fatalError_of_some hlast⟩
  · rintro us v rfl
    exact he.scene.trans hc.scene_last
  · rintro rfl
    cases hc
    exact he.scene
  · rw [run_eq h]
  · rw [run_eq h]

/-- The second generation in a loop finds the backend out of reach: what comes after it, and the
loop that was skipped before, are accounted for. -/
theorem report_complete_out_of_reach :
    let gone : GenerateStep := { ending := .fail (.reported (.connectionFailed "gone")) }
    let script : Script := { steps := [{}, gone] }
    let w : Workflow :=
      [.loop 0 1, .crop, .loopEnd, .prompt "a", .loop 3 1, .generate, .loopEnd, .crop]
    ∃ r, (rehearsalSession.run (rehearsalEngine script) w).2 = .ok r ∧
      (r.report w).entries.map (·.index) = [0, 3, 4, 5, 6, 5, 1, 2, 7] ∧
      r.fatalError = some "gone" ∧ ∀ j < w.length, j ∈ (r.report w).entries.map (·.index) := by
  intro gone script w
  let r : Run Rehearsal := (Run.execute (rehearsalEngine script) w true none ⟨[]⟩
    { checks := 1 }).finish (rehearsalEngine script) w
  have h : (rehearsalSession.run (rehearsalEngine script) w).2 = .ok r :=
    Session.run_of_ending (by decide) rfl rfl (by decide +kernel)
  have herror : r.fatalError = some "gone" := by decide +kernel
  obtain ⟨vs, last, notRun, -, -, -, hfatal, -⟩ := report_complete h
  exact ⟨r, h, by decide +kernel, herror, (hfatal "gone" herror).2.2.1⟩

end Session

end ImageWorkflow
