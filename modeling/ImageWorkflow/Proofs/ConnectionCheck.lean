import Mathlib
import ImageWorkflow.Proofs.Completeness
import ImageWorkflow.Proofs.Contacts
import ImageWorkflow.Proofs.Footprint

/-!
# The check of the connection

A run that checks the connection first turns to the provider only after the check succeeded.
* `Engine.needed_of_asked` : what a visit asks for is asked by an instruction that the workflow's
  need of the provider counts;
* `Session.Carries.connected_of_visits` : a run with visits is connected;
* `Session.connection_checked` : the check is the first contact and the only check; other contacts
  come after one that succeeded; a failed one ends the run before its first visit.
-/

namespace ImageWorkflow
variable {σ : Type}

/-! ## Who turns to the provider -/

theorem Engine.support_of_toolTarget {i : Instruction} {target : ToolTarget}
    (h : toolTarget? i.kind = some target) : i.kind.support = .partially := by
  cases i <;> first | rfl | cases h

/-- Only triggers and the instructions that are supported in part ask a provider for anything. -/
theorem Engine.needed_of_asked (e : Engine σ) (w : Workflow) (scene : Scene σ) (index : Nat)
    {i : Instruction} (h : e.asked w scene index i ≠ []) :
    i.isTrigger = true ∨ i.kind.support = .partially := by
  rw [asked_eq] at h
  split at h
  · exact absurd rfl h
  obtain hlocal | ⟨target, htarget⟩ | rfl | ⟨name, rfl⟩ | ⟨stem, rfl⟩ := i.carrier_cases
  · exact absurd (requests_of_isLocal e hlocal) h
  · exact .inr (support_of_toolTarget htarget)
  all_goals exact .inl rfl

theorem Provider.isCheck_contact (p : Provider σ) (memory : σ) (request : Request) :
    (p.contact memory request).isCheck = false := by
  cases request <;> rfl

namespace Run
variable {e : Engine σ} {w : Workflow} {r r' : Run σ} {i : Instruction}
  {vs : List (Run σ × Instruction)}

theorem isCheck_of_mem_contacts {contact : Contact} (h : contact ∈ r.contacts e w i) :
    contact.isCheck = false := by
  rw [contacts, Engine.contacts_eq] at h
  obtain ⟨request, -, rfl⟩ := List.mem_map.mp h
  exact e.provider.isCheck_contact _ request

/-- A workflow in which a visit turns to the provider needs it. -/
theorem Course.needsProvider (h : Course e w r vs r')
    (hcontacts : vs.flatMap (fun v => v.1.contacts e w v.2) ≠ []) : needsProvider w = true := by
  obtain ⟨v, hv, hcontact⟩ : ∃ v ∈ vs, v.1.contacts e w v.2 ≠ [] := by
    simpa [List.flatMap_eq_nil_iff] using hcontacts
  have hasked : e.asked w v.1.scene v.1.scene.state.counter v.2 ≠ [] := by
    intro hnone
    rw [contacts, Engine.contacts_eq, hnone] at hcontact
    exact hcontact rfl
  obtain ⟨us, vs', rfl⟩ := List.append_of_mem hv
  refine List.any_eq_true.mpr ⟨v.2, List.mem_of_getElem? h.split.1.here, ?_⟩
  simpa using e.needed_of_asked w _ _ hasked

/-- A run that stops without a visit ended where it was. -/
theorem StopsAfter.ends_of_nil (h : StopsAfter e w r [] r') : Ends w r r' := by
  generalize hvs : ([] : List (Run σ × Instruction)) = vs at h
  cases h with
  | ends hc _ he =>
    obtain rfl := hvs
    cases hc
    exact he
  | breaks => exact absurd hvs (List.append_ne_nil_of_right_ne_nil _ (List.cons_ne_nil _ _)).symm

/-- If nothing was visited, each instruction gets an entry that says so. -/
theorem unvisited_nil (w : Workflow) (error : String) : unvisited w [] error =
    ((List.range w.length).zip w).map fun (index, i) =>
      { index, kind := i.kind, outcome := .skipped, message := s!"Not run: {error}" } := by
  rw [← List.filterMap_eq_map]
  exact List.filterMap_congr fun _ _ => rfl

end Run

namespace Session
variable {s : Session σ} {e : Engine σ} {w : Workflow} {checks : Option Bool} {enforces : Bool}
  {vs : List (Run σ × Instruction)} {stopped : Run σ}

/-- A run that goes on after the check of its connection has it. -/
theorem connected_of_start {answer : Except OtherError Bool}
    (hfirst : s.firstContacts e w checks = [.check answer])
    (hgoing : (s.start e w checks).fatalError = none) : answer = .ok true := by
  have hcheck : (Run.checkFirst e w (checks.getD e.checksConnection) s.memory).1 = answer := by
    unfold firstContacts at hfirst
    unfold Run.checkFirst
    split at hfirst
    · rename_i hchecks
      rw [if_pos hchecks]
      exact Contact.check.inj (List.cons.inj hfirst).1
    · cases hfirst
  simp only [start, Run.start, hcheck] at hgoing
  split at hgoing
  · cases hgoing
  · split at hgoing
    · rename_i hconnected
      cases answer with
      | error => cases hconnected
      | ok connected => exact congrArg Except.ok hconnected
    · cases hgoing

theorem Carries.connected_of_visits (h : s.Carries e w checks enforces vs stopped) (hvs : vs ≠ [])
    {answer : Except OtherError Bool} (hfirst : s.firstContacts e w checks = [.check answer]) :
    answer = .ok true := by
  obtain ⟨last, hc, -⟩ := h.visits.exists_course
  cases hc with
  | nil => exact absurd rfl hvs
  | cons hd _ => exact connected_of_start hfirst hd.going

/-- With a check that says that there is no connection, a run ends before its first visit. -/
theorem Carries.eq_of_disconnected (h : s.Carries e w checks enforces vs stopped)
    (hfirst : s.firstContacts e w checks = [.check (.ok false)]) :
    vs = [] ∧ stopped = s.start e w checks := by
  have hvs : vs = [] := by
    by_contra hvs
    cases h.connected_of_visits hvs hfirst
  subst hvs
  refine ⟨rfl, ?_⟩
  have hfatal : (s.start e w checks).fatalError ≠ none := fun hgoing => by
    cases connected_of_start hfirst hgoing
  cases h.visits.ends_of_nil with
  | finished hgoing => exact absurd hgoing hfatal
  | aborted => rfl
  | cancelled hgoing => exact absurd hgoing hfatal

theorem firstContacts_cases (s : Session σ) (e : Engine σ) (w : Workflow)
    (checks : Option Bool) :
    s.firstContacts e w checks = [] ∨ ∃ answer, s.firstContacts e w checks = [.check answer] := by
  unfold firstContacts
  split
  · exact .inr ⟨_, rfl⟩
  · exact .inl rfl

theorem firstContacts_of_disconnected
    (h : s.contacts e w checks enforces = [.check (.ok false)]) :
    s.firstContacts e w checks = [.check (.ok false)] ∧
      ∃ vs stopped, s.Carries e w checks enforces vs stopped := by
  obtain ⟨-, hnone | ⟨error, -, hfailed⟩⟩ | ⟨vs, stopped, hcarries, hcontacts⟩ :=
    s.contacts_cases e w checks enforces
  · rw [hnone] at h
    cases h
  · rw [hfailed] at h
    cases h
  refine ⟨?_, vs, stopped, hcarries⟩
  rw [h] at hcontacts
  obtain hunchecked | ⟨answer, hfirst⟩ := s.firstContacts_cases e w checks
  · have hcheck : .check (.ok false) ∈ vs.flatMap fun v => v.1.contacts e w v.2 := by
      rw [hunchecked, List.nil_append] at hcontacts
      exact hcontacts ▸ List.mem_singleton_self _
    obtain ⟨v, -, hcheck⟩ := List.mem_flatMap.mp hcheck
    cases Run.isCheck_of_mem_contacts hcheck
  · rw [hfirst, List.singleton_append] at hcontacts
    rw [hfirst, ← (List.cons.inj hcontacts).1]

/-- What comes of a run whose connection was found missing: no visit, and a report that says of each
instruction that it was not run. -/
theorem report_of_disconnected (h : s.contacts e w checks enforces = [.check (.ok false)]) :
    ∃ stopped r error, s.Carries e w checks enforces [] stopped ∧
      (s.run e w checks enforces).2 = .ok r ∧ r.fatalError = some error ∧
      (r.report w).entries = ((List.range w.length).zip w).map (fun (index, i) =>
        { index, kind := i.kind, outcome := .skipped, message := s!"Not run: {error}" }) ∧
      r.events = [.finished (r.report w)] ∧
      FileTree.MoreDirectories s.files (s.run e w checks enforces).1.files := by
  obtain ⟨hfirst, vs, stopped, hcarries⟩ := firstContacts_of_disconnected h
  obtain ⟨rfl, rfl⟩ := hcarries.eq_of_disconnected hfirst
  have hfatal : (s.start e w checks).fatalError ≠ none := fun hgoing => by
    cases connected_of_start hfirst hgoing
  obtain ⟨error, herror⟩ := Option.ne_none_iff_exists'.mp hfatal
  have hending : (s.start e w checks).ending ≠ .broken := by
    simp only [start, Run.start]
    split <;> decide
  refine ⟨_, (s.start e w checks).finish e w, error, hcarries, ?_, herror, ?_, rfl, ?_⟩
  · rw [hcarries.settles, settle_of_ending hending]
  · have hreport : ((s.start e w checks).finish e w).report w =
        (s.start e w checks).report w := rfl
    rw [← Run.unvisited_nil, hreport, Run.report, herror]
    rfl
  · rw [hcarries.files]
    exact s.files.makeDirectories_moreDirectories e.workingDirectory

/-- The contacts of a run that checks its connection: none, or the check, and others only if it
found the provider. -/
theorem contacts_of_checks (enforces : Bool) (hchecks : checks.getD e.checksConnection = true) :
    s.contacts e w checks enforces = [] ∨ Run.needsProvider w = true ∧
      ∃ answer calls, s.contacts e w checks enforces = .check answer :: calls ∧
        (∀ contact ∈ calls, contact.isCheck = false) ∧ (calls ≠ [] → answer = .ok true) := by
  have hneeds {answer : Except OtherError Bool}
      (hfirst : s.firstContacts e w checks = [.check answer]) : Run.needsProvider w = true := by
    unfold firstContacts at hfirst
    split at hfirst
    · rename_i hboth
      exact (Bool.and_eq_true_iff.mp hboth).2
    · cases hfirst
  obtain ⟨-, hnone | ⟨error, hfirst, hfailed⟩⟩ | ⟨vs, stopped, hcarries, hcontacts⟩ :=
    s.contacts_cases e w checks enforces
  · exact .inl hnone
  · exact .inr ⟨hneeds hfirst, .error error, [], hfailed, List.forall_mem_nil _, nofun⟩
  obtain ⟨last, hc, -⟩ := hcarries.visits.exists_course
  obtain hunchecked | ⟨answer, hfirst⟩ := s.firstContacts_cases e w checks
  · rw [hunchecked, List.nil_append] at hcontacts
    refine .inl ?_
    -- the check is left out only where the provider is not needed
    by_contra hasked
    rw [firstContacts, hchecks, hc.needsProvider (hcontacts ▸ hasked)] at hunchecked
    cases hunchecked
  · rw [hfirst, List.singleton_append] at hcontacts
    refine .inr ⟨hneeds hfirst, answer, _, hcontacts, fun contact hcontact => ?_, fun hcalls => ?_⟩
    · obtain ⟨v, -, hcontact⟩ := List.mem_flatMap.mp hcontact
      exact Run.isCheck_of_mem_contacts hcontact
    · refine hcarries.connected_of_visits (fun hvs => hcalls ?_) hfirst
      rw [hvs, List.flatMap_nil]

/-- If runs check the connection, the check is the first contact of a run, before its first visit,
and the only check; there are other contacts only after a check that found the provider; and a check
that did not find it is all that happens: no file is written, nothing is visited, and the report
says of each instruction that it was not run.  Where no instruction needs the provider, the run does
without a check, and without the provider. -/
theorem connection_checked (hchecks : checks.getD e.checksConnection = true) :
    ((s.Refuses e w checks enforces ∧ (s.contacts e w checks enforces = [] ∨
        ∃ error, s.contacts e w checks enforces = [.check (.error error)])) ∨
      ∃ vs stopped, s.Carries e w checks enforces vs stopped ∧
        s.contacts e w checks enforces =
          s.firstContacts e w checks ++ vs.flatMap (fun v => v.1.contacts e w v.2) ∧
        ∀ v ∈ vs, ∀ contact ∈ v.1.contacts e w v.2, contact.isCheck = false) ∧
    (s.contacts e w checks enforces).countP (·.isCheck) ≤ 1 ∧
    (∀ contact ∈ s.contacts e w checks enforces, contact.isCheck = false →
      (s.contacts e w checks enforces).head? = some (.check (.ok true))) ∧
    (.check (.ok false) ∈ s.contacts e w checks enforces →
      s.contacts e w checks enforces = [.check (.ok false)] ∧
      ∃ stopped r error, s.Carries e w checks enforces [] stopped ∧
        (s.run e w checks enforces).2 = .ok r ∧ r.fatalError = some error ∧
        (r.report w).entries = ((List.range w.length).zip w).map (fun (index, i) =>
          { index, kind := i.kind, outcome := .skipped, message := s!"Not run: {error}" }) ∧
        r.events = [.finished (r.report w)] ∧
        FileTree.MoreDirectories s.files (s.run e w checks enforces).1.files) ∧
    (Run.needsProvider w = false → s.contacts e w checks enforces = []) := by
  have hshape := contacts_of_checks (s := s) (w := w) enforces hchecks
  refine ⟨?_, ?_, ?_, ?_, ?_⟩
  · obtain ⟨hrefuses, hcontacts⟩ | ⟨vs, stopped, hcarries, hcontacts⟩ :=
      s.contacts_cases e w checks enforces
    · exact .inl ⟨hrefuses, hcontacts.imp_right fun ⟨error, _, hfailed⟩ => ⟨error, hfailed⟩⟩
    · exact .inr ⟨vs, stopped, hcarries, hcontacts, fun v _ contact => Run.isCheck_of_mem_contacts⟩
  · obtain hnone | ⟨-, answer, calls, hcontacts, hcalls, -⟩ := hshape
    · rw [hnone]
      exact Nat.zero_le _
    · have hcount : calls.countP (·.isCheck) = 0 :=
        List.countP_eq_zero.mpr fun contact hcontact => by rw [hcalls contact hcontact]; decide
      rw [hcontacts, List.countP_cons_of_pos rfl, hcount]
  · intro contact hcontact hcall
    obtain hnone | ⟨-, answer, calls, hcontacts, -, hanswer⟩ := hshape
    · rw [hnone] at hcontact
      cases hcontact
    · rw [hcontacts] at hcontact ⊢
      obtain rfl | hcontact := List.mem_cons.mp hcontact
      · cases hcall
      · rw [hanswer (List.ne_nil_of_mem hcontact)]
        rfl
  · intro hmissing
    obtain hnone | ⟨-, answer, calls, hcontacts, hcalls, hanswer⟩ := hshape
    · rw [hnone] at hmissing
      cases hmissing
    rw [hcontacts] at hmissing
    obtain hanswered | hmissing := List.mem_cons.mp hmissing
    swap
    · cases hcalls _ hmissing
    obtain rfl := Contact.check.inj hanswered
    obtain rfl : calls = [] := by
      by_contra hcall
      cases hanswer hcall
    exact ⟨hcontacts, report_of_disconnected hcontacts⟩
  · intro hneedless
    obtain hnone | ⟨hneeds, -⟩ := hshape
    · exact hnone
    · rw [hneedless] at hneeds
      cases hneeds

/-- A provider that is not there. -/
theorem connection_checked_missing :
    let e := Run.rehearsalEngine { connected := false }
    let w : Workflow := [.prompt "a", .generate, .canvasSave "a.png"]
    Run.rehearsalSession.contacts e w none false = [.check (.ok false)] ∧
      ∃ r, (Run.rehearsalSession.run e w).2 = .ok r ∧
        (r.report w).entries.map (fun entry => (entry.index, entry.outcome)) =
          [(0, .skipped), (1, .skipped), (2, .skipped)] := by
  intro e w
  have hcontacts : Run.rehearsalSession.contacts e w none false = [.check (.ok false)] := rfl
  obtain ⟨-, -, -, hmissing, -⟩ :=
    @connection_checked _ Run.rehearsalSession e w none false rfl
  obtain ⟨-, stopped, r, error, -, hr, -, hentries, -⟩ :=
    hmissing (hcontacts ▸ List.mem_singleton_self _)
  refine ⟨hcontacts, r, hr, ?_⟩
  rw [hentries]
  rfl

end Session

end ImageWorkflow
