import ComplianceScanner.Proofs.Oblivious
import ComplianceScanner.Proofs.Reached

/-!
# Exact reconciliation

A successful attempt removes the series of each object that it did not list, once and under the labels
that the object had when it was last judged, and those of each object that the engine failed at. It
removes no others.
-/

namespace ComplianceScanner

variable {World : Type}

namespace Moment

variable (cluster : Cluster World) (engine : Engine World)

/-- A successful attempt leaves no entry of an object that it did not list. -/
theorem entryFor?_applyAll_of_completed {m : Moment World} (hkeyed : m.caches.Keyed)
    {later : List Deed} {report : CycleReport} (hlaid : LaidOut (.renew :: later) (.ok report))
    {subject : Subject} (hsubject : subject ∉ Deed.subjects later) :
    (m.applyAll cluster engine later).caches.entryFor? subject = none := by
  obtain ⟨resources, hcompletes, hretire⟩ := hlaid.completes
  -- A kind that is served is finished without the object; any other kind is retired.
  by_cases hlive : subject.key ∈ resources.map (·.key)
  · obtain ⟨resource, hresource, hkey⟩ := List.mem_map.mp hlive
    obtain ⟨observed, hfinish, hcovered⟩ := hcompletes.of_renew_cons resource hresource
    have hunobserved : subject.identity resource.version ∉ observed := by
      intro hmem
      obtain ⟨view, htake, hview⟩ :=
        (hcovered _ hmem).resolve_left Std.ExtTreeSet.not_mem_empty
      rw [ObjectView.identity?_eq, Option.map_eq_some_iff] at hview
      obtain ⟨shown, hshown, hidentity⟩ := hview
      exact hsubject (Deed.mem_subjects.mpr
        ⟨view, htake, (Subject.identity_inj.mp hidentity).1 ▸ hshown⟩)
    refine entryFor?_applyAll_eq_none_of_mem cluster engine hkeyed hsubject hfinish ?_
    intro m hkeyed
    rw [entryFor?_finish cluster engine hkeyed, if_pos ⟨hkey.symm, hunobserved⟩]
  · refine entryFor?_applyAll_eq_none_of_mem cluster engine hkeyed hsubject
      ((List.mem_cons.mp hretire).resolve_left (by simp)) ?_
    intro m hkeyed
    exact (CacheSet.entryFor?_retain _ _ _).trans (if_neg hlive)

/-- A successful attempt drops each entry of an object that it did not list, and no other. -/
theorem heldBeyond_perm_droppedAll {m : Moment World} (hkeyed : m.caches.Keyed)
    {later : List Deed} {report : CycleReport} (hlaid : LaidOut (.renew :: later) (.ok report))
    (hspares : ∀ deed ∈ later, deed.Spares (Deed.subjects later)) :
    (m.heldBeyond (Deed.subjects later)).Perm
      ((m.droppedAll cluster engine later).map bySubject) := by
  have hperm := heldBeyond_perm_applyAll cluster engine hkeyed hspares (List.Subset.refl _)
  have hnil : (m.applyAll cluster engine later).heldBeyond (Deed.subjects later) = [] := by
    refine List.eq_nil_iff_forall_not_mem.mpr fun item hitem => ?_
    obtain ⟨hheld, hsubject⟩ :=
      (mem_heldBeyond (applyAll_keyed cluster engine hkeyed later)).mp hitem
    have hnone := entryFor?_applyAll_of_completed cluster engine hkeyed hlaid hsubject
    exact Option.some_ne_none _ (hheld.symm.trans hnone)
  rwa [hnil, List.nil_append] at hperm

end Moment

namespace Scanning

variable (cluster : Cluster World) (engine : Engine World)

/-- The series that a successful attempt removes are those of the entries whose objects it did not
list, each once and with the labels of the object that the engine received last, and those of the
objects that the engine failed at. The report counts the former, and none of them is cached
afterwards. -/
theorem deletions_reconciled (steps : Nat) {s s' : Scanning (Journaled World)}
    (hreached : s.Reached)
    (hgeneration : engine.generation s.world.world = s.scheduler.generation)
    {report : CycleReport}
    (hrun : s.runCycle cluster.journaled engine.journaled steps = (.ok report, s')) :
    ∃ exchanges calls gone,
      s'.world.exchanges = s.world.exchanges ++ exchanges ∧
      s'.world.calls = s.world.calls ++ calls ∧
      gone.Nodup ∧
      (∀ identity entry, (identity, entry) ∈ gone ↔
        s.scheduler.caches.Holds identity entry ∧
          identity.subject ∉ listedSubjects exchanges) ∧
      (Engine.deletions calls).Perm
        (labelsOf gone ++ (Engine.failures calls).map ObjectView.labels) ∧
      report.deleted = gone.length ∧
      ∀ identity entry, (identity, entry) ∈ gone →
        (∃ view outcome,
          Engine.lastJudgement? s.world.calls identity.subject = some (view, .ok outcome) ∧
          entry = .ofView view outcome ∧ ObjectLabels.ofEntry identity entry = view.labels) ∧
        ∀ version entry',
          ¬s'.scheduler.caches.Holds (identity.withVersion version) entry' := by
  obtain ⟨hkeyed, hproven⟩ := hreached.keyed_and_proven
  obtain ⟨exchanges, calls, later, h⟩ := exists_attempt cluster engine steps hkeyed hgeneration
  obtain ⟨hmoment, hexchanges, hcalls⟩ := h.ends_at hrun
  have hlaid := h.laidOut
  rw [hrun] at hlaid
  have hkeyed' : s'.moment.caches.Keyed :=
    hmoment ▸ Moment.applyAll_keyed cluster.journaled engine.journaled hkeyed later
  have hnone : ∀ subject ∉ listedSubjects exchanges,
      s'.scheduler.caches.entryFor? subject = none := by
    intro subject hsubject
    change s'.moment.caches.entryFor? subject = none
    rw [hmoment]
    exact Moment.entryFor?_applyAll_of_completed _ _ hkeyed hlaid (h.subjects_eq ▸ hsubject)
  let gone := s.moment.entriesBeyond (listedSubjects exchanges)
  have hperm : (gone.map bySubject).Perm
      ((s.moment.droppedAll cluster.journaled engine.journaled later).map bySubject) := by
    rw [Moment.map_bySubject_entriesBeyond, ← h.subjects_eq]
    exact Moment.heldBeyond_perm_droppedAll _ _ hkeyed hlaid (h.subjects_eq ▸ h.spares)
  refine ⟨exchanges, calls, gone, hexchanges, hcalls, Moment.nodup_entriesBeyond hkeyed _,
    fun _ _ => Moment.mem_entriesBeyond, ?_, ?_, ?_⟩
  · refine h.records.deletions_perm.trans (List.Perm.append_right _ ?_)
    rw [labelsOf_eq_map_bySubject, labelsOf_eq_map_bySubject]
    exact (hperm.map _).symm
  · have hstale : s.dropStaleCaches engine.journaled = s := if_pos hgeneration
    have hdeleted := s.runCycle_deleted cluster.journaled engine.journaled steps
      (congrArg Prod.fst hrun)
    rw [hdeleted, hstale, h.deeds_eq, List.tail_cons]
    simpa using hperm.length_eq.symm
  · intro identity entry hitem
    obtain ⟨hholds, hsubject⟩ := Moment.mem_entriesBeyond.mp hitem
    constructor
    · obtain ⟨view, outcome, hlast, rfl⟩ := hproven _ _ (hholds.entryFor? hkeyed)
      exact ⟨view, outcome, hlast, rfl,
        ObjectView.labels_of_subject? outcome (Engine.subject?_of_lastJudgement? hlast)⟩
    · intro version entry' hholds'
      exact Option.some_ne_none _
        ((hholds'.entryFor? hkeyed').symm.trans (hnone identity.subject hsubject))

end Scanning

namespace Sample

def deploymentV2 : ResourceType := { deployment "apps" with version := "v2" }

/-- The group has moved to a new version. -/
def servingV2 (objects : List Object) : ScriptedCluster where
  resources := [deploymentV2]
  namespaces := [⟨"default", "ns-1"⟩]
  objects := [(⟨deploymentV2.display, some "default"⟩, objects)]

/-- One attempt, at a cluster and with an engine that fails at these objects. -/
def attempted (cluster : ScriptedCluster) (failing : List String) (steps : Nat)
    (s : Scanning (Journaled (ScriptedCluster × StandIn))) :
    Except Stop CycleReport × Scanning (Journaled (ScriptedCluster × StandIn)) :=
  Scanning.survey ScriptedCluster.asCluster StandIn.asEngine steps
    { s with world := { s.world with world := (cluster, { unsupportedKinds := [], failing }) } }

/-- A workload of two groups. In one of them it has been listed under a new version since it was
judged; the other group is not served any more. Neither of the last attempts came through. -/
def migrated : Scanning (Journaled (ScriptedCluster × StandIn)) :=
  let first := (attempted (serving ["extensions"] [web "uid-1" "1"]) [] 2 unspoilt).2
  let second := (attempted (serving ["apps"] [web "uid-1" "1"]) [] 1 first).2
  (attempted (servingV2 [web "uid-1" "1"]) [] 1 second).2

theorem reached_attempted (cluster : ScriptedCluster) (failing : List String) (steps : Nat)
    {s : Scanning (Journaled (ScriptedCluster × StandIn))} (hreached : s.Reached) :
    (attempted cluster failing steps s).2.Reached :=
  .attempt _ _ steps (.turn _ hreached)

theorem reached_unspoilt : unspoilt.Reached := by
  have hfault : ({} : ScannerConfig).fault? = none := by decide
  have hscheduler : Scheduler.ofConfig {} 0 = .ok unspoilt.scheduler := by
    rw [Scheduler.ofConfig, hfault]
    rfl
  exact .fresh _ hscheduler

theorem reached_migrated : migrated.Reached :=
  reached_attempted _ _ _ (reached_attempted _ _ _ (reached_attempted _ _ _ reached_unspoilt))

/-- The successor of the workload in the one group that is still served. -/
def api : Object := { web "uid-2" "1" with name := some "api" }

theorem deletions_reconciled_migrated :
    let run := attempted (servingV2 [api]) ["api"] 2 migrated
    ∃ report calls gone, run.1 = .ok report ∧
      run.2.world.calls = migrated.world.calls ++ calls ∧
      (Engine.deletions calls).Perm
        (labelsOf gone ++ (Engine.failures calls).map ObjectView.labels) ∧
      gone.length = 2 ∧ (Engine.failures calls).length = 1 ∧
      ∀ identity entry, (identity, entry) ∈ gone → ∃ view outcome,
        Engine.lastJudgement? migrated.world.calls identity.subject = some (view, .ok outcome) ∧
          ObjectLabels.ofEntry identity entry = view.labels := by
  intro run
  have hok : run.1.toOption.map (·.deleted) = some 2 := by decide +kernel
  obtain ⟨report, hreport, hdeleted⟩ := Option.map_eq_some_iff.mp hok
  have hrun : run = (.ok report, run.2) := by
    refine Prod.ext ?_ rfl
    cases hresult : run.1 with
    | error stop =>
        rw [hresult] at hreport
        cases hreport
    | ok found =>
        rw [hresult] at hreport
        exact congrArg _ (Option.some.inj hreport)
  let judge : StandIn := { unsupportedKinds := [], failing := ["api"] }
  obtain ⟨exchanges, calls, gone, -, hcalls, -, -, hperm, hcount, hlabels⟩ :=
    Scanning.deletions_reconciled ScriptedCluster.asCluster.beside StandIn.asEngine.beside 2
      (.turn (servingV2 [api], judge) reached_migrated) (by decide +kernel) hrun
  refine ⟨report, calls, gone, congrArg Prod.fst hrun, hcalls, hperm, ?_, ?_, ?_⟩
  · exact hcount.symm.trans hdeleted
  · have hall : (Engine.failures run.2.world.calls).length = 1 := by decide +kernel
    have hnone : Engine.failures migrated.world.calls = [] := by
      apply List.eq_nil_of_length_eq_zero
      decide +kernel
    change run.2.world.calls = migrated.world.calls ++ calls at hcalls
    rwa [hcalls, Engine.failures_append, hnone, List.nil_append] at hall
  · intro identity entry hmem
    obtain ⟨⟨view, outcome, hlast, -, hview⟩, -⟩ := hlabels identity entry hmem
    exact ⟨view, outcome, hlast, hview⟩

end Sample

end ComplianceScanner
