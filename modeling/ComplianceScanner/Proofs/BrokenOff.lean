import ComplianceScanner.Proofs.Reconciled

/-!
# Attempts that break off

An attempt can break off at any request. What it has cached until then stays, and it gives up an entry
only for a new state of the object, or because the kind of the object was listed to its end without
it.
-/

namespace ComplianceScanner

variable {World : Type}

namespace Scanning

/-- An attempt listed the kind of a subject to its end, and the subject was not shown. -/
def Misses (cluster : Cluster World) (engine : Engine World) (steps : Nat)
    (s : Scanning (Journaled World)) (exchanges : List Exchange) (subject : Subject) : Prop :=
  subject ∉ listedSubjects exchanges ∧ ∃ resource, resource.key = subject.key ∧
    Survey.ListedToEnd s.scheduler.config.pageSize steps s.scheduler.namespaces.isIgnored
      (engine.supports (cluster.discover s.world.world).2) exchanges resource

variable {cluster : Cluster World} {engine : Engine World} {steps : Nat}
  {s : Scanning (Journaled World)} {exchanges : List Exchange} {calls : List Engine.Call}
  {later : List Deed}

namespace IsAttempt

variable (h : s.IsAttempt cluster engine steps exchanges calls later)
include h

theorem renew_notMem : Deed.renew ∉ later := fun hmem => h.spares _ hmem

theorem shown_of_take {view : ObjectView} (htake : .take view ∈ later) :
    (view.resource, view.object) ∈ exchanges.flatMap Exchange.items := by
  rw [← h.survey.asks.shown_eq, Deed.shown]
  exact List.mem_map_of_mem (f := fun view : ObjectView => (view.resource, view.object))
    (Deed.mem_views.mpr (List.mem_cons_of_mem _ htake))

variable {stop : Stop}
  (herror : (s.runCycle cluster.journaled engine.journaled steps).1 = .error stop)
include herror

theorem retire_notMem (live : List ResourceKey) : Deed.retire live ∉ later := by
  have hlaid := h.laidOut
  rw [herror] at hlaid
  exact fun hmem => hlaid.retire_notMem live (List.mem_cons_of_mem _ hmem)

/-- Whatever is dropped was held before, and its object was missed. -/
theorem misses_of_mem_droppedAll (hkeyed : s.scheduler.caches.Keyed) {subject : Subject}
    {entry : CacheEntry} (hdropped : (subject, entry) ∈
      (s.moment.droppedAll cluster.journaled engine.journaled later).map bySubject) :
    s.scheduler.caches.entryFor? subject = some entry ∧
      s.Misses cluster engine steps exchanges subject := by
  have hheld := (h.heldBeyond_perm hkeyed).mem_iff.mpr (List.mem_append_right _ hdropped)
  obtain ⟨hentry, hsubject⟩ := (Moment.mem_heldBeyond hkeyed).mp hheld
  obtain ⟨item, hitem, heq⟩ := List.mem_map.mp hdropped
  obtain ⟨resource, observed, hfinish, hkey⟩ :=
    Moment.exists_finish_of_mem_droppedAll cluster.journaled engine.journaled (m := s.moment)
      hkeyed h.renew_notMem (h.retire_notMem herror) hitem
  have hown : item.1.subject = subject := congrArg Prod.fst heq
  exact ⟨hentry, hsubject, resource, hown ▸ hkey,
    h.survey.ended resource observed (List.mem_cons_of_mem _ hfinish)⟩

/-- An entry is kept, or its object is shown in a new state, or its object is missed. -/
theorem entry_cases (hkeyed : s.scheduler.caches.Keyed) {subject : Subject} {entry : CacheEntry}
    (hentry : s.scheduler.caches.entryFor? subject = some entry) :
    (s.moment.applyAll cluster.journaled engine.journaled later).caches.entryFor? subject =
        some entry ∨
      (∃ view, .take view ∈ later ∧ view.subject? = some subject ∧
        entry.resourceVersion ≠ view.resourceVersion) ∨
      s.Misses cluster engine steps exchanges subject := by
  by_cases hsubject : subject ∈ listedSubjects exchanges
  · have hundropped := h.records.of_spares hkeyed h.spares hsubject
    by_cases hkept : (s.moment.applyAll cluster.journaled engine.journaled
        later).caches.entryFor? subject = some entry
    · exact .inl hkept
    · exact .inr (.inl (hundropped.shown entry hentry hkept))
  · have hkeyed' := Moment.applyAll_keyed cluster.journaled engine.journaled (m := s.moment)
      hkeyed later
    have hheld := (Moment.mem_heldBeyond (m := s.moment) hkeyed).mpr ⟨hentry, hsubject⟩
    rcases List.mem_append.mp ((h.heldBeyond_perm hkeyed).mem_iff.mp hheld) with hkept | hdropped
    · exact .inl ((Moment.mem_heldBeyond hkeyed').mp hkept).1
    · exact .inr (.inr (h.misses_of_mem_droppedAll herror hkeyed hdropped).2)

end IsAttempt

variable (cluster engine)

/-- An attempt that breaks off keeps each entry, at most under another version of its kind, unless
the object was listed with another resource version, or its kind was listed to the end without it.
Only for the latter, and for objects that the engine failed at, are series removed. No kind is dropped
as a whole, and what was judged stays known. -/
theorem progress_kept (steps : Nat) {s s' : Scanning (Journaled World)} (hreached : s.Reached)
    (hgeneration : engine.generation s.world.world = s.scheduler.generation) {stop : Stop}
    (hrun : s.runCycle cluster.journaled engine.journaled steps = (.error stop, s')) :
    ∃ exchanges calls,
      s'.world.exchanges = s.world.exchanges ++ exchanges ∧
      s'.world.calls = s.world.calls ++ calls ∧
      (∀ identity entry, s.scheduler.caches.Holds identity entry →
        (∃ version, s'.scheduler.caches.Holds (identity.withVersion version) entry) ∨
        (∃ resource object, (resource, object) ∈ exchanges.flatMap Exchange.items ∧
          resource.subject? object = some identity.subject ∧
          object.resourceVersion.getD "" ≠ entry.resourceVersion) ∨
        s.Misses cluster engine steps exchanges identity.subject) ∧
      (∀ labels ∈ Engine.deletions calls,
        (∃ identity entry, s.scheduler.caches.Holds identity entry ∧
          s.Misses cluster engine steps exchanges identity.subject ∧
          ObjectLabels.ofEntry identity entry = labels) ∨
        ∃ view ∈ Engine.failures calls, view.labels = labels) ∧
      (∀ key, (s.scheduler.caches.get? key).isSome = true →
        (s'.scheduler.caches.get? key).isSome = true) ∧
      ∀ subject view outcome,
        Engine.lastJudgement? calls subject = some (view, .ok outcome) →
          (view.resource, view.object) ∈ exchanges.flatMap Exchange.items ∧
          ∃ version, s'.scheduler.caches.Holds (subject.identity version)
            (.ofView view outcome) := by
  obtain ⟨hkeyed, -⟩ := hreached.keyed_and_proven
  obtain ⟨exchanges, calls, later, h⟩ := exists_attempt cluster engine steps hkeyed hgeneration
  have herror := congrArg Prod.fst hrun
  obtain ⟨hmoment, hexchanges, hcalls⟩ := h.ends_at hrun
  have hcaches : s'.scheduler.caches = (s.moment.applyAll cluster.journaled engine.journaled
      later).caches := congrArg Moment.caches hmoment
  refine ⟨exchanges, calls, hexchanges, hcalls, ?_, ?_, ?_, ?_⟩
  · intro identity entry hholds
    rcases h.entry_cases herror hkeyed (hholds.entryFor? hkeyed) with
      hkept | ⟨view, htake, hsubject, hversion⟩ | hmissed
    · exact .inl (CacheSet.holds_of_entryFor? (hcaches ▸ hkept))
    · exact .inr (.inl ⟨view.resource, view.object, h.shown_of_take htake, hsubject,
        Ne.symm hversion⟩)
    · exact .inr (.inr hmissed)
  · intro labels hlabels
    rcases List.mem_append.mp (h.records.deletions_perm.mem_iff.mp hlabels) with hgone | hfailed
    · rw [labelsOf_eq_map_bySubject] at hgone
      obtain ⟨⟨subject, entry⟩, hdropped, rfl⟩ := List.mem_map.mp hgone
      obtain ⟨hentry, hmissed⟩ := h.misses_of_mem_droppedAll herror hkeyed hdropped
      obtain ⟨version, hholds⟩ := CacheSet.holds_of_entryFor? hentry
      exact .inl ⟨_, entry, hholds, hmissed, rfl⟩
    · exact .inr (List.mem_map.mp hfailed)
  · intro key hsome
    rw [hcaches]
    exact Moment.isSome_get?_applyAll _ _ h.renew_notMem (h.retire_notMem herror) hsome
  · intro subject view outcome hlast
    have hsubject : subject ∈ listedSubjects exchanges := by
      refine Decidable.byContradiction fun hunlisted => ?_
      have hnone := h.records.lastJudgement?_eq_none (h.subjects_eq ▸ hunlisted)
      exact Option.some_ne_none _ (hlast.symm.trans hnone)
    obtain ⟨htake, hentry⟩ :=
      (h.records.of_spares hkeyed h.spares hsubject).judged view _ hlast
    exact ⟨h.shown_of_take htake, CacheSet.holds_of_entryFor? (hcaches ▸ hentry)⟩

end Scanning

namespace Sample

/-- A second namespace beside that of the sample workloads. -/
def twoNamespaces (objects : List Object) : ScriptedCluster :=
  let other : Object :=
    { web "uid-db" "1" with name := some "db", namespaceName := some "other" }
  { resources := [deployment "apps"]
    namespaces := [⟨"default", "ns-1"⟩, ⟨"other", "ns-2"⟩]
    objects :=
      [(⟨(deployment "apps").display, some "default"⟩, objects),
       (⟨(deployment "apps").display, some "other"⟩, [other])] }

/-- A workload is known in each namespace. -/
def acquainted : Scanning (Journaled (ScriptedCluster × StandIn)) :=
  (attempted (twoNamespaces [web "uid-1" "1"]) [] 2 unspoilt).2

/-- A workload has changed, and the listing of the second namespace does not come through. -/
def interrupted : ScriptedCluster :=
  (twoNamespaces [web "uid-1" "2", api]).plan .list [none, some 500]

theorem progress_kept_interrupted :
    let run := attempted interrupted ["api"] 2 acquainted
    run.1 = .error (.failed (.list "apps/v1/Deployment" (some "other")
      (ScriptedCluster.injectedFailure 500))) ∧
    ∃ exchanges calls, run.2.world.exchanges = acquainted.world.exchanges ++ exchanges ∧
      run.2.world.calls = acquainted.world.calls ++ calls ∧
      (Engine.deletions calls).length = 1 ∧ acquainted.scheduler.caches.total = 2 ∧
      (∀ identity entry, acquainted.scheduler.caches.Holds identity entry →
        (∃ version, run.2.scheduler.caches.Holds (identity.withVersion version) entry) ∨
        (∃ resource object, (resource, object) ∈ exchanges.flatMap Exchange.items ∧
          resource.subject? object = some identity.subject ∧
          object.resourceVersion.getD "" ≠ entry.resourceVersion) ∨
        identity.subject ∉ listedSubjects exchanges) ∧
      ∀ subject view outcome,
        Engine.lastJudgement? calls subject = some (view, .ok outcome) →
          ∃ version, run.2.scheduler.caches.Holds (subject.identity version)
            (.ofView view outcome) := by
  intro run
  have hstop : run.1 = .error (.failed (.list "apps/v1/Deployment" (some "other")
      (ScriptedCluster.injectedFailure 500))) := by
    decide +kernel
  let judge : StandIn := { unsupportedKinds := [], failing := ["api"] }
  have hreached : acquainted.Reached := reached_attempted _ _ _ reached_unspoilt
  obtain ⟨exchanges, calls, hexchanges, hcalls, hentries, -, -, hjudged⟩ :=
    Scanning.progress_kept ScriptedCluster.asCluster.beside StandIn.asEngine.beside 2
      (.turn (interrupted, judge) hreached) (by decide +kernel) (Prod.ext hstop rfl)
  refine ⟨hstop, exchanges, calls, hexchanges, hcalls, ?_, by decide +kernel, ?_, ?_⟩
  · have hall : (Engine.deletions run.2.world.calls).length = 1 := by decide +kernel
    have hnone : Engine.deletions acquainted.world.calls = [] := by
      apply List.eq_nil_of_length_eq_zero
      decide +kernel
    change run.2.world.calls = acquainted.world.calls ++ calls at hcalls
    rwa [hcalls, Engine.deletions_append, hnone, List.nil_append] at hall
  · intro identity entry hholds
    exact (hentries identity entry hholds).imp_right (Or.imp_right And.left)
  · intro subject view outcome hlast
    exact (hjudged subject view outcome hlast).2

end Sample

end ComplianceScanner
