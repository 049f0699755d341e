import ComplianceScanner.Proofs.Recorded
import ComplianceScanner.Proofs.Surveyed

/-!
# Scanners with a past

A scanner is reached by attempts, each with a cluster and an engine of its own, while the world turns
as it likes. In all of these the caches are keyed and every entry is that of the last judgement of its
object. `exists_attempt` then reads an attempt by an engine that has not moved on as a survey, an
account of the calls, and a run of deeds that drops nothing that is shown.
-/

namespace ComplianceScanner

variable {World : Type}

theorem Asks.subjects_eq {j j' : Journaled World} {exchanges : List Exchange} {deeds : List Deed}
    (hasks : Asks j j' exchanges deeds) : Deed.subjects deeds = listedSubjects exchanges := by
  rw [listedSubjects, ← hasks.shown_eq, Deed.shown, List.filterMap_map]
  rfl

namespace Scanning

/-- What a scanner can come to, from a valid configuration on. Each attempt may have another cluster
and another engine, the world may change in whatever way, and cycles and errors are counted. -/
inductive Reached : Scanning (Journaled World) → Prop
  | fresh {config : ScannerConfig} {generation : UInt64} {scheduler : Scheduler} (world : World)
      (hscheduler : Scheduler.ofConfig config generation = .ok scheduler) :
      Reached ⟨scheduler, { world }⟩
  | attempt {s : Scanning (Journaled World)} (cluster : Cluster World) (engine : Engine World)
      (steps : Nat) (hreached : Reached s) :
      Reached (s.runCycle cluster.journaled engine.journaled steps).2
  | turn {s : Scanning (Journaled World)} (world : World) (hreached : Reached s) :
      Reached { s with world := { s.world with world } }
  | count {s : Scanning (Journaled World)} (completed : Nat) (metrics : Metrics)
      (hreached : Reached s) :
      Reached { s with scheduler := { s.scheduler with completed, metrics } }

theorem caches_of_ofConfig {config : ScannerConfig} {generation : UInt64} {scheduler : Scheduler}
    (hscheduler : Scheduler.ofConfig config generation = .ok scheduler) :
    scheduler.caches = {} := by
  obtain ⟨namespaces, -, rfl⟩ := Scheduler.exists_of_ofConfig hscheduler
  rfl

theorem Reached.keyed_and_proven {s : Scanning (Journaled World)} (hreached : s.Reached) :
    s.scheduler.caches.Keyed ∧ s.moment.Proven := by
  induction hreached with
  | fresh world hscheduler =>
      have hcaches := caches_of_ofConfig hscheduler
      refine ⟨hcaches ▸ CacheSet.keyed_empty, fun subject entry hentry => ?_⟩
      have hnone : CacheSet.entryFor? {} subject = none := rfl
      rw [moment, hcaches, hnone] at hentry
      cases hentry
  | @attempt s cluster engine steps hreached ih =>
      have hmoment := s.runCycle_moment cluster.journaled engine.journaled steps
      constructor
      · change (s.runCycle cluster.journaled engine.journaled steps).2.moment.caches.Keyed
        rw [hmoment]
        exact Moment.applyAll_keyed _ _ ih.1 _
      · rw [hmoment]
        exact ih.2.applyAll cluster engine ih.1 _
  | turn world hreached ih => exact ih
  | count completed metrics hreached ih => exact ih

/-- An attempt by an engine that has not moved on, read off its journal. -/
structure IsAttempt (cluster : Cluster World) (engine : Engine World) (steps : Nat)
    (s : Scanning (Journaled World)) (exchanges : List Exchange) (calls : List Engine.Call)
    (later : List Deed) : Prop where
  survey : IsSurvey s.scheduler.config.pageSize steps s.scheduler.namespaces.isIgnored
    (engine.supports (cluster.discover s.world.world).2) s.world
    (s.runCycle cluster.journaled engine.journaled steps).2.world (.renew :: later)
    (Stop.of? (s.runCycle cluster.journaled engine.journaled steps).1) exchanges
  deeds_eq : s.deeds cluster.journaled engine.journaled steps = .renew :: later
  laidOut : LaidOut (.renew :: later) (s.runCycle cluster.journaled engine.journaled steps).1
  records : Moment.Records cluster engine s.moment later calls
  moment_eq : (s.runCycle cluster.journaled engine.journaled steps).2.moment =
    s.moment.applyAll cluster.journaled engine.journaled later
  subjects_eq : Deed.subjects later = listedSubjects exchanges
  spares : ∀ deed ∈ later, deed.Spares (listedSubjects exchanges)

theorem exists_attempt (cluster : Cluster World) (engine : Engine World) (steps : Nat)
    {s : Scanning (Journaled World)} (hkeyed : s.scheduler.caches.Keyed)
    (hgeneration : engine.generation s.world.world = s.scheduler.generation) :
    ∃ exchanges calls later, s.IsAttempt cluster engine steps exchanges calls later := by
  have hsame : s.dropStaleCaches engine.journaled = s := if_pos hgeneration
  have hmoment := s.runCycle_moment cluster.journaled engine.journaled steps
  have hlaid := s.deeds_laidOut cluster.journaled engine.journaled steps
  obtain ⟨exchanges, hsurvey⟩ := s.runCycle_isSurvey cluster engine steps
  obtain ⟨later, hdeeds, hlater⟩ := s.deeds_eq_renew_cons cluster.journaled engine.journaled steps
  rw [hdeeds, Moment.applyAll_cons, ← dropStaleCaches_moment, hsame] at hmoment
  rw [hdeeds] at hlaid hsurvey
  rw [hsame] at hsurvey
  obtain ⟨calls, hrecords⟩ := Moment.exists_records cluster engine (m := s.moment) hkeyed later
  have hsubjects : Deed.subjects later = listedSubjects exchanges := hsurvey.asks.subjects_eq
  refine ⟨exchanges, calls, later, hsurvey, hdeeds, hlaid, hrecords, hmoment, hsubjects, ?_⟩
  intro deed hdeed
  have hne : deed ≠ .renew := fun heq => hlater (heq ▸ hdeed)
  exact hsurvey.asks.subjects_eq ▸ hlaid.spares deed (List.mem_cons_of_mem _ hdeed) hne

namespace IsAttempt

variable {cluster : Cluster World} {engine : Engine World} {steps : Nat}
  {s : Scanning (Journaled World)} {exchanges : List Exchange} {calls : List Engine.Call}
  {later : List Deed} (h : s.IsAttempt cluster engine steps exchanges calls later)
include h

/-- Where an attempt ends, and what it adds to the journal. -/
theorem ends_at {result : Except Stop CycleReport} {s' : Scanning (Journaled World)}
    (hrun : s.runCycle cluster.journaled engine.journaled steps = (result, s')) :
    s'.moment = s.moment.applyAll cluster.journaled engine.journaled later ∧
      s'.world.exchanges = s.world.exchanges ++ exchanges ∧
      s'.world.calls = s.world.calls ++ calls := by
  have hmoment := h.moment_eq
  have hexchanges := h.survey.asks.exchanges_eq
  rw [hrun] at hmoment hexchanges
  exact ⟨hmoment, hexchanges, (congrArg (·.world.calls) hmoment).trans h.records.calls_eq⟩

theorem heldBeyond_perm (hkeyed : s.scheduler.caches.Keyed) :
    (s.moment.heldBeyond (listedSubjects exchanges)).Perm
      ((s.moment.applyAll cluster.journaled engine.journaled later).heldBeyond
          (listedSubjects exchanges) ++
        (s.moment.droppedAll cluster.journaled engine.journaled later).map bySubject) :=
  Moment.heldBeyond_perm_applyAll _ _ (m := s.moment) hkeyed h.spares
    (h.subjects_eq ▸ List.Subset.refl _)

end IsAttempt

end Scanning

end ComplianceScanner
