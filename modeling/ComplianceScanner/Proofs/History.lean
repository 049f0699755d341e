import ComplianceScanner.Proofs.Changes
import ComplianceScanner.Proofs.Interleaving
import Mathlib.Data.List.Induction

/-!
# Histories

A scanner lives through attempts at cycles, with reloads inside them and between them, in a cluster
that changes as it likes. Such a history is a list of events. Laid out deed by deed it becomes a
list of happenings, whose prefixes are all the moments that the history comes through. What one
happening can do is said by `meet_step`, on which each invariant of a history rests.
-/

namespace ComplianceScanner

variable {Outside : Type}

inductive Event (Outside : Type) where
  /-- An attempt at a cycle, and the reloads that fall into it. -/
  | attempt (steps : Nat) (due : List Gap)
  | reload (selection : Selection)
  /-- The cluster changes, in whatever way. -/
  | turn (outside : Outside)
  /-- Cycles and errors are counted, which the scan itself does not look at. -/
  | count (completed : Nat) (metrics : Metrics)

inductive Happening (Outside : Type) where
  | deed (deed : Deed)
  | reload (selection : Selection)
  | turn (outside : Outside) (due : List Gap)

def Happening.view? : Happening Outside → Option ObjectView
  | .deed done => done.view?
  | _ => none

/-- The listed objects that are taken up, in their order. -/
def listedViews (happenings : List (Happening Outside)) : List ObjectView :=
  happenings.filterMap Happening.view?

namespace Moment

def meet (cluster : Cluster Outside) (m : Moment (Interleaved Outside)) :
    Happening Outside → Moment (Interleaved Outside)
  | .deed deed => m.apply (Interleaved.asCluster cluster) Interleaved.asEngine deed
  | .reload selection => { m with world := m.world.reload selection }
  | .turn outside due => { m with world := { m.world with outside, due } }

def after (cluster : Cluster Outside) (m : Moment (Interleaved Outside))
    (happenings : List (Happening Outside)) : Moment (Interleaved Outside) :=
  happenings.foldl (meet cluster) m

end Moment

namespace Scanning

/-- A scheduler that has just been built, with an engine that has not yet published anything. -/
structure Fresh (s : Scanning (Interleaved Outside)) : Prop where
  scheduler : ∃ config, Scheduler.ofConfig config s.world.engine.generation = .ok s.scheduler
  generation : s.world.engine.generation = .ofNat s.world.epoch
  gauge : s.world.engine.gauge = {}
  judgements : s.world.judgements = []

/-- The scanner with the reloads that are to fall into its next calls. -/
def beset (due : List Gap) (s : Scanning (Interleaved Outside)) :
    Scanning (Interleaved Outside) :=
  { s with world := { s.world with due } }

/-- An attempt at a cycle, and the reloads that fall into it. -/
def attempt (cluster : Cluster Outside) (steps : Nat) (due : List Gap)
    (s : Scanning (Interleaved Outside)) :
    Except Stop CycleReport × Scanning (Interleaved Outside) :=
  (s.beset due).runCycle (Interleaved.asCluster cluster) Interleaved.asEngine steps

def attemptDeeds (cluster : Cluster Outside) (steps : Nat) (due : List Gap)
    (s : Scanning (Interleaved Outside)) : List Deed :=
  (s.beset due).deeds (Interleaved.asCluster cluster) Interleaved.asEngine steps

def meet (cluster : Cluster Outside) (s : Scanning (Interleaved Outside)) :
    Event Outside → Scanning (Interleaved Outside)
  | .attempt steps due => (s.attempt cluster steps due).2
  | .reload selection => { s with world := s.world.reload selection }
  | .turn outside => { s with world := { s.world with outside } }
  | .count completed metrics => { s with scheduler := { s.scheduler with completed, metrics } }

def live (cluster : Cluster Outside) (s : Scanning (Interleaved Outside))
    (events : List (Event Outside)) : Scanning (Interleaved Outside) :=
  events.foldl (meet cluster) s

def eventHappenings (cluster : Cluster Outside) (s : Scanning (Interleaved Outside)) :
    Event Outside → List (Happening Outside)
  | .attempt steps due =>
    .turn s.world.outside due :: (s.attemptDeeds cluster steps due).map .deed
  | .reload selection => [.reload selection]
  | .turn outside => [.turn outside s.world.due]
  | .count _ _ => []

/-- All that happens in a history, deed by deed. -/
def happenings (cluster : Cluster Outside) :
    List (Event Outside) → Scanning (Interleaved Outside) → List (Happening Outside)
  | [], _ => []
  | event :: events, s => s.eventHappenings cluster event ++ happenings cluster events
      (s.meet cluster event)

end Scanning

@[simp]
theorem listedViews_append (past future : List (Happening Outside)) :
    listedViews (past ++ future) = listedViews past ++ listedViews future :=
  List.filterMap_append

namespace Moment

variable (cluster : Cluster Outside) (m : Moment (Interleaved Outside))

@[simp]
theorem after_nil : m.after cluster [] = m := rfl

@[simp]
theorem after_append (past future : List (Happening Outside)) :
    m.after cluster (past ++ future) = (m.after cluster past).after cluster future :=
  List.foldl_append

theorem after_append_singleton (past : List (Happening Outside)) (happening : Happening Outside) :
    m.after cluster (past ++ [happening]) = (m.after cluster past).meet cluster happening := by
  rw [after_append]
  rfl

theorem after_map_deed (deeds : List Deed) :
    m.after cluster (deeds.map .deed) =
      m.applyAll (Interleaved.asCluster cluster) Interleaved.asEngine deeds :=
  List.foldl_map

end Moment

namespace Scanning

variable (cluster : Cluster Outside)

theorem meet_moment (s : Scanning (Interleaved Outside)) (event : Event Outside) :
    (s.meet cluster event).moment = s.moment.after cluster (s.eventHappenings cluster event) := by
  cases event with
  | attempt steps due =>
      have hrun := runCycle_moment (Interleaved.asCluster cluster) Interleaved.asEngine steps
        (s.beset due)
      exact hrun.trans (Moment.after_map_deed cluster _ _).symm
  | reload selection => rfl
  | turn outside => rfl
  | count completed metrics => rfl

/-- What happens in a history leads to where the history leads. -/
theorem live_moment (s : Scanning (Interleaved Outside)) (events : List (Event Outside)) :
    (s.live cluster events).moment = s.moment.after cluster (s.happenings cluster events) := by
  induction events generalizing s with
  | nil => rfl
  | cons event events ih =>
      rw [happenings, Moment.after_append, ← meet_moment]
      exact ih (s.meet cluster event)

theorem happenings_append (s : Scanning (Interleaved Outside)) (events more : List (Event Outside)) :
    s.happenings cluster (events ++ more) =
      s.happenings cluster events ++ (s.live cluster events).happenings cluster more := by
  induction events generalizing s with
  | nil => rfl
  | cons event events ih =>
      rw [List.cons_append, happenings, happenings, ih, List.append_assoc]
      rfl

theorem live_append (s : Scanning (Interleaved Outside)) (events more : List (Event Outside)) :
    s.live cluster (events ++ more) = (s.live cluster events).live cluster more :=
  List.foldl_append

end Scanning

/-! ### What one happening can do -/

namespace Moment

/-- The outcomes of a happening: entries go together with their series, or one object is judged. -/
inductive Step (m : Moment (Interleaved Outside)) :
    Happening Outside → Moment (Interleaved Outside) → Prop
  | lost {happening : Happening Outside} {m' : Moment (Interleaved Outside)}
      (gone : List ObjectLabels)
      (hgeneration : m'.generation = m.generation ∨
        m'.generation = m.world.engine.generation ∧ ∀ subject, m'.caches.entryFor? subject = none)
      (hworld : Interleaved.Loses (· ∈ gone) m.world m'.world)
      (hentry : ∀ subject, m'.caches.entryFor? subject = none ∨
        m'.caches.entryFor? subject = m.caches.entryFor? subject)
      (hgone : ∀ labels, labels ∈ gone ↔ ∃ subject entry, m.caches.entryFor? subject = some entry ∧
        m'.caches.entryFor? subject = none ∧ subject.labels entry = labels) :
      Step m happening m'
  | stored {view : ObjectView} {m' : Moment (Interleaved Outside)} {subject : Subject}
      {outcome : Outcome} (hsubject : view.subject? = some subject)
      (hdue : ∀ entry, m.caches.entryFor? subject = some entry →
        entry.resourceVersion ≠ view.resourceVersion)
      (hgeneration : m'.generation = m.generation)
      (hvalidate : (m.world.settle.engine.validate view).1 = .ok outcome)
      (hworld : m'.world = m.world.settle.judge view)
      (hentry : ∀ other, m'.caches.entryFor? other =
        if other = subject then some (.ofView view outcome) else m.caches.entryFor? other) :
      Step m (.deed (.take view)) m'
  | failed {view : ObjectView} {m' : Moment (Interleaved Outside)} {subject : Subject}
      {error : ScanError} (hsubject : view.subject? = some subject)
      (hdue : ∀ entry, m.caches.entryFor? subject = some entry →
        entry.resourceVersion ≠ view.resourceVersion)
      (hgeneration : m'.generation = m.generation)
      (hvalidate : (m.world.settle.engine.validate view).1 = .error error)
      (hworld : Interleaved.Loses (· = view.labels) (m.world.settle.judge view) m'.world)
      (hentry : ∀ other, m'.caches.entryFor? other =
        if other = subject then none else m.caches.entryFor? other) :
      Step m (.deed (.take view)) m'

variable (cluster : Cluster Outside) {m : Moment (Interleaved Outside)}

theorem Step.of_entryFor?_eq {happening : Happening Outside} {m' : Moment (Interleaved Outside)}
    (hgeneration : m'.generation = m.generation)
    (hworld : Interleaved.Loses (fun _ => False) m.world m'.world)
    (hentry : ∀ subject, m'.caches.entryFor? subject = m.caches.entryFor? subject) :
    m.Step happening m' := by
  refine .lost [] (.inl hgeneration) (hworld.congr fun labels => by simp)
    (fun subject => .inr (hentry subject)) fun labels => ?_
  simp only [List.not_mem_nil, false_iff, not_exists]
  rintro subject entry ⟨hheld, hnone, -⟩
  rw [hentry, hheld] at hnone
  exact Option.some_ne_none _ hnone

theorem meet_step (hkeyed : m.caches.Keyed) (hsound : m.world.Sound)
    (happening : Happening Outside) : m.Step happening (m.meet cluster happening) := by
  cases happening with
  | reload selection => exact .of_entryFor?_eq rfl (m.world.reload_loses selection) fun _ => rfl
  | turn outside due => exact .of_entryFor?_eq rfl (.of_engine_eq rfl rfl rfl) fun _ => rfl
  | deed deed =>
      change m.Step (.deed deed) (m.apply (Interleaved.asCluster cluster) Interleaved.asEngine deed)
      generalize hnext :
        m.apply (Interleaved.asCluster cluster) Interleaved.asEngine deed = m'
      cases hnext ▸ apply_change (Interleaved.asCluster cluster) Interleaved.asEngine hkeyed
        deed with
      | idle hview hgeneration hworld hentry =>
          exact .of_entryFor?_eq hgeneration (hworld ▸ .refl m.world) hentry
      | asked hgeneration hworld hentry =>
          exact .of_entryFor?_eq hgeneration (hworld ▸ Interleaved.after_loses cluster _ m.world)
            hentry
      | dropped gone hview hgeneration hworld hentry hgone =>
          exact .lost gone hgeneration (hworld ▸ Interleaved.deleteAll_loses hsound gone) hentry
            hgone
      | hit hsubject hheld hversion hgeneration hworld hentry =>
          exact .of_entryFor?_eq hgeneration (hworld ▸ .refl m.world) hentry
      | stored hsubject hdue hgeneration hworld hentry =>
          exact .stored hsubject hdue hgeneration (congrArg Prod.fst hworld)
            (congrArg Prod.snd hworld).symm hentry
      | failed hsubject hdue hgeneration hvalidate hworld hentry =>
          rename_i view subject error world
          have hjudged : m.world.settle.judge view = world := congrArg Prod.snd hvalidate
          refine .failed hsubject hdue hgeneration (congrArg Prod.fst hvalidate) ?_ hentry
          rw [hworld, ← hjudged]
          exact Interleaved.asEngine_deleteMetrics_loses (hsound.settle.judge view) _

theorem meet_keyed (hkeyed : m.caches.Keyed) (happening : Happening Outside) :
    (m.meet cluster happening).caches.Keyed := by
  cases happening with
  | deed deed => exact apply_keyed _ _ hkeyed deed
  | reload selection => exact hkeyed
  | turn outside due => exact hkeyed

end Moment

end ComplianceScanner
