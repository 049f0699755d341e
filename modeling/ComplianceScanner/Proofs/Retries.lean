import ComplianceScanner.Proofs.Attempts
import ComplianceScanner.Proofs.Counters
import ComplianceScanner.Proofs.Failures
import ComplianceScanner.Proofs.Observations
import ComplianceScanner.Proofs.Settings

/-!
# Retries

A cycle is tried until an attempt succeeds or as many as are allowed have failed. Whatever the cluster
answers and whatever the engine says, nothing else ends a run that nobody stops, and each attempt is
counted once.
-/

namespace ComplianceScanner

variable {World : Type}

/-! ### What is counted -/

/-- From one scheduler to the other so many cycles were completed, and attempts failed with these
errors: each error is counted under its label, and one length is observed for each attempt. -/
structure Scheduler.Counts (before after : Scheduler) (errors : List ScanError) (done : Nat) :
    Prop where
  config : after.config = before.config
  completed : after.completed = before.completed + done
  cycleErrors : ∀ label, after.metrics.cycleErrors.value label =
    before.metrics.cycleErrors.value label + (errors.countP (·.label = label)).toUInt64
  failed : Histogram.Grows before.metrics.failed after.metrics.failed errors.length
  succeeded : Histogram.Grows before.metrics.succeeded after.metrics.succeeded done

namespace Scheduler.Counts

variable {a b c : Scheduler} {errors later : List ScanError} {m n : Nat}

theorem of_untouched (h : b.Untouched a) : Counts a b [] 0 where
  config := h.settings.config
  completed := h.completed
  cycleErrors label := by simp [h.cycleErrors]
  failed := h.failed ▸ .refl _
  succeeded := h.succeeded ▸ .refl _

theorem trans (h : Counts a b errors m) (h' : Counts b c later n) :
    Counts a c (errors ++ later) (m + n) where
  config := h'.config.trans h.config
  completed := by rw [h'.completed, h.completed, Nat.add_assoc]
  cycleErrors label := by
    rw [h'.cycleErrors, h.cycleErrors, List.countP_append, UInt64.add_assoc]
    simp
  failed := List.length_append ▸ h.failed.trans h'.failed
  succeeded := h.succeeded.trans h'.succeeded

end Scheduler.Counts

/-! ### Attempts of one cycle -/

/-- Nobody stops the run, and all that is waited for comes due. -/
structure Clock.Uninterrupted (clock : Clock World) : Prop where
  isCancelled : ∀ world, clock.isCancelled world = false
  awaitTick : ∀ tick world, (clock.awaitTick tick world).1 = .due
  awaitRetry : ∀ delay world, (clock.awaitRetry delay world).1 = .due

namespace Scanning

variable (cluster : Cluster World) (engine : Engine World) (clock : Clock World) (steps : Nat)

/-- An attempt that began then has failed. -/
def countFailure (started : Duration) (error : ScanError) (s : Scanning World) : Scanning World :=
  (s.observe false (Run.elapsed clock started s)).countError error

/-- An attempt that began then has completed the cycle. -/
def countSuccess (started : Duration) (s : Scanning World) : Scanning World :=
  (s.observe true (Run.elapsed clock started s)).complete

/-- The wait after this attempt. -/
def awaitRetry (attempt : Nat) (s : Scanning World) : Scanning World :=
  { s with
    world := (clock.awaitRetry (s.scheduler.config.backoff.delay (attempt - 1)) s.world).2 }

/-- The wait for the next tick after a cycle that began then. -/
def awaitTick (started : Duration) (s : Scanning World) : Scanning World :=
  let (offset, world) := clock.drawOffset s.world
  let length := Jitter.draw s.scheduler.config.interval offset
  { s with world := (clock.awaitTick ⟨started.nanoseconds + length.nanoseconds⟩ world).2 }

/-- Attempts that failed one after the other, numbered from `first` on, each with its error. -/
inductive Retried : Nat → Scanning World → List ScanError → Scanning World → Prop
  | nil {first : Nat} {s : Scanning World} : Retried first s [] s
  | cons {first : Nat} {s s' s'' : Scanning World} {error : ScanError} {errors : List ScanError}
      (hfailed : s.runCycle cluster engine steps = (.error (.failed error), s'))
      (hrest : Retried (first + 1)
        ((s'.countFailure clock (clock.now s.world) error).awaitRetry clock first) errors s'') :
      Retried first s (error :: errors) s''

/-- All attempts of a cycle, from number `first` to number `last` at most, with the errors of those
that failed and what the cycle comes to. -/
inductive Tried (first last : Nat) (s : Scanning World) :
    List ScanError → Except Stop CycleReport → Scanning World → Prop
  | succeeded {errors : List ScanError} {t s' : Scanning World} {report : CycleReport}
      (hretried : Retried cluster engine clock steps first s errors t)
      (hattempt : first + errors.length ≤ last)
      (hrun : t.runCycle cluster engine steps = (.ok report, s')) :
      Tried first last s errors (.ok report) (s'.countSuccess clock (clock.now t.world))
  | exhausted {errors : List ScanError} {t s' : Scanning World} {error : ScanError}
      (hretried : Retried cluster engine clock steps first s errors t)
      (hattempt : first + errors.length = last)
      (hrun : t.runCycle cluster engine steps = (.error (.failed error), s')) :
      Tried first last s (errors ++ [error]) (.error (.failed (.retriesExhausted last error)))
        (s'.countFailure clock (clock.now t.world) error)
  | unfinished {errors : List ScanError} {t s' : Scanning World}
      (hretried : Retried cluster engine clock steps first s errors t)
      (hattempt : first + errors.length ≤ last)
      (hrun : t.runCycle cluster engine steps = (.error .outOfSteps, s')) :
      Tried first last s errors (.error .outOfSteps) s'

variable {cluster engine clock steps}

theorem Tried.cons {first last : Nat} {s s' s'' : Scanning World} {error : ScanError}
    {errors : List ScanError} {result : Except Stop CycleReport}
    (hfailed : s.runCycle cluster engine steps = (.error (.failed error), s'))
    (hrest : Tried cluster engine clock steps (first + 1) last
      ((s'.countFailure clock (clock.now s.world) error).awaitRetry clock first) errors result s'') :
    Tried cluster engine clock steps first last s (error :: errors) result s'' := by
  cases hrest with
  | succeeded hretried hattempt hrun =>
      exact .succeeded (.cons hfailed hretried) (by simp; omega) hrun
  | exhausted hretried hattempt hrun =>
      exact .exhausted (.cons hfailed hretried) (by simp; omega) hrun
  | unfinished hretried hattempt hrun =>
      exact .unfinished (.cons hfailed hretried) (by simp; omega) hrun

theorem Tried.length_le {first last : Nat} {s s' : Scanning World} {errors : List ScanError}
    {report : CycleReport}
    (htried : Tried cluster engine clock steps first last s errors (.ok report) s') :
    first + errors.length ≤ last := by
  cases htried with
  | succeeded hretried hattempt hrun => exact hattempt

end Scanning

namespace Run

variable {cluster : Cluster World} (engine : Engine World) {clock : Clock World} (steps : Nat)

end Run

/-! ### Counting the attempts -/

namespace Scanning

variable {cluster : Cluster World} {engine : Engine World} {clock : Clock World} {steps : Nat}

theorem countFailure_counts (clock : Clock World) (started : Duration) (error : ScanError)
    (s : Scanning World) :
    s.scheduler.Counts (s.countFailure clock started error).scheduler [error] 0 where
  config := rfl
  completed := rfl
  cycleErrors label := by
    refine (CounterFamily.value_add s.scheduler.metrics.cycleErrors error.label label 1).trans ?_
    by_cases heq : error.label = label <;> simp [heq]
  failed := .observe _ _
  succeeded := .refl _

theorem countSuccess_counts (clock : Clock World) (started : Duration) (s : Scanning World) :
    s.scheduler.Counts (s.countSuccess clock started).scheduler [] 1 where
  config := rfl
  completed := rfl
  cycleErrors _ := (UInt64.add_zero _).symm
  failed := .refl _
  succeeded := .observe _ _

theorem runCycle_counts {s s' : Scanning World} {result : Except Stop CycleReport}
    (hrun : s.runCycle cluster engine steps = (result, s')) :
    s.scheduler.Counts s'.scheduler [] 0 := by
  have huntouched := s.runCycle_untouched cluster engine steps
  rw [hrun] at huntouched
  exact .of_untouched huntouched

theorem Retried.counts {first : Nat} {s s' : Scanning World} {errors : List ScanError}
    (hretried : Retried cluster engine clock steps first s errors s') :
    s.scheduler.Counts s'.scheduler errors 0 := by
  induction hretried with
  | nil => exact .of_untouched (.refl _)
  | cons hfailed hrest ih =>
      exact ((runCycle_counts hfailed).trans (countFailure_counts ..)).trans ih

theorem Retried.isRetriable (hcluster : cluster.Uninterrupted) {first : Nat}
    {s s' : Scanning World} {errors : List ScanError}
    (hretried : Retried cluster engine clock steps first s errors s') :
    ∀ error ∈ errors, error.isRetriable = true := by
  induction hretried with
  | nil => simp
  | cons hfailed hrest ih =>
      exact List.forall_mem_cons.mpr ⟨isRetriable_of_runCycle hcluster engine steps hfailed, ih⟩

/-- How many cycles are completed by what a cycle comes to. -/
def completions : Except Stop CycleReport → Nat
  | .ok _ => 1
  | .error _ => 0

theorem Tried.counts {first last : Nat} {s s' : Scanning World} {errors : List ScanError}
    {result : Except Stop CycleReport}
    (htried : Tried cluster engine clock steps first last s errors result s') :
    s.scheduler.Counts s'.scheduler errors (completions result) := by
  cases htried with
  | @succeeded _ t s' _ hretried hattempt hrun =>
      have hlast := (runCycle_counts hrun).trans (countSuccess_counts clock (clock.now t.world) s')
      exact List.append_nil errors ▸ hretried.counts.trans hlast
  | @exhausted _ t s' error hretried hattempt hrun =>
      have hlast := (runCycle_counts hrun).trans
        (countFailure_counts clock (clock.now t.world) error s')
      exact hretried.counts.trans hlast
  | unfinished hretried hattempt hrun =>
      exact List.append_nil errors ▸ hretried.counts.trans (runCycle_counts hrun)

theorem Tried.isRetriable (hcluster : cluster.Uninterrupted) {first last : Nat}
    {s s' : Scanning World} {errors : List ScanError} {result : Except Stop CycleReport}
    (htried : Tried cluster engine clock steps first last s errors result s') :
    ∀ error ∈ errors, error.isRetriable = true := by
  cases htried with
  | succeeded hretried hattempt hrun => exact hretried.isRetriable hcluster
  | exhausted hretried hattempt hrun =>
      have hlast := isRetriable_of_runCycle hcluster engine steps hrun
      exact List.forall_mem_append.mpr
        ⟨hretried.isRetriable hcluster, List.forall_mem_singleton.mpr hlast⟩
  | unfinished hretried hattempt hrun => exact hretried.isRetriable hcluster

end Scanning

/-! ### A whole run -/

namespace Scanning

variable (cluster : Cluster World) (engine : Engine World) (clock : Clock World) (steps : Nat)

/-- Cycles that were completed one after the other, each with the errors of its attempts that failed
and with the report of the one that did not. -/
inductive Completed : Scanning World → List (List ScanError × CycleReport) → Scanning World → Prop
  | nil {s : Scanning World} : Completed s [] s
  | cons {s s' s'' : Scanning World} {errors : List ScanError} {report : CycleReport}
      {cycles : List (List ScanError × CycleReport)}
      (hfirst : Tried cluster engine clock steps 1 s.scheduler.config.backoff.maxAttempts s errors
        (.ok report) s')
      (hrest : Completed (s'.awaitTick clock (clock.now s.world)) cycles s'') :
      Completed s ((errors, report) :: cycles) s''

variable {cluster engine clock steps} {s s' : Scanning World}
  {cycles : List (List ScanError × CycleReport)}

theorem Completed.counts (hcompleted : Completed cluster engine clock steps s cycles s') :
    s.scheduler.Counts s'.scheduler (cycles.flatMap Prod.fst) cycles.length := by
  induction hcompleted with
  | nil => exact .of_untouched (.refl _)
  | cons hfirst hrest ih =>
      rw [List.flatMap_cons, List.length_cons, Nat.add_comm]
      exact hfirst.counts.trans ih

theorem Completed.isRetriable (hcluster : cluster.Uninterrupted)
    (hcompleted : Completed cluster engine clock steps s cycles s') :
    ∀ error ∈ cycles.flatMap Prod.fst, error.isRetriable = true := by
  induction hcompleted with
  | nil => simp
  | cons hfirst hrest ih =>
      rw [List.flatMap_cons]
      exact List.forall_mem_append.mpr ⟨hfirst.isRetriable hcluster, ih⟩

end Scanning

namespace Run

variable {cluster : Cluster World} (engine : Engine World) {clock : Clock World} (steps : Nat)

end Run

namespace Sample

/-- The answer to the next request, which fails if the script says so. -/
def scripted {α : Type} (value : α) :
    List (Option ClusterError) → Answer α × List (Option ClusterError)
  | [] => (.value value, [])
  | none :: script => (.value value, script)
  | some cause :: script => (.failed cause, script)

/-- Serves one workload, where its script does not say that a request fails. -/
def faltering : Cluster (List (Option ClusterError)) where
  discover := scripted [deployment "apps"]
  namespaces := scripted [⟨"default", "ns-1"⟩]
  list _ _ _ _ := scripted ⟨[web "uid-1" "1"], none⟩

/-- Judges no object. -/
def unable : Engine (List (Option ClusterError)) where
  supports _ _ _ := true
  validate view script := (.error (.engine view.resource.display "out of service"), script)
  deleteMetrics _ script := script
  generation _ := 0

/-- The second attempt goes well, but then the namespaces and at last a page cannot be listed. -/
def troubled : Scanning (List (Option ClusterError)) where
  scheduler :=
    { config := { backoff := { maxAttempts := 2 } }, namespaces := { ignore := none }
      generation := 0 }
  world :=
    [some .service, none, none, none, none, some .malformed, none, none, some .service]

end Sample

end ComplianceScanner
