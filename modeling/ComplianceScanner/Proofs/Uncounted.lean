import ComplianceScanner.Proofs.BrokenOff
import ComplianceScanner.Proofs.Requests

/-!
# Work that is never counted

The outcomes of a kind are published when its listing has come to the end. When a request for a later
page fails, what was done with the earlier pages stays in the cache and is counted neither now nor later.
So the counters fall behind the calls by just the objects of such kinds, and they keep up as long as no
listing breaks off after an object with a name.
-/

namespace ComplianceScanner

variable {World : Type}

/-- What the journals say of one attempt. -/
structure Attempt where
  exchanges : List Exchange
  calls : List Engine.Call
  /-- The listed objects with a name that the engine did not have to judge. -/
  skipped : List ObjectView
  completed : Bool

namespace Attempt

/-- The kind in whose listing the attempt broke off. -/
def brokenOff? (attempt : Attempt) : Option ResourceType :=
  if attempt.completed then none
  else attempt.exchanges.getLast?.bind fun exchange => exchange.call.listed?

/-- Those of the objects that belong to the kind whose listing broke off. -/
def lost (attempt : Attempt) (views : List ObjectView) : List ObjectView :=
  views.filter fun view => attempt.brokenOff? = some view.resource

def kept (attempt : Attempt) (views : List ObjectView) : List ObjectView :=
  views.filter fun view => attempt.brokenOff? ≠ some view.resource

theorem kept_perm (attempt : Attempt) {views views' : List ObjectView}
    (hperm : (views.map fun view => (view.resource, view.object)).Perm
      (views'.map fun view => (view.resource, view.object))) :
    ((attempt.kept views).map ObjectView.kindLabel).Perm
      ((attempt.kept views').map ObjectView.kindLabel) := by
  have hlabels : ∀ views : List ObjectView, (attempt.kept views).map ObjectView.kindLabel =
      ((views.map fun view => (view.resource, view.object)).filter fun item =>
        attempt.brokenOff? ≠ some item.1).map fun item => item.1.key.display := by
    intro views
    rw [List.filter_map, List.map_map]
    rfl
  rw [hlabels, hlabels]
  exact (hperm.filter _).map _

/-- What was done in the attempt: each listed object with a name was judged or skipped. -/
structure Accounts (attempt : Attempt) (before after : Journaled World) : Prop where
  exchanges_eq : after.exchanges = before.exchanges ++ attempt.exchanges
  calls_eq : after.calls = before.calls ++ attempt.calls
  named_perm : ((attempt.exchanges.flatMap Exchange.items).filter Exchange.isNamed).Perm
    ((attempt.skipped ++ (Engine.successes attempt.calls ++ Engine.failures attempt.calls)).map
      fun view => (view.resource, view.object))

/-- Nothing is lost of an attempt in which no object with a name was listed of the kind that it broke
off at. -/
theorem Accounts.lost_eq_nil_iff {attempt : Attempt} {before after : Journaled World}
    (haccounts : attempt.Accounts before after) :
    (attempt.lost (Engine.successes attempt.calls) = [] ∧
        attempt.lost (Engine.failures attempt.calls) = [] ∧ attempt.lost attempt.skipped = []) ↔
      ∀ item ∈ attempt.exchanges.flatMap Exchange.items, Exchange.isNamed item = true →
        attempt.brokenOff? ≠ some item.1 := by
  have hitems : (∀ item ∈ attempt.exchanges.flatMap Exchange.items, Exchange.isNamed item = true →
        attempt.brokenOff? ≠ some item.1) ↔
      ∀ view ∈ attempt.skipped ++ (Engine.successes attempt.calls ++ Engine.failures attempt.calls),
        attempt.brokenOff? ≠ some view.resource := by
    have hperm := haccounts.named_perm
    constructor
    · intro h view hview
      have hmem := hperm.mem_iff.mpr (List.mem_map.mpr ⟨view, hview, rfl⟩)
      obtain ⟨hitem, hnamed⟩ := List.mem_filter.mp hmem
      exact h _ hitem hnamed
    · intro h item hitem hnamed
      obtain ⟨view, hview, rfl⟩ :=
        List.mem_map.mp (hperm.mem_iff.mp (List.mem_filter.mpr ⟨hitem, hnamed⟩))
      exact h view hview
  rw [hitems]
  simp only [lost, List.filter_eq_nil_iff, List.forall_mem_append, decide_eq_true_eq, ne_eq]
  tauto

end Attempt

/-! ### All attempts together -/

section

variable {attempts : List Attempt} {views : Attempt → List ObjectView}

theorem length_kept_add_length_lost (attempts : List Attempt) (views : Attempt → List ObjectView) :
    (attempts.flatMap fun attempt => attempt.kept (views attempt)).length +
        (attempts.flatMap fun attempt => attempt.lost (views attempt)).length =
      (attempts.flatMap views).length := by
  induction attempts with
  | nil => rfl
  | cons attempt attempts ih =>
      have hsplit : (views attempt).length = _ :=
        List.length_eq_countP_add_countP fun view => attempt.brokenOff? = some view.resource
      simp only [List.countP_eq_length_filter, decide_not, Bool.decide_eq_true] at hsplit
      simp only [List.flatMap_cons, List.length_append, Attempt.kept, Attempt.lost, ne_eq,
        decide_not] at ih ⊢
      omega

theorem kept_sublist (attempts : List Attempt) (views : Attempt → List ObjectView) :
    (attempts.flatMap fun attempt => attempt.kept (views attempt)).Sublist
      (attempts.flatMap views) := by
  induction attempts with
  | nil => exact List.Sublist.refl _
  | cons attempt attempts ih => exact List.filter_sublist.append ih

/-- A counter that has counted what was kept falls behind by what was lost. -/
theorem CounterFamily.Counts.total_add_length_lost {family : CounterFamily}
    (hcounts : Counts ∅ family
      ((attempts.flatMap fun attempt => attempt.kept (views attempt)).map ObjectView.kindLabel))
    (hfits : Fits ∅ ((attempts.flatMap views).map ObjectView.kindLabel)) :
    family.total + (attempts.flatMap fun attempt => attempt.lost (views attempt)).length =
      (attempts.flatMap views).length := by
  have hkept : Fits ∅ ((attempts.flatMap fun attempt => attempt.kept (views attempt)).map
      ObjectView.kindLabel) := by
    intro label
    have hle := ((kept_sublist attempts views).map ObjectView.kindLabel).count_le label
    exact Nat.lt_of_le_of_lt (Nat.add_le_add_left hle _) (hfits label)
  have hlength := length_kept_add_length_lost attempts views
  rw [hcounts.total_eq hkept, total_empty, List.length_map]
  omega

end

namespace Scanning

/-- What a scanner has come to by these attempts, from a valid configuration on with nothing counted.
Each may have another cluster and another engine, the world may change in whatever way, and nobody else
counts objects. -/
inductive Undertaken : List Attempt → Scanning (Journaled World) → Prop
  | fresh {config : ScannerConfig} {generation : UInt64} {scheduler : Scheduler} (world : World)
      (hscheduler : Scheduler.ofConfig config generation = .ok scheduler) :
      Undertaken [] ⟨scheduler, { world }⟩
  | attempt {attempts : List Attempt} {s s' : Scanning (Journaled World)} (cluster : Cluster World)
      (engine : Engine World) (steps : Nat) {result : Except Stop CycleReport} {attempt : Attempt}
      (hpast : Undertaken attempts s)
      (hrun : s.runCycle cluster.journaled engine.journaled steps = (result, s'))
      (haccounts : attempt.Accounts s.world s'.world)
      (hcompleted : attempt.completed = result.isOk) :
      Undertaken (attempts ++ [attempt]) s'
  | turn {attempts : List Attempt} {s : Scanning (Journaled World)} (world : World)
      (hpast : Undertaken attempts s) :
      Undertaken attempts { s with world := { s.world with world } }
  | count {attempts : List Attempt} {s : Scanning (Journaled World)} (completed : Nat)
      {metrics : Metrics} (hpast : Undertaken attempts s)
      (hvalidated : metrics.validated = s.scheduler.metrics.validated)
      (herrors : metrics.engineErrors = s.scheduler.metrics.engineErrors)
      (hhits : metrics.cacheHits = s.scheduler.metrics.cacheHits) :
      Undertaken attempts { s with scheduler := { s.scheduler with completed, metrics } }

section

variable {cluster : Cluster World} {engine : Engine World} {steps : Nat}
  {s s' : Scanning (Journaled World)} {result : Except Stop CycleReport}
  (hrun : s.runCycle cluster.journaled engine.journaled steps = (result, s'))
include hrun

theorem JournalOf.map_call {exchanges : List Exchange} {calls : List Engine.Call}
    {skipped : List ObjectView} (h : JournalOf cluster engine steps s s' exchanges calls skipped) :
    exchanges.map Exchange.call =
      Deed.calls (s.deeds cluster.journaled engine.journaled steps).tail := by
  have hmoment := s.runCycle_moment cluster.journaled engine.journaled steps
  have hcalls := s.moment.exchanges_applyAll cluster engine
    (s.deeds cluster.journaled engine.journaled steps)
  obtain ⟨later, hdeeds, -⟩ := s.deeds_eq_renew_cons cluster.journaled engine.journaled steps
  rw [← hmoment, hrun] at hcalls
  change s'.world.exchanges.map Exchange.call = s.world.exchanges.map Exchange.call ++ _ at hcalls
  rw [h.asks.exchanges_eq, List.map_append] at hcalls
  rw [List.append_cancel_left hcalls, hdeeds]
  rfl

/-- What an attempt posts is all of it that is not lost. -/
theorem runCycle_counts_kept {attempt : Attempt} (haccounts : attempt.Accounts s.world s'.world)
    (hcompleted : attempt.completed = result.isOk) (hkeyed : s.scheduler.caches.Keyed) :
    s.scheduler.metrics.validated.Counts s'.scheduler.metrics.validated
        ((attempt.kept (Engine.successes attempt.calls)).map ObjectView.kindLabel) ∧
      s.scheduler.metrics.engineErrors.Counts s'.scheduler.metrics.engineErrors
        ((attempt.kept (Engine.failures attempt.calls)).map ObjectView.kindLabel) ∧
      s.scheduler.metrics.cacheHits.Counts s'.scheduler.metrics.cacheHits
        ((attempt.kept attempt.skipped).map ObjectView.kindLabel) := by
  obtain ⟨exchanges, calls, skipped, hjournal⟩ := exists_journalOf cluster engine steps hrun hkeyed
  obtain rfl : exchanges = attempt.exchanges :=
    List.append_cancel_left (hjournal.asks.exchanges_eq.symm.trans haccounts.exchanges_eq)
  obtain rfl : calls = attempt.calls :=
    List.append_cancel_left (hjournal.calls_eq.symm.trans haccounts.calls_eq)
  obtain ⟨done, cut, hlater, hposted, hcut, hdone⟩ :=
    s.runCycle_posted_lastListed? cluster.journaled engine.journaled steps hkeyed
  rw [hrun] at hposted hcut hdone
  have hbroken : attempt.brokenOff? = if result.isOk then none
      else Deed.lastListed? (s.deeds cluster.journaled engine.journaled steps).tail := by
    rw [Attempt.brokenOff?, hcompleted, Deed.lastListed?, ← hjournal.map_call hrun,
      List.getLast?_map, Option.bind_map]
    rfl
  -- The objects of the deeds that are posted are those that are kept.
  have hkept : ∀ verdict, attempt.kept ((s.dropStaleCaches engine.journaled).moment.met
        cluster.journaled engine.journaled verdict
        (s.deeds cluster.journaled engine.journaled steps).tail) =
      (s.dropStaleCaches engine.journaled).moment.met cluster.journaled engine.journaled verdict
        done := by
    intro verdict
    have hmet : (s.dropStaleCaches engine.journaled).moment.met cluster.journaled engine.journaled
        verdict (done ++ cut) = _ := Moment.met_append _ _ done cut
    rw [← hlater] at hmet
    rw [Attempt.kept, hmet, List.filter_append, List.filter_eq_self.mpr,
      List.filter_eq_nil_iff.mpr, List.append_nil]
    · intro view hview
      obtain ⟨hstopped, hlast⟩ := hcut view (Moment.take_mem_of_mem_met _ _ hview)
      simp [hbroken, hstopped, hlast]
    · intro view hview
      have hnot := hdone view (Moment.take_mem_of_mem_met _ _ hview)
      cases hok : result.isOk with
      | true => simp [hbroken, hok]
      | false => simpa [hbroken, hok] using hnot hok
  have hskipped := haccounts.named_perm.symm.trans hjournal.named_perm
  simp only [List.map_append] at hskipped
  rw [List.perm_append_right_iff] at hskipped
  have hvalidated := hposted.validated
  have herrors := hposted.engineErrors
  have hhits := hposted.cacheHits
  rw [← hkept, ← hjournal.successes_eq] at hvalidated
  rw [← hkept, ← hjournal.failures_eq] at herrors
  rw [← hkept, ← hjournal.skipped_eq] at hhits
  exact ⟨hvalidated, herrors, hhits.perm (attempt.kept_perm hskipped.symm)⟩

end

theorem Undertaken.reached {attempts : List Attempt} {s : Scanning (Journaled World)}
    (h : Undertaken attempts s) : s.Reached := by
  induction h with
  | fresh world hscheduler => exact .fresh world hscheduler
  | attempt cluster engine steps _ hrun _ _ ih =>
      have hend := Reached.attempt cluster engine steps ih
      rwa [hrun] at hend
  | turn world _ ih => exact .turn world ih
  | count completed _ _ _ _ ih => exact .count completed _ ih

namespace Undertaken

variable {attempts : List Attempt} {s : Scanning (Journaled World)} (h : Undertaken attempts s)
include h

theorem exists_accounts : ∀ attempt ∈ attempts,
    ∃ before after : Journaled World, attempt.Accounts before after := by
  induction h with
  | fresh world hscheduler => simp
  | attempt cluster engine steps hpast hrun haccounts hcompleted ih =>
      rw [List.forall_mem_append]
      exact ⟨ih, by simpa using ⟨_, _, haccounts⟩⟩
  | turn world hpast ih => exact ih
  | count completed hpast hvalidated herrors hhits ih => exact ih

theorem calls_eq : s.world.calls = attempts.flatMap Attempt.calls := by
  induction h with
  | fresh world hscheduler => rfl
  | attempt cluster engine steps hpast hrun haccounts hcompleted ih =>
      rw [haccounts.calls_eq, ih, List.flatMap_append, List.flatMap_singleton]
  | turn world hpast ih => exact ih
  | count completed hpast hvalidated herrors hhits ih => exact ih

/-- Whatever an attempt does, it is on record. -/
theorem exists_attempt (cluster : Cluster World) (engine : Engine World) (steps : Nat) :
    ∃ attempt : Attempt, Undertaken (attempts ++ [attempt])
      (s.runCycle cluster.journaled engine.journaled steps).2 := by
  obtain ⟨exchanges, calls, skipped, hjournal⟩ :=
    exists_journalOf cluster engine steps rfl h.reached.keyed_and_proven.1
  exact ⟨⟨exchanges, calls, skipped, _⟩, .attempt cluster engine steps h rfl
    ⟨hjournal.asks.exchanges_eq, hjournal.calls_eq, hjournal.named_perm⟩ rfl⟩

theorem counts_kept :
    let metrics := s.scheduler.metrics
    CounterFamily.Counts ∅ metrics.validated ((attempts.flatMap fun attempt =>
        attempt.kept (Engine.successes attempt.calls)).map ObjectView.kindLabel) ∧
      CounterFamily.Counts ∅ metrics.engineErrors ((attempts.flatMap fun attempt =>
        attempt.kept (Engine.failures attempt.calls)).map ObjectView.kindLabel) ∧
      CounterFamily.Counts ∅ metrics.cacheHits ((attempts.flatMap fun attempt =>
        attempt.kept attempt.skipped).map ObjectView.kindLabel) := by
  induction h with
  | fresh world hscheduler =>
      obtain ⟨namespaces, -, rfl⟩ := Scheduler.exists_of_ofConfig hscheduler
      exact ⟨.refl _, .refl _, .refl _⟩
  | attempt cluster engine steps hpast hrun haccounts hcompleted ih =>
      obtain ⟨hvalidated, herrors, hhits⟩ := ih
      obtain ⟨hvalidated', herrors', hhits'⟩ := runCycle_counts_kept hrun haccounts hcompleted
        hpast.reached.keyed_and_proven.1
      simp only [List.flatMap_append, List.flatMap_singleton, List.map_append]
      exact ⟨hvalidated.trans hvalidated', herrors.trans herrors', hhits.trans hhits'⟩
  | turn world hpast ih => exact ih
  | count completed hpast hvalidated herrors hhits ih =>
      simp only [hvalidated, herrors, hhits]
      exact ih

end Undertaken

/-- Over all attempts, failed ones included, the counters fall behind by just what was done for the
kinds whose listings broke off. So they tell what was done iff no listing ever broke off after it had
shown an object with a name. -/
theorem counted_iff {attempts : List Attempt} {s : Scanning (Journaled World)}
    (h : Undertaken attempts s)
    (hvalidated : CounterFamily.Fits ∅
      ((Engine.successes s.world.calls).map ObjectView.kindLabel))
    (herrors : CounterFamily.Fits ∅ ((Engine.failures s.world.calls).map ObjectView.kindLabel))
    (hhits : CounterFamily.Fits ∅ ((attempts.flatMap Attempt.skipped).map ObjectView.kindLabel)) :
    let metrics := s.scheduler.metrics
    metrics.validated.total + (attempts.flatMap fun attempt =>
        attempt.lost (Engine.successes attempt.calls)).length =
      (Engine.successes s.world.calls).length ∧
    metrics.engineErrors.total + (attempts.flatMap fun attempt =>
        attempt.lost (Engine.failures attempt.calls)).length =
      (Engine.failures s.world.calls).length ∧
    metrics.cacheHits.total + (attempts.flatMap fun attempt =>
        attempt.lost attempt.skipped).length =
      (attempts.flatMap Attempt.skipped).length ∧
    ((metrics.validated.total = (Engine.successes s.world.calls).length ∧
        metrics.engineErrors.total = (Engine.failures s.world.calls).length ∧
        metrics.cacheHits.total = (attempts.flatMap Attempt.skipped).length) ↔
      ∀ attempt ∈ attempts, ∀ item ∈ attempt.exchanges.flatMap Exchange.items,
        Exchange.isNamed item = true → attempt.brokenOff? ≠ some item.1) := by
  intro metrics
  obtain ⟨hvalidated', herrors', hhits'⟩ := h.counts_kept
  have hsuccesses : Engine.successes s.world.calls =
      attempts.flatMap fun attempt => Engine.successes attempt.calls := by
    rw [h.calls_eq, Engine.successes, List.filterMap_flatMap]
    rfl
  have hfailures : Engine.failures s.world.calls =
      attempts.flatMap fun attempt => Engine.failures attempt.calls := by
    rw [h.calls_eq, Engine.failures, List.filterMap_flatMap]
    rfl
  rw [hsuccesses] at hvalidated ⊢
  rw [hfailures] at herrors ⊢
  have hvalidations := hvalidated'.total_add_length_lost hvalidated
  have hfaults := herrors'.total_add_length_lost herrors
  have hskips := hhits'.total_add_length_lost hhits
  refine ⟨hvalidations, hfaults, hskips, ?_⟩
  have hnone : (∀ attempt ∈ attempts, attempt.lost (Engine.successes attempt.calls) = [] ∧
        attempt.lost (Engine.failures attempt.calls) = [] ∧ attempt.lost attempt.skipped = []) ↔
      ∀ attempt ∈ attempts, ∀ item ∈ attempt.exchanges.flatMap Exchange.items,
        Exchange.isNamed item = true → attempt.brokenOff? ≠ some item.1 := by
    refine forall₂_congr fun attempt hattempt => ?_
    obtain ⟨before, after, haccounts⟩ := h.exists_accounts attempt hattempt
    exact haccounts.lost_eq_nil_iff
  rw [← hnone]
  have hzero : ∀ views : Attempt → List ObjectView,
      (attempts.flatMap fun attempt => attempt.lost (views attempt)).length = 0 ↔
        ∀ attempt ∈ attempts, attempt.lost (views attempt) = [] := by
    intro views
    rw [List.length_eq_zero_iff, List.flatMap_eq_nil_iff]
  have hexact : ∀ {total lost all : Nat}, total + lost = all → (total = all ↔ lost = 0) := by
    intro total lost all hsum
    omega
  rw [hexact hvalidations, hexact hfaults, hexact hskips, hzero, hzero, hzero, ← forall₂_and,
    ← forall₂_and]

end Scanning

namespace Sample

/-- An attempt that fails at the second namespace. -/
def halfway : Except Stop CycleReport × Scanning (Journaled (ScriptedCluster × StandIn)) :=
  attempted interrupted [] 2 unspoilt

/-- The next attempt, which comes through. -/
def resumed : Except Stop CycleReport × Scanning (Journaled (ScriptedCluster × StandIn)) :=
  attempted (twoNamespaces [web "uid-1" "2", api]) [] 2 halfway.2

/-- What was judged in the first namespace is skipped when the listing is taken up again. -/
def resumption : List Attempt :=
  [{ exchanges := halfway.2.world.exchanges
     calls := halfway.2.world.calls
     skipped := []
     completed := false },
   { exchanges := resumed.2.world.exchanges.drop halfway.2.world.exchanges.length
     calls := resumed.2.world.calls.drop halfway.2.world.calls.length
     skipped := [⟨deployment "apps", web "uid-1" "2", "ns-1"⟩, ⟨deployment "apps", api, "ns-1"⟩]
     completed := true }]

theorem undertaken_attempted (cluster : ScriptedCluster) (steps : Nat) {attempts : List Attempt}
    {s : Scanning (Journaled (ScriptedCluster × StandIn))} {attempt : Attempt}
    (hpast : Scanning.Undertaken attempts s)
    (haccounts : attempt.Accounts s.world (attempted cluster [] steps s).2.world)
    (hcompleted : attempt.completed = (attempted cluster [] steps s).1.isOk) :
    Scanning.Undertaken (attempts ++ [attempt]) (attempted cluster [] steps s).2 := by
  have hturned := Scanning.Undertaken.turn (cluster, { unsupportedKinds := [] }) hpast
  exact .attempt ScriptedCluster.asCluster.beside StandIn.asEngine.beside steps hturned rfl
    ⟨haccounts.exchanges_eq, haccounts.calls_eq, haccounts.named_perm⟩ hcompleted

theorem undertaken_resumption : Scanning.Undertaken resumption resumed.2 := by
  have hfault : ({} : ScannerConfig).fault? = none := by decide
  have hscheduler : Scheduler.ofConfig {} 0 = .ok unspoilt.scheduler := by
    rw [Scheduler.ofConfig, hfault]
    rfl
  have hfirst : Scanning.Undertaken (resumption.take 1) halfway.2 := by
    refine undertaken_attempted interrupted 2 (.fresh _ hscheduler) ⟨rfl, rfl, ?_⟩ ?_
    · with_unfolding_all exact List.Perm.refl _
    · decide +kernel
  refine undertaken_attempted (twoNamespaces [web "uid-1" "2", api]) 2 hfirst ⟨?_, ?_, ?_⟩ ?_
  · with_unfolding_all rfl
  · with_unfolding_all rfl
  · with_unfolding_all exact List.Perm.refl _
  · decide +kernel

/-- Three objects have been judged and two were skipped, but just one judgement has been counted. -/
theorem counted_iff_resumption :
    Scanning.Undertaken resumption resumed.2 ∧
      (Engine.successes resumed.2.world.calls).length = 3 ∧
      (resumption.flatMap Attempt.skipped).length = 2 ∧
      resumption.map Attempt.brokenOff? = [some (deployment "apps"), none] ∧
      resumed.2.scheduler.metrics.validated.total + 2 =
        (Engine.successes resumed.2.world.calls).length ∧
      resumed.2.scheduler.metrics.cacheHits.total = (resumption.flatMap Attempt.skipped).length := by
  have hsuccesses : (Engine.successes resumed.2.world.calls).length = 3 := by decide +kernel
  have hfailures : (Engine.failures resumed.2.world.calls).length = 0 := by decide +kernel
  have hlost : (resumption.flatMap fun attempt =>
      attempt.lost (Engine.successes attempt.calls)).length = 2 := by decide +kernel
  have hskipped : (resumption.flatMap fun attempt => attempt.lost attempt.skipped).length = 0 := by
    decide +kernel
  obtain ⟨hvalidated, -, hhits, -⟩ := Scanning.counted_iff undertaken_resumption
    (CounterFamily.fits_empty (by rw [List.length_map, hsuccesses]; decide))
    (CounterFamily.fits_empty (by rw [List.length_map, hfailures]; decide))
    (CounterFamily.fits_empty (by rw [List.length_map]; decide))
  rw [hlost] at hvalidated
  rw [hskipped] at hhits
  exact ⟨undertaken_resumption, hsuccesses, rfl, by decide +kernel, hvalidated, hhits⟩

end Sample

end ComplianceScanner
