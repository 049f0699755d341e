import ComplianceScanner.Cluster.Discovery
import ComplianceScanner.Cluster.Namespaces
import ComplianceScanner.Config.Scanner
import ComplianceScanner.Metrics.Basic
import ComplianceScanner.Schedule.Listing

/-!
One attempt at a cycle: what is served, then for each supported type its namespaces and objects, and
at last the removal of what is served no more. An attempt that stops early keeps what it has done
so far and removes only what it has listed to the end.
-/

namespace ComplianceScanner

structure Scheduler where
  config : ScannerConfig
  namespaces : NamespaceResolver
  caches : CacheSet := {}
  /-- The number of completed cycles. -/
  completed : Nat := 0
  /-- The generation of the engine that the cached outcomes come from. -/
  generation : UInt64
  metrics : Metrics := {}

structure Scanning (World : Type) where
  scheduler : Scheduler
  world : World

/-- The labels of the objects of a cache that are left without an entry. -/
def labelsOf (entries : List (Identity × CacheEntry)) : List ObjectLabels :=
  entries.map fun (identity, entry) => .ofEntry identity entry

namespace Scheduler

/-- A scheduler that has done nothing yet, unless the configuration is at fault. -/
def ofConfig (config : ScannerConfig) (generation : UInt64) : Except ScanError Scheduler :=
  match config.fault? with
  | some fault => .error (.config fault)
  | none =>
    (NamespaceResolver.ofPattern config.ignorePattern).map fun namespaces =>
      { config, namespaces, generation }

theorem exists_of_ofConfig {config : ScannerConfig} {generation : UInt64} {scheduler : Scheduler}
    (hscheduler : ofConfig config generation = .ok scheduler) :
    ∃ namespaces, NamespaceResolver.ofPattern config.ignorePattern = .ok namespaces ∧
      scheduler = { config, namespaces, generation } := by
  unfold ofConfig at hscheduler
  split at hscheduler
  · cases hscheduler
  · cases hnamespaces : NamespaceResolver.ofPattern config.ignorePattern with
    | error error =>
        rw [hnamespaces] at hscheduler
        cases hscheduler
    | ok namespaces =>
        rw [hnamespaces] at hscheduler
        exact ⟨namespaces, rfl, (Except.ok.inj hscheduler).symm⟩

/-- The scheduler with the metrics of a kind that was listed to the end. -/
def countKind (scheduler : Scheduler) (kind : String) (tally : Tally) (deleted cached : Nat) :
    Scheduler :=
  { scheduler with
    metrics := ((((scheduler.metrics.addValidated kind tally.validated.toUInt64).addCacheHits
      kind tally.hits.toUInt64).addEngineErrors kind tally.failures.toUInt64).addDeleted
      kind deleted.toUInt64).setCached kind cached.toUInt64 }

end Scheduler

namespace Scanning

variable {World : Type}

/-- Outcomes of an earlier generation are stale: with a new one all caches are dropped. -/
def dropStaleCaches (engine : Engine World) (s : Scanning World) : Scanning World :=
  let generation := engine.generation s.world
  if generation = s.scheduler.generation then s
  else
    let dropped := s.scheduler.caches.toList
    { scheduler :=
        { s.scheduler with
          generation
          caches := {}
          metrics := dropped.foldl
            (fun metrics (key, _) => metrics.removeCached key.display) s.scheduler.metrics }
      world := engine.deleteAll
        (dropped.flatMap fun (_, cache) => labelsOf cache.toList) s.world }

/-- The scopes to list a type in, and the number of namespaces if there are any to resolve. -/
def scopes (cluster : Cluster World) (resource : ResourceType) (s : Scanning World) :
    Except Stop (List (Option String × String) × Option Nat) × Scanning World :=
  if resource.namespaced then
    match s.scheduler.namespaces.resolve cluster s.world with
    | (.ok listed, namespaces, world) =>
      (.ok (listed.map fun ns => (some ns.name, ns.uid), some listed.length),
        { scheduler := { s.scheduler with namespaces }, world })
    | (.error stop, namespaces, world) =>
      (.error stop, { scheduler := { s.scheduler with namespaces }, world })
  else (.ok ([(none, "")], none), s)

/-- Drops what a complete listing of a type did not show, and counts what the scan did. -/
def finishKind (engine : Engine World) (resource : ResourceType) (s : Scanning World)
    (scan : KindScan World) (report : CycleReport) : CycleReport × Scanning World :=
  let cache := scan.caches.cacheFor resource
  let gone := cache.unobserved scan.observed
  let kept := cache.keepObserved scan.observed
  let scheduler := { s.scheduler with caches := scan.caches.put resource.key kept }
  (report.add scan.tally gone.length,
    { scheduler :=
        scheduler.countKind resource.key.display scan.tally gone.length kept.size
      world := engine.deleteAll (labelsOf gone) scan.world })

def scanKind (cluster : Cluster World) (engine : Engine World) (steps : Nat)
    (resource : ResourceType) (report : CycleReport) (s : Scanning World) :
    Except Stop CycleReport × Scanning World :=
  match s.scopes cluster resource with
  | (.error stop, s) => (.error stop, s)
  | (.ok (scopes, count), s) =>
    match KindScan.takeScopes cluster engine resource s.scheduler.config.pageSize steps scopes
        { caches := s.scheduler.caches, world := s.world } with
    | (some stop, scan) =>
      (.error stop,
        { scheduler := { s.scheduler with caches := scan.caches }, world := scan.world })
    | (none, scan) =>
      let report := { report with namespaces := count.getD report.namespaces }
      let (report, s) := s.finishKind engine resource scan report
      (.ok report, s)

/-- Scans one type after the other, up to the first that stops. -/
def scanKinds (cluster : Cluster World) (engine : Engine World) (steps : Nat) :
    List ResourceType → CycleReport → Scanning World →
    Except Stop CycleReport × Scanning World
  | [], report, s => (.ok report, s)
  | resource :: rest, report, s =>
    match s.scanKind cluster engine steps resource report with
    | (.error stop, s) => (.error stop, s)
    | (.ok report, s) => scanKinds cluster engine steps rest report s

/-- Drops the cache of one kind that is served no more. -/
def dropKind (engine : Engine World) (key : ResourceKey) (cache : Cache)
    (s : CycleReport × Scanning World) : CycleReport × Scanning World :=
  let (report, s) := s
  ({ report with deleted := report.deleted + cache.size },
    { scheduler :=
        { s.scheduler with
          metrics := (s.scheduler.metrics.addDeleted key.display
            cache.size.toUInt64).removeCached key.display }
      world := engine.deleteAll (labelsOf cache.toList) s.world })

/-- Drops the caches of all kinds that are not among those scanned. -/
def dropVanished (engine : Engine World) (resources : List ResourceType) (report : CycleReport)
    (s : Scanning World) : CycleReport × Scanning World :=
  let live := resources.map (·.key)
  let vanished := s.scheduler.caches.vanished live
  let kept := { s with
    scheduler := { s.scheduler with caches := s.scheduler.caches.retain live } }
  vanished.foldl (fun s (key, cache) => dropKind engine key cache s) (report, kept)

/-- One attempt at a cycle; each listing may take `steps` pages. -/
def runCycle (cluster : Cluster World) (engine : Engine World) (steps : Nat)
    (s : Scanning World) : Except Stop CycleReport × Scanning World :=
  let s := s.dropStaleCaches engine
  match Discovery.run cluster engine s.world with
  | (.error stop, world) => (.error stop, { s with world })
  | (.ok resources, world) =>
    let s : Scanning World :=
      { scheduler := { s.scheduler with namespaces := s.scheduler.namespaces.reset }, world }
    match s.scanKinds cluster engine steps resources { resourceTypes := resources.length } with
    | (.error stop, s) => (.error stop, s)
    | (.ok report, s) =>
      let (report, s) := s.dropVanished engine resources report
      (.ok report, s)

end Scanning

end ComplianceScanner
