import ComplianceScanner.Cache.Set
import ComplianceScanner.Cluster.Paging
import ComplianceScanner.Engine.Basic
import ComplianceScanner.Schedule.Report

/-!
The objects of one type, page by page: those that have changed since they were validated, or never
were, go to the engine, and what it says is kept.
-/

namespace ComplianceScanner

/-- The scan of one page, with the cache of its kind at hand. -/
structure PageScan (World : Type) where
  cache : Cache
  observed : Identities
  tally : Tally
  world : World

namespace PageScan

variable {World : Type}

/-- Has the engine judge an object that is due, which the cache no longer holds. Where the engine
fails nothing is kept, so the series from before must go too. -/
def validate (engine : Engine World) (view : ObjectView) (identity : Identity)
    (scan : PageScan World) : PageScan World :=
  match engine.validate view scan.world with
  | (.ok outcome, world) =>
    { scan with
      cache := scan.cache.store identity (.ofView view outcome)
      tally := scan.tally.validate
      world }
  | (.error _, world) =>
    { scan with
      tally := scan.tally.fail
      world := engine.deleteMetrics view.labels world }

/-- Takes up one listed object. -/
def take (engine : Engine World) (view : ObjectView) (scan : PageScan World) : PageScan World :=
  let seen := { scan with tally := scan.tally.see }
  match view.identity? with
  | none => seen
  | some identity =>
    let known := { seen with observed := seen.observed.insert identity }
    match known.cache.needsValidation identity view.resourceVersion with
    | (false, _) => { known with tally := known.tally.hit }
    | (true, cache) => { known with cache }.validate engine view identity

end PageScan

/-- The scan of one kind: all caches, and what has been listed of the kind so far. -/
structure KindScan (World : Type) where
  caches : CacheSet
  observed : Identities := ∅
  tally : Tally := {}
  world : World

namespace KindScan

variable {World : Type}

def takePage (engine : Engine World) (resource : ResourceType) (namespaceUid : String)
    (items : List Object) (scan : KindScan World) : KindScan World :=
  let done := items.foldl
    (fun page object => page.take engine ⟨resource, object, namespaceUid⟩)
    (⟨scan.caches.cacheFor resource, scan.observed, scan.tally, scan.world⟩ : PageScan World)
  { caches := scan.caches.put resource.key done.cache
    observed := done.observed
    tally := done.tally
    world := done.world }

/-- Takes up page after page of a listing, at most `steps` times. -/
def takeListing (cluster : Cluster World) (engine : Engine World) (listing : Listing)
    (namespaceUid : String) : Nat → Paging → KindScan World → Option Stop × KindScan World
  | 0, _, scan => (some .outOfSteps, scan)
  | steps + 1, paging, scan =>
    match paging.pull cluster listing scan.world with
    | (.ended, _, world) => (none, { scan with world })
    | (.failed error, _, world) => (some (.failed error), { scan with world })
    | (.cutOff, _, world) => (some .cutOff, { scan with world })
    | (.page items, paging, world) =>
      takeListing cluster engine listing namespaceUid steps paging
        ({ scan with world }.takePage engine listing.resource namespaceUid items)

/-- Lists in one scope after the other, up to the first that stops. A scope is a namespace with its
uid, or the whole cluster. -/
def takeScopes (cluster : Cluster World) (engine : Engine World) (resource : ResourceType)
    (pageSize steps : Nat) : List (Option String × String) → KindScan World →
    Option Stop × KindScan World
  | [], scan => (none, scan)
  | (namespaceName, namespaceUid) :: scopes, scan =>
    match takeListing cluster engine ⟨resource, namespaceName, pageSize⟩ namespaceUid steps
        .start scan with
    | (some stop, scan) => (some stop, scan)
    | (none, scan) => takeScopes cluster engine resource pageSize steps scopes scan

end KindScan

end ComplianceScanner
