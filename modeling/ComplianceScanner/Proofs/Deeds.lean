import ComplianceScanner.Proofs.Entries
import ComplianceScanner.Schedule.Cycle

/-!
# An attempt as a list of deeds

An attempt at a cycle is a loop over types, scopes, pages and objects that may stop at any call. For
statements about every moment of it the loops are in the way, so here it is laid out as the list of
the deeds it does, in their order. `runCycle_moment` says that doing these one after the other leads
to where the attempt leads.
-/

namespace ComplianceScanner

/-- What an attempt works on: the caches, the generation that their outcomes come from, and the
world with cluster and engine. -/
structure Moment (World : Type) where
  generation : UInt64
  caches : CacheSet
  world : World

/-- What an attempt does at one go. -/
inductive Deed where
  | renew
  | ask (call : Cluster.Call)
  | adopt (resource : ResourceType)
  | take (view : ObjectView)
  | finish (resource : ResourceType) (observed : Identities)
  | retire (live : List ResourceKey)

def Deed.view? : Deed → Option ObjectView
  | take view => some view
  | _ => none

theorem Deed.eq_take {deed : Deed} {view : ObjectView} (hview : deed.view? = some view) :
    deed = .take view := by
  cases deed with
  | take taken => exact congrArg Deed.take (Option.some.inj hview)
  | _ => cases hview

variable {World : Type}

/-- The world after a call, whatever the answer. -/
def Cluster.after (cluster : Cluster World) (call : Call) (world : World) : World :=
  match call with
  | .discover => (cluster.discover world).2
  | .namespaces => (cluster.namespaces world).2
  | .list resource namespaceName limit token =>
    (cluster.list resource namespaceName limit token world).2

def labelsOfAll (caches : List (ResourceKey × Cache)) : List ObjectLabels :=
  caches.flatMap fun (_, cache) => labelsOf cache.toList

def Scanning.moment (s : Scanning World) : Moment World :=
  ⟨s.scheduler.generation, s.scheduler.caches, s.world⟩

def KindScan.moment (scan : KindScan World) (generation : UInt64) : Moment World :=
  ⟨generation, scan.caches, scan.world⟩

namespace Moment

/-- The scan that an object of the view's type meets. -/
def page (m : Moment World) (view : ObjectView) : PageScan World :=
  ⟨m.caches.cacheFor view.resource, ∅, {}, m.world⟩

def apply (cluster : Cluster World) (engine : Engine World) (m : Moment World) :
    Deed → Moment World
  | .renew =>
    if engine.generation m.world = m.generation then m
    else
      { generation := engine.generation m.world
        caches := {}
        world := engine.deleteAll (labelsOfAll m.caches.toList) m.world }
  | .ask call => { m with world := cluster.after call m.world }
  | .adopt resource =>
    { m with caches := m.caches.put resource.key (m.caches.cacheFor resource) }
  | .take view =>
    let done := (m.page view).take engine view
    { m with caches := m.caches.put view.resource.key done.cache, world := done.world }
  | .finish resource observed =>
    let cache := m.caches.cacheFor resource
    { m with
      caches := m.caches.put resource.key (cache.keepObserved observed)
      world := engine.deleteAll (labelsOf (cache.unobserved observed)) m.world }
  | .retire live =>
    { m with
      caches := m.caches.retain live
      world := engine.deleteAll (labelsOfAll (m.caches.vanished live)) m.world }

def applyAll (cluster : Cluster World) (engine : Engine World) (m : Moment World)
    (deeds : List Deed) : Moment World :=
  deeds.foldl (apply cluster engine) m

end Moment

/-! ### The deeds of an attempt -/

def pageDeeds (resource : ResourceType) (namespaceUid : String) (items : List Object) :
    List Deed :=
  .adopt resource :: items.map fun object => .take ⟨resource, object, namespaceUid⟩

namespace KindScan

def listingDeeds (cluster : Cluster World) (engine : Engine World) (listing : Listing)
    (namespaceUid : String) : Nat → Paging → KindScan World → List Deed
  | 0, _, _ => []
  | _ + 1, .finished, _ => []
  | steps + 1, .due token, scan =>
    .ask (.list listing.resource listing.namespaceName listing.limit token) ::
      match (Paging.due token).pull cluster listing scan.world with
      | (.page items, paging, world) =>
        pageDeeds listing.resource namespaceUid items ++
          listingDeeds cluster engine listing namespaceUid steps paging
            ({ scan with world }.takePage engine listing.resource namespaceUid items)
      | _ => []

def scopesDeeds (cluster : Cluster World) (engine : Engine World) (resource : ResourceType)
    (pageSize steps : Nat) : List (Option String × String) → KindScan World → List Deed
  | [], _ => []
  | (namespaceName, namespaceUid) :: scopes, scan =>
    listingDeeds cluster engine ⟨resource, namespaceName, pageSize⟩ namespaceUid steps .start
        scan ++
      match takeListing cluster engine ⟨resource, namespaceName, pageSize⟩ namespaceUid steps
          .start scan with
      | (some _, _) => []
      | (none, scan) => scopesDeeds cluster engine resource pageSize steps scopes scan

end KindScan

namespace Scanning

/-- The namespaces are asked for where a type needs them and they are not known. -/
def scopeDeeds (resource : ResourceType) (s : Scanning World) : List Deed :=
  if resource.namespaced && s.scheduler.namespaces.snapshot.isNone then [.ask .namespaces] else []

def kindDeeds (cluster : Cluster World) (engine : Engine World) (steps : Nat)
    (resource : ResourceType) (s : Scanning World) : List Deed :=
  s.scopeDeeds resource ++
    match s.scopes cluster resource with
    | (.error _, _) => []
    | (.ok (scopes, _), s) =>
      let scan : KindScan World := { caches := s.scheduler.caches, world := s.world }
      KindScan.scopesDeeds cluster engine resource s.scheduler.config.pageSize steps scopes scan ++
        match KindScan.takeScopes cluster engine resource s.scheduler.config.pageSize steps scopes
            scan with
        | (some _, _) => []
        | (none, scan) => [.finish resource scan.observed]

def kindsDeeds (cluster : Cluster World) (engine : Engine World) (steps : Nat) :
    List ResourceType → CycleReport → Scanning World → List Deed
  | [], _, _ => []
  | resource :: rest, report, s =>
    s.kindDeeds cluster engine steps resource ++
      match s.scanKind cluster engine steps resource report with
      | (.error _, _) => []
      | (.ok report, s) => kindsDeeds cluster engine steps rest report s

/-- The scanner once it knows the types to scan. -/
def begun (s : Scanning World) (world : World) : Scanning World :=
  { scheduler := { s.scheduler with namespaces := s.scheduler.namespaces.reset }, world }

/-- What an attempt does, up to where it stops. -/
def deeds (cluster : Cluster World) (engine : Engine World) (steps : Nat) (s : Scanning World) :
    List Deed :=
  let s := s.dropStaleCaches engine
  .renew :: .ask .discover ::
    match Discovery.run cluster engine s.world with
    | (.error _, _) => []
    | (.ok resources, world) =>
      let report : CycleReport := { resourceTypes := resources.length }
      (s.begun world).kindsDeeds cluster engine steps resources report ++
        match (s.begun world).scanKinds cluster engine steps resources report with
        | (.error _, _) => []
        | (.ok _, _) => [.retire (resources.map (·.key))]

end Scanning

/-! ### The deeds lead where the attempt leads -/

theorem CacheSet.put_put (set : CacheSet) (key : ResourceKey) (cache cache' : Cache) :
    (set.put key cache).put key cache' = set.put key cache' := by
  simp only [put, CacheSet.mk.injEq]
  ext other : 1
  simp only [Std.ExtTreeMap.getElem?_insert]
  split <;> rfl

theorem CacheSet.cacheFor_put (set : CacheSet) {resource : ResourceType} {cache : Cache}
    (hversion : cache.version = resource.version) :
    (set.put resource.key cache).cacheFor resource = cache := by
  rw [cacheFor, get?_put, if_pos rfl, Option.getD_some, Cache.adopt, if_pos hversion]

namespace PageScan

/-- What becomes of cache and world does not hang on what has been observed and counted. -/
theorem take_mk (engine : Engine World) (view : ObjectView) (cache : Cache)
    (observed : Identities) (tally : Tally) (world : World) :
    (take engine view ⟨cache, observed, tally, world⟩).cache =
        (take engine view ⟨cache, ∅, {}, world⟩).cache ∧
      (take engine view ⟨cache, observed, tally, world⟩).world =
        (take engine view ⟨cache, ∅, {}, world⟩).world := by
  unfold take
  cases view.identity? with
  | none => exact ⟨rfl, rfl⟩
  | some identity =>
      simp only
      cases cache.needsValidation identity view.resourceVersion with
      | mk due cache =>
          cases due with
          | false => exact ⟨rfl, rfl⟩
          | true =>
              simp only [validate]
              split <;> exact ⟨rfl, rfl⟩

@[simp]
theorem version_take (engine : Engine World) (view : ObjectView) (scan : PageScan World) :
    (scan.take engine view).cache.version = scan.cache.version := by
  unfold take
  cases view.identity? with
  | none => rfl
  | some identity =>
      simp only [Cache.needsValidation]
      split
      · rename_i cache hcache
        split at hcache <;> cases hcache
        rfl
      · rename_i cache hcache
        simp only [validate]
        split at hcache <;> cases hcache
        split <;> rfl

theorem observed_take (engine : Engine World) (view : ObjectView) (scan : PageScan World) :
    (scan.take engine view).observed =
      match view.identity? with
      | none => scan.observed
      | some identity => scan.observed.insert identity := by
  unfold take
  cases view.identity? with
  | none => rfl
  | some identity =>
      simp only
      split
      · rfl
      · unfold validate
        split <;> rfl

end PageScan

namespace Moment

variable (cluster : Cluster World) (engine : Engine World)

@[simp]
theorem applyAll_nil (m : Moment World) : m.applyAll cluster engine [] = m := rfl

@[simp]
theorem applyAll_cons (m : Moment World) (deed : Deed) (deeds : List Deed) :
    m.applyAll cluster engine (deed :: deeds) =
      (m.apply cluster engine deed).applyAll cluster engine deeds := rfl

@[simp]
theorem applyAll_append (m : Moment World) (deeds deeds' : List Deed) :
    m.applyAll cluster engine (deeds ++ deeds') =
      (m.applyAll cluster engine deeds).applyAll cluster engine deeds' :=
  List.foldl_append

theorem apply_take_put (generation : UInt64) (caches : CacheSet) (view : ObjectView)
    (scan : PageScan World) (hversion : scan.cache.version = view.resource.version) :
    (⟨generation, caches.put view.resource.key scan.cache, scan.world⟩ : Moment World).apply
        cluster engine (.take view) =
      ⟨generation, caches.put view.resource.key (scan.take engine view).cache,
        (scan.take engine view).world⟩ := by
  obtain ⟨cache, observed, tally, world⟩ := scan
  obtain ⟨hcache, hworld⟩ := PageScan.take_mk engine view cache observed tally world
  simp only [apply, page, CacheSet.cacheFor_put caches hversion, CacheSet.put_put, hcache, hworld]

theorem applyAll_takes (generation : UInt64) (caches : CacheSet) (resource : ResourceType)
    (namespaceUid : String) (items : List Object) (scan : PageScan World)
    (hversion : scan.cache.version = resource.version) :
    let done := items.foldl
      (fun page object => page.take engine ⟨resource, object, namespaceUid⟩) scan
    (⟨generation, caches.put resource.key scan.cache, scan.world⟩ : Moment World).applyAll cluster
        engine (items.map fun object => .take ⟨resource, object, namespaceUid⟩) =
      ⟨generation, caches.put resource.key done.cache, done.world⟩ := by
  induction items generalizing scan with
  | nil => rfl
  | cons object items ih =>
      rw [List.map_cons, applyAll_cons,
        apply_take_put cluster engine generation caches ⟨resource, object, namespaceUid⟩ scan
          hversion]
      exact ih _ ((PageScan.version_take _ _ _).trans hversion)

end Moment

namespace KindScan

variable (cluster : Cluster World) (engine : Engine World)

theorem takePage_moment (resource : ResourceType) (namespaceUid : String) (items : List Object)
    (scan : KindScan World) (generation : UInt64) :
    (scan.takePage engine resource namespaceUid items).moment generation =
      (scan.moment generation).applyAll cluster engine (pageDeeds resource namespaceUid items) := by
  rw [pageDeeds, Moment.applyAll_cons]
  exact (Moment.applyAll_takes cluster engine generation scan.caches resource namespaceUid items
    ⟨scan.caches.cacheFor resource, scan.observed, scan.tally, scan.world⟩
    (CacheSet.version_cacheFor _ _)).symm

theorem takeListing_moment (listing : Listing) (namespaceUid : String) (steps : Nat)
    (paging : Paging) (scan : KindScan World) (generation : UInt64) :
    (takeListing cluster engine listing namespaceUid steps paging scan).2.moment generation =
      (scan.moment generation).applyAll cluster engine
        (listingDeeds cluster engine listing namespaceUid steps paging scan) := by
  induction steps generalizing paging scan with
  | zero => rfl
  | succ steps ih =>
      cases paging with
      | finished => rfl
      | due token =>
          rw [takeListing, listingDeeds, Paging.pull, Moment.applyAll_cons]
          have hask : (scan.moment generation).apply cluster engine
              (.ask (.list listing.resource listing.namespaceName listing.limit token)) =
              ({ scan with world := (cluster.list listing.resource listing.namespaceName
                listing.limit token scan.world).2 } : KindScan World).moment generation := rfl
          rw [hask]
          cases cluster.list listing.resource listing.namespaceName listing.limit token
            scan.world with
          | mk answer world =>
              cases answer with
              | value page =>
                  simp only [Moment.applyAll_append]
                  rw [ih, takePage_moment cluster]
              | failed cause => rfl
              | cutOff => rfl

theorem takeScopes_moment (resource : ResourceType) (pageSize steps : Nat)
    (scopes : List (Option String × String)) (scan : KindScan World) (generation : UInt64) :
    (takeScopes cluster engine resource pageSize steps scopes scan).2.moment generation =
      (scan.moment generation).applyAll cluster engine
        (scopesDeeds cluster engine resource pageSize steps scopes scan) := by
  induction scopes generalizing scan with
  | nil => rfl
  | cons scope scopes ih =>
      obtain ⟨namespaceName, namespaceUid⟩ := scope
      rw [takeScopes, scopesDeeds, Moment.applyAll_append, ← takeListing_moment]
      split
      · rename_i stop scan' hlisting
        rw [hlisting]
        rfl
      · rename_i scan' hlisting
        rw [hlisting]
        exact ih scan'

end KindScan

theorem Engine.deleteAll_append (engine : Engine World) (labels labels' : List ObjectLabels)
    (world : World) :
    engine.deleteAll (labels ++ labels') world =
      engine.deleteAll labels' (engine.deleteAll labels world) :=
  List.foldl_append

namespace Scanning

variable (cluster : Cluster World) (engine : Engine World)

theorem dropStaleCaches_moment (s : Scanning World) :
    (s.dropStaleCaches engine).moment = s.moment.apply cluster engine .renew := by
  unfold dropStaleCaches Moment.apply moment
  simp only
  split <;> rfl

theorem scopes_moment (resource : ResourceType) (s : Scanning World) :
    (s.scopes cluster resource).2.moment =
      s.moment.applyAll cluster engine (s.scopeDeeds resource) := by
  unfold scopes scopeDeeds NamespaceResolver.resolve
  cases resource.namespaced with
  | false => rfl
  | true =>
      cases hsnapshot : s.scheduler.namespaces.snapshot with
      | some kept => simp [moment]
      | none =>
          cases hanswer : cluster.namespaces s.world with
          | mk answer world =>
              cases answer <;> simp [moment, Moment.apply, Cluster.after, hanswer]

theorem scanKind_moment (steps : Nat) (resource : ResourceType) (report : CycleReport)
    (s : Scanning World) :
    (s.scanKind cluster engine steps resource report).2.moment =
      s.moment.applyAll cluster engine (s.kindDeeds cluster engine steps resource) := by
  rw [scanKind, kindDeeds, Moment.applyAll_append, ← scopes_moment]
  cases hscopes : s.scopes cluster resource with
  | mk result s =>
      cases result with
      | error stop => rfl
      | ok listed =>
          obtain ⟨scopes, count⟩ := listed
          have htake := KindScan.takeScopes_moment cluster engine resource
            s.scheduler.config.pageSize steps scopes
            { caches := s.scheduler.caches, world := s.world } s.scheduler.generation
          simp only [Moment.applyAll_append]
          change _ = (Moment.applyAll cluster engine
            (KindScan.moment ⟨s.scheduler.caches, ∅, {}, s.world⟩ s.scheduler.generation)
            _).applyAll cluster engine _
          rw [← htake]
          split
          · rename_i stop scan hscan
            rw [hscan]
            rfl
          · rename_i scan hscan
            rw [hscan]
            rfl

theorem scanKinds_moment (steps : Nat) (resources : List ResourceType) (report : CycleReport)
    (s : Scanning World) :
    (s.scanKinds cluster engine steps resources report).2.moment =
      s.moment.applyAll cluster engine (s.kindsDeeds cluster engine steps resources report) := by
  induction resources generalizing report s with
  | nil => rfl
  | cons resource rest ih =>
      rw [scanKinds, kindsDeeds, Moment.applyAll_append,
        ← scanKind_moment cluster engine steps resource report]
      split
      · rename_i stop s' hscan
        rw [hscan]
        rfl
      · rename_i report' s' hscan
        rw [hscan]
        exact ih report' s'

theorem foldl_dropKind_moment (caches : List (ResourceKey × Cache)) (report : CycleReport)
    (s : Scanning World) :
    (caches.foldl (fun s (key, cache) => dropKind engine key cache s) (report, s)).2.moment =
      { s.moment with world := engine.deleteAll (labelsOfAll caches) s.world } := by
  induction caches generalizing report s with
  | nil => rfl
  | cons item caches ih =>
      rw [List.foldl_cons]
      refine (ih _ _).trans ?_
      simp only [labelsOfAll, List.flatMap_cons, Engine.deleteAll_append]
      rfl

theorem dropVanished_moment (resources : List ResourceType) (report : CycleReport)
    (s : Scanning World) :
    (dropVanished engine resources report s).2.moment =
      s.moment.apply cluster engine (.retire (resources.map (·.key))) :=
  foldl_dropKind_moment engine _ report _

theorem begun_moment (s : Scanning World) :
    (s.begun (Discovery.run cluster engine s.world).2).moment =
      s.moment.apply cluster engine (.ask .discover) := by
  unfold Discovery.run
  cases hanswer : cluster.discover s.world with
  | mk answer world =>
      cases answer <;> simp [Moment.apply, Cluster.after, moment, begun, hanswer]

/-- Doing the deeds of an attempt one after the other leads to where the attempt leads. -/
theorem runCycle_moment (steps : Nat) (s : Scanning World) :
    (s.runCycle cluster engine steps).2.moment =
      s.moment.applyAll cluster engine (s.deeds cluster engine steps) := by
  rw [runCycle, deeds, Moment.applyAll_cons, ← dropStaleCaches_moment, Moment.applyAll_cons]
  simp only [← begun_moment]
  cases Discovery.run cluster engine (s.dropStaleCaches engine).world with
  | mk result world =>
      cases result with
      | error stop => rfl
      | ok resources =>
          simp only [Moment.applyAll_append]
          rw [← scanKinds_moment]
          change (match ((s.dropStaleCaches engine).begun world).scanKinds cluster engine steps
              resources { resourceTypes := resources.length } with
            | (.error stop, s) => (.error stop, s)
            | (.ok report, s) => _ : Except Stop CycleReport × Scanning World).2.moment = _
          split
          · rename_i stop s' hscan
            rw [hscan]
            rfl
          · rename_i report s' hscan
            rw [hscan]
            exact dropVanished_moment cluster engine resources report s'

end Scanning

end ComplianceScanner
