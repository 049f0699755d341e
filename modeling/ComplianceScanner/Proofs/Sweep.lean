import ComplianceScanner.Proofs.Course
import ComplianceScanner.Proofs.Oblivious
import Mathlib.Algebra.GroupWithZero.Nat
import Std.Data.String.ToNat

/-!
# Scans of what a cluster holds

A cluster that fails no call and shows its objects from an offset on leaves nothing open: an attempt
comes through, and its end follows from what the cluster holds. Pages, tokens and calls are gone then.
What is left is one pass over the objects of each kind, laid down here as `Holdings.sweep`.
-/

namespace ComplianceScanner

variable {Client Judge : Type}

/-- What a cluster holds: the types it serves, its namespaces, and the objects of each scope. -/
structure Holdings where
  served : List ResourceType
  namespaces : List Namespace
  objects : ResourceType → Option String → List Object

/-- The page shows the objects from an offset on, at most so many. If there are more it has the token
of the place where they begin, and else none or an empty one. -/
structure ObjectPage.Shows (page : ObjectPage) (objects : List Object) (limit offset : Nat)
    (place : String → Nat) : Prop where
  items : page.items = (objects.drop offset).take limit
  more : offset + limit < objects.length →
    ∃ token, page.next = some token ∧ token ≠ "" ∧ place token = offset + limit
  last : objects.length ≤ offset + limit → ∀ token, page.next = some token → token = ""

/-- As long as this holds of the client, every call is answered, by what the cluster holds. -/
structure Cluster.Serves (cluster : Cluster Client) (held : Holdings) (place : String → Nat)
    (fine : Client → Prop) : Prop where
  discover : ∀ client, fine client →
    (cluster.discover client).1 = .value held.served ∧ fine (cluster.discover client).2
  namespaces : ∀ client, fine client →
    (cluster.namespaces client).1 = .value held.namespaces ∧ fine (cluster.namespaces client).2
  list : ∀ client resource scope limit token, fine client →
    ∃ page, (cluster.list resource scope limit token client).1 = .value page ∧
      page.Shows (held.objects resource scope) limit (token.elim 0 place) place ∧
      fine (cluster.list resource scope limit token client).2

/-! ### The engine beside a cluster -/

def PageScan.beside (client : Client) (scan : PageScan Judge) : PageScan (Client × Judge) :=
  ⟨scan.cache, scan.observed, scan.tally, (client, scan.world)⟩

theorem PageScan.take_beside (engine : Engine Judge) (view : ObjectView) (client : Client)
    (scan : PageScan Judge) :
    (scan.beside client).take engine.beside view = (scan.take engine view).beside client := by
  unfold take
  cases view.identity? with
  | none => rfl
  | some identity =>
      simp only [beside]
      cases scan.cache.needsValidation identity view.resourceVersion with
      | mk due cache =>
          cases due with
          | false => rfl
          | true =>
              have hjudged : engine.beside.validate view (client, scan.world) =
                  ((engine.validate view scan.world).1,
                    (client, (engine.validate view scan.world).2)) := rfl
              simp only [validate, hjudged]
              cases engine.validate view scan.world with
              | mk result judge => cases result <;> rfl

theorem Engine.deleteAll_beside (engine : Engine Judge) (labels : List ObjectLabels)
    (world : Client × Judge) :
    engine.beside.deleteAll labels world = (world.1, engine.deleteAll labels world.2) := by
  induction labels generalizing world with
  | nil => rfl
  | cons first labels ih => exact ih (engine.beside.deleteMetrics first world)

/-- The types to scan are those of the ones served that the engine has checks for. -/
theorem Cluster.Serves.exists_run {cluster : Cluster Client} {held : Holdings}
    {place : String → Nat} {fine : Client → Prop} (hserves : cluster.Serves held place fine)
    (engine : Engine Judge) {world : Client × Judge} (hfine : fine world.1) :
    ∃ client, Discovery.run cluster.beside engine.beside world =
        (.ok (Discovery.select (engine.supports world.2) held.served), (client, world.2)) ∧
      fine client := by
  obtain ⟨hserved, hfine'⟩ := hserves.discover world.1 hfine
  refine ⟨_, ?_, hfine'⟩
  have hanswer : cluster.beside.discover world =
      (.value held.served, ((cluster.discover world.1).2, world.2)) := Prod.ext hserved rfl
  simp only [Discovery.run, hanswer]
  rfl

/-! ### One pass over the objects of a kind -/

namespace PageScan

variable (engine : Engine Judge)

def takeAll (views : List ObjectView) (scan : PageScan Judge) : PageScan Judge :=
  views.foldl (fun scan view => scan.take engine view) scan

theorem takeAll_append (views views' : List ObjectView) (scan : PageScan Judge) :
    scan.takeAll engine (views ++ views') = (scan.takeAll engine views).takeAll engine views' :=
  List.foldl_append

theorem version_takeAll (views : List ObjectView) (scan : PageScan Judge) :
    (scan.takeAll engine views).cache.version = scan.cache.version := by
  induction views generalizing scan with
  | nil => rfl
  | cons view views ih => exact (ih _).trans (version_take engine view scan)

theorem takeAll_beside (views : List ObjectView) (client : Client) (scan : PageScan Judge) :
    (scan.beside client).takeAll engine.beside views =
      (scan.takeAll engine views).beside client := by
  induction views generalizing scan with
  | nil => rfl
  | cons view views ih =>
      rw [takeAll, List.foldl_cons, take_beside]
      exact ih _

end PageScan

/-- The objects of one listing, in their order. -/
def viewsOf (resource : ResourceType) (namespaceUid : String) (objects : List Object) :
    List ObjectView :=
  objects.map fun object => ⟨resource, object, namespaceUid⟩

namespace KindScan

/-- The scan has come to where one pass from these caches on has. -/
structure Reaches (resource : ResourceType) (caches : CacheSet) (page : PageScan Judge)
    (scan : KindScan (Client × Judge)) : Prop where
  cacheFor : scan.caches.cacheFor resource = page.cache
  put : ∀ cache, scan.caches.put resource.key cache = caches.put resource.key cache
  observed : scan.observed = page.observed
  tally : scan.tally = page.tally
  judge : scan.world.2 = page.world

variable {cluster : Cluster Client} {held : Holdings} {place : String → Nat}
  {fine : Client → Prop} {resource : ResourceType} {caches : CacheSet} {page : PageScan Judge}
  {scan : KindScan (Client × Judge)}

theorem Reaches.takePage (hreaches : scan.Reaches resource caches page) (engine : Engine Judge)
    (namespaceUid : String) (items : List Object) :
    let taken := scan.takePage engine.beside resource namespaceUid items
    taken.Reaches resource caches (page.takeAll engine (viewsOf resource namespaceUid items)) ∧
      taken.world.1 = scan.world.1 := by
  have hstart : (⟨scan.caches.cacheFor resource, scan.observed, scan.tally, scan.world⟩ :
      PageScan (Client × Judge)) = page.beside scan.world.1 := by
    rw [PageScan.beside, hreaches.cacheFor, hreaches.observed, hreaches.tally, ← hreaches.judge]
  have htaken : items.foldl
        (fun page object => page.take engine.beside ⟨resource, object, namespaceUid⟩)
        (page.beside scan.world.1) =
      (page.takeAll engine (viewsOf resource namespaceUid items)).beside scan.world.1 := by
    rw [← PageScan.takeAll_beside, PageScan.takeAll, viewsOf, List.foldl_map]
  have hversion : (page.takeAll engine (viewsOf resource namespaceUid items)).cache.version =
      resource.version := by
    rw [PageScan.version_takeAll, ← hreaches.cacheFor]
    exact CacheSet.version_cacheFor _ _
  unfold KindScan.takePage
  rw [hstart, htaken]
  refine ⟨⟨CacheSet.cacheFor_put _ hversion, fun cache => ?_, rfl, rfl, rfl⟩, rfl⟩
  rw [CacheSet.put_put]
  exact hreaches.put cache

theorem Reaches.withClient (hreaches : scan.Reaches resource caches page) (client : Client) :
    Reaches resource caches page { scan with world := (client, scan.world.2) } :=
  ⟨hreaches.cacheFor, hreaches.put, hreaches.observed, hreaches.tally, hreaches.judge⟩

theorem after_of_more {shown : ObjectPage} {objects : List Object} {limit offset : Nat}
    (hshows : shown.Shows objects limit offset place) (hmore : offset + limit < objects.length) :
    ∃ token, Paging.after shown = .due (some token) ∧ place token = offset + limit := by
  obtain ⟨token, hnext, hne, hplace⟩ := hshows.more hmore
  exact ⟨token, by simp [Paging.after, hnext, hne], hplace⟩

theorem after_of_last {shown : ObjectPage} {objects : List Object} {limit offset : Nat}
    (hshows : shown.Shows objects limit offset place) (hlast : objects.length ≤ offset + limit) :
    Paging.after shown = .finished := by
  unfold Paging.after
  cases hnext : shown.next with
  | none => rfl
  | some token => exact if_pos (hshows.last hlast token hnext)

theorem takeListing_finished (cluster : Cluster (Client × Judge)) (engine : Engine (Client × Judge))
    (listing : Listing) (namespaceUid : String) {steps : Nat} (hsteps : 1 ≤ steps) :
    takeListing cluster engine listing namespaceUid steps .finished scan = (none, scan) := by
  obtain ⟨steps, rfl⟩ := Nat.exists_eq_add_of_le' hsteps
  rfl

variable (hserves : cluster.Serves held place fine)
include hserves

/-- What is pulled from a cluster that serves: the objects that come next, and where the rest begins. -/
theorem exists_pull (listing : Listing) (token : Option String) {world : Client × Judge}
    (hfine : fine world.1) :
    ∃ page client, (Paging.due token).pull cluster.beside listing world =
        (.page page.items, .after page, (client, world.2)) ∧
      page.Shows (held.objects listing.resource listing.namespaceName) listing.limit
        (token.elim 0 place) place ∧ fine client := by
  obtain ⟨page, hpage, hshows, hfine'⟩ := hserves.list world.1 listing.resource
    listing.namespaceName listing.limit token hfine
  refine ⟨page, _, ?_, hshows, hfine'⟩
  have hanswer : cluster.beside.list listing.resource listing.namespaceName listing.limit token world
      = (.value page, ((cluster.list listing.resource listing.namespaceName listing.limit token
          world.1).2, world.2)) := Prod.ext hpage rfl
  simp only [Paging.pull, hanswer]

/-- A listing comes to its end when all objects from its place on have been taken up. -/
theorem exists_takeListing (engine : Engine Judge) (listing : Listing)
    (hlimit : 1 ≤ listing.limit) (hresource : listing.resource = resource)
    (namespaceUid : String) (steps : Nat) (token : Option String)
    (hsteps : (held.objects resource listing.namespaceName).length - token.elim 0 place + 2 ≤ steps)
    (hfine : fine scan.world.1) (hreaches : scan.Reaches resource caches page) :
    let rest := (held.objects resource listing.namespaceName).drop (token.elim 0 place)
    ∃ taken, takeListing cluster.beside engine.beside listing namespaceUid steps (.due token) scan =
        (none, taken) ∧
      taken.Reaches resource caches (page.takeAll engine (viewsOf resource namespaceUid rest)) ∧
      fine taken.world.1 := by
  subst hresource
  -- Each step takes up the head of the rest, and its token stands for where the tail begins.
  induction steps generalizing token scan page with
  | zero => omega
  | succ steps ih =>
      obtain ⟨shown, client, hpull, hshows, hfine'⟩ :=
        exists_pull hserves listing token hfine
      obtain ⟨hreached, hclient⟩ :=
        (hreaches.withClient client).takePage engine namespaceUid shown.items
      rw [← show _ = client from hclient] at hfine'
      simp only [takeListing, hpull]
      by_cases hmore : token.elim 0 place + listing.limit <
          (held.objects listing.resource listing.namespaceName).length
      · obtain ⟨next, hafter, hplace⟩ := after_of_more hshows hmore
        have hleft : (held.objects listing.resource listing.namespaceName).length -
            (some next).elim 0 place + 2 ≤ steps := by
          rw [Option.elim_some, hplace]
          omega
        obtain ⟨taken, htaken, hreached', hend⟩ := ih (some next) hfine' hleft hreached
        refine ⟨taken, hafter ▸ htaken, ?_, hend⟩
        rw [Option.elim_some, hplace, ← PageScan.takeAll_append, viewsOf, viewsOf,
          ← List.map_append, hshows.items, ← List.drop_drop, List.take_append_drop] at hreached'
        exact hreached'
      · have hlast := Nat.le_of_not_lt hmore
        have hitems : shown.items = (held.objects listing.resource listing.namespaceName).drop
            (token.elim 0 place) := by
          rw [hshows.items, List.take_of_length_le]
          rw [List.length_drop]
          omega
        refine ⟨_, ?_, hitems ▸ hreached, hfine'⟩
        rw [after_of_last hshows hlast, takeListing_finished _ _ _ _ (by omega)]

theorem exists_takeScopes (engine : Engine Judge) {pageSize steps : Nat} (hlimit : 1 ≤ pageSize)
    (scopes : List (Option String × String))
    (hsteps : ∀ scope ∈ scopes, (held.objects resource scope.1).length + 2 ≤ steps)
    (hfine : fine scan.world.1) (hreaches : scan.Reaches resource caches page) :
    let views := scopes.flatMap fun scope =>
      viewsOf resource scope.2 (held.objects resource scope.1)
    ∃ taken, takeScopes cluster.beside engine.beside resource pageSize steps scopes scan =
        (none, taken) ∧
      taken.Reaches resource caches (page.takeAll engine views) ∧ fine taken.world.1 := by
  induction scopes generalizing scan page with
  | nil => exact ⟨scan, rfl, hreaches, hfine⟩
  | cons scope scopes ih =>
      obtain ⟨namespaceName, namespaceUid⟩ := scope
      obtain ⟨hfirst, hrest⟩ := List.forall_mem_cons.mp hsteps
      obtain ⟨taken, htaken, hreached, hfine'⟩ := exists_takeListing hserves engine
        ⟨resource, namespaceName, pageSize⟩ hlimit rfl namespaceUid steps none hfirst hfine hreaches
      obtain ⟨all, hall, hreached', hend⟩ := ih hrest hfine' hreached
      refine ⟨all, ?_, ?_, hend⟩
      · rw [takeScopes]
        simp only [Paging.start, htaken, hall]
      · rw [← PageScan.takeAll_append] at hreached'
        exact hreached'

end KindScan

/-! ### The objects without their pages -/

theorem sublist_flatMap_of_mem {α β : Type} (f : α → List β) {a : α} {l : List α} (ha : a ∈ l) :
    (f a).Sublist (l.flatMap f) := by
  rw [List.flatMap_def]
  exact List.sublist_flatten_of_mem (List.mem_map_of_mem ha)

/-- The objects of a type in all its scopes. -/
def Holdings.views (held : Holdings) (ignored : String → Bool) (resource : ResourceType) :
    List ObjectView :=
  (Survey.scopesOf ignored resource (some held.namespaces)).flatMap fun scope =>
    viewsOf resource scope.2 (held.objects resource scope.1)

/-- All objects that are listed, kind after kind. -/
def Holdings.listed (held : Holdings) (ignored : String → Bool)
    (supports : String → String → Bool) : List ObjectView :=
  (Discovery.select supports held.served).flatMap (held.views ignored)

/-- What an attempt has come to so far. -/
structure Sweep (Judge : Type) where
  report : CycleReport
  caches : CacheSet
  judge : Judge

namespace Sweep

variable (engine : Engine Judge)

/-- One pass over the objects of a type, after which the other objects of its kind are dropped. -/
def kind (ignored : String → Bool) (held : Holdings) (sweep : Sweep Judge)
    (resource : ResourceType) : Sweep Judge :=
  let scan := PageScan.takeAll engine (held.views ignored resource)
    ⟨sweep.caches.cacheFor resource, ∅, {}, sweep.judge⟩
  let gone := scan.cache.unobserved scan.observed
  let namespaces :=
    if resource.namespaced then (Survey.kept ignored held.namespaces).length
    else sweep.report.namespaces
  { report := { sweep.report with namespaces }.add scan.tally gone.length
    caches := sweep.caches.put resource.key (scan.cache.keepObserved scan.observed)
    judge := engine.deleteAll (labelsOf gone) scan.world }

/-- Drops the kinds that are not among these. -/
def retire (live : List ResourceKey) (sweep : Sweep Judge) : Sweep Judge :=
  let vanished := sweep.caches.vanished live
  { report :=
      { sweep.report with
        deleted := sweep.report.deleted + (vanished.map fun (_, cache) => cache.size).sum }
    caches := sweep.caches.retain live
    judge := engine.deleteAll (labelsOfAll vanished) sweep.judge }

/-- Where an attempt begins: with nothing to report, and nothing in the caches if they are stale. -/
def start (generation : UInt64) (caches : CacheSet) (judge : Judge) : Sweep Judge :=
  if engine.generation judge = generation then ⟨{}, caches, judge⟩
  else ⟨{}, {}, engine.deleteAll (labelsOfAll caches.toList) judge⟩

end Sweep

/-- An attempt on these holdings, without any calls. -/
def Holdings.sweep (held : Holdings) (engine : Engine Judge) (ignored : String → Bool)
    (start : Sweep Judge) : Sweep Judge :=
  let resources := Discovery.select (engine.supports start.judge) held.served
  (resources.foldl (Sweep.kind engine ignored held)
    { start with report := { resourceTypes := resources.length } }).retire engine
      (resources.map (·.key))

namespace Scanning

variable {cluster : Cluster Client} {held : Holdings} {place : String → Nat}
  {fine : Client → Prop} {resource : ResourceType} {s : Scanning (Client × Judge)} {steps : Nat}

def swept (s : Scanning (Client × Judge)) (report : CycleReport) : Sweep Judge :=
  ⟨report, s.scheduler.caches, s.world.2⟩

/-- The scanner is in touch with a cluster that serves, and knows no other namespaces than those. -/
structure InTouch (held : Holdings) (fine : Client → Prop) (s : Scanning (Client × Judge)) :
    Prop where
  fine : fine s.world.1
  knows : s.Knows none ∨ s.Knows (some held.namespaces)

variable (hserves : cluster.Serves held place fine)
include hserves

theorem scopes_of_inTouch (htouch : s.InTouch held fine) (resource : ResourceType) :
    let ignored := s.scheduler.namespaces.isIgnored
    let count :=
      if resource.namespaced then some (Survey.kept ignored held.namespaces).length else none
    ∃ between, s.scopes cluster.beside resource =
        (.ok (Survey.scopesOf ignored resource (some held.namespaces), count), between) ∧
      between.InTouch held fine ∧ between.scheduler.caches = s.scheduler.caches ∧
      between.world.2 = s.world.2 := by
  obtain ⟨hfine, hknows⟩ := htouch
  unfold scopes Survey.scopesOf
  cases hscope : resource.namespaced with
  | false => exact ⟨s, by simp, ⟨hfine, hknows⟩, rfl, rfl⟩
  | true =>
      simp only [if_true]
      rcases hknows with hnone | hknown
      · have hsnapshot : s.scheduler.namespaces.snapshot = none := hnone
        obtain ⟨hlisted, hfine'⟩ := hserves.namespaces s.world.1 hfine
        have hanswer : cluster.beside.namespaces s.world =
            (.value held.namespaces, ((cluster.namespaces s.world.1).2, s.world.2)) :=
          Prod.ext hlisted rfl
        simp only [NamespaceResolver.resolve, hsnapshot, hanswer]
        exact ⟨_, rfl, ⟨hfine', .inr rfl⟩, rfl, rfl⟩
      · have hsnapshot : s.scheduler.namespaces.snapshot = some _ := hknown
        simp only [NamespaceResolver.resolve, hsnapshot]
        exact ⟨_, rfl, ⟨hfine, .inr hknown⟩, rfl, rfl⟩

omit hserves in
/-- What a finished scan leaves behind is what one pass leaves behind. -/
theorem swept_finishKind (engine : Engine Judge) (s : Scanning (Client × Judge))
    (report : CycleReport) {scan : KindScan (Client × Judge)} {caches : CacheSet}
    {page : PageScan Judge} (hreaches : scan.Reaches resource caches page) :
    let gone := page.cache.unobserved page.observed
    let finished := s.finishKind engine.beside resource scan report
    finished.2.swept finished.1 =
        ⟨report.add page.tally gone.length,
          caches.put resource.key (page.cache.keepObserved page.observed),
          engine.deleteAll (labelsOf gone) page.world⟩ ∧
      finished.2.world.1 = scan.world.1 ∧
      finished.2.scheduler.namespaces = s.scheduler.namespaces := by
  intro gone finished
  have hgone : (scan.caches.cacheFor resource).unobserved scan.observed = gone := by
    rw [hreaches.cacheFor, hreaches.observed]
  have hworld : finished.2.world =
      (scan.world.1, engine.deleteAll (labelsOf gone) page.world) := by
    change engine.beside.deleteAll _ scan.world = _
    rw [hgone, Engine.deleteAll_beside, hreaches.judge]
  refine ⟨?_, by rw [hworld], rfl⟩
  rw [swept, hworld]
  simp only [Sweep.mk.injEq, and_true]
  constructor
  · change report.add scan.tally ((scan.caches.cacheFor resource).unobserved
      scan.observed).length = _
    rw [hgone, hreaches.tally]
  · change scan.caches.put resource.key
      ((scan.caches.cacheFor resource).keepObserved scan.observed) = _
    rw [hreaches.cacheFor, hreaches.observed, hreaches.put]

theorem exists_scanKind (engine : Engine Judge) (report : CycleReport)
    (htouch : s.InTouch held fine) (hlimit : 1 ≤ s.scheduler.config.pageSize)
    (hsteps : (held.views s.scheduler.namespaces.isIgnored resource).length + 2 ≤ steps) :
    ∃ report' s', s.scanKind cluster.beside engine.beside steps resource report =
        (.ok report', s') ∧
      s'.swept report' =
        (s.swept report).kind engine s.scheduler.namespaces.isIgnored held resource ∧
      s'.InTouch held fine := by
  obtain ⟨between, hscopes, ⟨hfine, hknows⟩, hcaches, hjudge⟩ :=
    scopes_of_inTouch hserves htouch resource
  have hconfig : between.scheduler.config = s.scheduler.config := by
    have hsettings := (s.scopes_untouched cluster.beside resource).settings
    rw [hscopes] at hsettings
    exact hsettings.config
  have hstart : KindScan.Reaches resource s.scheduler.caches
      ⟨s.scheduler.caches.cacheFor resource, ∅, {}, s.world.2⟩
      { caches := between.scheduler.caches, world := between.world } := by
    rw [← hcaches, ← hjudge]
    exact ⟨rfl, fun _ => rfl, rfl, rfl, rfl⟩
  have hfits : ∀ scope ∈ Survey.scopesOf s.scheduler.namespaces.isIgnored resource
      (some held.namespaces), (held.objects resource scope.1).length + 2 ≤ steps := by
    intro scope hscope
    have hpart := (sublist_flatMap_of_mem (fun scope => viewsOf resource scope.2
      (held.objects resource scope.1)) hscope).length_le
    rw [viewsOf, List.length_map] at hpart
    exact Nat.le_trans (Nat.add_le_add_right hpart 2) hsteps
  obtain ⟨scan, hscan, hreaches, hfine'⟩ := KindScan.exists_takeScopes hserves engine
    hlimit _ hfits hfine hstart
  let counted := { report with
    namespaces := (if resource.namespaced then
      some (Survey.kept s.scheduler.namespaces.isIgnored held.namespaces).length
      else none).getD report.namespaces }
  let finished := between.finishKind engine.beside resource scan counted
  obtain ⟨hswept, hclient, hnamespaces⟩ := between.swept_finishKind engine counted hreaches
  refine ⟨finished.1, finished.2, ?_, ?_, ?_, ?_⟩
  · rw [scanKind, hscopes]
    simp only [hconfig, hscan]
    rfl
  · have hnumber : counted.namespaces = if resource.namespaced then
        (Survey.kept s.scheduler.namespaces.isIgnored held.namespaces).length
        else report.namespaces := by
      cases hscope : resource.namespaced <;> simp [counted, hscope]
    rw [hswept, Sweep.kind]
    simp only [swept, ← hnumber]
    rfl
  · rw [hclient]
    exact hfine'
  · unfold Knows at hknows ⊢
    rw [hnamespaces]
    exact hknows

theorem exists_scanKinds (engine : Engine Judge) (resources : List ResourceType)
    (report : CycleReport) (htouch : s.InTouch held fine)
    (hlimit : 1 ≤ s.scheduler.config.pageSize)
    (hsteps : ∀ resource ∈ resources,
      (held.views s.scheduler.namespaces.isIgnored resource).length + 2 ≤ steps) :
    ∃ report' s', s.scanKinds cluster.beside engine.beside steps resources report =
        (.ok report', s') ∧
      s'.swept report' =
        resources.foldl (Sweep.kind engine s.scheduler.namespaces.isIgnored held)
          (s.swept report) := by
  induction resources generalizing s report with
  | nil => exact ⟨report, s, rfl, rfl⟩
  | cons resource rest ih =>
      obtain ⟨hfirst, hrest⟩ := List.forall_mem_cons.mp hsteps
      obtain ⟨between, t, hscan, hswept, htouch'⟩ :=
        exists_scanKind hserves engine report htouch hlimit hfirst
      have hsettings : t.scheduler.SameSettings s.scheduler := by
        have huntouched := s.scanKind_untouched cluster.beside engine.beside steps resource report
        rw [hscan] at huntouched
        exact huntouched.settings
      rw [← hsettings.isIgnored_eq] at hrest hswept ⊢
      rw [← hsettings.config] at hlimit
      obtain ⟨report', s', hkinds, hend⟩ := ih between htouch' hlimit hrest
      refine ⟨report', s', ?_, ?_⟩
      · rw [scanKinds]
        simp only [hscan, hkinds]
      · rw [hend, hswept, List.foldl_cons]

omit hserves in
theorem swept_foldl_dropKind (engine : Engine Judge) (caches : List (ResourceKey × Cache))
    (report : CycleReport) (s : Scanning (Client × Judge)) :
    let dropped := caches.foldl (fun s (key, cache) => dropKind engine.beside key cache s) (report, s)
    dropped.2.swept dropped.1 =
      ⟨{ report with
          deleted := report.deleted + (caches.map fun (_, cache) => cache.size).sum },
        s.scheduler.caches, engine.deleteAll (labelsOfAll caches) s.world.2⟩ := by
  induction caches generalizing report s with
  | nil => rfl
  | cons item caches ih =>
      intro dropped
      refine (ih _ _).trans ?_
      simp only [Engine.deleteAll_beside, labelsOfAll, List.flatMap_cons,
        Engine.deleteAll_append, List.map_cons, List.sum_cons, Nat.add_assoc]

omit hserves in
theorem swept_dropVanished (engine : Engine Judge) (resources : List ResourceType)
    (report : CycleReport) (s : Scanning (Client × Judge)) :
    let dropped := s.dropVanished engine.beside resources report
    dropped.2.swept dropped.1 = (s.swept report).retire engine (resources.map (·.key)) :=
  swept_foldl_dropKind engine _ report _

omit hserves in
theorem swept_dropStaleCaches (engine : Engine Judge) (s : Scanning (Client × Judge)) :
    (s.dropStaleCaches engine.beside).swept {} =
        Sweep.start engine s.scheduler.generation s.scheduler.caches s.world.2 ∧
      (s.dropStaleCaches engine.beside).world.1 = s.world.1 := by
  have hgeneration : engine.beside.generation s.world = engine.generation s.world.2 := rfl
  unfold dropStaleCaches Sweep.start
  simp only [hgeneration]
  split
  · exact ⟨rfl, rfl⟩
  · rw [swept, Engine.deleteAll_beside]
    exact ⟨rfl, rfl⟩

/-- An attempt on a cluster that serves comes through, and ends as the same attempt without calls. -/
theorem runCycle_eq_sweep (engine : Engine Judge) (s : Scanning (Client × Judge))
    (hfine : fine s.world.1) (hlimit : 1 ≤ s.scheduler.config.pageSize)
    (hsteps : (held.listed s.scheduler.namespaces.isIgnored (engine.supports
      (Sweep.start engine s.scheduler.generation s.scheduler.caches s.world.2).judge)).length + 2 ≤
        steps) :
    ∃ report s', s.runCycle cluster.beside engine.beside steps = (.ok report, s') ∧
      s'.swept report = held.sweep engine s.scheduler.namespaces.isIgnored
        (Sweep.start engine s.scheduler.generation s.scheduler.caches s.world.2) := by
  obtain ⟨hstart, hclient⟩ := s.swept_dropStaleCaches engine
  have hsettings := (s.dropStaleCaches_untouched engine.beside).settings
  have hjudge := congrArg Sweep.judge hstart
  have hcaches := congrArg Sweep.caches hstart
  generalize Sweep.start engine s.scheduler.generation s.scheduler.caches s.world.2 = start
    at hstart hsteps hjudge hcaches ⊢
  let resources := Discovery.select (engine.supports start.judge) held.served
  rw [← hclient] at hfine
  obtain ⟨client, hrun, hfine'⟩ := hserves.exists_run engine hfine
  change (s.dropStaleCaches engine.beside).world.2 = start.judge at hjudge
  rw [hjudge] at hrun
  let begun := (s.dropStaleCaches engine.beside).begun (client, start.judge)
  have htouch : begun.InTouch held fine := ⟨hfine', .inl rfl⟩
  have hignored : begun.scheduler.namespaces.isIgnored = s.scheduler.namespaces.isIgnored :=
    hsettings.isIgnored_eq
  have hsize : begun.scheduler.config.pageSize = s.scheduler.config.pageSize :=
    congrArg ScannerConfig.pageSize hsettings.config
  have hfits : ∀ resource ∈ resources,
      (held.views begun.scheduler.namespaces.isIgnored resource).length + 2 ≤ steps := by
    intro resource hresource
    rw [hignored]
    have hpart := (sublist_flatMap_of_mem (held.views s.scheduler.namespaces.isIgnored)
      hresource).length_le
    exact Nat.le_trans (Nat.add_le_add_right hpart 2) hsteps
  obtain ⟨between, t, hkinds, hswept⟩ := exists_scanKinds hserves engine resources
    { resourceTypes := resources.length } htouch (hsize ▸ hlimit) hfits
  refine ⟨(t.dropVanished engine.beside resources between).1,
    (t.dropVanished engine.beside resources between).2, ?_, ?_⟩
  · rw [runCycle_of_run steps hrun]
    simp only [begun] at hkinds
    rw [hkinds]
  · have hbegun : begun.swept { resourceTypes := resources.length } =
        { start with report := { resourceTypes := resources.length } } := by
      rw [← hcaches]
      rfl
    rw [swept_dropVanished, hswept, hbegun, hignored]
    rfl

end Scanning

/-! ### A script without failures -/

namespace ScriptedCluster

def holdings (cluster : ScriptedCluster) : Holdings where
  served := cluster.resources
  namespaces := cluster.namespaces
  objects resource namespaceName := cluster.objectsIn ⟨resource.display, namespaceName⟩

/-- No call is to fail or to be cut off. -/
structure IsReliable (cluster : ScriptedCluster) : Prop where
  plans : ∀ kind, cluster.plans kind = []
  cutOff : cluster.cutOff = none

/-- The offset that a token stands for. -/
def place (token : String) : Nat := token.toNat?.getD 0

theorem page_shows (cluster : ScriptedCluster) (resource : ResourceType)
    (namespaceName : Option String) (limit : Nat) (token : Option String) :
    (cluster.page ⟨resource.display, namespaceName⟩ limit token).Shows
      (cluster.holdings.objects resource namespaceName) limit (token.elim 0 place) place := by
  have hstart : (token.bind String.toNat?).getD 0 = token.elim 0 place := by
    cases token <;> rfl
  have hlength : ∀ start, (((cluster.objectsIn ⟨resource.display, namespaceName⟩).drop
      start).length = (cluster.objectsIn ⟨resource.display, namespaceName⟩).length - start) :=
    fun start => List.length_drop
  constructor
  · simp only [page, hstart]
    rfl
  · intro hmore
    change _ < (cluster.objectsIn ⟨resource.display, namespaceName⟩).length at hmore
    have htoken : (toString (token.elim 0 place + limit)).toNat? =
        some (token.elim 0 place + limit) := Nat.toNat?_repr _
    refine ⟨toString (token.elim 0 place + limit), ?_, ?_, ?_⟩
    · simp only [page, hstart, hlength]
      exact if_pos (by omega)
    · exact Nat.repr_ne_empty
    · rw [place, htoken]
      rfl
  · intro hlast token'
    change (cluster.objectsIn ⟨resource.display, namespaceName⟩).length ≤ _ at hlast
    simp only [page, hstart, hlength]
    rw [if_neg (by omega)]
    split <;> simp +contextual

theorem answer_of_isReliable {α : Type} {cluster : ScriptedCluster}
    (hreliable : cluster.IsReliable) (kind : CallKind) (value : α) :
    cluster.answer kind value = (.value value, cluster) := by
  have hcounted : { cluster with
      cutOff := cluster.cutOff.map fun (other, before) =>
        (other, if other = kind then before - 1 else before) } = cluster := by
    rw [hreliable.cutOff]
    exact congrArg (fun cutOff => { cluster with cutOff }) hreliable.cutOff.symm
  unfold answer
  rw [if_neg (by simp [hreliable.cutOff])]
  simp only [hcounted, hreliable.plans]

/-- A script without failures serves what it holds, however long its listings take. -/
theorem serves (cluster : ScriptedCluster) :
    asCluster.Serves cluster.holdings place
      fun other => other.IsReliable ∧ other.holdings = cluster.holdings where
  discover other hother := by
    have hanswer := answer_of_isReliable hother.1 .discover other.resources
    exact ⟨hother.2 ▸ congrArg Prod.fst hanswer, (congrArg Prod.snd hanswer).symm ▸ hother⟩
  namespaces other hother := by
    have hanswer := answer_of_isReliable hother.1 .namespaces other.namespaces
    exact ⟨hother.2 ▸ congrArg Prod.fst hanswer, (congrArg Prod.snd hanswer).symm ▸ hother⟩
  list other resource namespaceName limit token hother := by
    obtain ⟨hreliable, hholdings⟩ := hother
    have hwaited : (other.wait other.listDelay).IsReliable := ⟨hreliable.plans, hreliable.cutOff⟩
    have hanswer := answer_of_isReliable hwaited .list
      (other.page ⟨resource.display, namespaceName⟩ limit token)
    refine ⟨_, congrArg Prod.fst hanswer, ?_, (congrArg Prod.snd hanswer).symm ▸ ⟨hwaited, ?_⟩⟩
    · rw [← hholdings]
      exact other.page_shows resource namespaceName limit token
    · exact hholdings

end ScriptedCluster

end ComplianceScanner
