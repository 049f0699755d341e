import ComplianceScanner.Proofs.Judged
import ComplianceScanner.Proofs.Sweep
import Mathlib.Data.List.Pairwise
import Mathlib.Data.List.Perm.Basic

/-!
# Rearranged listings

A cluster may list what it holds in any order and in pages of any size. No attempt depends on it: the
types are sorted before they are scanned, and taking up one object of a kind does not touch what
becomes of another, neither its entry nor its series.
-/

namespace ComplianceScanner

/-! ### What becomes of an object -/

/-- What becomes of an object with a name when it is taken up. -/
inductive Fate where
  | known
  | judged (outcome : Outcome)
  | failed

namespace Fate

def of (isDue : Bool) (verdict : Except ScanError Outcome) : Fate :=
  match isDue, verdict with
  | false, _ => known
  | true, .ok outcome => judged outcome
  | true, .error _ => failed

variable (view : ObjectView) (identity : Identity)

def onEntry : Fate → Option CacheEntry → Option CacheEntry
  | known, entry => entry
  | judged outcome, _ => some (.ofView view outcome)
  | failed, _ => none

def onCache : Fate → Cache → Cache
  | known, cache => cache
  | judged outcome, cache => (cache.remove identity).store identity (.ofView view outcome)
  | failed, cache => cache.remove identity

def onTally : Fate → Tally → Tally
  | known, tally => tally.hit
  | judged _, tally => tally.validate
  | failed, tally => tally.fail

def onEngine : Fate → CheckEngine → CheckEngine
  | known, engine => engine
  | judged _, engine => (engine.validate view).2
  | failed, engine => (engine.validate view).2.deleteMetrics view.labels

theorem version_onCache (fate : Fate) (cache : Cache) :
    (fate.onCache view identity cache).version = cache.version := by
  cases fate <;> rfl

theorem get?_onCache (fate : Fate) (cache : Cache) (other : Identity) :
    (fate.onCache view identity cache).get? other =
      if identity = other then fate.onEntry view (cache.get? other) else cache.get? other := by
  cases fate with
  | known => simp [onCache, onEntry]
  | judged outcome => simp only [onCache, onEntry, Cache.get?_store, Cache.get?_remove]; grind
  | failed => exact Cache.get?_remove cache identity other

variable {view identity} {view' : ObjectView} {identity' : Identity}

theorem onCache_comm (hne : identity ≠ identity') (fate fate' : Fate) (cache : Cache) :
    fate.onCache view identity (fate'.onCache view' identity' cache) =
      fate'.onCache view' identity' (fate.onCache view identity cache) := by
  apply Cache.eq_of_forall_get?_eq
  · simp only [version_onCache]
  · intro other
    simp only [get?_onCache]
    by_cases hother : identity = other
    · have hother' : identity' ≠ other := fun heq => hne (hother.trans heq.symm)
      simp only [if_pos hother, if_neg hother']
    · simp only [if_neg hother]

theorem onTally_comm (fate fate' : Fate) (tally : Tally) :
    (fate.onTally (fate'.onTally tally.see).see) = fate'.onTally (fate.onTally tally.see).see := by
  cases fate <;> cases fate' <;> rfl

theorem confinedTo_onEngine (view : ObjectView) (fate : Fate) :
    CheckEngine.ConfinedTo view.labels (fate.onEngine view) := by
  cases fate with
  | known => exact ⟨fun _ => rfl, fun _ => rfl, fun _ _ _ => rfl, fun _ _ _ _ hget => hget⟩
  | judged outcome => exact CheckEngine.confinedTo_validate view
  | failed =>
      exact (CheckEngine.confinedTo_deleteMetrics view.labels).comp
        (CheckEngine.confinedTo_validate view)

end Fate

namespace PageScan

/-- The object meets its fate. -/
def meet (view : ObjectView) (identity : Identity) (fate : Fate) (scan : PageScan CheckEngine) :
    PageScan CheckEngine :=
  ⟨fate.onCache view identity scan.cache, scan.observed.insert identity,
    fate.onTally scan.tally.see, fate.onEngine view scan.world⟩

/-- The fate of an object follows from its own entry and from the enabled checks. -/
def fateOf (view : ObjectView) (identity : Identity) (scan : PageScan CheckEngine) : Fate :=
  .of (scan.cache.isDue identity view.resourceVersion)
    (CheckEngine.verdict scan.world.enabled view)

theorem take_eq_meet {view : ObjectView} {identity : Identity}
    (hidentity : view.identity? = some identity) (scan : PageScan CheckEngine) :
    scan.take CheckEngine.asEngine view = scan.meet view identity (scan.fateOf view identity) := by
  unfold fateOf
  -- An object that is not due is not judged, so its fate does not ask for the verdict.
  cases hdue : scan.cache.isDue identity view.resourceVersion with
  | false => exact take_of_isDue_eq_false CheckEngine.asEngine scan hidentity hdue
  | true =>
      have hjudge : CheckEngine.asEngine.validate view scan.world = scan.world.validate view := rfl
      rw [take_of_isDue CheckEngine.asEngine scan hidentity hdue, validate,
        ← CheckEngine.validate_fst, meet]
      simp only [hjudge]
      cases hjudged : scan.world.validate view with
      | mk result judged =>
          cases result with
          | ok outcome =>
              simp only [Fate.of, Fate.onCache, Fate.onTally, Fate.onEngine, hjudged]
          | error error =>
              simp only [Fate.of, Fate.onCache, Fate.onTally, Fate.onEngine, hjudged]
              rfl

/-- Two objects with names of their own do not touch each other's fates. -/
theorem fateOf_meet {view view' : ObjectView} {identity identity' : Identity}
    (hne : identity ≠ identity') (fate : Fate) (scan : PageScan CheckEngine) :
    (scan.meet view identity fate).fateOf view' identity' = scan.fateOf view' identity' := by
  have hget : (fate.onCache view identity scan.cache).get? identity' =
      scan.cache.get? identity' := by
    rw [Fate.get?_onCache, if_neg hne]
  have henabled := (Fate.confinedTo_onEngine view fate).enabled scan.world
  simp only [fateOf, meet, Cache.isDue, hget, henabled]

theorem meet_comm {view view' : ObjectView} {identity identity' : Identity}
    (hne : identity ≠ identity') (hlabels : view.labels ≠ view'.labels) (fate fate' : Fate)
    (scan : PageScan CheckEngine) :
    (scan.meet view identity fate).meet view' identity' fate' =
      (scan.meet view' identity' fate').meet view identity fate := by
  have hobserved : (scan.observed.insert identity).insert identity' =
      (scan.observed.insert identity').insert identity := by
    refine Std.ExtTreeSet.ext_mem fun other => ?_
    simp only [Std.ExtTreeSet.mem_insert]
    exact or_left_comm
  simp only [meet, hobserved, PageScan.mk.injEq, true_and]
  exact ⟨(Fate.onCache_comm hne fate fate' scan.cache).symm,
    (Fate.onTally_comm fate fate' scan.tally).symm,
    ((Fate.confinedTo_onEngine view fate).comm (Fate.confinedTo_onEngine view' fate') hlabels
      scan.world).symm⟩

theorem take_see (view : ObjectView) (scan : PageScan CheckEngine) :
    let taken := scan.take CheckEngine.asEngine view
    PageScan.take CheckEngine.asEngine view { scan with tally := scan.tally.see } =
      { taken with tally := taken.tally.see } := by
  cases hidentity : view.identity? with
  | none => simp only [take_of_identity?_eq_none _ _ hidentity]
  | some identity =>
      simp only [take_eq_meet hidentity]
      change meet view identity (scan.fateOf view identity) _ = _
      cases scan.fateOf view identity <;> rfl

end PageScan

/-- Among the objects of a type the labels tell apart what the identities tell apart. -/
theorem ObjectView.labels_ne {a b : ObjectView} (hresource : a.resource = b.resource)
    {identity identity' : Identity} (ha : a.identity? = some identity)
    (hb : b.identity? = some identity') (hne : identity ≠ identity') : a.labels ≠ b.labels := by
  unfold identity? at ha hb
  obtain ⟨name, hname, rfl⟩ := Option.map_eq_some_iff.mp ha
  obtain ⟨name', hname', rfl⟩ := Option.map_eq_some_iff.mp hb
  intro hlabels
  simp only [labels, hname, hname', Option.getD_some, ObjectLabels.mk.injEq] at hlabels
  obtain ⟨-, hnamespace, -, rfl, -⟩ := hlabels
  exact hne (by rw [hresource, hnamespace])

namespace PageScan

theorem take_comm {a b : ObjectView} (hresource : a.resource = b.resource)
    (hne : ∀ identity, a.identity? = some identity → b.identity? ≠ some identity)
    (scan : PageScan CheckEngine) :
    (scan.take CheckEngine.asEngine a).take CheckEngine.asEngine b =
      (scan.take CheckEngine.asEngine b).take CheckEngine.asEngine a := by
  cases ha : a.identity? with
  | none =>
      -- An object without a name is seen, and nothing else is done about it.
      rw [take_of_identity?_eq_none _ _ ha, take_of_identity?_eq_none _ _ ha]
      exact take_see b scan
  | some identity =>
      cases hb : b.identity? with
      | none =>
          rw [take_of_identity?_eq_none _ _ hb, take_of_identity?_eq_none _ _ hb]
          exact (take_see a scan).symm
      | some identity' =>
          have hidentity : identity ≠ identity' := by
            rintro rfl
            exact hne identity ha hb
          have hlabels := ObjectView.labels_ne hresource ha hb hidentity
          simp only [take_eq_meet ha, take_eq_meet hb, fateOf_meet hidentity,
            fateOf_meet hidentity.symm]
          exact meet_comm hidentity hlabels _ _ scan

/-- Objects of one type, each with a name of its own if it has one, may be taken up in any order. -/
theorem takeAll_perm {views views' : List ObjectView} (hperm : views.Perm views')
    {resource : ResourceType} (hresource : ∀ view ∈ views, view.resource = resource)
    (hnodup : (views.filterMap (·.identity?)).Nodup) (scan : PageScan CheckEngine) :
    scan.takeAll CheckEngine.asEngine views = scan.takeAll CheckEngine.asEngine views' := by
  have hdistinct : views.Pairwise fun a b =>
      ∀ identity, a.identity? = some identity → b.identity? ≠ some identity := by
    refine (List.pairwise_filterMap.mp hnodup).imp fun hne identity ha hb => ?_
    exact hne identity ha identity hb rfl
  have : Std.Symm fun a b : ObjectView =>
      ∀ identity, a.identity? = some identity → b.identity? ≠ some identity :=
    ⟨fun _ _ hne identity hb ha => hne identity ha hb⟩
  refine hperm.foldl_eq' ?_ scan
  intro a ha b hb between
  by_cases heq : a = b
  · rw [heq]
  · exact take_comm ((hresource a ha).trans (hresource b hb).symm)
      (hdistinct.forall ha hb heq) between

end PageScan

/-! ### Sorted types -/

namespace ResourceType

theorem eq_of_compare {a b : ResourceType} (hcompare : compare a b = .eq) : a = b := by
  obtain ⟨hfields, hscope⟩ := compareLex_eq_eq.mp hcompare
  have hfields : a.fields = b.fields := Std.LawfulEqOrd.eq_of_compare hfields
  have hscope : a.namespaced = b.namespaced := Std.LawfulEqOrd.eq_of_compare hscope
  obtain ⟨_, _, _, _, _⟩ := a
  obtain ⟨_, _, _, _, _⟩ := b
  simp_all [fields]

end ResourceType

namespace Discovery

theorem firstOfKind_of_nodup {resources : List ResourceType}
    (hnodup : (resources.map (·.key)).Nodup) : firstOfKind resources = resources := by
  induction resources with
  | nil => rfl
  | cons resource rest ih =>
      obtain ⟨hfirst, hrest⟩ := List.nodup_cons.mp hnodup
      rw [firstOfKind, ih hrest, List.filter_eq_self.mpr]
      intro other hother
      exact decide_eq_true fun heq => hfirst (List.mem_map.mpr ⟨other, hother, heq⟩)

/-- With one type for each kind, the types to scan do not depend on how they are served. -/
theorem select_perm (supports : String → String → Bool) {served served' : List ResourceType}
    (hperm : served.Perm served') (hnodup : (served.map (·.key)).Nodup) :
    select supports served = select supports served' := by
  have hselected : ∀ {served : List ResourceType}, (served.map (·.key)).Nodup →
      (select supports served).Perm (served.filter fun resource =>
        isTopLevel resource && supports resource.group resource.kind) := by
    intro served hnodup
    refine (List.mergeSort_perm _ _).trans ?_
    rw [firstOfKind_of_nodup (hnodup.sublist (List.filter_sublist.map _))]
  have hnodup' := (hperm.map (·.key)).nodup_iff.mp hnodup
  refine List.Perm.eq_of_pairwise ?_ (pairwise_select supports served)
    (pairwise_select supports served') ?_
  · intro a b _ _ hle hge
    exact ResourceType.eq_of_compare (Std.OrientedCmp.isLE_antisymm hle hge)
  · exact (hselected hnodup).trans ((hperm.filter _).trans (hselected hnodup').symm)

end Discovery

/-! ### Attempts on rearranged holdings -/

namespace Holdings

variable {held held' : Holdings} {ignored : String → Bool}

/-- The same lists, with what they hold in any order. -/
structure Rearranges (held held' : Holdings) : Prop where
  served : held.served.Perm held'.served
  namespaces : held.namespaces.Perm held'.namespaces
  objects : ∀ resource scope, (held.objects resource scope).Perm (held'.objects resource scope)

/-- One type is served for each kind, and no two objects that are listed share a name. -/
structure Unambiguous (held : Holdings) (ignored : String → Bool)
    (supports : String → String → Bool) : Prop where
  served : (held.served.map (·.key)).Nodup
  named : ((held.listed ignored supports).filterMap (·.identity?)).Nodup

theorem Rearranges.views_perm (hrearranges : held.Rearranges held') (ignored : String → Bool)
    (resource : ResourceType) :
    (held.views ignored resource).Perm (held'.views ignored resource) := by
  refine List.Perm.flatMap ?_ fun scope _ => (hrearranges.objects resource scope.1).map _
  unfold Survey.scopesOf
  split
  · exact (hrearranges.namespaces.filter _).map _
  · exact .refl _

theorem resource_of_mem_views {resource : ResourceType} {view : ObjectView}
    (hview : view ∈ held.views ignored resource) : view.resource = resource := by
  obtain ⟨scope, -, hscope⟩ := List.mem_flatMap.mp hview
  obtain ⟨object, -, rfl⟩ := List.mem_map.mp hscope
  rfl

theorem Rearranges.kind_eq (hrearranges : held.Rearranges held') {resource : ResourceType}
    (hnodup : ((held.views ignored resource).filterMap (·.identity?)).Nodup)
    (sweep : Sweep CheckEngine) :
    sweep.kind CheckEngine.asEngine ignored held resource =
      sweep.kind CheckEngine.asEngine ignored held' resource := by
  have hscan := PageScan.takeAll_perm (hrearranges.views_perm ignored resource)
    (fun _ hview => resource_of_mem_views hview) hnodup
    ⟨sweep.caches.cacheFor resource, ∅, {}, sweep.judge⟩
  have hcount : (Survey.kept ignored held.namespaces).length =
      (Survey.kept ignored held'.namespaces).length :=
    (hrearranges.namespaces.filter _).length_eq
  simp only [Sweep.kind, hscan, hcount]

variable {supports : String → String → Bool}

theorem Rearranges.listed_perm (hrearranges : held.Rearranges held')
    (hserved : (held.served.map (·.key)).Nodup) :
    (held.listed ignored supports).Perm (held'.listed ignored supports) := by
  rw [listed, listed, Discovery.select_perm supports hrearranges.served hserved]
  exact List.Perm.flatMap (.refl _) fun resource _ => hrearranges.views_perm ignored resource

theorem Rearranges.sweep_eq (hrearranges : held.Rearranges held') (start : Sweep CheckEngine)
    (hheld : held.Unambiguous ignored (CheckEngine.asEngine.supports start.judge)) :
    held.sweep CheckEngine.asEngine ignored start =
      held'.sweep CheckEngine.asEngine ignored start := by
  rw [sweep, sweep, ← Discovery.select_perm _ hrearranges.served hheld.served]
  refine congrArg _ (List.foldl_ext _ _ _ fun between resource hresource => ?_)
  have hpart := sublist_flatMap_of_mem (held.views ignored) hresource
  exact hrearranges.kind_eq (hheld.named.sublist (hpart.filterMap _)) between

end Holdings

theorem CheckEngine.keeps_enabled : CheckEngine.asEngine.Keeps CheckEngine.enabled where
  validate view engine := validate_enabled engine view
  deleteMetrics _ _ := rfl

theorem supports_start (generation : UInt64) (caches : CacheSet) (judge : CheckEngine) :
    CheckEngine.asEngine.supports
        (Sweep.start CheckEngine.asEngine generation caches judge).judge = judge.supports := by
  have henabled : (Sweep.start CheckEngine.asEngine generation caches judge).judge.enabled =
      judge.enabled := by
    unfold Sweep.start
    split
    · rfl
    · exact CheckEngine.keeps_enabled.deleteAll _ judge
  funext group kind
  change CheckEngine.supports _ group kind = judge.supports group kind
  rw [CheckEngine.supports, CheckEngine.supports, henabled]

/-- An attempt with this page size, on a cluster that stands beside the engine of the checks. -/
def Scheduler.attempt {Client : Type} (scheduler : Scheduler) (pageSize : Nat)
    (cluster : Cluster Client) (steps : Nat) (client : Client) (judge : CheckEngine) :
    Except Stop CycleReport × Scanning (Client × CheckEngine) :=
  Scanning.runCycle cluster.beside CheckEngine.asEngine.beside steps
    { scheduler := { scheduler with config := { scheduler.config with pageSize } }
      world := (client, judge) }

/-- Two clusters that fail no call hold the same lists, or such as are the same up to their order while
each kind has one type and each listed object that has a name has one of its own. Then attempts on
them, with pages of whatever sizes, come through with the same report, the same caches and the same
series. -/
theorem Scheduler.attempt_rearranged {Client Client' : Type} {cluster : Cluster Client}
    {cluster' : Cluster Client'} {held held' : Holdings} {place place' : String → Nat}
    {fine : Client → Prop} {fine' : Client' → Prop} (hserves : cluster.Serves held place fine)
    (hserves' : cluster'.Serves held' place' fine') {client : Client} {client' : Client'}
    (hfine : fine client) (hfine' : fine' client') (scheduler : Scheduler) (judge : CheckEngine)
    {pageSize pageSize' : Nat} (hsize : 1 ≤ pageSize) (hsize' : 1 ≤ pageSize')
    (hheld : held = held' ∨ held.Rearranges held' ∧
      held.Unambiguous scheduler.namespaces.isIgnored judge.supports)
    {steps : Nat}
    (hsteps : (held.listed scheduler.namespaces.isIgnored judge.supports).length + 2 ≤ steps) :
    ∃ report s s', scheduler.attempt pageSize cluster steps client judge = (.ok report, s) ∧
      scheduler.attempt pageSize' cluster' steps client' judge = (.ok report, s') ∧
      s.scheduler.caches = s'.scheduler.caches ∧ s.world.2 = s'.world.2 := by
  let start := Sweep.start CheckEngine.asEngine scheduler.generation scheduler.caches judge
  have hsupports : CheckEngine.asEngine.supports start.judge = judge.supports :=
    supports_start scheduler.generation scheduler.caches judge
  have hsame : (held'.listed scheduler.namespaces.isIgnored judge.supports).length =
        (held.listed scheduler.namespaces.isIgnored judge.supports).length ∧
      held.sweep CheckEngine.asEngine scheduler.namespaces.isIgnored start =
        held'.sweep CheckEngine.asEngine scheduler.namespaces.isIgnored start := by
    rcases hheld with rfl | ⟨hrearranges, hunambiguous⟩
    · exact ⟨rfl, rfl⟩
    · exact ⟨(hrearranges.listed_perm hunambiguous.served).length_eq.symm,
        hrearranges.sweep_eq start (hsupports ▸ hunambiguous)⟩
  obtain ⟨hlisted, hsweep⟩ := hsame
  have hsteps' := hlisted ▸ hsteps
  rw [← hsupports] at hsteps hsteps'
  obtain ⟨report, s, hrun, hswept⟩ := Scanning.runCycle_eq_sweep hserves CheckEngine.asEngine
    ⟨{ scheduler with config := { scheduler.config with pageSize } }, (client, judge)⟩
    hfine hsize hsteps
  obtain ⟨report', s', hrun', hswept'⟩ := Scanning.runCycle_eq_sweep hserves' CheckEngine.asEngine
    ⟨{ scheduler with config := { scheduler.config with pageSize := pageSize' } }, (client', judge)⟩
    hfine' hsize' hsteps'
  have hend : s.swept report = s'.swept report' := hswept.trans (hsweep.trans hswept'.symm)
  obtain ⟨rfl, hcaches, hjudge⟩ := Sweep.mk.inj hend
  exact ⟨report, s, s', hrun, hrun', hcaches, hjudge⟩

namespace Sample

/-- Serves these types and namespaces, and holds these workloads in the namespace `default`. -/
def pair (resources : List ResourceType) (namespaces : List Namespace) (objects : List Object) :
    ScriptedCluster :=
  { serving ["apps"] objects with resources, namespaces }

theorem isReliable_pair (resources : List ResourceType) (namespaces : List Namespace)
    (objects : List Object) : (pair resources namespaces objects).IsReliable where
  plans _ := rfl
  cutOff := rfl

theorem rearranges_pair {resources resources' : List ResourceType}
    {namespaces namespaces' : List Namespace} {objects objects' : List Object}
    (hresources : resources.Perm resources') (hnamespaces : namespaces.Perm namespaces')
    (hobjects : objects.Perm objects') :
    (pair resources namespaces objects).holdings.Rearranges
      (pair resources' namespaces' objects').holdings where
  served := hresources
  namespaces := hnamespaces
  objects resource scope := by
    change ((List.lookup _ [(_, objects)]).getD []).Perm ((List.lookup _ [(_, objects')]).getD [])
    simp only [List.lookup_cons, List.lookup_nil]
    split
    · exact hobjects
    · exact .refl _

/-- Two workloads, of which one is known, are listed one by one or both at once, in either order. -/
theorem attempt_rearranged_pair :
    let worker : Object := { web "uid-2" "1" with name := some "worker" }
    let settings : ResourceType := ⟨"", "v1", "ConfigMap", "configmaps", true⟩
    let known := Identity.ofResource (deployment "apps") "default" "worker"
    let scheduler : Scheduler :=
      { config := {}, namespaces := { ignore := none }, generation := 0
        caches := CacheSet.empty.put (deployment "apps").key
          (Cache.empty.store known ⟨"1", "uid-2", "ns-1", .valid⟩) }
    let judge : CheckEngine := { enabled := [.hostPid] }
    let cluster := pair [deployment "apps", settings]
      [⟨"default", "ns-1"⟩, ⟨"kube-system", "ns-2"⟩] [web "uid-1" "1", worker]
    let cluster' := pair [settings, deployment "apps"]
      [⟨"kube-system", "ns-2"⟩, ⟨"default", "ns-1"⟩] [worker, web "uid-1" "1"]
    ∃ report s s',
      scheduler.attempt 1 ScriptedCluster.asCluster 4 cluster judge = (.ok report, s) ∧
      scheduler.attempt 5 ScriptedCluster.asCluster 4 cluster' judge = (.ok report, s') ∧
      s.scheduler.caches = s'.scheduler.caches ∧ s.world.2 = s'.world.2 ∧
      report.objectsSeen = 2 ∧ report.validated = 1 ∧ report.cacheHits = 1 := by
  intro worker settings known scheduler judge cluster cluster'
  have hrearranges : cluster.holdings.Rearranges cluster'.holdings :=
    rearranges_pair (.swap _ _ _) (.swap _ _ _) (.swap _ _ _)
  have hunambiguous : cluster.holdings.Unambiguous scheduler.namespaces.isIgnored judge.supports :=
    ⟨by decide +kernel, by decide +kernel⟩
  have hone : 1 ≤ 1 := Nat.le_refl 1
  have hfive : 1 ≤ 5 := by decide
  have hsteps : (cluster.holdings.listed scheduler.namespaces.isIgnored
      judge.supports).length + 2 ≤ 4 := by decide +kernel
  obtain ⟨report, s, s', hrun, hrun', hcaches, hjudge⟩ := Scheduler.attempt_rearranged
    (ScriptedCluster.serves cluster) (ScriptedCluster.serves cluster')
    ⟨isReliable_pair _ _ _, rfl⟩ ⟨isReliable_pair _ _ _, rfl⟩ scheduler judge hone hfive
    (.inr ⟨hrearranges, hunambiguous⟩) hsteps
  have hreport : (scheduler.attempt 5 ScriptedCluster.asCluster 4 cluster' judge).1.toOption.map
      (fun report => (report.objectsSeen, report.validated, report.cacheHits)) =
        some (2, 1, 1) := by
    decide +kernel
  rw [hrun'] at hreport
  obtain ⟨hseen, hrest⟩ := Prod.mk.inj (Option.some.inj hreport)
  obtain ⟨hvalidated, hhits⟩ := Prod.mk.inj hrest
  exact ⟨report, s, s', hrun, hrun', hcaches, hjudge, hseen, hvalidated, hhits⟩

end Sample

end ComplianceScanner
