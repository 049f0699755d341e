import ComplianceScanner.Proofs.Coverage
import ComplianceScanner.Proofs.Settings

/-!
# Scans of the same cluster

What an attempt does hangs on what the cluster answers and on which kinds are supported, and not on
what is cached: an object that counts as known is listed all the same. So two scanners that look at
the same cluster with the same settings do the same deeds, however different their pasts are.
-/

namespace ComplianceScanner

variable {World : Type}

/-- Worlds in which the cluster answers alike, and in which what the engine does to series makes no
difference. -/
structure Alike (cluster : Cluster World) (engine : Engine World) (same : World → World → Prop) :
    Prop where
  symm : ∀ {w v}, same w v → same v w
  discover : ∀ {w v}, same w v →
    (cluster.discover w).1 = (cluster.discover v).1 ∧
      same (cluster.discover w).2 (cluster.discover v).2
  namespaces : ∀ {w v}, same w v →
    (cluster.namespaces w).1 = (cluster.namespaces v).1 ∧
      same (cluster.namespaces w).2 (cluster.namespaces v).2
  list : ∀ {w v}, same w v → ∀ resource namespaceName limit token,
    (cluster.list resource namespaceName limit token w).1 =
        (cluster.list resource namespaceName limit token v).1 ∧
      same (cluster.list resource namespaceName limit token w).2
        (cluster.list resource namespaceName limit token v).2
  supports : ∀ {w v}, same w v → engine.supports w = engine.supports v
  validate : ∀ {w v}, same w v → ∀ view, same (engine.validate view w).2 v
  deleteMetrics : ∀ {w v}, same w v → ∀ labels, same (engine.deleteMetrics labels w) v

/-- What of a scan of one kind shows in its deeds. -/
structure KindScan.Alike (same : World → World → Prop) (scan scan' : KindScan World) : Prop where
  observed : scan.observed = scan'.observed
  world : same scan.world scan'.world

/-- What of a scanner shows in its deeds, once the namespaces of the last attempt are forgotten. -/
structure Scanning.Alike (same : World → World → Prop) (s s' : Scanning World) : Prop where
  config : s.scheduler.config = s'.scheduler.config
  namespaces : s.scheduler.namespaces = s'.scheduler.namespaces
  world : same s.world s'.world

namespace Alike

variable {cluster : Cluster World} {engine : Engine World} {same : World → World → Prop}

theorem deleteAll (halike : Alike cluster engine same) {w v : World} (hsame : same w v)
    (labels : List ObjectLabels) : same (engine.deleteAll labels w) v := by
  induction labels generalizing w with
  | nil => exact hsame
  | cons first labels ih => exact ih (halike.deleteMetrics hsame first)

theorem take (halike : Alike cluster engine same) (view : ObjectView) {page : PageScan World}
    {v : World} (hsame : same page.world v) : same (page.take engine view).world v := by
  have hjudged := halike.validate hsame view
  unfold PageScan.take
  cases view.identity? with
  | none => exact hsame
  | some identity =>
      simp only
      split
      · exact hsame
      · unfold PageScan.validate
        simp only
        split
        · rename_i hvalidate
          rw [hvalidate] at hjudged
          exact hjudged
        · rename_i hvalidate
          rw [hvalidate] at hjudged
          exact halike.deleteMetrics hjudged _

theorem foldl_take (halike : Alike cluster engine same) (resource : ResourceType)
    (namespaceUid : String) (items : List Object) {page : PageScan World} {v : World}
    (hsame : same page.world v) :
    same (items.foldl (fun page object => page.take engine ⟨resource, object, namespaceUid⟩)
      page).world v := by
  induction items generalizing page with
  | nil => exact hsame
  | cons object items ih => exact ih (halike.take _ hsame)

variable (halike : Alike cluster engine same)

include halike

theorem takePage (resource : ResourceType) (namespaceUid : String) (items : List Object)
    {scan scan' : KindScan World} (hscan : scan.Alike same scan') :
    (scan.takePage engine resource namespaceUid items).Alike same
      (scan'.takePage engine resource namespaceUid items) where
  observed := by rw [KindScan.observed_takePage, KindScan.observed_takePage, hscan.observed]
  world := by
    let page (scan : KindScan World) : PageScan World :=
      ⟨scan.caches.cacheFor resource, scan.observed, scan.tally, scan.world⟩
    have hstart : same (page scan).world (page scan').world := hscan.world
    have hleft := halike.foldl_take resource namespaceUid items hstart
    exact halike.symm (halike.foldl_take resource namespaceUid items (halike.symm hleft))

theorem takeListing (listing : Listing) (namespaceUid : String) (steps : Nat) (paging : Paging)
    {scan scan' : KindScan World} (hscan : scan.Alike same scan') :
    KindScan.listingDeeds cluster engine listing namespaceUid steps paging scan =
        KindScan.listingDeeds cluster engine listing namespaceUid steps paging scan' ∧
      (KindScan.takeListing cluster engine listing namespaceUid steps paging scan).1 =
        (KindScan.takeListing cluster engine listing namespaceUid steps paging scan').1 ∧
      (KindScan.takeListing cluster engine listing namespaceUid steps paging scan).2.Alike same
        (KindScan.takeListing cluster engine listing namespaceUid steps paging scan').2 := by
  induction steps generalizing paging scan scan' with
  | zero => exact ⟨rfl, rfl, hscan⟩
  | succ steps ih =>
      cases paging with
      | finished => exact ⟨rfl, rfl, hscan.observed, hscan.world⟩
      | due token =>
          obtain ⟨hanswer, hworld⟩ := halike.list hscan.world listing.resource
            listing.namespaceName listing.limit token
          simp only [KindScan.listingDeeds, KindScan.takeListing, Paging.pull]
          generalize cluster.list listing.resource listing.namespaceName listing.limit token
            scan.world = first at hanswer hworld ⊢
          generalize cluster.list listing.resource listing.namespaceName listing.limit token
            scan'.world = second at hanswer hworld ⊢
          obtain ⟨answer, w⟩ := first
          obtain ⟨answer', v⟩ := second
          simp only at hanswer hworld
          subst hanswer
          cases answer with
          | value page =>
              have hnext : KindScan.Alike same
                  (({ scan with world := w } : KindScan World).takePage engine listing.resource
                    namespaceUid page.items)
                  (({ scan' with world := v } : KindScan World).takePage engine listing.resource
                    namespaceUid page.items) :=
                halike.takePage _ _ _ ⟨hscan.observed, hworld⟩
              obtain ⟨hdeeds, hstop, hlast⟩ := ih (Paging.after page) hnext
              exact ⟨congrArg (fun later => Deed.ask (.list listing.resource
                listing.namespaceName listing.limit token) ::
                  (pageDeeds listing.resource namespaceUid page.items ++ later)) hdeeds,
                hstop, hlast⟩
          | failed cause => exact ⟨rfl, rfl, hscan.observed, hworld⟩
          | cutOff => exact ⟨rfl, rfl, hscan.observed, hworld⟩

theorem takeScopes (resource : ResourceType) (pageSize steps : Nat)
    (scopes : List (Option String × String)) {scan scan' : KindScan World}
    (hscan : scan.Alike same scan') :
    KindScan.scopesDeeds cluster engine resource pageSize steps scopes scan =
        KindScan.scopesDeeds cluster engine resource pageSize steps scopes scan' ∧
      (KindScan.takeScopes cluster engine resource pageSize steps scopes scan).1 =
        (KindScan.takeScopes cluster engine resource pageSize steps scopes scan').1 ∧
      (KindScan.takeScopes cluster engine resource pageSize steps scopes scan).2.Alike same
        (KindScan.takeScopes cluster engine resource pageSize steps scopes scan').2 := by
  induction scopes generalizing scan scan' with
  | nil => exact ⟨rfl, rfl, hscan⟩
  | cons scope scopes ih =>
      obtain ⟨namespaceName, namespaceUid⟩ := scope
      obtain ⟨hdeeds, hstop, hnext⟩ :=
        halike.takeListing ⟨resource, namespaceName, pageSize⟩ namespaceUid steps .start hscan
      simp only [KindScan.scopesDeeds, KindScan.takeScopes, hdeeds]
      generalize KindScan.takeListing cluster engine ⟨resource, namespaceName, pageSize⟩
        namespaceUid steps .start scan = first at hstop hnext ⊢
      generalize KindScan.takeListing cluster engine ⟨resource, namespaceName, pageSize⟩
        namespaceUid steps .start scan' = second at hstop hnext ⊢
      obtain ⟨stop, scan⟩ := first
      obtain ⟨stop', scan'⟩ := second
      simp only at hstop hnext
      subst hstop
      cases stop with
      | some stop => exact ⟨rfl, rfl, hnext⟩
      | none =>
          obtain ⟨hlater, hstop, hlast⟩ := ih hnext
          exact ⟨congrArg _ hlater, hstop, hlast⟩

theorem resolve {resolver resolver' : NamespaceResolver} (hresolver : resolver = resolver')
    {w v : World} (hsame : same w v) :
    (resolver.resolve cluster w).1 = (resolver'.resolve cluster v).1 ∧
      (resolver.resolve cluster w).2.1 = (resolver'.resolve cluster v).2.1 ∧
      same (resolver.resolve cluster w).2.2 (resolver'.resolve cluster v).2.2 := by
  subst hresolver
  unfold NamespaceResolver.resolve
  cases resolver.snapshot with
  | some kept => exact ⟨rfl, rfl, hsame⟩
  | none =>
      obtain ⟨hanswer, hworld⟩ := halike.namespaces hsame
      generalize cluster.namespaces w = first at hanswer hworld ⊢
      generalize cluster.namespaces v = second at hanswer hworld ⊢
      obtain ⟨answer, w⟩ := first
      obtain ⟨answer', v⟩ := second
      simp only at hanswer hworld
      subst hanswer
      cases answer <;> exact ⟨rfl, rfl, hworld⟩

theorem scopes (resource : ResourceType) {s s' : Scanning World} (hs : s.Alike same s') :
    s.scopeDeeds resource = s'.scopeDeeds resource ∧
      (s.scopes cluster resource).1 = (s'.scopes cluster resource).1 ∧
      (s.scopes cluster resource).2.Alike same (s'.scopes cluster resource).2 := by
  refine ⟨by rw [Scanning.scopeDeeds, Scanning.scopeDeeds, hs.namespaces], ?_⟩
  unfold Scanning.scopes
  split
  · obtain ⟨hlisted, hnamespaces, hworld⟩ := halike.resolve hs.namespaces hs.world
    generalize s.scheduler.namespaces.resolve cluster s.world = first
      at hlisted hnamespaces hworld ⊢
    generalize s'.scheduler.namespaces.resolve cluster s'.world = second
      at hlisted hnamespaces hworld ⊢
    obtain ⟨listed, namespaces, w⟩ := first
    obtain ⟨listed', namespaces', v⟩ := second
    simp only at hlisted hnamespaces hworld
    subst hlisted hnamespaces
    cases listed <;> exact ⟨rfl, hs.config, rfl, hworld⟩
  · exact ⟨rfl, hs⟩

theorem scanKind (steps : Nat) (resource : ResourceType) (report report' : CycleReport)
    {s s' : Scanning World} (hs : s.Alike same s') :
    s.kindDeeds cluster engine steps resource = s'.kindDeeds cluster engine steps resource ∧
      (s.scanKind cluster engine steps resource report).1.isOk =
        (s'.scanKind cluster engine steps resource report').1.isOk ∧
      (s.scanKind cluster engine steps resource report).2.Alike same
        (s'.scanKind cluster engine steps resource report').2 := by
  obtain ⟨hasked, hscopes, hnext⟩ := halike.scopes resource hs
  rw [Scanning.kindDeeds, Scanning.kindDeeds, Scanning.scanKind, Scanning.scanKind, hasked]
  generalize s.scopes cluster resource = first at hscopes hnext ⊢
  generalize s'.scopes cluster resource = second at hscopes hnext ⊢
  obtain ⟨result, s⟩ := first
  obtain ⟨result', s'⟩ := second
  simp only at hscopes hnext
  subst hscopes
  cases result with
  | error stop => exact ⟨rfl, rfl, hnext⟩
  | ok listed =>
      obtain ⟨scopes, count⟩ := listed
      have hstart : KindScan.Alike same ⟨s.scheduler.caches, ∅, {}, s.world⟩
          ⟨s'.scheduler.caches, ∅, {}, s'.world⟩ := ⟨rfl, hnext.world⟩
      obtain ⟨hdeeds, hstop, hlast⟩ :=
        halike.takeScopes resource s'.scheduler.config.pageSize steps scopes hstart
      have hpageSize : s.scheduler.config.pageSize = s'.scheduler.config.pageSize := by
        rw [hnext.config]
      simp only [hpageSize, hdeeds]
      generalize KindScan.takeScopes cluster engine resource s'.scheduler.config.pageSize steps
        scopes ⟨s.scheduler.caches, ∅, {}, s.world⟩ = first at hstop hlast ⊢
      generalize KindScan.takeScopes cluster engine resource s'.scheduler.config.pageSize steps
        scopes ⟨s'.scheduler.caches, ∅, {}, s'.world⟩ = second at hstop hlast ⊢
      obtain ⟨stop, scan⟩ := first
      obtain ⟨stop', scan'⟩ := second
      simp only at hstop hlast
      subst hstop
      cases stop with
      | some stop => exact ⟨rfl, rfl, hnext.config, hnext.namespaces, hlast.world⟩
      | none =>
          have hleft := halike.deleteAll hlast.world
            (labelsOf ((scan.caches.cacheFor resource).unobserved scan.observed))
          have hboth := halike.deleteAll (halike.symm hleft)
            (labelsOf ((scan'.caches.cacheFor resource).unobserved scan'.observed))
          exact ⟨by simp only [hlast.observed], rfl, hnext.config, hnext.namespaces, halike.symm hboth⟩

theorem scanKinds (steps : Nat) (resources : List ResourceType) (report report' : CycleReport)
    {s s' : Scanning World} (hs : s.Alike same s') :
    s.kindsDeeds cluster engine steps resources report =
        s'.kindsDeeds cluster engine steps resources report' ∧
      (s.scanKinds cluster engine steps resources report).1.isOk =
        (s'.scanKinds cluster engine steps resources report').1.isOk := by
  induction resources generalizing report report' s s' with
  | nil => exact ⟨rfl, rfl⟩
  | cons resource rest ih =>
      obtain ⟨hdeeds, hok, hnext⟩ := halike.scanKind steps resource report report' hs
      rw [Scanning.kindsDeeds, Scanning.kindsDeeds, Scanning.scanKinds, Scanning.scanKinds, hdeeds]
      generalize s.scanKind cluster engine steps resource report = first at hok hnext ⊢
      generalize s'.scanKind cluster engine steps resource report' = second at hok hnext ⊢
      obtain ⟨result, s⟩ := first
      obtain ⟨result', s'⟩ := second
      cases result with
      | error stop =>
          cases result' with
          | error stop' => exact ⟨rfl, rfl⟩
          | ok report' => cases hok
      | ok report =>
          cases result' with
          | error stop' => cases hok
          | ok report' =>
              obtain ⟨hlater, hok⟩ := ih report report' hnext
              exact ⟨congrArg _ hlater, hok⟩

theorem dropStaleCaches {s s' : Scanning World} (hworld : same s.world s'.world) :
    same (s.dropStaleCaches engine).world (s'.dropStaleCaches engine).world := by
  have hdrop : ∀ (s : Scanning World) (v : World), same s.world v →
      same (s.dropStaleCaches engine).world v := by
    intro s v hsame
    unfold Scanning.dropStaleCaches
    simp only
    split
    · exact hsame
    · exact halike.deleteAll hsame _
  exact halike.symm (hdrop s' _ (halike.symm (hdrop s _ hworld)))

/-- Two scanners with the same settings that look at the same cluster do the same deeds. -/
theorem deeds (steps : Nat) {s s' : Scanning World}
    (hsettings : s.scheduler.SameSettings s'.scheduler) (hworld : same s.world s'.world) :
    s.deeds cluster engine steps = s'.deeds cluster engine steps ∧
      (s.runCycle cluster engine steps).1.isOk = (s'.runCycle cluster engine steps).1.isOk := by
  have hdropped := halike.dropStaleCaches hworld
  obtain ⟨hserved, hnext⟩ := halike.discover hdropped
  have hkept := ((s.dropStaleCaches_untouched engine).settings.trans hsettings).trans
    (s'.dropStaleCaches_untouched engine).settings.symm
  simp only [Scanning.deeds, Scanning.runCycle, Discovery.run]
  have hreset : (s.dropStaleCaches engine).scheduler.namespaces.reset =
      (s'.dropStaleCaches engine).scheduler.namespaces.reset := by
    rw [NamespaceResolver.reset, NamespaceResolver.reset, hkept.ignore]
  generalize cluster.discover (s.dropStaleCaches engine).world = first at hserved hnext ⊢
  generalize cluster.discover (s'.dropStaleCaches engine).world = second at hserved hnext ⊢
  obtain ⟨answer, w⟩ := first
  obtain ⟨answer', v⟩ := second
  simp only at hserved hnext
  subst hserved
  cases answer with
  | failed cause => exact ⟨rfl, rfl⟩
  | cutOff => exact ⟨rfl, rfl⟩
  | value served =>
      have hbegun : Scanning.Alike same ((s.dropStaleCaches engine).begun w)
          ((s'.dropStaleCaches engine).begun v) := ⟨hkept.config, hreset, hnext⟩
      simp only [halike.supports hnext]
      generalize Discovery.select (engine.supports v) served = resources
      obtain ⟨hdeeds, hok⟩ := halike.scanKinds steps resources
        { resourceTypes := resources.length } { resourceTypes := resources.length } hbegun
      rw [hdeeds]
      simp only [Scanning.begun] at hok ⊢
      generalize Scanning.scanKinds cluster engine steps resources _
        ⟨{ (s.dropStaleCaches engine).scheduler with
          namespaces := (s.dropStaleCaches engine).scheduler.namespaces.reset }, w⟩ = first at hok ⊢
      generalize Scanning.scanKinds cluster engine steps resources _
        ⟨{ (s'.dropStaleCaches engine).scheduler with
          namespaces := (s'.dropStaleCaches engine).scheduler.namespaces.reset }, v⟩ = second
        at hok ⊢
      obtain ⟨result, s⟩ := first
      obtain ⟨result', s'⟩ := second
      cases result <;> cases result' <;> first | exact ⟨rfl, rfl⟩ | cases hok

end Alike

end ComplianceScanner
