import ComplianceScanner.Proofs.Layout
import ComplianceScanner.Proofs.Settings
import ComplianceScanner.Proofs.Survey

/-!
# Attempts are surveys

Whatever is cached and whatever the engine says, the requests of an attempt follow the course of a
survey (`runCycle_isSurvey`). The objects that the attempt takes up are those that the answers show,
each as often as it is shown and in the same order, and a kind is finished only when all its chains
have come to their ends.
-/

namespace ComplianceScanner

variable {World : Type}

/-- The objects that are taken up, each with its type. -/
def Deed.shown (deeds : List Deed) : List (ResourceType × Object) :=
  (deeds.filterMap Deed.view?).map fun view => (view.resource, view.object)

@[simp]
theorem Deed.shown_append (deeds later : List Deed) :
    Deed.shown (deeds ++ later) = Deed.shown deeds ++ Deed.shown later := by
  simp [Deed.shown]

theorem Deed.shown_pageDeeds (resource : ResourceType) (namespaceUid : String)
    (items : List Object) :
    Deed.shown (pageDeeds resource namespaceUid items) =
      items.map fun object => (resource, object) := by
  have htaken : (items.map fun object => Deed.take ⟨resource, object, namespaceUid⟩).filterMap
      Deed.view? = items.map fun object => ⟨resource, object, namespaceUid⟩ := by
    induction items with
    | nil => rfl
    | cons object items ih => exact congrArg (⟨resource, object, namespaceUid⟩ :: ·) ih
  rw [Deed.shown, pageDeeds, List.filterMap_cons_none rfl, htaken, List.map_map]
  rfl

/-- Between two journals there are these exchanges, and these deeds take up what they show. -/
structure Asks (j j' : Journaled World) (exchanges : List Exchange) (deeds : List Deed) : Prop where
  exchanges_eq : j'.exchanges = j.exchanges ++ exchanges
  shown_eq : Deed.shown deeds = exchanges.flatMap Exchange.items

namespace Asks

variable {j j' j'' : Journaled World} {exchanges later : List Exchange} {deeds deeds' : List Deed}

theorem refl (j : Journaled World) : Asks j j [] [] := ⟨by simp, rfl⟩

theorem trans (h : Asks j j' exchanges deeds) (h' : Asks j' j'' later deeds') :
    Asks j j'' (exchanges ++ later) (deeds ++ deeds') where
  exchanges_eq := by rw [h'.exchanges_eq, h.exchanges_eq, List.append_assoc]
  shown_eq := by rw [Deed.shown_append, h.shown_eq, h'.shown_eq, List.flatMap_append]

end Asks

/-! ### What the engine leaves alone -/

/-- The engine does not touch this part of the world. -/
structure Engine.Keeps {α : Type} (engine : Engine World) (part : World → α) : Prop where
  validate : ∀ view world, part (engine.validate view world).2 = part world
  deleteMetrics : ∀ labels world, part (engine.deleteMetrics labels world) = part world

namespace Engine.Keeps

variable {α : Type} {engine : Engine World} {part : World → α} (hkeeps : engine.Keeps part)
include hkeeps

theorem deleteAll (labels : List ObjectLabels) (world : World) :
    part (engine.deleteAll labels world) = part world := by
  induction labels generalizing world with
  | nil => rfl
  | cons first labels ih => exact (ih _).trans (hkeeps.deleteMetrics first world)

theorem take (view : ObjectView) (page : PageScan World) :
    part (page.take engine view).world = part page.world := by
  unfold PageScan.take
  cases view.identity? with
  | none => rfl
  | some identity =>
      simp only
      split
      · rfl
      · have hjudged := hkeeps.validate view page.world
        rw [PageScan.validate]
        split
        · rename_i hresult
          rw [hresult] at hjudged
          exact hjudged
        · rename_i hresult
          rw [hresult] at hjudged
          exact (hkeeps.deleteMetrics _ _).trans hjudged

theorem takePage (resource : ResourceType) (namespaceUid : String) (items : List Object)
    (scan : KindScan World) :
    part (scan.takePage engine resource namespaceUid items).world = part scan.world := by
  have htakes : ∀ page : PageScan World,
      part (items.foldl (fun page object => page.take engine ⟨resource, object, namespaceUid⟩)
        page).world = part page.world := by
    induction items with
    | nil => exact fun _ => rfl
    | cons object items ih => exact fun page => (ih _).trans (hkeeps.take _ page)
  exact htakes ⟨scan.caches.cacheFor resource, scan.observed, scan.tally, scan.world⟩

/-- Only a request can touch what the engine leaves alone. -/
theorem apply (cluster : Cluster World) (m : Moment World) {deed : Deed}
    (hdeed : ∀ call, deed ≠ .ask call) :
    part (m.apply cluster engine deed).world = part m.world := by
  cases deed with
  | renew =>
      unfold Moment.apply
      simp only
      split
      · rfl
      · exact hkeeps.deleteAll _ _
  | ask call => exact absurd rfl (hdeed call)
  | adopt resource => rfl
  | take view => exact hkeeps.take view (m.page view)
  | finish resource observed => exact hkeeps.deleteAll _ _
  | retire live => exact hkeeps.deleteAll _ _

theorem dropStaleCaches (s : Scanning World) :
    part (s.dropStaleCaches engine).world = part s.world := by
  unfold Scanning.dropStaleCaches
  simp only
  split
  · rfl
  · exact hkeeps.deleteAll _ _

theorem dropVanished (resources : List ResourceType) (report : CycleReport) (s : Scanning World) :
    part (s.dropVanished engine resources report).2.world = part s.world := by
  have hmoment := Scanning.foldl_dropKind_moment engine
    (s.scheduler.caches.vanished (resources.map (·.key))) report
    { s with
      scheduler :=
        { s.scheduler with caches := s.scheduler.caches.retain (resources.map (·.key)) } }
  exact (congrArg (part ∘ Moment.world) hmoment).trans (hkeeps.deleteAll _ _)

end Engine.Keeps

theorem Engine.keeps_exchanges (engine : Engine World) :
    engine.journaled.Keeps Journaled.exchanges where
  validate _ _ := rfl
  deleteMetrics _ _ := rfl

/-! ### Surveys -/

/-- The requests begin with all those for a type, which came through to the end of each listing. -/
def Survey.ListedToEnd (limit steps : Nat) (ignored : String → Bool)
    (supports : String → String → Bool) (exchanges : List Exchange) (resource : ResourceType) :
    Prop :=
  ∃ served done todo first rest, exchanges = .discover (.value served) :: (first ++ rest) ∧
    Discovery.select supports served = done ++ todo ∧ resource ∈ done ∧
    OfKinds limit steps ignored none done first none

/-- Why something stopped, if it did. -/
def Stop.of? {α : Type} : Except Stop α → Option Stop
  | .error stop => some stop
  | .ok _ => none

namespace Scanning

/-- The namespaces known to a scanner are those to list in of what the cluster has answered. -/
def Knows (s : Scanning World) (known : Option (List Namespace)) : Prop :=
  s.scheduler.namespaces.snapshot = known.map (Survey.kept s.scheduler.namespaces.isIgnored)

end Scanning

variable (cluster : Cluster World) (engine : Engine World)

/-- The page that was shown decides whether another one is asked for. -/
theorem Survey.Chain.page {listing : Listing} {steps : Nat} {token : Option String}
    {page : ObjectPage} {exchanges : List Exchange} {stop : Option Stop}
    (hrest : Chain listing steps (.after page) exchanges stop) :
    Chain listing (steps + 1) (.due token) (.list listing token (.value page) :: exchanges)
      stop := by
  cases hnext : page.next with
  | none =>
      simp only [Paging.after, hnext] at hrest
      exact .last (by simp [hnext]) hrest
  | some next =>
      simp only [Paging.after, hnext] at hrest
      by_cases hempty : next = ""
      · rw [if_pos hempty] at hrest
        exact .last (fun other hother => Option.some.inj (hnext.symm.trans hother) ▸ hempty) hrest
      · rw [if_neg hempty] at hrest
        exact .next hnext hempty hrest

namespace KindScan

theorem takeListing_chain (listing : Listing) (namespaceUid : String) (steps : Nat)
    (paging : Paging) (scan : KindScan (Journaled World)) :
    let taken :=
      takeListing cluster.journaled engine.journaled listing namespaceUid steps paging scan
    ∃ exchanges, Asks scan.world taken.2.world exchanges
        (listingDeeds cluster.journaled engine.journaled listing namespaceUid steps paging scan) ∧
      Survey.Chain listing steps paging exchanges taken.1 := by
  induction steps generalizing paging scan with
  | zero => exact ⟨[], .refl _, .unfinished⟩
  | succ steps ih =>
      cases paging with
      | finished => exact ⟨[], .refl _, .finished⟩
      | due token =>
          rw [takeListing, listingDeeds, Paging.pull, Cluster.list_journaled]
          generalize cluster.list listing.resource listing.namespaceName listing.limit token
            scan.world.world = result
          obtain ⟨answer, world⟩ := result
          cases answer with
          | failed cause => exact ⟨_, ⟨rfl, rfl⟩, .failed⟩
          | cutOff => exact ⟨_, ⟨rfl, rfl⟩, .cutOff⟩
          | value page =>
              let exchange : Exchange := .list listing token (.value page)
              let asked : Journaled World :=
                { scan.world with world, exchanges := scan.world.exchanges ++ [exchange] }
              let taken := ({ scan with world := asked }).takePage engine.journaled
                listing.resource namespaceUid page.items
              have hpage : Asks scan.world taken.world [exchange]
                  (.ask (.list listing.resource listing.namespaceName listing.limit token) ::
                    pageDeeds listing.resource namespaceUid page.items) :=
                ⟨engine.keeps_exchanges.takePage _ _ _ _,
                  (Deed.shown_pageDeeds _ _ _).trans (List.append_nil _).symm⟩
              obtain ⟨exchanges, hasks, hchain⟩ := ih (.after page) taken
              exact ⟨exchange :: exchanges, hpage.trans hasks, hchain.page⟩

theorem takeScopes_chains (resource : ResourceType) (pageSize steps : Nat)
    (scopes : List (Option String × String)) (scan : KindScan (Journaled World)) :
    let taken := takeScopes cluster.journaled engine.journaled resource pageSize steps scopes scan
    ∃ exchanges, Asks scan.world taken.2.world exchanges
        (scopesDeeds cluster.journaled engine.journaled resource pageSize steps scopes scan) ∧
      Survey.Chains pageSize steps resource (scopes.map Prod.fst) exchanges taken.1 := by
  induction scopes generalizing scan with
  | nil => exact ⟨[], .refl _, .nil⟩
  | cons scope scopes ih =>
      obtain ⟨namespaceName, namespaceUid⟩ := scope
      obtain ⟨first, hasks, hchain⟩ := takeListing_chain cluster engine
        ⟨resource, namespaceName, pageSize⟩ namespaceUid steps .start scan
      rw [takeScopes, scopesDeeds]
      generalize takeListing cluster.journaled engine.journaled
        ⟨resource, namespaceName, pageSize⟩ namespaceUid steps .start scan = taken
        at hasks hchain ⊢
      obtain ⟨stop, scan'⟩ := taken
      cases stop with
      | some stop => exact ⟨first, by simpa using hasks, .stopped hchain⟩
      | none =>
          obtain ⟨rest, hrest, hchains⟩ := ih scan'
          exact ⟨first ++ rest, hasks.trans hrest, .cons hchain hchains⟩

end KindScan

namespace Scanning

theorem scopes_resolved (resource : ResourceType) (s : Scanning (Journaled World))
    {known : Option (List Namespace)} (hknows : s.Knows known) :
    let resolved := s.scopes cluster.journaled resource
    ∃ exchanges known', Asks s.world resolved.2.world exchanges (s.scopeDeeds resource) ∧
      Survey.Resolved s.scheduler.namespaces.isIgnored resource known exchanges
        (resolved.1.map fun listed => listed.1.map Prod.fst) known' ∧
      resolved.2.Knows known' := by
  unfold scopes scopeDeeds NamespaceResolver.resolve
  cases hscope : resource.namespaced with
  | false => exact ⟨[], known, .refl _, .clusterWide hscope, hknows⟩
  | true =>
      cases known with
      | some listed =>
          have hsnapshot : s.scheduler.namespaces.snapshot = some _ := hknows
          simp only [hsnapshot, if_true]
          refine ⟨[], some listed, .refl _, ?_, hknows⟩
          simpa [Except.map, Function.comp_def] using Survey.Resolved.known hscope
      | none =>
          have hsnapshot : s.scheduler.namespaces.snapshot = none := hknows
          simp only [hsnapshot, if_true, Cluster.namespaces_journaled]
          cases (cluster.namespaces s.world.world).1 with
          | value listed =>
              refine ⟨_, some listed, ⟨rfl, rfl⟩, ?_, rfl⟩
              simpa [Except.map, Function.comp_def, Survey.kept] using Survey.Resolved.asked hscope
          | failed cause => exact ⟨_, none, ⟨rfl, rfl⟩, .failed hscope, hsnapshot⟩
          | cutOff => exact ⟨_, none, ⟨rfl, rfl⟩, .cutOff hscope, hsnapshot⟩

theorem scanKind_ofKind (steps : Nat) (resource : ResourceType) (report : CycleReport)
    (s : Scanning (Journaled World)) {known : Option (List Namespace)} (hknows : s.Knows known) :
    let scanned := s.scanKind cluster.journaled engine.journaled steps resource report
    ∃ exchanges known', Asks s.world scanned.2.world exchanges
        (s.kindDeeds cluster.journaled engine.journaled steps resource) ∧
      Survey.OfKind s.scheduler.config.pageSize steps s.scheduler.namespaces.isIgnored resource
        known exchanges (Stop.of? scanned.1) known' ∧
      scanned.2.Knows known' := by
  obtain ⟨asked, known', hasks, hresolved, hknows'⟩ := s.scopes_resolved cluster resource hknows
  have hconfig := (s.scopes_untouched cluster.journaled resource).settings.config
  rw [scanKind, kindDeeds]
  generalize s.scopes cluster.journaled resource = result at hasks hresolved hknows' hconfig ⊢
  obtain ⟨listed, s'⟩ := result
  cases listed with
  | error stop => exact ⟨asked, known', by simpa using hasks, .unresolved hresolved, hknows'⟩
  | ok listed =>
      obtain ⟨scopes, count⟩ := listed
      obtain ⟨exchanges, htaken, hchains⟩ := KindScan.takeScopes_chains cluster engine resource
        s'.scheduler.config.pageSize steps scopes ⟨s'.scheduler.caches, ∅, {}, s'.world⟩
      simp only
      generalize KindScan.takeScopes cluster.journaled engine.journaled resource
        s'.scheduler.config.pageSize steps scopes ⟨s'.scheduler.caches, ∅, {}, s'.world⟩ = taken
        at htaken hchains ⊢
      obtain ⟨stop, scan⟩ := taken
      rw [hconfig] at hchains
      cases stop with
      | some stop =>
          exact ⟨asked ++ exchanges, known', by simpa using hasks.trans htaken,
            .listed hresolved hchains, hknows'⟩
      | none =>
          have hfinished : Asks scan.world (s'.finishKind engine.journaled resource scan
              { report with namespaces := count.getD report.namespaces }).2.world []
              [.finish resource scan.observed] :=
            ⟨(engine.keeps_exchanges.deleteAll _ scan.world).trans (List.append_nil _).symm, rfl⟩
          exact ⟨asked ++ exchanges, known', by simpa using (hasks.trans htaken).trans hfinished,
            .listed hresolved hchains, hknows'⟩

/-- The types that are finished are the first ones, and the requests for these come first. -/
def FinishesInOrder (deeds : List Deed) (limit steps : Nat) (ignored : String → Bool)
    (known : Option (List Namespace)) (resources : List ResourceType)
    (exchanges : List Exchange) : Prop :=
  ∀ resource observed, .finish resource observed ∈ deeds → ∃ done todo first rest,
    resources = done ++ todo ∧ resource ∈ done ∧ exchanges = first ++ rest ∧
      Survey.OfKinds limit steps ignored known done first none

theorem scanKinds_ofKinds (steps : Nat) (resources : List ResourceType) (report : CycleReport)
    (s : Scanning (Journaled World)) {known : Option (List Namespace)} (hknows : s.Knows known) :
    let deeds := s.kindsDeeds cluster.journaled engine.journaled steps resources report
    let scanned := s.scanKinds cluster.journaled engine.journaled steps resources report
    let limit := s.scheduler.config.pageSize
    let ignored := s.scheduler.namespaces.isIgnored
    ∃ exchanges, Asks s.world scanned.2.world exchanges deeds ∧
      Survey.OfKinds limit steps ignored known resources exchanges (Stop.of? scanned.1) ∧
      FinishesInOrder deeds limit steps ignored known resources exchanges := by
  induction resources generalizing report s known with
  | nil => exact ⟨[], .refl _, .nil, by simp [FinishesInOrder, kindsDeeds]⟩
  | cons resource rest ih =>
      obtain ⟨first, known', hasks, hkind, hknows'⟩ :=
        s.scanKind_ofKind cluster engine steps resource report hknows
      obtain ⟨scan, hscan, hdeeds⟩ :=
        s.kindDeeds_cases cluster.journaled engine.journaled steps resource report
      have hsettings := (s.scanKind_untouched cluster.journaled engine.journaled steps resource
        report).settings
      rw [scanKinds, kindsDeeds]
      generalize s.scanKind cluster.journaled engine.journaled steps resource report = result
        at hasks hkind hknows' hdeeds hsettings ⊢
      obtain ⟨stop, s'⟩ := result
      cases stop with
      | error stop =>
          refine ⟨first, by simpa using hasks, .stopped hkind, ?_⟩
          intro other observed hfinish
          rw [List.append_nil, hdeeds] at hfinish
          exact (hscan _ hfinish).elim
      | ok report' =>
          obtain ⟨later, hlater, hkinds, hfinishes⟩ := ih report' s' hknows'
          rw [hsettings.config, hsettings.isIgnored_eq] at hkinds hfinishes
          refine ⟨first ++ later, hasks.trans hlater, .cons hkind hkinds, ?_⟩
          intro other observed hfinish
          rcases List.mem_append.mp hfinish with hfinish | hfinish
          · have hown : other = resource := by
              rw [hdeeds] at hfinish
              rcases List.mem_append.mp hfinish with hfinish | hfinish
              · exact (hscan _ hfinish).elim
              · cases List.mem_singleton.mp hfinish
                rfl
            refine ⟨[resource], rest, first, later, rfl, by simp [hown], rfl, ?_⟩
            simpa using Survey.OfKinds.cons hkind .nil
          · obtain ⟨done, todo, before, after, rfl, hmem, rfl, hdone⟩ :=
              hfinishes other observed hfinish
            exact ⟨resource :: done, todo, first ++ before, after, rfl,
              List.mem_cons_of_mem _ hmem, (List.append_assoc _ _ _).symm, .cons hkind hdone⟩

theorem discoveryRun_journaled (j : Journaled World) :
    let answer := (cluster.discover j.world).1
    let world := (cluster.discover j.world).2
    Discovery.run cluster.journaled engine.journaled j =
      (match answer with
        | .value served => .ok (Discovery.select (engine.supports world) served)
        | .failed cause => .error (.failed (.discovery cause))
        | .cutOff => .error .cutOff,
        { j with world, exchanges := j.exchanges ++ [.discover answer] }) := by
  rw [Discovery.run, Cluster.discover_journaled]
  cases (cluster.discover j.world).1 <;> rfl

/-- The survey that an attempt is: what its requests show is taken up in its order, and a kind is
finished only when it is listed to its end. -/
structure IsSurvey (limit steps : Nat) (ignored : String → Bool)
    (supports : String → String → Bool) (j j' : Journaled World) (deeds : List Deed)
    (stop : Option Stop) (exchanges : List Exchange) : Prop where
  asks : Asks j j' exchanges deeds
  whole : Survey.Whole limit steps ignored supports exchanges stop
  ended : ∀ resource observed, .finish resource observed ∈ deeds →
    Survey.ListedToEnd limit steps ignored supports exchanges resource

variable {cluster engine}

theorem isSurvey_of_run_eq_error (steps : Nat) {s : Scanning (Journaled World)}
    {limit : Nat} {ignored : String → Bool} {supports : String → String → Bool}
    {answer : Answer (List ResourceType)} {stop : Stop} {asked : Journaled World}
    (hasked : Asks s.world asked [.discover answer] [.renew, .ask .discover])
    (hrun : Discovery.run cluster.journaled engine.journaled
      (s.dropStaleCaches engine.journaled).world = (.error stop, asked))
    (hwhole : Survey.Whole limit steps ignored supports [.discover answer] (some stop)) :
    let run := s.runCycle cluster.journaled engine.journaled steps
    IsSurvey limit steps ignored supports s.world run.2.world
      (s.deeds cluster.journaled engine.journaled steps) (Stop.of? run.1) [.discover answer] := by
  obtain ⟨hcycle, hdeeds⟩ := runCycle_of_run_eq_error steps hrun
  simp only [hcycle, hdeeds]
  exact ⟨hasked, hwhole, by simp⟩

theorem isSurvey_of_run_eq_ok (steps : Nat) {s : Scanning (Journaled World)}
    {supports : String → String → Bool} {served : List ResourceType} {asked : Journaled World}
    (hasked : Asks s.world asked [.discover (.value served)] [.renew, .ask .discover])
    (hrun : Discovery.run cluster.journaled engine.journaled
      (s.dropStaleCaches engine.journaled).world =
        (.ok (Discovery.select supports served), asked)) :
    let run := s.runCycle cluster.journaled engine.journaled steps
    ∃ exchanges, IsSurvey s.scheduler.config.pageSize steps s.scheduler.namespaces.isIgnored
      supports s.world run.2.world (s.deeds cluster.journaled engine.journaled steps)
      (Stop.of? run.1) (.discover (.value served) :: exchanges) := by
  have hsettings := (s.dropStaleCaches_untouched engine.journaled).settings
  let resources := Discovery.select supports served
  have hknows : ((s.dropStaleCaches engine.journaled).begun asked).Knows none := rfl
  obtain ⟨exchanges, hasks, hkinds, hfinishes⟩ := scanKinds_ofKinds cluster engine steps resources
    { resourceTypes := resources.length } _ hknows
  have hignored : ((s.dropStaleCaches engine.journaled).begun asked).scheduler.namespaces.isIgnored =
      s.scheduler.namespaces.isIgnored := hsettings.isIgnored_eq
  have hlimit : ((s.dropStaleCaches engine.journaled).begun asked).scheduler.config.pageSize =
      s.scheduler.config.pageSize := congrArg ScannerConfig.pageSize hsettings.config
  rw [hignored, hlimit] at hkinds hfinishes
  have hended : ∀ resource observed, .finish resource observed ∈
      ((s.dropStaleCaches engine.journaled).begun asked).kindsDeeds cluster.journaled
        engine.journaled steps resources { resourceTypes := resources.length } →
      Survey.ListedToEnd s.scheduler.config.pageSize steps s.scheduler.namespaces.isIgnored supports
        (.discover (.value served) :: exchanges) resource := by
    intro resource observed hfinish
    obtain ⟨done, todo, first, rest, hresources, hmem, rfl, hdone⟩ :=
      hfinishes resource observed hfinish
    exact ⟨served, done, todo, first, rest, rfl, hresources, hmem, hdone⟩
  refine ⟨exchanges, ?_⟩
  rw [runCycle_of_run steps hrun, deeds_of_run steps hrun]
  generalize scanKinds cluster.journaled engine.journaled steps resources _ _ = scanned
    at hasks hkinds ⊢
  obtain ⟨result, s'⟩ := scanned
  cases result with
  | error stop => exact ⟨by simpa using hasked.trans hasks, .scanned hkinds, by simpa using hended⟩
  | ok report =>
      have hretired : Asks s'.world (s'.dropVanished engine.journaled resources report).2.world []
          [.retire (resources.map (·.key))] :=
        ⟨(engine.keeps_exchanges.dropVanished resources report s').trans
          (List.append_nil _).symm, rfl⟩
      exact ⟨by simpa using (hasked.trans hasks).trans hretired, .scanned hkinds,
        by simpa using hended⟩

/-- Whatever is cached and whatever the engine says, the requests of an attempt are a survey. -/
theorem runCycle_isSurvey (cluster : Cluster World) (engine : Engine World) (steps : Nat)
    (s : Scanning (Journaled World)) :
    let run := s.runCycle cluster.journaled engine.journaled steps
    ∃ exchanges, IsSurvey s.scheduler.config.pageSize steps s.scheduler.namespaces.isIgnored
      (engine.supports (cluster.discover (s.dropStaleCaches engine.journaled).world.world).2)
      s.world run.2.world (s.deeds cluster.journaled engine.journaled steps) (Stop.of? run.1)
      exchanges := by
  have hrun := discoveryRun_journaled cluster engine (s.dropStaleCaches engine.journaled).world
  have hasked (answer : Answer (List ResourceType)) (world : World) :
      Asks s.world
        { (s.dropStaleCaches engine.journaled).world with
          world
          exchanges :=
            (s.dropStaleCaches engine.journaled).world.exchanges ++ [.discover answer] }
        [.discover answer] [.renew, .ask .discover] :=
    ⟨by rw [engine.keeps_exchanges.dropStaleCaches s], by cases answer <;> rfl⟩
  simp only at hrun
  cases hanswer : (cluster.discover (s.dropStaleCaches engine.journaled).world.world).1 with
  | failed cause =>
      rw [hanswer] at hrun
      exact ⟨_, isSurvey_of_run_eq_error steps (hasked _ _) hrun .failed⟩
  | cutOff =>
      rw [hanswer] at hrun
      exact ⟨_, isSurvey_of_run_eq_error steps (hasked _ _) hrun .cutOff⟩
  | value served =>
      rw [hanswer] at hrun
      obtain ⟨exchanges, hsurvey⟩ := isSurvey_of_run_eq_ok steps (hasked _ _) hrun
      exact ⟨_, hsurvey⟩

end Scanning

end ComplianceScanner
