import ComplianceScanner.Proofs.Surveyed

/-!
# What a survey leaves to do

An attempt that comes through does what the answers to its requests call for: it takes up the objects
of each page, with the uid of the namespace that the page is for, and then finishes the kind. So its
deeds can be read off the requests, and what is cached does not come into it. Two attempts that get
the same answers do the same deeds.
-/

namespace ComplianceScanner

/-- What an attempt does at a request: it asks, and takes up what it is shown. -/
def Exchange.deeds (namespaceUid : String) (exchange : Exchange) : List Deed :=
  .ask exchange.call ::
    match exchange with
    | list listing _ (.value page) => pageDeeds listing.resource namespaceUid page.items
    | _ => []

namespace Survey

section

variable (limit steps : Nat) (ignored : String → Bool)

/-- What is done in these scopes of a type, each of them listed to its end. -/
inductive ScopesCourse (resource : ResourceType) :
    List (Option String × String) → List Exchange → List Deed → Prop
  | nil : ScopesCourse resource [] [] []
  | cons {name : Option String} {namespaceUid : String} {scopes : List (Option String × String)}
      {first rest : List Exchange} {deeds : List Deed}
      (hfirst : Chain ⟨resource, name, limit⟩ steps .start first none)
      (hrest : ScopesCourse resource scopes rest deeds) :
      ScopesCourse resource ((name, namespaceUid) :: scopes) (first ++ rest)
        (first.flatMap (Exchange.deeds namespaceUid) ++ deeds)

/-- The scopes of a type with the uids of the namespaces, if these are known. -/
def scopesOf (resource : ResourceType) (known : Option (List Namespace)) :
    List (Option String × String) :=
  if resource.namespaced then
    (kept ignored (known.getD [])).map fun ns => (some ns.name, ns.uid)
  else [(none, "")]

inductive KindCourse (resource : ResourceType) : Option (List Namespace) → List Exchange →
    List Deed → Option (List Namespace) → Prop
  | finished {known known' : Option (List Namespace)} {asked listed : List Exchange}
      {names : List (Option String)} {scan : List Deed}
      (hasked : Resolved ignored resource known asked (.ok names) known')
      (hlisted : ScopesCourse limit steps resource (scopesOf ignored resource known') listed scan) :
      KindCourse resource known (asked ++ listed)
        (asked.map (fun exchange => .ask exchange.call) ++ scan ++
          [.finish resource ((∅ : Identities).insertMany (Deed.identities scan))]) known'

inductive KindsCourse :
    Option (List Namespace) → List ResourceType → List Exchange → List Deed → Prop
  | nil {known : Option (List Namespace)} : KindsCourse known [] [] []
  | cons {known known' : Option (List Namespace)} {resource : ResourceType}
      {resources : List ResourceType} {first rest : List Exchange} {deeds later : List Deed}
      (hfirst : KindCourse limit steps ignored resource known first deeds known')
      (hrest : KindsCourse known' resources rest later) :
      KindsCourse known (resource :: resources) (first ++ rest) (deeds ++ later)

/-- All that is done once the generation has been looked at. -/
inductive Course (supports : String → String → Bool) : List Exchange → List Deed → Prop
  | completed {served : List ResourceType} {exchanges : List Exchange} {deeds : List Deed}
      (hkinds : KindsCourse limit steps ignored none (Discovery.select supports served) exchanges
        deeds) :
      Course supports (.discover (.value served) :: exchanges)
        (.ask .discover ::
          (deeds ++ [.retire ((Discovery.select supports served).map (·.key))]))

end

/-! ### With the answers given, there is one course -/

section

variable {World : Type} {cluster : Cluster World} {w v v' : World} {exchanges exchanges' :
  List Exchange} {deeds deeds' : List Deed} {limit steps : Nat} {ignored : String → Bool}

theorem ScopesCourse.unique {resource : ResourceType} {scopes : List (Option String × String)}
    (hcourse : ScopesCourse limit steps resource scopes exchanges deeds)
    (hcourse' : ScopesCourse limit steps resource scopes exchanges' deeds')
    (hplays : cluster.Plays w exchanges v) (hplays' : cluster.Plays w exchanges' v') :
    exchanges = exchanges' ∧ deeds = deeds' := by
  induction hcourse generalizing exchanges' deeds' w with
  | nil =>
      cases hcourse'
      exact ⟨rfl, rfl⟩
  | cons hfirst hrest ih =>
      cases hcourse' with
      | cons hfirst' hrest' =>
          obtain ⟨between, hplays, hlater⟩ := Cluster.plays_append.mp hplays
          obtain ⟨between', hplays', hlater'⟩ := Cluster.plays_append.mp hplays'
          obtain ⟨rfl, -⟩ := hfirst.unique hfirst' hplays hplays'
          cases hplays.unique hplays'
          obtain ⟨rfl, rfl⟩ := ih hrest' hlater hlater'
          exact ⟨rfl, rfl⟩

theorem KindCourse.unique {resource : ResourceType} {known known' known'' : Option (List Namespace)}
    (hcourse : KindCourse limit steps ignored resource known exchanges deeds known')
    (hcourse' : KindCourse limit steps ignored resource known exchanges' deeds' known'')
    (hplays : cluster.Plays w exchanges v) (hplays' : cluster.Plays w exchanges' v') :
    exchanges = exchanges' ∧ deeds = deeds' ∧ known' = known'' := by
  cases hcourse with
  | finished hasked hlisted =>
      cases hcourse' with
      | finished hasked' hlisted' =>
          obtain ⟨between, hplays, hlater⟩ := Cluster.plays_append.mp hplays
          obtain ⟨between', hplays', hlater'⟩ := Cluster.plays_append.mp hplays'
          obtain ⟨rfl, -, rfl⟩ := hasked.unique hasked' hplays hplays'
          cases hplays.unique hplays'
          obtain ⟨rfl, rfl⟩ := hlisted.unique hlisted' hlater hlater'
          exact ⟨rfl, rfl, rfl⟩

theorem KindsCourse.unique {known : Option (List Namespace)} {resources : List ResourceType}
    (hcourse : KindsCourse limit steps ignored known resources exchanges deeds)
    (hcourse' : KindsCourse limit steps ignored known resources exchanges' deeds')
    (hplays : cluster.Plays w exchanges v) (hplays' : cluster.Plays w exchanges' v') :
    exchanges = exchanges' ∧ deeds = deeds' := by
  induction hcourse generalizing exchanges' deeds' w with
  | nil =>
      cases hcourse'
      exact ⟨rfl, rfl⟩
  | cons hfirst hrest ih =>
      cases hcourse' with
      | cons hfirst' hrest' =>
          obtain ⟨between, hplays, hlater⟩ := Cluster.plays_append.mp hplays
          obtain ⟨between', hplays', hlater'⟩ := Cluster.plays_append.mp hplays'
          obtain ⟨rfl, rfl, rfl⟩ := hfirst.unique hfirst' hplays hplays'
          cases hplays.unique hplays'
          obtain ⟨rfl, rfl⟩ := ih hrest' hlater hlater'
          exact ⟨rfl, rfl⟩

theorem Course.unique {supports : String → String → Bool}
    (hcourse : Course limit steps ignored supports exchanges deeds)
    (hcourse' : Course limit steps ignored supports exchanges' deeds')
    (hplays : cluster.Plays w exchanges v) (hplays' : cluster.Plays w exchanges' v') :
    exchanges = exchanges' ∧ deeds = deeds' := by
  cases hcourse with
  | completed hkinds =>
      cases hcourse' with
      | completed hkinds' =>
          cases hplays.head_eq hplays' rfl
          obtain ⟨rfl, rfl⟩ := hkinds.unique hkinds' hplays.2 hplays'.2
          exact ⟨rfl, rfl⟩

end

end Survey

/-! ### Attempts that come through keep to it -/

variable {World : Type} (cluster : Cluster World) (engine : Engine World)

namespace KindScan

theorem listingDeeds_eq (listing : Listing) (namespaceUid : String) (steps : Nat)
    (paging : Paging) (scan : KindScan (Journaled World)) :
    ∃ exchanges,
      (takeListing cluster.journaled engine.journaled listing namespaceUid steps paging
        scan).2.world.exchanges = scan.world.exchanges ++ exchanges ∧
      listingDeeds cluster.journaled engine.journaled listing namespaceUid steps paging scan =
        exchanges.flatMap (Exchange.deeds namespaceUid) := by
  induction steps generalizing paging scan with
  | zero => exact ⟨[], (List.append_nil _).symm, rfl⟩
  | succ steps ih =>
      cases paging with
      | finished => exact ⟨[], (List.append_nil _).symm, rfl⟩
      | due token =>
          rw [takeListing, listingDeeds, Paging.pull, Cluster.list_journaled]
          generalize cluster.list listing.resource listing.namespaceName listing.limit token
            scan.world.world = result
          obtain ⟨answer, world⟩ := result
          cases answer with
          | failed cause => exact ⟨_, rfl, rfl⟩
          | cutOff => exact ⟨_, rfl, rfl⟩
          | value page =>
              let exchange : Exchange := .list listing token (.value page)
              let asked : Journaled World :=
                { scan.world with world, exchanges := scan.world.exchanges ++ [exchange] }
              let taken := ({ scan with world := asked }).takePage engine.journaled
                listing.resource namespaceUid page.items
              have hpage : taken.world.exchanges = scan.world.exchanges ++ [exchange] :=
                engine.keeps_exchanges.takePage _ _ _ _
              obtain ⟨exchanges, hexchanges, hdeeds⟩ := ih (.after page) taken
              refine ⟨exchange :: exchanges, ?_, ?_⟩
              · rw [List.append_cons, ← hpage]
                exact hexchanges
              · rw [List.flatMap_cons, ← hdeeds]
                rfl

theorem takeScopes_course (resource : ResourceType) (pageSize steps : Nat)
    (scopes : List (Option String × String)) (scan : KindScan (Journaled World))
    (hended : (takeScopes cluster.journaled engine.journaled resource pageSize steps scopes
      scan).1 = none) :
    ∃ exchanges,
      (takeScopes cluster.journaled engine.journaled resource pageSize steps scopes
        scan).2.world.exchanges = scan.world.exchanges ++ exchanges ∧
      Survey.ScopesCourse pageSize steps resource scopes exchanges
        (scopesDeeds cluster.journaled engine.journaled resource pageSize steps scopes scan) := by
  induction scopes generalizing scan with
  | nil => exact ⟨[], (List.append_nil _).symm, .nil⟩
  | cons scope scopes ih =>
      obtain ⟨namespaceName, namespaceUid⟩ := scope
      obtain ⟨first, hasks, hchain⟩ := takeListing_chain cluster engine
        ⟨resource, namespaceName, pageSize⟩ namespaceUid steps .start scan
      obtain ⟨played, hplayed, hdeeds⟩ := listingDeeds_eq cluster engine
        ⟨resource, namespaceName, pageSize⟩ namespaceUid steps .start scan
      obtain rfl : played = first :=
        List.append_cancel_left (hplayed.symm.trans hasks.exchanges_eq)
      rw [takeScopes] at hended ⊢
      rw [scopesDeeds, hdeeds]
      generalize takeListing cluster.journaled engine.journaled
        ⟨resource, namespaceName, pageSize⟩ namespaceUid steps .start scan = taken
        at hended hplayed hchain ⊢
      obtain ⟨stop, scan'⟩ := taken
      cases stop with
      | some stop => cases hended
      | none =>
          obtain ⟨rest, hrest, hcourse⟩ := ih scan' hended
          refine ⟨played ++ rest, ?_, .cons hchain hcourse⟩
          rw [← List.append_assoc, ← hplayed]
          exact hrest

end KindScan

namespace Scanning

/-- The scopes of a type are those that follow from the namespaces that are known then. -/
theorem scopes_eq_scopesOf (resource : ResourceType) (s : Scanning World)
    {known : Option (List Namespace)} (hknows : (s.scopes cluster resource).2.Knows known)
    {scopes : List (Option String × String)} {count : Option Nat}
    (hscopes : (s.scopes cluster resource).1 = .ok (scopes, count)) :
    scopes = Survey.scopesOf s.scheduler.namespaces.isIgnored resource known := by
  have hignored := (s.scopes_untouched cluster resource).settings.isIgnored_eq
  unfold Knows at hknows
  rw [hignored] at hknows
  clear hignored
  unfold Survey.scopesOf
  unfold Scanning.scopes NamespaceResolver.resolve at hknows hscopes
  cases hscope : resource.namespaced with
  | false =>
      simp only [hscope, Bool.false_eq_true, if_false, Except.ok.injEq, Prod.mk.injEq] at hscopes ⊢
      exact hscopes.1.symm
  | true =>
      simp only [hscope, if_true] at hknows hscopes ⊢
      cases hsnapshot : s.scheduler.namespaces.snapshot with
      | some kept =>
          simp only [hsnapshot, Except.ok.injEq, Prod.mk.injEq] at hknows hscopes
          obtain ⟨listed, rfl, hkept⟩ := Option.map_eq_some_iff.mp hknows.symm
          rw [← hscopes.1, ← hkept]
          rfl
      | none =>
          simp only [hsnapshot] at hknows hscopes
          generalize cluster.namespaces s.world = result at hknows hscopes
          obtain ⟨answer, world⟩ := result
          cases answer with
          | value listed =>
              simp only [Except.ok.injEq, Prod.mk.injEq] at hknows hscopes
              obtain ⟨answered, rfl, hkept⟩ := Option.map_eq_some_iff.mp hknows.symm
              rw [← hscopes.1, ← hkept]
              rfl
          | failed cause => cases hscopes
          | cutOff => cases hscopes

theorem scopeDeeds_eq (resource : ResourceType) (s : Scanning World)
    {known known' : Option (List Namespace)} (hknows : s.Knows known) {asked : List Exchange}
    {result : Except Stop (List (Option String))}
    (hasked : Survey.Resolved s.scheduler.namespaces.isIgnored resource known asked result known') :
    s.scopeDeeds resource = asked.map fun exchange => .ask exchange.call := by
  unfold Knows at hknows
  unfold scopeDeeds
  cases hasked with
  | clusterWide hscope => simp [hscope]
  | known hscope => simp [hknows]
  | asked hscope => simp [hscope, hknows, Exchange.call]
  | failed hscope => simp [hscope, hknows, Exchange.call]
  | cutOff hscope => simp [hscope, hknows, Exchange.call]

theorem scanKind_course (steps : Nat) (resource : ResourceType) (report : CycleReport)
    (s : Scanning (Journaled World)) {known : Option (List Namespace)} (hknows : s.Knows known)
    (hok : (s.scanKind cluster.journaled engine.journaled steps resource report).1.isOk = true) :
    let scanned := s.scanKind cluster.journaled engine.journaled steps resource report
    ∃ exchanges known', scanned.2.world.exchanges = s.world.exchanges ++ exchanges ∧
      Survey.KindCourse s.scheduler.config.pageSize steps s.scheduler.namespaces.isIgnored resource
        known exchanges (s.kindDeeds cluster.journaled engine.journaled steps resource) known' ∧
      scanned.2.Knows known' := by
  obtain ⟨asked, known', hasks, hresolved, hknows'⟩ := s.scopes_resolved cluster resource hknows
  have hconfig := (s.scopes_untouched cluster.journaled resource).settings.config
  have hasked := s.scopeDeeds_eq resource hknows hresolved
  have hscopes : ∀ scopes count, (s.scopes cluster.journaled resource).1 = .ok (scopes, count) →
      scopes = _ := fun _ _ => s.scopes_eq_scopesOf cluster.journaled resource hknows'
  rw [scanKind] at hok ⊢
  rw [kindDeeds, hasked]
  generalize s.scopes cluster.journaled resource = result
    at hok hasks hresolved hknows' hconfig hscopes ⊢
  obtain ⟨listed, s'⟩ := result
  cases listed with
  | error stop => cases hok
  | ok listed =>
      obtain ⟨scopes, count⟩ := listed
      have hstart := KindScan.takeScopes_course cluster engine resource
        s'.scheduler.config.pageSize steps scopes ⟨s'.scheduler.caches, ∅, {}, s'.world⟩
      have hobserved := KindScan.observed_takeScopes cluster.journaled engine.journaled resource
        s'.scheduler.config.pageSize steps scopes ⟨s'.scheduler.caches, ∅, {}, s'.world⟩
      simp only at hok ⊢
      generalize KindScan.takeScopes cluster.journaled engine.journaled resource
        s'.scheduler.config.pageSize steps scopes ⟨s'.scheduler.caches, ∅, {}, s'.world⟩ = taken
        at hok hstart hobserved ⊢
      obtain ⟨stop, scan⟩ := taken
      cases stop with
      | some stop => cases hok
      | none =>
          obtain ⟨exchanges, hexchanges, hcourse⟩ := hstart rfl
          simp only at hexchanges hobserved
          refine ⟨asked ++ exchanges, known', ?_, ?_, hknows'⟩
          · rw [← List.append_assoc, ← hasks.exchanges_eq, ← hexchanges]
            exact engine.keeps_exchanges.deleteAll _ scan.world
          · rw [← hconfig]
            rw [hscopes scopes count rfl] at hcourse
            simp only [hobserved, hscopes scopes count rfl]
            rw [← List.append_assoc]
            exact .finished hresolved hcourse

theorem scanKinds_course (steps : Nat) (resources : List ResourceType) (report : CycleReport)
    (s : Scanning (Journaled World)) {known : Option (List Namespace)} (hknows : s.Knows known)
    (hok : (s.scanKinds cluster.journaled engine.journaled steps resources report).1.isOk = true) :
    let scanned := s.scanKinds cluster.journaled engine.journaled steps resources report
    ∃ exchanges, scanned.2.world.exchanges = s.world.exchanges ++ exchanges ∧
      Survey.KindsCourse s.scheduler.config.pageSize steps s.scheduler.namespaces.isIgnored known
        resources exchanges
        (s.kindsDeeds cluster.journaled engine.journaled steps resources report) := by
  induction resources generalizing report s known with
  | nil => exact ⟨[], (List.append_nil _).symm, .nil⟩
  | cons resource rest ih =>
      have hfirst := s.scanKind_course cluster engine steps resource report hknows
      have hsettings := (s.scanKind_untouched cluster.journaled engine.journaled steps resource
        report).settings
      rw [scanKinds] at hok ⊢
      rw [kindsDeeds]
      generalize s.scanKind cluster.journaled engine.journaled steps resource report = result
        at hok hfirst hsettings ⊢
      obtain ⟨stop, s'⟩ := result
      cases stop with
      | error stop => cases hok
      | ok report' =>
          obtain ⟨first, known', hexchanges, hcourse, hknows'⟩ := hfirst rfl
          obtain ⟨later, hlater, hcourse'⟩ := ih report' s' hknows' hok
          rw [hsettings.config, hsettings.isIgnored_eq] at hcourse'
          refine ⟨first ++ later, ?_, .cons hcourse hcourse'⟩
          rw [← List.append_assoc, ← hexchanges]
          exact hlater

variable {cluster engine} in
theorem runCycle_course_of_run (steps : Nat) {s : Scanning (Journaled World)}
    {supports : String → String → Bool} {served : List ResourceType} {asked : Journaled World}
    (hasked : asked.exchanges = s.world.exchanges ++ [.discover (.value served)])
    (hrun : Discovery.run cluster.journaled engine.journaled
      (s.dropStaleCaches engine.journaled).world =
        (.ok (Discovery.select supports served), asked))
    (hok : (s.runCycle cluster.journaled engine.journaled steps).1.isOk = true) :
    ∃ exchanges deeds,
      (s.runCycle cluster.journaled engine.journaled steps).2.world.exchanges =
        s.world.exchanges ++ exchanges ∧
      s.deeds cluster.journaled engine.journaled steps = .renew :: deeds ∧
      Survey.Course s.scheduler.config.pageSize steps s.scheduler.namespaces.isIgnored supports
        exchanges deeds := by
  have hsettings := (s.dropStaleCaches_untouched engine.journaled).settings
  let begun := (s.dropStaleCaches engine.journaled).begun asked
  let resources := Discovery.select supports served
  have hignored : begun.scheduler.namespaces.isIgnored = s.scheduler.namespaces.isIgnored :=
    hsettings.isIgnored_eq
  have hlimit : begun.scheduler.config.pageSize = s.scheduler.config.pageSize :=
    congrArg ScannerConfig.pageSize hsettings.config
  have hknows : begun.Knows none := rfl
  have hcourse := begun.scanKinds_course cluster engine steps resources
    { resourceTypes := resources.length } hknows
  rw [runCycle_of_run steps hrun] at hok ⊢
  rw [deeds_of_run steps hrun]
  rw [hignored, hlimit] at hcourse
  generalize scanKinds cluster.journaled engine.journaled steps resources _ begun = scanned
    at hok hcourse ⊢
  obtain ⟨result, s'⟩ := scanned
  cases result with
  | error stop => cases hok
  | ok report =>
      obtain ⟨exchanges, hexchanges, hkinds⟩ := hcourse rfl
      refine ⟨.discover (.value served) :: exchanges, _, ?_, rfl, .completed hkinds⟩
      rw [List.append_cons, ← hasked]
      exact (engine.keeps_exchanges.dropVanished resources report s').trans hexchanges

/-- An attempt that comes through keeps to the course that its answers lay down. -/
theorem runCycle_course (steps : Nat) (s : Scanning (Journaled World))
    (hok : (s.runCycle cluster.journaled engine.journaled steps).1.isOk = true) :
    ∃ exchanges deeds,
      (s.runCycle cluster.journaled engine.journaled steps).2.world.exchanges =
        s.world.exchanges ++ exchanges ∧
      s.deeds cluster.journaled engine.journaled steps = .renew :: deeds ∧
      Survey.Course s.scheduler.config.pageSize steps s.scheduler.namespaces.isIgnored
        (engine.supports (cluster.discover (s.dropStaleCaches engine.journaled).world.world).2)
        exchanges deeds := by
  have hrun := discoveryRun_journaled cluster engine (s.dropStaleCaches engine.journaled).world
  simp only at hrun
  cases hanswer : (cluster.discover (s.dropStaleCaches engine.journaled).world.world).1 with
  | failed cause =>
      rw [hanswer] at hrun
      rw [(runCycle_of_run_eq_error steps hrun).1] at hok
      cases hok
  | cutOff =>
      rw [hanswer] at hrun
      rw [(runCycle_of_run_eq_error steps hrun).1] at hok
      cases hok
  | value served =>
      rw [hanswer] at hrun
      refine runCycle_course_of_run steps ?_ hrun hok
      simp only
      rw [engine.keeps_exchanges.dropStaleCaches s]

end Scanning

end ComplianceScanner
