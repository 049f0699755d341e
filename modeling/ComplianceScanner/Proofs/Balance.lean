import ComplianceScanner.Proofs.Postings
import ComplianceScanner.Proofs.Reconciled

/-!
# The report balances

The numbers of a report can be read off the journal of the attempt. Each object in a page that was
received is validated, skipped, failed at or without a name, each entry of an object that was not listed
is deleted, and the counters grow by just what is reported.
-/

namespace ComplianceScanner

variable {World : Type}

/-! ### Types and namespaces -/

namespace Scanning

variable {cluster : Cluster World} {engine : Engine World} {steps : Nat} {resource : ResourceType}
  {report report' : CycleReport} {s s' : Scanning World}

theorem scopes_snapshot {listed : List (Option String × String)} {count : Option Nat}
    {between : Scanning World}
    (hscopes : s.scopes cluster resource = (.ok (listed, count), between)) :
    (∀ kept, s.scheduler.namespaces.snapshot = some kept →
      between.scheduler.namespaces.snapshot = some kept) ∧
    (resource.namespaced = true ∧
        (∃ kept, between.scheduler.namespaces.snapshot = some kept ∧ count = some kept.length) ∨
      resource.namespaced = false ∧ count = none) := by
  unfold scopes NamespaceResolver.resolve at hscopes
  cases hnamespaced : resource.namespaced with
  | false =>
      simp only [hnamespaced, Bool.false_eq_true, if_false] at hscopes
      cases hscopes
      exact ⟨fun _ hkept => hkept, .inr ⟨rfl, rfl⟩⟩
  | true =>
      simp only [hnamespaced, if_true] at hscopes
      cases hsnapshot : s.scheduler.namespaces.snapshot with
      | some kept =>
          simp only [hsnapshot] at hscopes
          cases hscopes
          exact ⟨fun _ hkept => hsnapshot.trans hkept, .inl ⟨rfl, kept, hsnapshot, rfl⟩⟩
      | none =>
          simp only [hsnapshot] at hscopes
          refine ⟨by simp, .inl ⟨rfl, ?_⟩⟩
          split at hscopes
          · rename_i hresolved
            split at hresolved
            · cases hresolved
              cases hscopes
              exact ⟨_, rfl, rfl⟩
            · cases hresolved
            · cases hresolved
          · cases hscopes

/-- What a successful scan of these kinds reports of types and namespaces. -/
structure ReportsNamespaces (resources : List ResourceType) (report report' : CycleReport)
    (s s' : Scanning World) : Prop where
  resourceTypes : report'.resourceTypes = report.resourceTypes
  keeps : ∀ kept, s.scheduler.namespaces.snapshot = some kept →
    s'.scheduler.namespaces.snapshot = some kept
  counted : resources.any (·.namespaced) = true →
    ∃ kept, s'.scheduler.namespaces.snapshot = some kept ∧ report'.namespaces = kept.length
  uncounted : resources.any (·.namespaced) = false → report'.namespaces = report.namespaces

theorem CameThrough.reportsNamespaces {scopes : List (Option String × String)}
    {count : Option Nat} {between : Scanning World} {scan : KindScan World}
    (h : CameThrough cluster engine steps resource report report' s s' scopes count between scan) :
    ReportsNamespaces [resource] report report' s s' := by
  obtain ⟨hkeeps, hcases⟩ := scopes_snapshot h.scopes_eq
  obtain ⟨hreport, hend⟩ := Prod.mk.inj h.finish_eq
  have hsnapshot : s'.scheduler.namespaces = between.scheduler.namespaces := by
    rw [← hend]
    rfl
  have hnamespaces : report'.namespaces = count.getD report.namespaces := by
    rw [← hreport]
    rfl
  refine ⟨?_, ?_, ?_, ?_⟩
  · rw [← hreport]
    rfl
  · rwa [hsnapshot]
  · intro hany
    obtain ⟨-, kept, hkept, rfl⟩ | ⟨hnot, -⟩ := hcases
    · exact ⟨kept, hsnapshot ▸ hkept, hnamespaces⟩
    · simp [hnot] at hany
  · intro hany
    obtain ⟨hnamespaced, -⟩ | ⟨-, rfl⟩ := hcases
    · simp [hnamespaced] at hany
    · exact hnamespaces

theorem ReportsNamespaces.cons {rest : List ResourceType} {between : CycleReport}
    {t : Scanning World} (h : ReportsNamespaces [resource] report between s t)
    (h' : ReportsNamespaces rest between report' t s') :
    ReportsNamespaces (resource :: rest) report report' s s' where
  resourceTypes := h'.resourceTypes.trans h.resourceTypes
  keeps kept hkept := h'.keeps kept (h.keeps kept hkept)
  counted hany := by
    cases hrest : rest.any (·.namespaced) with
    | true => exact h'.counted hrest
    | false =>
        obtain ⟨kept, hkept, hcount⟩ := h.counted (by simpa [hrest] using hany)
        exact ⟨kept, h'.keeps kept hkept, (h'.uncounted hrest).trans hcount⟩
  uncounted hany := by
    simp only [List.any_cons, Bool.or_eq_false_iff] at hany
    rw [h'.uncounted hany.2, h.uncounted (by simpa using hany.1)]

theorem scanKinds_reportsNamespaces {resources : List ResourceType}
    (hrun : s.scanKinds cluster engine steps resources report = (.ok report', s')) :
    ReportsNamespaces resources report report' s s' := by
  induction resources generalizing report s with
  | nil =>
      cases hrun
      exact ⟨rfl, fun _ hkept => hkept, by simp, fun _ => rfl⟩
  | cons resource rest ih =>
      obtain ⟨between, t, hfirst, hrest⟩ := exists_scanKind_of_scanKinds_cons hrun
      obtain ⟨scopes, count, _, scan, hthrough⟩ := exists_cameThrough hfirst
      exact hthrough.reportsNamespaces.cons (ih hrest)

theorem foldl_dropKind_keeps (engine : Engine World) (caches : List (ResourceKey × Cache))
    (report : CycleReport) (s : Scanning World) :
    let dropped := caches.foldl (fun s (key, cache) => dropKind engine key cache s) (report, s)
    dropped.1.resourceTypes = report.resourceTypes ∧ dropped.1.namespaces = report.namespaces ∧
      dropped.2.scheduler.namespaces = s.scheduler.namespaces := by
  induction caches generalizing report s with
  | nil => exact ⟨rfl, rfl, rfl⟩
  | cons item caches ih => exact ih _ _

/-- A report tells the number of the types, and that of the namespaces if a type has any. -/
theorem dropVanished_keeps (engine : Engine World) (resources : List ResourceType)
    (report : CycleReport) (s : Scanning World) :
    let dropped := s.dropVanished engine resources report
    dropped.1.resourceTypes = report.resourceTypes ∧ dropped.1.namespaces = report.namespaces ∧
      dropped.2.scheduler.namespaces = s.scheduler.namespaces :=
  foldl_dropKind_keeps engine _ report _

theorem runCycle_reportsNamespaces {resources : List ResourceType} {world : World}
    (hdiscovered : Discovery.run cluster engine (s.dropStaleCaches engine).world =
      (.ok resources, world))
    (hrun : s.runCycle cluster engine steps = (.ok report, s')) :
    report.resourceTypes = resources.length ∧
      (resources.any (·.namespaced) = true →
        ∃ kept, s'.scheduler.namespaces.snapshot = some kept ∧ report.namespaces = kept.length) ∧
      (resources.any (·.namespaced) = false → report.namespaces = 0) := by
  obtain ⟨between, t, hkinds, hdropped⟩ := exists_scanKinds_of_runCycle hdiscovered hrun
  have hscanned := scanKinds_reportsNamespaces hkinds
  obtain ⟨htypes, hnamespaces, hkept⟩ := t.dropVanished_keeps engine resources between
  rw [hdropped] at htypes hnamespaces hkept
  rw [htypes, hnamespaces, hkept]
  exact ⟨hscanned.resourceTypes, hscanned.counted, hscanned.uncounted⟩

end Scanning

/-! ### The namespaces that were listed -/

/-- What is known of the namespaces in the end was known or has been answered. -/
theorem Survey.OfKind.answered {limit steps : Nat} {ignored : String → Bool}
    {resource : ResourceType} {known known' : Option (List Namespace)} {exchanges : List Exchange}
    {stop : Option Stop} (hkind : OfKind limit steps ignored resource known exchanges stop known') :
    ∀ listed, known' = some listed →
      known = some listed ∨ .namespaces (.value listed) ∈ exchanges := by
  cases hkind with
  | unresolved hasked => cases hasked <;> simp
  | listed hasked hlisted => cases hasked <;> simp_all

namespace Scanning

variable (cluster : Cluster World) (engine : Engine World)

theorem scanKinds_knows (steps : Nat) (resources : List ResourceType) (report : CycleReport)
    (s : Scanning (Journaled World)) {known : Option (List Namespace)} (hknows : s.Knows known) :
    let scanned := s.scanKinds cluster.journaled engine.journaled steps resources report
    ∃ exchanges known', scanned.2.world.exchanges = s.world.exchanges ++ exchanges ∧
      scanned.2.Knows known' ∧
      ∀ listed, known' = some listed →
        known = some listed ∨ .namespaces (.value listed) ∈ exchanges := by
  induction resources generalizing report s known with
  | nil => exact ⟨[], known, (List.append_nil _).symm, hknows, fun _ heq => .inl heq⟩
  | cons resource rest ih =>
      obtain ⟨first, between, hasks, hkind, hknows'⟩ :=
        s.scanKind_ofKind cluster engine steps resource report hknows
      rw [scanKinds]
      generalize s.scanKind cluster.journaled engine.journaled steps resource report = result
        at hasks hkind hknows' ⊢
      obtain ⟨stop, s'⟩ := result
      cases stop with
      | error stop => exact ⟨first, between, hasks.exchanges_eq, hknows', hkind.answered⟩
      | ok report' =>
          obtain ⟨later, known', hlater, hend, hanswered⟩ := ih report' s' hknows'
          refine ⟨first ++ later, known', ?_, hend, fun listed heq => ?_⟩
          · simp only
            rw [hlater, hasks.exchanges_eq, List.append_assoc]
          · rcases hanswered listed heq with hbetween | hmem
            · refine (hkind.answered listed hbetween).imp_right fun hmem => ?_
              exact List.mem_append_left later hmem
            · exact .inr (List.mem_append_right first hmem)

theorem runCycle_answered {steps : Nat} {s s' : Scanning (Journaled World)}
    {resources : List ResourceType} {asked : Journaled World} {report : CycleReport}
    (hdiscovered : Discovery.run cluster.journaled engine.journaled
      (s.dropStaleCaches engine.journaled).world = (.ok resources, asked))
    (hrun : s.runCycle cluster.journaled engine.journaled steps = (.ok report, s')) :
    ∃ exchanges, s'.world.exchanges = s.world.exchanges ++ exchanges ∧
      ∀ kept, s'.scheduler.namespaces.snapshot = some kept →
        ∃ listed, .namespaces (.value listed) ∈ exchanges ∧
          kept = Survey.kept s'.scheduler.namespaces.isIgnored listed := by
  have hstale := engine.keeps_exchanges.dropStaleCaches s
  have hasked : ∃ answer, asked.exchanges = s.world.exchanges ++ [.discover answer] := by
    have hanswer := discoveryRun_journaled cluster engine (s.dropStaleCaches engine.journaled).world
    rw [hdiscovered] at hanswer
    exact ⟨_, by rw [(Prod.mk.inj hanswer).2, hstale]⟩
  obtain ⟨answer, hasked⟩ := hasked
  have hknows : ((s.dropStaleCaches engine.journaled).begun asked).Knows none := rfl
  obtain ⟨exchanges, known, hexchanges, hend, hanswered⟩ := scanKinds_knows cluster engine steps
    resources { resourceTypes := resources.length } _ hknows
  obtain ⟨between, t, hkinds, hdropped⟩ := exists_scanKinds_of_runCycle hdiscovered hrun
  rw [hkinds] at hexchanges hend
  have hvanished := engine.keeps_exchanges.dropVanished resources between t
  have hnamespaces := (t.dropVanished_keeps engine.journaled resources between).2.2
  rw [hdropped] at hvanished hnamespaces
  refine ⟨.discover answer :: exchanges, ?_, fun kept hkept => ?_⟩
  · rw [hvanished, hexchanges]
    change asked.exchanges ++ exchanges = _
    rw [hasked, List.append_assoc]
    rfl
  · rw [hnamespaces] at hkept ⊢
    obtain ⟨listed, rfl, hlisted⟩ := Option.map_eq_some_iff.mp (hend.symm.trans hkept)
    have hmem := (hanswered listed rfl).resolve_left (by simp)
    exact ⟨listed, List.mem_cons_of_mem _ hmem, hlisted.symm⟩

/-! ### The whole report -/

/-- A report as it can be read off the requests and calls of its attempt. `held` are the caches that
are left of an earlier generation. -/
structure Balanced (s s' : Scanning (Journaled World)) (held : CacheSet)
    (discovered : List ResourceType) (exchanges : List Exchange) (calls : List Engine.Call)
    (skipped : List ObjectView) (gone : List (Identity × CacheEntry)) (report : CycleReport) :
    Prop where
  exchanges_eq : s'.world.exchanges = s.world.exchanges ++ exchanges
  calls_eq : s'.world.calls = s.world.calls ++ calls
  /-- Each listed object with a name was skipped or judged, and no other was. -/
  named_perm : ((exchanges.flatMap Exchange.items).filter Exchange.isNamed).Perm
    ((skipped ++ (Engine.successes calls ++ Engine.failures calls)).map
      fun view => (view.resource, view.object))
  gone_nodup : gone.Nodup
  mem_gone : ∀ identity entry, (identity, entry) ∈ gone ↔
    held.Holds identity entry ∧ identity.subject ∉ listedSubjects exchanges
  removed : ∀ identity entry, (identity, entry) ∈ gone →
    s'.scheduler.caches.entryFor? identity.subject = none
  resourceTypes_eq : report.resourceTypes = discovered.length
  namespaces_eq : discovered.any (·.namespaced) = true →
    ∃ listed, .namespaces (.value listed) ∈ exchanges ∧
      s'.scheduler.namespaces.snapshot =
        some (listed.filter fun ns => !s.scheduler.namespaces.isIgnored ns.name) ∧
      s'.scheduler.namespaces.snapshot.map List.length = some report.namespaces
  namespaces_eq_zero : discovered.any (·.namespaced) = false → report.namespaces = 0
  objectsSeen_eq : report.objectsSeen = (exchanges.flatMap Exchange.items).length
  objectsSeen_eq_add : report.objectsSeen =
    report.validated + report.cacheHits + report.engineErrors +
      (exchanges.flatMap Exchange.items).countP fun item => !Exchange.isNamed item
  validated_eq : report.validated = (Engine.successes calls).length
  cacheHits_eq : report.cacheHits = skipped.length
  engineErrors_eq : report.engineErrors = (Engine.failures calls).length
  deleted_eq : report.deleted = gone.length

/-- The counters have grown by the numbers of a report, each under the kind of its object. -/
structure Increments (before after : Metrics) (calls : List Engine.Call)
    (skipped : List ObjectView) (gone : List (Identity × CacheEntry)) (report : CycleReport) :
    Prop where
  validated : before.validated.Counts after.validated
    ((Engine.successes calls).map ObjectView.kindLabel)
  cacheHits : before.cacheHits.Counts after.cacheHits (skipped.map ObjectView.kindLabel)
  engineErrors : before.engineErrors.Counts after.engineErrors
    ((Engine.failures calls).map ObjectView.kindLabel)
  deleted : before.deleted.Counts after.deleted (gone.map fun item => item.1.kindLabel)
  validated_total : before.validated.Fits ((Engine.successes calls).map ObjectView.kindLabel) →
    after.validated.total = before.validated.total + report.validated
  cacheHits_total : before.cacheHits.Fits (skipped.map ObjectView.kindLabel) →
    after.cacheHits.total = before.cacheHits.total + report.cacheHits
  engineErrors_total : before.engineErrors.Fits
      ((Engine.failures calls).map ObjectView.kindLabel) →
    after.engineErrors.total = before.engineErrors.total + report.engineErrors
  deleted_total : before.deleted.Fits (gone.map fun item => item.1.kindLabel) →
    after.deleted.total = before.deleted.total + report.deleted

variable {cluster engine}

namespace JournalOf

variable {steps : Nat} {s s' : Scanning (Journaled World)} {exchanges : List Exchange}
  {calls : List Engine.Call} {skipped : List ObjectView}
  (h : JournalOf cluster engine steps s s' exchanges calls skipped)
include h

theorem report_tally {report : CycleReport}
    (hrun : s.runCycle cluster.journaled engine.journaled steps = (.ok report, s')) :
    report.tally =
      { seen := (exchanges.flatMap Exchange.items).length
        validated := (Engine.successes calls).length
        hits := skipped.length
        failures := (Engine.failures calls).length } := by
  have htally := s.runCycle_tally cluster.journaled engine.journaled steps
    (congrArg Prod.fst hrun)
  have hseen := congrArg List.length h.asks.shown_eq
  rw [Deed.shown, List.length_map] at hseen
  rw [htally, Moment.tallyAll_eq, hseen, h.successes_eq, h.failures_eq, h.skipped_eq]

theorem length_items :
    (exchanges.flatMap Exchange.items).length =
      (Engine.successes calls).length + skipped.length + (Engine.failures calls).length +
        (exchanges.flatMap Exchange.items).countP fun item => !Exchange.isNamed item := by
  have hnamed := h.named_perm.length_eq
  rw [← List.countP_eq_length_filter] at hnamed
  simp only [List.length_map, List.length_append] at hnamed
  have hsplit : (exchanges.flatMap Exchange.items).length = _ :=
    List.length_eq_countP_add_countP Exchange.isNamed
  simp only [decide_not, Bool.decide_eq_true] at hsplit
  omega

/-- What a successful attempt drops is what was held and not listed. -/
theorem entriesBeyond_perm (hkeyed : (s.dropStaleCaches engine.journaled).moment.caches.Keyed)
    {report : CycleReport}
    (hrun : s.runCycle cluster.journaled engine.journaled steps = (.ok report, s')) :
    let start := (s.dropStaleCaches engine.journaled).moment
    ((start.entriesBeyond (listedSubjects exchanges)).map bySubject).Perm
      ((start.droppedAll cluster.journaled engine.journaled
        (s.deeds cluster.journaled engine.journaled steps).tail).map bySubject) := by
  intro start
  have hlaid := s.deeds_laidOut cluster.journaled engine.journaled steps
  obtain ⟨later, hdeeds, hlater⟩ := s.deeds_eq_renew_cons cluster.journaled engine.journaled steps
  have hsubjects := h.subjects_eq
  rw [hdeeds, List.tail_cons] at hsubjects
  rw [hrun, hdeeds] at hlaid
  rw [hdeeds, List.tail_cons, Moment.map_bySubject_entriesBeyond, ← hsubjects]
  apply Moment.heldBeyond_perm_droppedAll cluster.journaled engine.journaled hkeyed hlaid
  intro deed hdeed
  have hne : deed ≠ .renew := fun heq => hlater (heq ▸ hdeed)
  exact hlaid.spares deed (List.mem_cons_of_mem _ hdeed) hne

theorem entryFor?_eq_none (hkeyed : (s.dropStaleCaches engine.journaled).moment.caches.Keyed)
    {report : CycleReport}
    (hrun : s.runCycle cluster.journaled engine.journaled steps = (.ok report, s'))
    {subject : Subject} (hsubject : subject ∉ listedSubjects exchanges) :
    s'.scheduler.caches.entryFor? subject = none := by
  have hlaid := s.deeds_laidOut cluster.journaled engine.journaled steps
  have hmoment := s.runCycle_moment cluster.journaled engine.journaled steps
  obtain ⟨later, hdeeds, -⟩ := s.deeds_eq_renew_cons cluster.journaled engine.journaled steps
  have hsubjects := h.subjects_eq
  rw [hdeeds, List.tail_cons] at hsubjects
  rw [hrun, hdeeds] at hlaid
  rw [hrun, hdeeds, Moment.applyAll_cons, ← dropStaleCaches_moment cluster.journaled] at hmoment
  change s'.moment.caches.entryFor? subject = none
  rw [hmoment]
  exact Moment.entryFor?_applyAll_of_completed _ _ hkeyed hlaid (hsubjects ▸ hsubject)

end JournalOf

/-- Whatever is cached, whatever the engine says and whatever generation it has come to, the report of
a successful attempt balances, and the counters grow by what it says. -/
theorem report_balanced (cluster : Cluster World) (engine : Engine World) (steps : Nat)
    {s s' : Scanning (Journaled World)} (hreached : s.Reached) {report : CycleReport}
    (hrun : s.runCycle cluster.journaled engine.journaled steps = (.ok report, s')) :
    ∃ discovered asked exchanges calls skipped gone,
      Discovery.run cluster.journaled engine.journaled
        (s.dropStaleCaches engine.journaled).world = (.ok discovered, asked) ∧
      Balanced s s' (s.dropStaleCaches engine.journaled).scheduler.caches discovered exchanges calls
        skipped gone report ∧
      Increments s.scheduler.metrics s'.scheduler.metrics calls skipped gone report := by
  obtain ⟨hkeyed, -⟩ := hreached.keyed_and_proven
  have hstart := dropStaleCaches_keyed cluster.journaled engine.journaled hkeyed
  obtain ⟨exchanges, calls, skipped, hjournal⟩ := exists_journalOf cluster engine steps hrun hkeyed
  let gone := (s.dropStaleCaches engine.journaled).moment.entriesBeyond (listedSubjects exchanges)
  have hgone := hjournal.entriesBeyond_perm hstart hrun
  obtain ⟨hseen, hvalidated, hhits, herrors⟩ := Tally.mk.inj (hjournal.report_tally hrun)
  have hdeleted : report.deleted = gone.length := by
    have hcount := s.runCycle_deleted cluster.journaled engine.journaled steps
      (congrArg Prod.fst hrun)
    rw [hcount]
    simpa using hgone.length_eq.symm
  obtain ⟨discovered, asked, hdiscovered⟩ := exists_discovered hrun
  refine ⟨discovered, asked, exchanges, calls, skipped, gone, hdiscovered, ?_, ?_⟩
  · obtain ⟨htypes, hnamespaces, hnone⟩ := runCycle_reportsNamespaces hdiscovered hrun
    obtain ⟨exchanges', hexchanges', hanswered⟩ :=
      runCycle_answered cluster engine hdiscovered hrun
    have hsame : exchanges' = exchanges :=
      List.append_cancel_left (hexchanges'.symm.trans hjournal.asks.exchanges_eq)
    have hignored : s'.scheduler.namespaces.isIgnored = s.scheduler.namespaces.isIgnored := by
      have huntouched := runCycle_untouched cluster.journaled engine.journaled steps s
      rw [hrun] at huntouched
      exact huntouched.settings.isIgnored_eq
    constructor
    case exchanges_eq => exact hjournal.asks.exchanges_eq
    case calls_eq => exact hjournal.calls_eq
    case named_perm => exact hjournal.named_perm
    case gone_nodup => exact Moment.nodup_entriesBeyond hstart _
    case mem_gone => exact fun _ _ => Moment.mem_entriesBeyond
    case removed =>
      intro identity entry hitem
      exact hjournal.entryFor?_eq_none hstart hrun (Moment.mem_entriesBeyond.mp hitem).2
    case resourceTypes_eq => exact htypes
    case namespaces_eq =>
      intro hany
      obtain ⟨kept, hkept, hlength⟩ := hnamespaces hany
      obtain ⟨listed, hlisted, rfl⟩ := hanswered kept hkept
      rw [hignored] at hkept hlength
      refine ⟨listed, hsame ▸ hlisted, hkept, ?_⟩
      rw [hkept, hlength]
      rfl
    case namespaces_eq_zero => exact hnone
    case objectsSeen_eq => exact hseen
    case objectsSeen_eq_add =>
      have hlength := hjournal.length_items
      omega
    case validated_eq => exact hvalidated
    case cacheHits_eq => exact hhits
    case engineErrors_eq => exact herrors
    case deleted_eq => exact hdeleted
  · have hposted := runCycle_posted_of_ok cluster.journaled engine.journaled steps hrun hkeyed
    have hlabels := hgone.map fun item => item.1.key.display
    rw [List.map_map, List.map_map] at hlabels
    have hvalidations := hposted.validated
    have hskips := hposted.cacheHits
    have hfailures := hposted.engineErrors
    have hdeletions := hposted.deleted.perm hlabels.symm
    rw [← hjournal.successes_eq] at hvalidations
    rw [← hjournal.skipped_eq] at hskips
    rw [← hjournal.failures_eq] at hfailures
    constructor
    case validated => exact hvalidations
    case cacheHits => exact hskips
    case engineErrors => exact hfailures
    case deleted => exact hdeletions
    case validated_total =>
      intro hfits
      rw [hvalidations.total_eq hfits, List.length_map, hvalidated]
    case cacheHits_total =>
      intro hfits
      rw [hskips.total_eq hfits, List.length_map, hhits]
    case engineErrors_total =>
      intro hfits
      rw [hfailures.total_eq hfits, List.length_map, herrors]
    case deleted_total =>
      intro hfits
      rw [hdeletions.total_eq hfits, List.length_map, hdeleted]

end Scanning

namespace Sample

theorem eq_ok_of_toOption_eq {run : Except Stop CycleReport × World} {report : CycleReport}
    (hreport : run.1.toOption = some report) : run = (.ok report, run.2) := by
  refine Prod.ext ?_ rfl
  cases hresult : run.1 with
  | error stop =>
      rw [hresult] at hreport
      cases hreport
  | ok found =>
      rw [hresult] at hreport
      exact congrArg _ (Option.some.inj hreport)

/-- What is listed beside the workload that is known already: one object is new, the engine fails at
another and a third has no name. -/
def joined : List Object :=
  [{ web "uid-3" "1" with name := some "worker" }, api, { api with name := none }]

theorem report_balanced_migrated :
    let turned := { migrated with
      world :=
        { migrated.world with
          world := (servingV2 (web "uid-1" "1" :: joined),
            ({ unsupportedKinds := [], failing := ["api"] } : StandIn)) } }
    let run := attempted (servingV2 (web "uid-1" "1" :: joined)) ["api"] 2 migrated
    let report : CycleReport :=
      { resourceTypes := 1, namespaces := 1, objectsSeen := 4, validated := 1, cacheHits := 1,
        engineErrors := 1, deleted := 1 }
    turned.Reached ∧ run.1 = .ok report ∧
      ∃ discovered held exchanges calls skipped gone,
        Scanning.Balanced turned run.2 held discovered exchanges calls skipped gone report ∧
        Scanning.Increments migrated.scheduler.metrics run.2.scheduler.metrics calls skipped gone
          report := by
  intro turned run report
  have hreached : turned.Reached := .turn _ reached_migrated
  have hrun : run = (.ok report, run.2) := eq_ok_of_toOption_eq (by decide +kernel)
  obtain ⟨discovered, -, exchanges, calls, skipped, gone, -, hbalanced, hincrements⟩ :=
    Scanning.report_balanced ScriptedCluster.asCluster.beside StandIn.asEngine.beside 2 hreached hrun
  exact ⟨hreached, congrArg Prod.fst hrun, discovered, _, exchanges, calls, skipped, gone, hbalanced,
    hincrements⟩

end Sample

end ComplianceScanner
