import ComplianceScanner.Proofs.Counters
import ComplianceScanner.Proofs.Reached
import ComplianceScanner.Proofs.Verdicts

/-!
# What an attempt posts

Verdicts and evictions are posted to the counters kind by kind, when the listing of the kind has come to
its end. So an attempt posts what its deeds come to up to some point; the rest is the scan of the one
kind that it broke off at.
-/

namespace ComplianceScanner

variable {World : Type}

/-- The label that an object is counted under. -/
def ObjectView.kindLabel (view : ObjectView) : String := view.resource.key.display

def Identity.kindLabel (identity : Identity) : String := identity.subject.key.display

namespace Moment

variable (cluster : Cluster World) (engine : Engine World)

/-- Between these metrics just these deeds are posted: each verdict under the kind of its object, and
each entry that is dropped under its own kind. -/
structure Posted (m : Moment World) (deeds : List Deed) (before after : Metrics) : Prop where
  validated : before.validated.Counts after.validated
    ((m.met cluster engine .validated deeds).map ObjectView.kindLabel)
  cacheHits : before.cacheHits.Counts after.cacheHits
    ((m.met cluster engine .skipped deeds).map ObjectView.kindLabel)
  engineErrors : before.engineErrors.Counts after.engineErrors
    ((m.met cluster engine .failed deeds).map ObjectView.kindLabel)
  deleted : before.deleted.Counts after.deleted
    ((m.droppedAll cluster engine deeds).map fun item => item.1.kindLabel)

namespace Posted

variable {cluster engine} {m : Moment World} {deeds later : List Deed} {a b c : Metrics}

theorem nil (m : Moment World) (metrics : Metrics) :
    m.Posted cluster engine [] metrics metrics where
  validated := .refl _
  cacheHits := .refl _
  engineErrors := .refl _
  deleted := .refl _

theorem ask (call : Cluster.Call) (m : Moment World) (metrics : Metrics) :
    m.Posted cluster engine [.ask call] metrics metrics where
  validated := .refl _
  cacheHits := .refl _
  engineErrors := .refl _
  deleted := .refl _

theorem append (h : m.Posted cluster engine deeds a b)
    (h' : (m.applyAll cluster engine deeds).Posted cluster engine later b c) :
    m.Posted cluster engine (deeds ++ later) a c where
  validated := by
    rw [met_append, List.map_append]
    exact h.validated.trans h'.validated
  cacheHits := by
    rw [met_append, List.map_append]
    exact h.cacheHits.trans h'.cacheHits
  engineErrors := by
    rw [met_append, List.map_append]
    exact h.engineErrors.trans h'.engineErrors
  deleted := by
    rw [droppedAll_append, List.map_append]
    exact h.deleted.trans h'.deleted

end Posted

variable {cluster engine} {m : Moment World} {deeds : List Deed} {resource : ResourceType}

theorem map_kindLabel_met (hscan : ∀ deed ∈ deeds, deed.Scans resource) (verdict : Verdict) :
    (m.met cluster engine verdict deeds).map ObjectView.kindLabel =
      List.replicate (m.met cluster engine verdict deeds).length resource.key.display := by
  rw [List.eq_replicate_iff, List.length_map]
  refine ⟨rfl, fun label hlabel => ?_⟩
  obtain ⟨view, hview, rfl⟩ := List.mem_map.mp hlabel
  have hresource : view.resource = resource :=
    hscan _ (take_mem_of_mem_met cluster engine hview)
  rw [ObjectView.kindLabel, hresource]

theorem map_kindLabel_of_forall_get? {entries : List (Identity × CacheEntry)} {cache : Cache}
    {key : ResourceKey} (hkeyed : cache.Keyed key)
    (hentries : ∀ identity entry, (identity, entry) ∈ entries → cache.get? identity = some entry) :
    entries.map (fun item => item.1.kindLabel) = List.replicate entries.length key.display := by
  rw [List.eq_replicate_iff, List.length_map]
  refine ⟨rfl, fun label hlabel => ?_⟩
  obtain ⟨⟨identity, entry⟩, hitem, rfl⟩ := List.mem_map.mp hlabel
  rw [Identity.kindLabel, (hkeyed identity entry (hentries identity entry hitem)).2]

end Moment

/-! ### Kind by kind -/

namespace Scanning

variable {cluster : Cluster World} {engine : Engine World} {steps : Nat} {resource : ResourceType}
  {report report' : CycleReport} {s s' : Scanning World} {stop : Stop}

theorem scanKind_metrics_of_error
    (hrun : s.scanKind cluster engine steps resource report = (.error stop, s')) :
    s'.scheduler.metrics = s.scheduler.metrics := by
  have hmetrics := (s.scopes_frame cluster resource).1
  rw [scanKind] at hrun
  generalize s.scopes cluster resource = result at hrun hmetrics
  obtain ⟨listed, between⟩ := result
  cases listed with
  | error stop =>
      cases hrun
      exact hmetrics
  | ok listed =>
      simp only at hrun
      split at hrun
      · cases hrun
        exact hmetrics
      · cases hrun

namespace CameThrough

variable {scopes : List (Option String × String)} {count : Option Nat} {between : Scanning World}
  {scan : KindScan World}
  (h : CameThrough cluster engine steps resource report report' s s' scopes count between scan)
include h

theorem metrics_eq :
    s'.scheduler.metrics =
      (s.scheduler.countKind resource.key.display scan.tally
        ((scan.caches.cacheFor resource).unobserved scan.observed).length
        ((scan.caches.cacheFor resource).keepObserved scan.observed).size).metrics := by
  have hmetrics := (s.scopes_frame cluster resource).1
  rw [h.scopes_eq] at hmetrics
  have hfinish := congrArg (·.2.scheduler.metrics) h.finish_eq
  simp only [Scheduler.countKind, ← hmetrics]
  exact hfinish.symm

theorem met_eq (verdict : Verdict) :
    s.moment.met cluster engine verdict (s.kindDeeds cluster engine steps resource) =
      s.moment.met cluster engine verdict
        (scanDeeds cluster engine steps resource scopes s between) := by
  rw [h.kindDeeds_eq, Moment.met_append]
  exact List.append_nil _

theorem posted (hkeyed : s.scheduler.caches.Keyed) :
    s.moment.Posted cluster engine (s.kindDeeds cluster engine steps resource)
      s.scheduler.metrics s'.scheduler.metrics := by
  have htally := h.tally_eq
  have hscans := scans_scanDeeds cluster engine steps resource scopes s between
  rw [Moment.tallyAll_eq] at htally
  have hcaches : scan.caches.Keyed := by
    have hmoment := congrArg Moment.caches h.moment_eq
    change scan.caches = _ at hmoment
    rw [hmoment]
    exact Moment.applyAll_keyed cluster engine hkeyed _
  let gone := (scan.caches.cacheFor resource).unobserved scan.observed
  have hgone : gone.map (fun item => item.1.kindLabel) =
      List.replicate gone.length resource.key.display := by
    apply Moment.map_kindLabel_of_forall_get? (hcaches.cacheFor resource)
    intro identity entry hitem
    exact ((Cache.mem_unobserved _ _ _ _).mp hitem).1
  constructor
  · rw [h.metrics_eq, h.met_eq, Moment.map_kindLabel_met hscans, htally]
    exact CounterFamily.counts_add _ _ _
  · rw [h.metrics_eq, h.met_eq, Moment.map_kindLabel_met hscans, htally]
    exact CounterFamily.counts_add _ _ _
  · rw [h.metrics_eq, h.met_eq, Moment.map_kindLabel_met hscans, htally]
    exact CounterFamily.counts_add _ _ _
  · rw [h.metrics_eq, h.droppedAll_eq, hgone]
    exact CounterFamily.counts_add _ _ _

end CameThrough

/-- The kind that an attempt broke off at: those before it were listed to their ends. -/
def BrokenOffAt (cluster : Cluster World) (engine : Engine World) (steps : Nat)
    (resources : List ResourceType) (start : Moment World) (done cut : List Deed) : Prop :=
  ∃ (earlier : List ResourceType) (resource : ResourceType) (todo : List ResourceType)
      (between : Scanning World) (report : CycleReport),
    resources = earlier ++ resource :: todo ∧
    between.moment = start.applyAll cluster engine done ∧
    (between.scanKind cluster engine steps resource report).1.isOk = false ∧
    cut = between.kindDeeds cluster engine steps resource ∧
    ∀ view, .take view ∈ done → view.resource ∈ earlier

theorem BrokenOffAt.cons {resources : List ResourceType} {start : Moment World}
    {first done cut : List Deed} (hfirst : ∀ view, .take view ∈ first → view.resource = resource)
    (h : BrokenOffAt cluster engine steps resources (start.applyAll cluster engine first) done
      cut) :
    BrokenOffAt cluster engine steps (resource :: resources) start (first ++ done) cut := by
  obtain ⟨earlier, broken, todo, between, report, rfl, hmoment, hstopped, hcut, hdone⟩ := h
  refine ⟨resource :: earlier, broken, todo, between, report, rfl, ?_, hstopped, hcut, ?_⟩
  · rw [hmoment, Moment.applyAll_append]
  · intro view htake
    rcases List.mem_append.mp htake with htake | htake
    · exact List.mem_cons.mpr (.inl (hfirst view htake))
    · exact List.mem_cons_of_mem resource (hdone view htake)

/-- The scans of the kinds are posted one by one, up to the first that breaks off. -/
theorem scanKinds_posted (cluster : Cluster World) (engine : Engine World) (steps : Nat)
    (resources : List ResourceType) (report : CycleReport) (s : Scanning World)
    (hkeyed : s.scheduler.caches.Keyed) :
    let scanned := s.scanKinds cluster engine steps resources report
    ∃ done cut, s.kindsDeeds cluster engine steps resources report = done ++ cut ∧
      s.moment.Posted cluster engine done s.scheduler.metrics scanned.2.scheduler.metrics ∧
      (scanned.1.isOk = true ∧ cut = [] ∨
        scanned.1.isOk = false ∧
          BrokenOffAt cluster engine steps resources s.moment done cut) := by
  induction resources generalizing report s with
  | nil => exact ⟨[], [], rfl, .nil _ _, .inl ⟨rfl, rfl⟩⟩
  | cons resource rest ih =>
      have hmoment := s.scanKind_moment cluster engine steps resource report
      rw [scanKinds, kindsDeeds]
      cases hrun : s.scanKind cluster engine steps resource report with
      | mk result s' =>
          rw [hrun] at hmoment
          cases result with
          | error stop =>
              refine ⟨[], s.kindDeeds cluster engine steps resource, List.append_nil _, ?_, .inr ?_⟩
              · have hmetrics := scanKind_metrics_of_error hrun
                simp only
                rw [hmetrics]
                exact .nil _ _
              · refine ⟨rfl, [], resource, rest, s, report, rfl, rfl, ?_, rfl, by simp⟩
                rw [hrun]
                rfl
          | ok report' =>
              obtain ⟨scopes, count, between, scan, hthrough⟩ := exists_cameThrough hrun
              have hfirst := hthrough.posted hkeyed
              have hkeyed' : s'.scheduler.caches.Keyed := by
                change s'.moment.caches.Keyed
                rw [hmoment]
                exact Moment.applyAll_keyed cluster engine hkeyed _
              obtain ⟨done, cut, hdeeds, hposted, hend⟩ := ih report' s' hkeyed'
              rw [hmoment] at hposted hend
              refine ⟨s.kindDeeds cluster engine steps resource ++ done, cut, ?_,
                hfirst.append hposted, ?_⟩
              · simp only
                rw [hdeeds, List.append_assoc]
              · refine hend.imp_right (And.imp_right fun hbroken => hbroken.cons ?_)
                intro view htake
                rw [hthrough.kindDeeds_eq] at htake
                exact scans_scanDeeds cluster engine steps resource scopes s between _
                  (by simpa using htake)

/-! ### The whole attempt -/

theorem foldl_removeCached_eq (caches : List (ResourceKey × Cache)) (metrics : Metrics) :
    caches.foldl (fun metrics (key, _) => metrics.removeCached key.display) metrics =
      { metrics with
        cached := caches.foldl (fun cached (key, _) => cached.erase key.display)
          metrics.cached } := by
  induction caches generalizing metrics with
  | nil => rfl
  | cons item caches ih => exact ih _

/-- What goes for a new generation is not counted. -/
theorem posted_dropStaleCaches {m : Moment World} {deeds : List Deed} {metrics : Metrics}
    (h : m.Posted cluster engine deeds (s.dropStaleCaches engine).scheduler.metrics metrics) :
    m.Posted cluster engine deeds s.scheduler.metrics metrics := by
  have hcounters : ∃ cached, (s.dropStaleCaches engine).scheduler.metrics =
      { s.scheduler.metrics with cached } := by
    unfold dropStaleCaches
    simp only
    split
    · exact ⟨_, rfl⟩
    · exact ⟨_, foldl_removeCached_eq _ _⟩
  obtain ⟨cached, hcached⟩ := hcounters
  rw [hcached] at h
  exact ⟨h.validated, h.cacheHits, h.engineErrors, h.deleted⟩

theorem foldl_dropKind_counters (caches : List (ResourceKey × Cache))
    (hkeyed : ∀ item ∈ caches, item.2.Keyed item.1) (report : CycleReport) (s : Scanning World) :
    let dropped := (caches.foldl (fun s (key, cache) => dropKind engine key cache s)
      (report, s)).2.scheduler.metrics
    dropped.validated = s.scheduler.metrics.validated ∧
      dropped.cacheHits = s.scheduler.metrics.cacheHits ∧
      dropped.engineErrors = s.scheduler.metrics.engineErrors ∧
      s.scheduler.metrics.deleted.Counts dropped.deleted
        ((entriesOf caches).map fun item => item.1.kindLabel) := by
  induction caches generalizing report s with
  | nil => exact ⟨rfl, rfl, rfl, .refl _⟩
  | cons item caches ih =>
      obtain ⟨hitem, hrest⟩ := List.forall_mem_cons.mp hkeyed
      have hlabels : item.2.toList.map (fun entry => entry.1.kindLabel) =
          List.replicate item.2.size item.1.display := by
        have hsize : item.2.size = item.2.toList.length := Std.ExtTreeMap.length_toList.symm
        rw [hsize]
        apply Moment.map_kindLabel_of_forall_get? hitem
        intro identity entry hentry
        exact (Cache.mem_toList _ _ _).mp hentry
      obtain ⟨hvalidated, hhits, herrors, hdeleted⟩ :=
        ih hrest _ (dropKind engine item.1 item.2 (report, s)).2
      refine ⟨hvalidated, hhits, herrors, ?_⟩
      rw [entriesOf, List.flatMap_cons, List.map_append, hlabels]
      exact (CounterFamily.counts_add _ _ _).trans hdeleted

theorem dropVanished_posted (resources : List ResourceType) (report : CycleReport)
    (hkeyed : s.scheduler.caches.Keyed) :
    s.moment.Posted cluster engine [.retire (resources.map (·.key))] s.scheduler.metrics
      (s.dropVanished engine resources report).2.scheduler.metrics := by
  let vanished := s.scheduler.caches.vanished (resources.map (·.key))
  have hvanished : ∀ item ∈ vanished, item.2.Keyed item.1 := by
    rintro ⟨key, cache⟩ hitem
    exact hkeyed key cache ((CacheSet.mem_vanished _ _ _ _).mp hitem).1
  obtain ⟨hvalidated, hhits, herrors, hdeleted⟩ := foldl_dropKind_counters vanished
    hvanished report
    { s with
      scheduler :=
        { s.scheduler with caches := s.scheduler.caches.retain (resources.map (·.key)) } }
  let live := resources.map (·.key)
  let metrics := (s.dropVanished engine resources report).2.scheduler.metrics
  have hmet : ∀ verdict, s.moment.met cluster engine verdict [.retire live] = [] := fun _ => rfl
  have hdropped : s.moment.droppedAll cluster engine [.retire live] = entriesOf vanished :=
    List.append_nil _
  change metrics.validated = _ at hvalidated
  change metrics.cacheHits = _ at hhits
  change metrics.engineErrors = _ at herrors
  constructor
  · rw [hmet, hvalidated]
    exact .refl _
  · rw [hmet, hhits]
    exact .refl _
  · rw [hmet, herrors]
    exact .refl _
  · rw [hdropped]
    exact hdeleted

/-- An attempt that succeeds posts all its deeds but for the look at the generation. One that fails
posts its deeds up to the kind that it broke off at, if it came to any. -/
theorem runCycle_posted (cluster : Cluster World) (engine : Engine World) (steps : Nat)
    (s : Scanning World) (hkeyed : s.scheduler.caches.Keyed) :
    let run := s.runCycle cluster engine steps
    let start := (s.dropStaleCaches engine).moment
    ∃ done cut, s.deeds cluster engine steps = .renew :: .ask .discover :: (done ++ cut) ∧
      start.Posted cluster engine (.ask .discover :: done) s.scheduler.metrics
        run.2.scheduler.metrics ∧
      (run.1.isOk = true ∧ cut = [] ∨ run.1.isOk = false ∧ done = [] ∧ cut = [] ∨
        run.1.isOk = false ∧ ∃ resources, (resources.map (·.key)).Nodup ∧
          BrokenOffAt cluster engine steps resources (start.apply cluster engine (.ask .discover))
            done cut) := by
  have hstart := dropStaleCaches_keyed cluster engine hkeyed
  have hasked := begun_moment cluster engine (s.dropStaleCaches engine)
  cases hrun : Discovery.run cluster engine (s.dropStaleCaches engine).world with
  | mk result world =>
      rw [hrun] at hasked
      cases result with
      | error stop =>
          obtain ⟨hcycle, hdeeds⟩ := runCycle_of_run_eq_error steps hrun
          refine ⟨[], [], hdeeds, ?_, .inr (.inl ⟨?_, rfl, rfl⟩)⟩
          · rw [hcycle]
            exact posted_dropStaleCaches (.ask _ _ _)
          · rw [hcycle]
            rfl
      | ok resources =>
          have hnodup := Discovery.nodup_of_run (congrArg Prod.fst hrun)
          have hkinds := scanKinds_posted cluster engine steps resources
            { resourceTypes := resources.length } ((s.dropStaleCaches engine).begun world) hstart
          have hmoment := scanKinds_moment cluster engine steps resources
            { resourceTypes := resources.length } ((s.dropStaleCaches engine).begun world)
          rw [runCycle_of_run steps hrun, deeds_of_run steps hrun]
          generalize scanKinds cluster engine steps resources _ _ = scanned at hkinds hmoment ⊢
          obtain ⟨result, s'⟩ := scanned
          obtain ⟨done, cut, hdeeds, hposted, hend⟩ := hkinds
          rw [hdeeds, hasked] at hmoment
          rw [hasked] at hposted hend
          have hall := (Moment.Posted.ask .discover _ _).append hposted
          cases result with
          | error stop =>
              obtain ⟨hok, -⟩ | ⟨-, hbroken⟩ := hend
              · cases hok
              · refine ⟨done, cut, ?_, posted_dropStaleCaches hall,
                  .inr (.inr ⟨rfl, resources, hnodup, hbroken⟩)⟩
                rw [hdeeds]
                simp only [List.append_nil]
          | ok report =>
              obtain ⟨-, rfl⟩ | ⟨hfailed, -⟩ := hend
              · rw [List.append_nil] at hdeeds hmoment
                have hkeyed' : s'.scheduler.caches.Keyed := by
                  change s'.moment.caches.Keyed
                  rw [hmoment]
                  exact Moment.applyAll_keyed cluster engine
                    (Moment.apply_keyed cluster engine hstart _) done
                have hretired : s'.moment.Posted cluster engine _ _ _ :=
                  dropVanished_posted resources report hkeyed'
                rw [hmoment] at hretired
                refine ⟨done ++ [.retire (resources.map (·.key))], [], ?_, ?_,
                  .inl ⟨rfl, rfl⟩⟩
                · rw [hdeeds]
                  simp only [List.append_nil]
                · exact posted_dropStaleCaches (hall.append hretired)
              · cases hfailed

theorem runCycle_posted_of_ok (cluster : Cluster World) (engine : Engine World) (steps : Nat)
    (hrun : s.runCycle cluster engine steps = (.ok report, s'))
    (hkeyed : s.scheduler.caches.Keyed) :
    (s.dropStaleCaches engine).moment.Posted cluster engine (s.deeds cluster engine steps).tail
      s.scheduler.metrics s'.scheduler.metrics := by
  obtain ⟨done, cut, hdeeds, hposted, hend⟩ := s.runCycle_posted cluster engine steps hkeyed
  rw [hrun] at hposted hend
  obtain ⟨-, rfl⟩ | ⟨hfailed, -⟩ | ⟨hfailed, -⟩ := hend
  · rw [hdeeds, List.append_nil]
    exact hposted
  · cases hfailed
  · cases hfailed

/-! ### What the journal says of an attempt -/

/-- The requests and calls of an attempt tell what was shown, judged and skipped in it. -/
structure JournalOf (cluster : Cluster World) (engine : Engine World) (steps : Nat)
    (s s' : Scanning (Journaled World)) (exchanges : List Exchange) (calls : List Engine.Call)
    (skipped : List ObjectView) : Prop where
  asks : Asks s.world s'.world exchanges (s.deeds cluster.journaled engine.journaled steps).tail
  calls_eq : s'.world.calls = s.world.calls ++ calls
  successes_eq : Engine.successes calls =
    (s.dropStaleCaches engine.journaled).moment.met cluster.journaled engine.journaled .validated
      (s.deeds cluster.journaled engine.journaled steps).tail
  failures_eq : Engine.failures calls =
    (s.dropStaleCaches engine.journaled).moment.met cluster.journaled engine.journaled .failed
      (s.deeds cluster.journaled engine.journaled steps).tail
  skipped_eq : skipped =
    (s.dropStaleCaches engine.journaled).moment.met cluster.journaled engine.journaled .skipped
      (s.deeds cluster.journaled engine.journaled steps).tail
  subjects_eq : Deed.subjects (s.deeds cluster.journaled engine.journaled steps).tail =
    listedSubjects exchanges

theorem exists_journalOf (cluster : Cluster World) (engine : Engine World) (steps : Nat)
    {s s' : Scanning (Journaled World)} {result : Except Stop CycleReport}
    (hrun : s.runCycle cluster.journaled engine.journaled steps = (result, s'))
    (hkeyed : s.scheduler.caches.Keyed) :
    ∃ exchanges calls skipped, JournalOf cluster engine steps s s' exchanges calls skipped := by
  have hmoment := s.runCycle_moment cluster.journaled engine.journaled steps
  have hsurvey := s.runCycle_isSurvey cluster engine steps
  rw [hrun] at hmoment hsurvey
  obtain ⟨exchanges, hsurvey⟩ := hsurvey
  obtain ⟨later, hdeeds, -⟩ := s.deeds_eq_renew_cons cluster.journaled engine.journaled steps
  obtain ⟨calls, hrecords⟩ := Moment.exists_records cluster engine (m := s.moment) hkeyed
    (.renew :: later)
  have hasks := hsurvey.asks
  rw [hdeeds] at hasks hmoment
  -- The look at the generation is no verdict, so those of the whole attempt are those of the rest.
  have hmet : ∀ verdict, s.moment.met cluster.journaled engine.journaled verdict (.renew :: later) =
      (s.dropStaleCaches engine.journaled).moment.met cluster.journaled engine.journaled verdict
        later := by
    intro verdict
    rw [dropStaleCaches_moment cluster.journaled]
    exact Moment.met_of_view?_eq_none _ _ rfl later
  obtain ⟨hsuccesses, hfailures⟩ := hrecords.judgements_eq
  refine ⟨exchanges, calls, _, ⟨hasks.exchanges_eq, ?_⟩, ?_, ?_, ?_, rfl, ?_⟩
  · rw [hdeeds]
    exact hasks.shown_eq
  · have hcalls := hrecords.calls_eq
    rw [← hmoment] at hcalls
    exact hcalls
  · rw [hsuccesses, hmet, hdeeds]
    rfl
  · rw [hfailures, hmet, hdeeds]
    rfl
  · rw [hdeeds]
    exact hasks.subjects_eq

namespace JournalOf

variable {cluster : Cluster World} {engine : Engine World} {s s' : Scanning (Journaled World)}
  {exchanges : List Exchange} {calls : List Engine.Call} {skipped : List ObjectView}
  (h : JournalOf cluster engine steps s s' exchanges calls skipped)
include h

/-- Each listed object with a name was skipped or judged, and no other was. -/
theorem named_perm :
    ((exchanges.flatMap Exchange.items).filter Exchange.isNamed).Perm
      ((skipped ++ (Engine.successes calls ++ Engine.failures calls)).map
        fun view => (view.resource, view.object)) := by
  have hperm := (s.dropStaleCaches engine.journaled).moment.named_perm_met cluster.journaled
    engine.journaled (s.deeds cluster.journaled engine.journaled steps).tail
  rw [h.skipped_eq, h.successes_eq, h.failures_eq, ← h.asks.shown_eq, Deed.shown, List.filter_map]
  exact hperm.map _

end JournalOf

end Scanning

end ComplianceScanner
