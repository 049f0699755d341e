import ComplianceScanner.Proofs.Removals

/-!
# What a report tallies

The report of an attempt adds up what was done with each object that was taken up. Every object is
seen; one that has a name is validated, a cache hit or a failure, and just one of these; one without
a name is nothing of the kind.
-/

namespace ComplianceScanner

variable {World : Type}

namespace Tally

def add (tally other : Tally) : Tally :=
  ⟨tally.seen + other.seen, tally.validated + other.validated, tally.hits + other.hits,
    tally.failures + other.failures⟩

@[simp]
theorem empty_add (tally : Tally) : ({} : Tally).add tally = tally := by
  simp [add]

@[simp]
theorem add_empty (tally : Tally) : tally.add {} = tally := rfl

theorem add_assoc (a b c : Tally) : (a.add b).add c = a.add (b.add c) := by
  simp [add, Nat.add_assoc]

/-- How many objects were dealt with one way or another. -/
def settled (tally : Tally) : Nat := tally.validated + tally.hits + tally.failures

theorem settled_add (a b : Tally) : (a.add b).settled = a.settled + b.settled := by
  simp only [settled, add]
  omega

end Tally

def CycleReport.tally (report : CycleReport) : Tally :=
  ⟨report.objectsSeen, report.validated, report.cacheHits, report.engineErrors⟩

theorem PageScan.tally_take (engine : Engine World) (view : ObjectView) (scan : PageScan World) :
    (scan.take engine view).tally =
      scan.tally.add (take engine view ⟨scan.cache, ∅, {}, scan.world⟩).tally := by
  unfold take
  cases view.identity? with
  | none => rfl
  | some identity =>
      simp only
      cases scan.cache.needsValidation identity view.resourceVersion with
      | mk due cache =>
          cases due with
          | false => rfl
          | true =>
              simp only [validate]
              split <;> rfl

namespace Moment

/-- What one deed adds to the tally of its kind. -/
def tally (engine : Engine World) (m : Moment World) : Deed → Tally
  | .take view => ((m.page view).take engine view).tally
  | _ => {}

def tallyAll (cluster : Cluster World) (engine : Engine World) : Moment World → List Deed → Tally
  | _, [] => {}
  | m, deed :: deeds =>
    (m.tally engine deed).add (tallyAll cluster engine (m.apply cluster engine deed) deeds)

variable (cluster : Cluster World) (engine : Engine World)

theorem tallyAll_append (m : Moment World) (deeds deeds' : List Deed) :
    m.tallyAll cluster engine (deeds ++ deeds') =
      (m.tallyAll cluster engine deeds).add
        ((m.applyAll cluster engine deeds).tallyAll cluster engine deeds') := by
  induction deeds generalizing m with
  | nil => exact (Tally.empty_add _).symm
  | cons deed deeds ih => simp only [List.cons_append, tallyAll, ih, applyAll_cons, Tally.add_assoc]

theorem tally_of_view?_eq_none (m : Moment World) {deed : Deed} (hview : deed.view? = none) :
    m.tally engine deed = {} := by
  cases deed with
  | take view => cases hview
  | _ => rfl

theorem tally_put (generation : UInt64) (caches : CacheSet) (view : ObjectView)
    (scan : PageScan World) (hversion : scan.cache.version = view.resource.version) :
    (⟨generation, caches.put view.resource.key scan.cache, scan.world⟩ : Moment World).tally engine
        (.take view) = (PageScan.take engine view ⟨scan.cache, ∅, {}, scan.world⟩).tally := by
  simp only [tally, page, CacheSet.cacheFor_put caches hversion]

theorem tallyAll_takes (generation : UInt64) (caches : CacheSet) (resource : ResourceType)
    (namespaceUid : String) (items : List Object) (scan : PageScan World)
    (hversion : scan.cache.version = resource.version) :
    (items.foldl (fun page object => page.take engine ⟨resource, object, namespaceUid⟩)
        scan).tally =
      scan.tally.add ((⟨generation, caches.put resource.key scan.cache, scan.world⟩ :
        Moment World).tallyAll cluster engine
          (items.map fun object => .take ⟨resource, object, namespaceUid⟩)) := by
  induction items generalizing scan with
  | nil => rfl
  | cons object items ih =>
      let view : ObjectView := ⟨resource, object, namespaceUid⟩
      have hversion' : (scan.take engine view).cache.version = resource.version :=
        (PageScan.version_take _ _ _).trans hversion
      rw [List.foldl_cons, ih _ hversion', List.map_cons, tallyAll,
        tally_put engine generation caches view scan hversion,
        apply_take_put cluster engine generation caches view scan hversion, ← Tally.add_assoc,
        ← PageScan.tally_take]

/-- How one object is tallied. -/
theorem tally_take_cases {m : Moment World} (hkeyed : m.caches.Keyed) (view : ObjectView) :
    view.subject? = none ∧ m.tally engine (.take view) = ⟨1, 0, 0, 0⟩ ∨
      ∃ subject, view.subject? = some subject ∧
        ((∃ entry, m.caches.entryFor? subject = some entry ∧
            entry.resourceVersion = view.resourceVersion ∧
            m.tally engine (.take view) = ⟨1, 0, 1, 0⟩) ∨
          (∃ outcome, (engine.validate view m.world).1 = .ok outcome ∧
            (∀ entry, m.caches.entryFor? subject = some entry →
              entry.resourceVersion ≠ view.resourceVersion) ∧
            m.tally engine (.take view) = ⟨1, 1, 0, 0⟩) ∨
          ∃ error, (engine.validate view m.world).1 = .error error ∧
            m.tally engine (.take view) = ⟨1, 0, 0, 1⟩) := by
  have htally : m.tally engine (.take view) = ((m.page view).take engine view).tally := rfl
  rw [htally]
  cases hsubject : view.subject? with
  | none =>
      have hidentity : view.identity? = none := by simp [ObjectView.identity?_eq, hsubject]
      exact .inl ⟨rfl, by rw [PageScan.take_of_identity?_eq_none engine _ hidentity]; rfl⟩
  | some subject =>
      refine .inr ⟨subject, rfl, ?_⟩
      have hidentity : view.identity? = some (subject.identity view.resource.version) := by
        simp [ObjectView.identity?_eq, hsubject]
      have hheld := CacheSet.get?_cacheFor hkeyed (ObjectView.key_of_subject? hsubject)
      cases hdue : (m.page view).cache.isDue (subject.identity view.resource.version)
          view.resourceVersion with
      | false =>
          obtain ⟨entry, hentry, hversion⟩ := Cache.isDue_eq_false_iff.mp hdue
          refine .inl ⟨entry, hheld.symm.trans hentry, hversion, ?_⟩
          rw [PageScan.take_of_isDue_eq_false engine _ hidentity hdue]
          rfl
      | true =>
          right
          have htake := PageScan.take_of_isDue engine (m.page view) hidentity hdue
          have hworld : (m.page view).world = m.world := rfl
          rw [htake, PageScan.validate, hworld]
          cases hvalidate : engine.validate view m.world with
          | mk result world =>
              cases result with
              | ok outcome =>
                  refine .inl ⟨outcome, rfl, ?_, rfl⟩
                  intro entry hentry
                  exact Cache.isDue_iff.mp hdue entry (hheld.trans hentry)
              | error error => exact .inr ⟨error, rfl, rfl⟩

/-- Every object is seen, and those with a name are settled. -/
theorem tally_counts {m : Moment World} (hkeyed : m.caches.Keyed) (deed : Deed) :
    (m.tally engine deed).seen = ([deed].filterMap Deed.view?).length ∧
      (m.tally engine deed).settled = (Deed.subjects [deed]).length := by
  cases hview : deed.view? with
  | none =>
      rw [tally_of_view?_eq_none engine m hview, Deed.subjects_of_view?_eq_none hview,
        List.filterMap_cons_none hview]
      exact ⟨rfl, rfl⟩
  | some view =>
      obtain rfl := Deed.eq_take hview
      have hsubjects : Deed.subjects [.take view] = view.subject?.toList := by
        cases hsubject : view.subject? <;> simp [Deed.subjects, Deed.view?, hsubject]
      rw [hsubjects]
      rcases tally_take_cases engine hkeyed view with ⟨hnone, htally⟩ |
        ⟨subject, hsome, ⟨_, _, _, htally⟩ | ⟨_, _, _, htally⟩ | ⟨_, _, htally⟩⟩
      · rw [htally, hnone]
        exact ⟨rfl, rfl⟩
      all_goals
        rw [htally, hsome]
        exact ⟨rfl, rfl⟩

theorem tallyAll_counts {m : Moment World} (hkeyed : m.caches.Keyed) (deeds : List Deed) :
    (m.tallyAll cluster engine deeds).seen = (deeds.filterMap Deed.view?).length ∧
      (m.tallyAll cluster engine deeds).settled = (Deed.subjects deeds).length := by
  induction deeds generalizing m with
  | nil => exact ⟨rfl, rfl⟩
  | cons deed deeds ih =>
      obtain ⟨hseen, hsettled⟩ := tally_counts engine hkeyed deed
      obtain ⟨hseen', hsettled'⟩ := ih (apply_keyed cluster engine hkeyed deed)
      rw [← List.singleton_append, List.filterMap_append, List.length_append,
        Deed.subjects_append, List.length_append, ← hseen, ← hsettled, ← hseen', ← hsettled']
      exact ⟨rfl, Tally.settled_add _ _⟩

end Moment

namespace KindScan

variable (cluster : Cluster World) (engine : Engine World)

theorem takePage_tally (resource : ResourceType) (namespaceUid : String) (items : List Object)
    (scan : KindScan World) (generation : UInt64) :
    (scan.takePage engine resource namespaceUid items).tally =
      scan.tally.add ((scan.moment generation).tallyAll cluster engine
        (pageDeeds resource namespaceUid items)) := by
  rw [pageDeeds, Moment.tallyAll, Moment.tally_of_view?_eq_none engine _ rfl, Tally.empty_add]
  exact Moment.tallyAll_takes cluster engine generation scan.caches resource namespaceUid items
    ⟨scan.caches.cacheFor resource, scan.observed, scan.tally, scan.world⟩
    (CacheSet.version_cacheFor _ _)

theorem takeListing_tally (listing : Listing) (namespaceUid : String) (steps : Nat)
    (paging : Paging) (scan : KindScan World) (generation : UInt64) :
    (takeListing cluster engine listing namespaceUid steps paging scan).2.tally =
      scan.tally.add ((scan.moment generation).tallyAll cluster engine
        (listingDeeds cluster engine listing namespaceUid steps paging scan)) := by
  induction steps generalizing paging scan with
  | zero => rfl
  | succ steps ih =>
      cases paging with
      | finished => rfl
      | due token =>
          rw [takeListing, listingDeeds, Paging.pull, Moment.tallyAll,
            Moment.tally_of_view?_eq_none engine _ rfl, Tally.empty_add]
          have hask : (scan.moment generation).apply cluster engine
              (.ask (.list listing.resource listing.namespaceName listing.limit token)) =
              ({ scan with world := (cluster.list listing.resource listing.namespaceName
                listing.limit token scan.world).2 } : KindScan World).moment generation := rfl
          rw [hask]
          cases cluster.list listing.resource listing.namespaceName listing.limit token
            scan.world with
          | mk answer world =>
              cases answer with
              | value page =>
                  simp only
                  rw [ih, takePage_tally cluster engine _ _ _ _ generation, Tally.add_assoc,
                    Moment.tallyAll_append, takePage_moment cluster]
              | failed cause => rfl
              | cutOff => rfl

theorem takeScopes_tally (resource : ResourceType) (pageSize steps : Nat)
    (scopes : List (Option String × String)) (scan : KindScan World) (generation : UInt64) :
    (takeScopes cluster engine resource pageSize steps scopes scan).2.tally =
      scan.tally.add ((scan.moment generation).tallyAll cluster engine
        (scopesDeeds cluster engine resource pageSize steps scopes scan)) := by
  induction scopes generalizing scan with
  | nil => rfl
  | cons scope scopes ih =>
      obtain ⟨namespaceName, namespaceUid⟩ := scope
      have hfirst := takeListing_tally cluster engine ⟨resource, namespaceName, pageSize⟩
        namespaceUid steps .start scan generation
      rw [takeScopes, scopesDeeds, Moment.tallyAll_append, ← Tally.add_assoc, ← hfirst,
        ← takeListing_moment]
      split
      · rename_i stop scan' hlisting
        rw [hlisting]
        rfl
      · rename_i scan' hlisting
        rw [hlisting]
        exact ih scan'

end KindScan

namespace Scanning

variable (cluster : Cluster World) (engine : Engine World)

theorem CameThrough.tally_eq {resource : ResourceType} {report report' : CycleReport}
    {s s' : Scanning World} {steps : Nat} {scopes : List (Option String × String)}
    {count : Option Nat} {between : Scanning World} {scan : KindScan World}
    (h : CameThrough cluster engine steps resource report report' s s' scopes count between scan) :
    scan.tally = s.moment.tallyAll cluster engine
      (scanDeeds cluster engine steps resource scopes s between) := by
  have hasks : s.moment.tallyAll cluster engine (s.scopeDeeds resource) = {} := by
    unfold scopeDeeds
    split <;> rfl
  have htally := KindScan.takeScopes_tally cluster engine resource
    between.scheduler.config.pageSize steps scopes
    { caches := between.scheduler.caches, world := between.world } s.scheduler.generation
  rw [h.take_eq, h.start_eq] at htally
  rw [scanDeeds, Moment.tallyAll_append, hasks, Tally.empty_add]
  exact htally.trans (Tally.empty_add _)

theorem scanKind_tally (steps : Nat) (resource : ResourceType) (report : CycleReport)
    (s : Scanning World) {report' : CycleReport}
    (hok : (s.scanKind cluster engine steps resource report).1 = .ok report') :
    report'.tally = report.tally.add (s.moment.tallyAll cluster engine
      (s.kindDeeds cluster engine steps resource)) := by
  obtain ⟨scopes, count, between, scan, hthrough⟩ := exists_cameThrough (Prod.ext hok rfl)
  have hfinish : ∀ m : Moment World,
      m.tallyAll cluster engine [.finish resource scan.observed] = {} := fun _ => rfl
  rw [hthrough.kindDeeds_eq, Moment.tallyAll_append, hfinish, Tally.add_empty, ← hthrough.tally_eq,
    ← (Prod.mk.inj hthrough.finish_eq).1]
  rfl

theorem scanKinds_tally (steps : Nat) (resources : List ResourceType) (report : CycleReport)
    (s : Scanning World) {report' : CycleReport}
    (hok : (s.scanKinds cluster engine steps resources report).1 = .ok report') :
    report'.tally = report.tally.add (s.moment.tallyAll cluster engine
      (s.kindsDeeds cluster engine steps resources report)) := by
  induction resources generalizing report s with
  | nil =>
      cases hok
      rfl
  | cons resource rest ih =>
      obtain ⟨between, t, hfirst, hrest⟩ := exists_scanKind_of_scanKinds_cons (Prod.ext hok rfl)
      obtain ⟨hdeeds, hmoment⟩ := kindsDeeds_cons_of_scanKind rest hfirst
      have htally := s.scanKind_tally cluster engine steps resource report
        (congrArg Prod.fst hfirst)
      have hlater := ih between t (congrArg Prod.fst hrest)
      rw [hdeeds, Moment.tallyAll_append, ← hmoment, hlater, htally, Tally.add_assoc]

theorem foldl_dropKind_tally (caches : List (ResourceKey × Cache)) (report : CycleReport)
    (s : Scanning World) :
    (caches.foldl (fun s (key, cache) => dropKind engine key cache s) (report, s)).1.tally =
      report.tally := by
  induction caches generalizing report s with
  | nil => rfl
  | cons item caches ih => exact (ih _ _).trans rfl

/-- A report adds up what was done with each object. -/
theorem runCycle_tally (steps : Nat) (s : Scanning World) {report : CycleReport}
    (hok : (s.runCycle cluster engine steps).1 = .ok report) :
    report.tally = (s.dropStaleCaches engine).moment.tallyAll cluster engine
      (s.deeds cluster engine steps).tail := by
  obtain ⟨resources, world, hdiscovered⟩ := exists_discovered (Prod.ext hok rfl)
  obtain ⟨between, t, hkinds, hdropped⟩ :=
    exists_scanKinds_of_runCycle hdiscovered (Prod.ext hok rfl)
  obtain ⟨hdeeds, hbegun, -⟩ := tail_deeds_of_scanKinds hdiscovered hkinds
  have hscanned := scanKinds_tally cluster engine steps resources _ _ (congrArg Prod.fst hkinds)
  have hvanished : report.tally = between.tally := by
    rw [← (Prod.mk.inj hdropped).1]
    exact foldl_dropKind_tally engine _ _ _
  have hretire : ∀ m : Moment World,
      m.tallyAll cluster engine [.retire (resources.map (·.key))] = {} := fun _ => rfl
  rw [hdeeds, Moment.tallyAll, Moment.tally_of_view?_eq_none engine _ rfl, Tally.empty_add,
    ← hbegun, Moment.tallyAll_append, hretire, Tally.add_empty, hvanished, hscanned]
  exact Tally.empty_add _

end Scanning

end ComplianceScanner
