import ComplianceScanner.Proofs.Postings

/-!
# The last request

Which kind an attempt broke off at can be told from its last request. All objects that are taken up come
from answers, so if any object of that kind was taken up, a listing of the kind had begun, and from there
on nothing else was asked for.
-/

namespace ComplianceScanner

variable {World : Type}

/-- The type that a call lists, if it lists one. -/
def Cluster.Call.listed? : Cluster.Call → Option ResourceType
  | list resource _ _ _ => some resource
  | _ => none

namespace Deed

def call? : Deed → Option Cluster.Call
  | ask call => some call
  | _ => none

def calls (deeds : List Deed) : List Cluster.Call := deeds.filterMap call?

/-- The type that the last request lists. -/
def lastListed? (deeds : List Deed) : Option ResourceType :=
  (calls deeds).getLast?.bind Cluster.Call.listed?

variable {deeds later : List Deed} {resource : ResourceType}

@[simp]
theorem calls_append (deeds later : List Deed) : calls (deeds ++ later) = calls deeds ++ calls later :=
  List.filterMap_append

theorem mem_calls {call : Cluster.Call} : call ∈ calls deeds ↔ .ask call ∈ deeds := by
  rw [calls, List.mem_filterMap]
  constructor
  · rintro ⟨deed, hdeed, hcall⟩
    cases deed with
    | ask asked =>
        cases hcall
        exact hdeed
    | _ => cases hcall
  · exact fun hmem => ⟨_, hmem, rfl⟩

theorem lastListed?_append_of_calls_ne_nil (hlater : calls later ≠ []) :
    lastListed? (deeds ++ later) = lastListed? later := by
  obtain ⟨call, hcall⟩ := Option.ne_none_iff_exists'.mp (mt List.getLast?_eq_none_iff.mp hlater)
  rw [lastListed?, lastListed?, calls_append, List.getLast?_append, hcall]
  rfl

/-- Requests that all list the same type end with one that does. -/
theorem lastListed?_eq_some (hcalls : calls deeds ≠ [])
    (hlisted : ∀ call, .ask call ∈ deeds → call.listed? = some resource) :
    lastListed? deeds = some resource := by
  obtain ⟨call, hcall⟩ := Option.ne_none_iff_exists'.mp (mt List.getLast?_eq_none_iff.mp hcalls)
  rw [lastListed?, hcall]
  exact hlisted call (mem_calls.mp (List.mem_of_getLast? hcall))

theorem exists_of_lastListed?_eq_some (hlast : lastListed? deeds = some resource) :
    ∃ call, .ask call ∈ deeds ∧ call.listed? = some resource := by
  obtain ⟨call, hcall, hlisted⟩ := Option.bind_eq_some_iff.mp hlast
  exact ⟨call, mem_calls.mp (List.mem_of_getLast? hcall), hlisted⟩

end Deed

/-- Each request on record is a call that was made, and the other way round. -/
theorem Moment.exchanges_applyAll (cluster : Cluster World) (engine : Engine World)
    (m : Moment (Journaled World)) (deeds : List Deed) :
    (m.applyAll cluster.journaled engine.journaled deeds).world.exchanges.map Exchange.call =
      m.world.exchanges.map Exchange.call ++ Deed.calls deeds := by
  induction deeds generalizing m with
  | nil => exact (List.append_nil _).symm
  | cons deed deeds ih =>
      rw [applyAll_cons, ih]
      simp only [Deed.calls]
      cases hcall : deed.call? with
      | none =>
          have hask : ∀ call, deed ≠ .ask call := by
            rintro call rfl
            cases hcall
          rw [engine.keeps_exchanges.apply cluster.journaled m hask, List.filterMap_cons_none hcall]
      | some call =>
          obtain rfl : deed = .ask call := by
            cases deed with
            | ask asked => exact congrArg Deed.ask (Option.some.inj hcall)
            | _ => cases hcall
          have hasked : (m.apply cluster.journaled engine.journaled (.ask call)).world.exchanges =
              m.world.exchanges ++ [cluster.exchange call m.world.world] :=
            congrArg Journaled.exchanges (cluster.after_journaled call m.world)
          have hsame : (cluster.exchange call m.world.world).call = call := by cases call <;> rfl
          rw [hasked, List.filterMap_cons_some hcall, List.map_append, List.append_assoc,
            List.map_cons, hsame]
          rfl

/-! ### The requests for one kind -/

section

variable (cluster : Cluster World) (engine : Engine World)

namespace KindScan

theorem listed?_of_mem_listingDeeds (listing : Listing) (namespaceUid : String) (steps : Nat)
    (paging : Paging) (scan : KindScan World) {call : Cluster.Call}
    (hcall : .ask call ∈ listingDeeds cluster engine listing namespaceUid steps paging scan) :
    call.listed? = some listing.resource := by
  induction steps generalizing paging scan with
  | zero => simp [listingDeeds] at hcall
  | succ steps ih =>
      cases paging with
      | finished => simp [listingDeeds] at hcall
      | due token =>
          rw [listingDeeds] at hcall
          rcases List.mem_cons.mp hcall with heq | hlater
          · cases heq
            rfl
          · split at hlater
            · rcases List.mem_append.mp hlater with hpage | hrest
              · simp [pageDeeds] at hpage
              · exact ih _ _ hrest
            · cases hlater

/-- A listing begins with a request. -/
theorem calls_listingDeeds_ne_nil (listing : Listing) (namespaceUid : String) {steps : Nat}
    {paging : Paging} {scan : KindScan World}
    (hdeeds : listingDeeds cluster engine listing namespaceUid steps paging scan ≠ []) :
    Deed.calls (listingDeeds cluster engine listing namespaceUid steps paging scan) ≠ [] := by
  cases steps with
  | zero => exact absurd rfl hdeeds
  | succ steps =>
      cases paging with
      | finished => exact absurd rfl hdeeds
      | due token =>
          rw [listingDeeds]
          exact List.cons_ne_nil _ _

variable (resource : ResourceType) (pageSize : Nat)

theorem listed?_of_mem_scopesDeeds (steps : Nat) (scopes : List (Option String × String))
    (scan : KindScan World) {call : Cluster.Call}
    (hcall : .ask call ∈ scopesDeeds cluster engine resource pageSize steps scopes scan) :
    call.listed? = some resource := by
  induction scopes generalizing scan with
  | nil => simp [scopesDeeds] at hcall
  | cons scope scopes ih =>
      rw [scopesDeeds] at hcall
      rcases List.mem_append.mp hcall with hfirst | hlater
      · exact listed?_of_mem_listingDeeds cluster engine _ _ _ _ _ hfirst
      · split at hlater
        · cases hlater
        · exact ih _ hlater

theorem calls_scopesDeeds_ne_nil (steps : Nat) (scopes : List (Option String × String))
    (scan : KindScan World)
    (hdeeds : scopesDeeds cluster engine resource pageSize steps scopes scan ≠ []) :
    Deed.calls (scopesDeeds cluster engine resource pageSize steps scopes scan) ≠ [] := by
  induction scopes generalizing scan with
  | nil => exact absurd rfl hdeeds
  | cons scope scopes ih =>
      rw [scopesDeeds, Deed.calls_append]
      rw [scopesDeeds] at hdeeds
      by_cases hfirst : listingDeeds cluster engine ⟨resource, scope.1, pageSize⟩ scope.2 steps
          .start scan = []
      · rw [hfirst, List.nil_append] at hdeeds
        refine List.append_ne_nil_of_right_ne_nil _ ?_
        split
        · rename_i htaken
          rw [htaken] at hdeeds
          exact absurd rfl hdeeds
        · rename_i htaken
          rw [htaken] at hdeeds
          exact ih _ hdeeds
      · exact List.append_ne_nil_of_left_ne_nil
          (calls_listingDeeds_ne_nil cluster engine _ _ hfirst) _

/-- Where some page may be taken, scopes are not given up without a request. -/
theorem scopesDeeds_ne_nil {steps : Nat} (hsteps : 0 < steps)
    {scopes : List (Option String × String)} {scan : KindScan World}
    (hstopped : (takeScopes cluster engine resource pageSize steps scopes scan).1 ≠ none) :
    scopesDeeds cluster engine resource pageSize steps scopes scan ≠ [] := by
  cases scopes with
  | nil => exact absurd rfl hstopped
  | cons scope scopes =>
      obtain ⟨left, rfl⟩ := Nat.exists_eq_succ_of_ne_zero (Nat.ne_of_gt hsteps)
      exact List.append_ne_nil_of_left_ne_nil (List.cons_ne_nil _ _) _

theorem scopesDeeds_zero (scopes : List (Option String × String)) (scan : KindScan World) :
    scopesDeeds cluster engine resource pageSize 0 scopes scan = [] := by
  cases scopes <;> rfl

end KindScan

namespace Scanning

theorem scopeDeeds_of_error {resource : ResourceType} {stop : Stop} {s between : Scanning World}
    (hscopes : s.scopes cluster resource = (.error stop, between)) :
    s.scopeDeeds resource = [.ask .namespaces] := by
  unfold scopes NamespaceResolver.resolve at hscopes
  unfold scopeDeeds
  cases hnamespaced : resource.namespaced with
  | false => simp [hnamespaced] at hscopes
  | true =>
      cases hsnapshot : s.scheduler.namespaces.snapshot with
      | some kept => simp [hnamespaced, hsnapshot] at hscopes
      | none => rfl

/-- The requests of a scan that breaks off: those for the scopes first, and then for the kind. -/
theorem kindDeeds_of_error (steps : Nat) (resource : ResourceType) (report : CycleReport)
    (s : Scanning World)
    (hstopped : (s.scanKind cluster engine steps resource report).1.isOk = false) :
    ∃ listed, s.kindDeeds cluster engine steps resource = s.scopeDeeds resource ++ listed ∧
      (∀ call, .ask call ∈ listed → call.listed? = some resource) ∧
      (listed ≠ [] → Deed.calls listed ≠ []) ∧
      (0 < steps → Deed.calls (s.kindDeeds cluster engine steps resource) ≠ []) := by
  rw [kindDeeds]
  rw [scanKind] at hstopped
  cases hscopes : s.scopes cluster resource with
  | mk result between =>
      rw [hscopes] at hstopped
      cases result with
      | error stop =>
          refine ⟨[], rfl, by simp, fun hne => absurd rfl hne, fun _ => ?_⟩
          rw [scopeDeeds_of_error cluster hscopes]
          exact List.cons_ne_nil _ _
      | ok listed =>
          obtain ⟨scopes, count⟩ := listed
          simp only at hstopped ⊢
          let pageSize := between.scheduler.config.pageSize
          let start : KindScan World := ⟨between.scheduler.caches, ∅, {}, between.world⟩
          cases htake : KindScan.takeScopes cluster engine resource pageSize steps scopes start with
          | mk stop scan =>
              rw [htake] at hstopped
              cases stop with
              | none => cases hstopped
              | some stop =>
                  simp only [List.append_nil]
                  have hne := KindScan.calls_scopesDeeds_ne_nil cluster engine resource pageSize steps
                    scopes start
                  refine ⟨_, rfl, ?_, hne, fun hsteps => ?_⟩
                  · intro call hcall
                    exact KindScan.listed?_of_mem_scopesDeeds cluster engine resource _ _ _ _ hcall
                  · rw [Deed.calls_append]
                    refine List.append_ne_nil_of_right_ne_nil _ (hne ?_)
                    apply KindScan.scopesDeeds_ne_nil cluster engine resource pageSize hsteps
                    rw [htake]
                    exact Option.some_ne_none stop

theorem view_resource_of_mem_kindDeeds {steps : Nat} {resource : ResourceType} {s : Scanning World}
    {view : ObjectView} (htake : .take view ∈ s.kindDeeds cluster engine steps resource) :
    view.resource = resource := by
  obtain ⟨scan, hscans, hdeeds⟩ := s.kindDeeds_cases cluster engine steps resource {}
  rw [hdeeds] at htake
  split at htake
  · exact hscans _ htake
  · exact hscans _ (by simpa using htake)

theorem take_notMem_kindDeeds_zero (resource : ResourceType) (s : Scanning World)
    (view : ObjectView) : .take view ∉ s.kindDeeds cluster engine 0 resource := by
  have hscopes : .take view ∉ s.scopeDeeds resource := by
    intro htake
    cases s.scopeDeeds_subset resource _ htake
  rw [kindDeeds]
  cases s.scopes cluster resource with
  | mk result between =>
      cases result with
      | error stop => simpa using hscopes
      | ok listed =>
          simp only [KindScan.scopesDeeds_zero, List.nil_append, List.mem_append, not_or]
          refine ⟨hscopes, ?_⟩
          split <;> simp

theorem take_notMem_deeds_zero (s : Scanning World) (view : ObjectView) :
    .take view ∉ s.deeds cluster engine 0 := by
  have hkinds : ∀ (resources : List ResourceType) (report : CycleReport) (s : Scanning World),
      .take view ∉ s.kindsDeeds cluster engine 0 resources report := by
    intro resources
    induction resources with
    | nil => simp [kindsDeeds]
    | cons resource rest ih =>
        intro report s
        rw [kindsDeeds, List.mem_append, not_or]
        refine ⟨take_notMem_kindDeeds_zero cluster engine resource s view, ?_⟩
        split
        · simp
        · exact ih _ _
  rw [deeds]
  simp only [List.mem_cons, reduceCtorEq, false_or]
  split
  · simp
  · rw [List.mem_append, not_or]
    refine ⟨hkinds _ _ _, ?_⟩
    split <;> simp

/-- If something of the kind was taken up that a scan broke off at, the last request lists this kind.
It lists no kind that came before. -/
theorem BrokenOffAt.lastListed? {steps : Nat} {resources : List ResourceType} {start : Moment World}
    {done cut : List Deed} (h : BrokenOffAt cluster engine steps resources start done cut)
    (hnodup : (resources.map (·.key)).Nodup) (before : List Deed) :
    (∀ view, .take view ∈ cut → Deed.lastListed? (before ++ cut) = some view.resource) ∧
      (0 < steps → ∀ view, .take view ∈ done →
        Deed.lastListed? (before ++ cut) ≠ some view.resource) := by
  obtain ⟨earlier, resource, todo, between, report, rfl, -, hstopped, rfl, hdone⟩ := h
  obtain ⟨listed, hdeeds, hlisted, hne, hcalls⟩ :=
    between.kindDeeds_of_error cluster engine steps resource report hstopped
  constructor
  · intro view htake
    have hresource := between.view_resource_of_mem_kindDeeds cluster engine htake
    have hlist : listed ≠ [] := by
      rintro rfl
      rw [hdeeds, List.append_nil] at htake
      cases between.scopeDeeds_subset resource _ htake
    rw [hdeeds, ← List.append_assoc, Deed.lastListed?_append_of_calls_ne_nil (hne hlist), hresource]
    exact Deed.lastListed?_eq_some (hne hlist) hlisted
  · intro hsteps view htake hlast
    rw [Deed.lastListed?_append_of_calls_ne_nil (hcalls hsteps)] at hlast
    obtain ⟨call, hcall, hsame⟩ := Deed.exists_of_lastListed?_eq_some hlast
    have hresource : resource = view.resource := by
      rw [hdeeds] at hcall
      rcases List.mem_append.mp hcall with hscope | hmem
      · cases between.scopeDeeds_subset resource _ hscope
        cases hsame
      · exact Option.some.inj ((hlisted call hmem).symm.trans hsame)
    rw [List.map_append, List.map_cons, List.nodup_middle, List.nodup_cons] at hnodup
    refine hnodup.1 (List.mem_append_left _ ?_)
    rw [hresource]
    exact List.mem_map_of_mem (hdone view htake)

/-- What an attempt does not post is what it did for the kind that it broke off at, and that is the kind
of its last request. -/
theorem runCycle_posted_lastListed? (steps : Nat) (s : Scanning World)
    (hkeyed : s.scheduler.caches.Keyed) :
    let run := s.runCycle cluster engine steps
    let later := (s.deeds cluster engine steps).tail
    ∃ done cut, later = done ++ cut ∧
      (s.dropStaleCaches engine).moment.Posted cluster engine done s.scheduler.metrics
        run.2.scheduler.metrics ∧
      (∀ view, .take view ∈ cut →
        run.1.isOk = false ∧ Deed.lastListed? later = some view.resource) ∧
      ∀ view, .take view ∈ done → run.1.isOk = false →
        Deed.lastListed? later ≠ some view.resource := by
  intro run later
  obtain ⟨done, cut, hdeeds, hposted, hend⟩ := s.runCycle_posted cluster engine steps hkeyed
  have hlater : later = (.ask .discover :: done) ++ cut := congrArg List.tail hdeeds
  refine ⟨.ask .discover :: done, cut, hlater, hposted, ?_⟩
  obtain ⟨hok, rfl⟩ | ⟨-, rfl, rfl⟩ | ⟨hstopped, resources, hnodup, hbroken⟩ := hend
  · refine ⟨by simp, fun view _ hstopped => ?_⟩
    cases hok.symm.trans hstopped
  · simp
  · obtain ⟨hcut, hdone⟩ := hbroken.lastListed? cluster engine hnodup (.ask .discover :: done)
    rw [← hlater] at hcut hdone
    refine ⟨fun view htake => ⟨hstopped, hcut view htake⟩, fun view htake _ => ?_⟩
    rcases Nat.eq_zero_or_pos steps with rfl | hsteps
    · refine absurd ?_ (s.take_notMem_deeds_zero cluster engine view)
      rw [hdeeds]
      simp_all
    · exact hdone hsteps view (by simpa using htake)

end Scanning

end

end ComplianceScanner
