import ComplianceScanner.Proofs.Coverage

/-!
# How the deeds of an attempt are laid out

After discovery the deeds come kind by kind. What is done for one kind touches no other, and it ends
with dropping what the listing did not show, unless the attempt breaks off before. No kind comes
twice.
-/

namespace ComplianceScanner

variable {World : Type}

/-- Part of listing a type: a request, or something done with the objects of the type. -/
def Deed.Scans (resource : ResourceType) : Deed → Prop
  | ask _ => True
  | adopt other => other = resource
  | take view => view.resource = resource
  | renew | finish _ _ | retire _ => False

/-- The deeds for these types in their order: each is listed to its end, but for the one that the
attempt stops at. -/
inductive DeedsOf : List ResourceType → List Deed → Option Stop → Prop
  | nil : DeedsOf [] [] none
  | stopped {resource : ResourceType} {resources : List ResourceType} {scan : List Deed}
      {stop : Stop}
      (hscan : ∀ deed ∈ scan, deed.Scans resource) :
      DeedsOf (resource :: resources) scan (some stop)
  | cons {resource : ResourceType} {resources : List ResourceType} {scan deeds : List Deed}
      {stop : Option Stop} (hscan : ∀ deed ∈ scan, deed.Scans resource)
      (hrest : DeedsOf resources deeds stop) :
      DeedsOf (resource :: resources)
        (scan ++ .finish resource ((∅ : Identities).insertMany (Deed.identities scan)) :: deeds) stop

/-- All deeds of an attempt. -/
inductive LaidOut : List Deed → Except Stop CycleReport → Prop
  | completed {resources : List ResourceType} {deeds : List Deed} {report : CycleReport}
      (hnodup : (resources.map (·.key)).Nodup) (hdeeds : DeedsOf resources deeds none) :
      LaidOut (.renew :: .ask .discover :: (deeds ++ [.retire (resources.map (·.key))])) (.ok report)
  | brokenOff {resources : List ResourceType} {deeds : List Deed} {last : Option Stop} {stop : Stop}
      (hnodup : (resources.map (·.key)).Nodup) (hdeeds : DeedsOf resources deeds last) :
      LaidOut (.renew :: .ask .discover :: deeds) (.error stop)

/-! ### Attempts are laid out so -/

section

variable (cluster : Cluster World) (engine : Engine World)

theorem scans_pageDeeds (resource : ResourceType) (namespaceUid : String) (items : List Object) :
    ∀ deed ∈ pageDeeds resource namespaceUid items, deed.Scans resource := by
  simp [pageDeeds, Deed.Scans]

namespace KindScan

theorem scans_listingDeeds (listing : Listing) (namespaceUid : String) (steps : Nat)
    (paging : Paging) (scan : KindScan World) :
    ∀ deed ∈ listingDeeds cluster engine listing namespaceUid steps paging scan,
      deed.Scans listing.resource := by
  induction steps generalizing paging scan with
  | zero => simp [listingDeeds]
  | succ steps ih =>
      cases paging with
      | finished => simp [listingDeeds]
      | due token =>
          intro deed hdeed
          rw [listingDeeds] at hdeed
          rcases List.mem_cons.mp hdeed with rfl | hdeed
          · trivial
          · split at hdeed
            · rcases List.mem_append.mp hdeed with hpage | hrest
              · exact scans_pageDeeds _ _ _ deed hpage
              · exact ih _ _ deed hrest
            · cases hdeed

theorem scans_scopesDeeds (resource : ResourceType) (pageSize steps : Nat)
    (scopes : List (Option String × String)) (scan : KindScan World) :
    ∀ deed ∈ scopesDeeds cluster engine resource pageSize steps scopes scan,
      deed.Scans resource := by
  induction scopes generalizing scan with
  | nil => simp [scopesDeeds]
  | cons scope scopes ih =>
      obtain ⟨namespaceName, namespaceUid⟩ := scope
      intro deed hdeed
      rw [scopesDeeds] at hdeed
      rcases List.mem_append.mp hdeed with hfirst | hrest
      · exact scans_listingDeeds cluster engine _ _ _ _ _ deed hfirst
      · split at hrest
        · cases hrest
        · exact ih _ deed hrest

end KindScan

namespace Scanning

theorem scopeDeeds_subset (resource : ResourceType) (s : Scanning World) :
    ∀ deed ∈ s.scopeDeeds resource, deed = .ask .namespaces := by
  intro deed hdeed
  unfold scopeDeeds at hdeed
  split at hdeed
  · exact List.mem_singleton.mp hdeed
  · cases hdeed

/-- A kind is finished where its scan comes through, and only then. -/
theorem kindDeeds_cases (steps : Nat) (resource : ResourceType) (report : CycleReport)
    (s : Scanning World) :
    ∃ scan, (∀ deed ∈ scan, deed.Scans resource) ∧
      s.kindDeeds cluster engine steps resource =
        match (s.scanKind cluster engine steps resource report).1 with
        | .error _ => scan
        | .ok _ => scan ++ [.finish resource ((∅ : Identities).insertMany (Deed.identities scan))] := by
  have hasks : ∀ deed ∈ s.scopeDeeds resource, deed.Scans resource := by
    intro deed hdeed
    rw [s.scopeDeeds_subset resource deed hdeed]
    trivial
  have hnone : Deed.identities (s.scopeDeeds resource) = [] := by
    unfold scopeDeeds
    split <;> rfl
  rw [kindDeeds, scanKind]
  generalize s.scopes cluster resource = result
  obtain ⟨listed, s'⟩ := result
  cases listed with
  | error stop => exact ⟨_, hasks, List.append_nil _⟩
  | ok listed =>
      obtain ⟨scopes, count⟩ := listed
      have hscans := KindScan.scans_scopesDeeds cluster engine resource
        s'.scheduler.config.pageSize steps scopes ⟨s'.scheduler.caches, ∅, {}, s'.world⟩
      have hobserved := KindScan.observed_takeScopes cluster engine resource
        s'.scheduler.config.pageSize steps scopes ⟨s'.scheduler.caches, ∅, {}, s'.world⟩
      refine ⟨_, List.forall_mem_append.mpr ⟨hasks, hscans⟩, ?_⟩
      simp only
      generalize KindScan.takeScopes cluster engine resource s'.scheduler.config.pageSize steps
        scopes ⟨s'.scheduler.caches, ∅, {}, s'.world⟩ = taken at hobserved ⊢
      obtain ⟨stop, scan⟩ := taken
      cases stop with
      | some stop => rw [List.append_nil]
      | none => rw [Deed.identities_append, hnone, List.nil_append, ← hobserved, List.append_assoc]

theorem kindsDeeds_deedsOf (steps : Nat) (resources : List ResourceType) (report : CycleReport)
    (s : Scanning World) :
    ∃ stop, DeedsOf resources (s.kindsDeeds cluster engine steps resources report) stop ∧
      (stop = none ↔ (s.scanKinds cluster engine steps resources report).1.isOk = true) := by
  induction resources generalizing report s with
  | nil => exact ⟨none, .nil, by simp [scanKinds, Except.isOk, Except.toBool]⟩
  | cons resource rest ih =>
      obtain ⟨scan, hscan, hfirst⟩ := s.kindDeeds_cases cluster engine steps resource report
      rw [scanKinds, kindsDeeds, hfirst]
      generalize s.scanKind cluster engine steps resource report = result
      obtain ⟨first, s'⟩ := result
      cases first with
      | error stop =>
          refine ⟨some stop, ?_, by simp [Except.isOk, Except.toBool]⟩
          rw [List.append_nil]
          exact .stopped hscan
      | ok report' =>
          obtain ⟨stop, hrest, hstop⟩ := ih report' s'
          refine ⟨stop, ?_, hstop⟩
          rw [List.append_assoc]
          exact .cons hscan hrest

end Scanning

end

namespace Discovery

theorem nodup_firstOfKind (resources : List ResourceType) :
    ((firstOfKind resources).map (·.key)).Nodup := by
  induction resources with
  | nil => exact List.nodup_nil
  | cons first resources ih =>
      rw [firstOfKind, List.map_cons, List.nodup_cons]
      constructor
      · simp
      · exact ih.sublist (List.filter_sublist.map _)

theorem mem_firstOfKind {resources : List ResourceType} {resource : ResourceType} :
    resource ∈ firstOfKind resources ↔
      resources.find? (·.key = resource.key) = some resource := by
  induction resources with
  | nil => simp [firstOfKind]
  | cons first rest ih =>
      rw [firstOfKind, List.mem_cons, List.mem_filter, ih]
      by_cases hkey : first.key = resource.key
      · simp [hkey, eq_comm]
      · have hne : resource ≠ first := fun heq => hkey (congrArg ResourceType.key heq.symm)
        simp [hkey, hne, Ne.symm hkey]

theorem supports_of_mem_select {supports : String → String → Bool} {served : List ResourceType}
    {type : ResourceType} (hmem : type ∈ select supports served) :
    supports type.group type.kind = true := by
  have hfirst := mem_firstOfKind.mp ((List.mergeSort_perm _ _).mem_iff.mp hmem)
  have hcandidate := (List.mem_filter.mp (List.mem_of_find?_eq_some hfirst)).2
  exact (Bool.and_eq_true_iff.mp hcandidate).2

/-- No kind is scanned twice. -/
theorem nodup_select (supports : String → String → Bool) (served : List ResourceType) :
    ((select supports served).map (·.key)).Nodup :=
  ((List.mergeSort_perm _ _).map _).nodup_iff.mpr (nodup_firstOfKind _)

theorem nodup_of_run {cluster : Cluster World} {engine : Engine World} {world : World}
    {resources : List ResourceType} (hrun : (run cluster engine world).1 = .ok resources) :
    (resources.map (·.key)).Nodup := by
  unfold run at hrun
  split at hrun <;> cases hrun
  exact nodup_select _ _

end Discovery

namespace Scanning

variable {cluster : Cluster World} {engine : Engine World} {s : Scanning World}
  {resources : List ResourceType} {world : World}

/-- With the types known, an attempt is a scan of these, and then the others are dropped. -/
theorem runCycle_of_run (steps : Nat)
    (hrun : Discovery.run cluster engine (s.dropStaleCaches engine).world =
      (.ok resources, world)) :
    s.runCycle cluster engine steps =
      match ((s.dropStaleCaches engine).begun world).scanKinds cluster engine steps resources
          { resourceTypes := resources.length } with
      | (.error stop, s) => (.error stop, s)
      | (.ok report, s) =>
        (.ok (s.dropVanished engine resources report).1,
          (s.dropVanished engine resources report).2) := by
  rw [runCycle]
  simp only [hrun]
  rfl

theorem deeds_of_run (steps : Nat)
    (hrun : Discovery.run cluster engine (s.dropStaleCaches engine).world =
      (.ok resources, world)) :
    s.deeds cluster engine steps =
      .renew :: .ask .discover ::
        (((s.dropStaleCaches engine).begun world).kindsDeeds cluster engine steps resources
            { resourceTypes := resources.length } ++
          match ((s.dropStaleCaches engine).begun world).scanKinds cluster engine steps resources
              { resourceTypes := resources.length } with
          | (.error _, _) => []
          | (.ok _, _) => [.retire (resources.map (·.key))]) := by
  simp only [deeds]
  generalize Discovery.run cluster engine (s.dropStaleCaches engine).world = result at hrun ⊢
  subst hrun
  rfl

theorem runCycle_of_run_eq_error (steps : Nat) {stop : Stop}
    (hrun : Discovery.run cluster engine (s.dropStaleCaches engine).world = (.error stop, world)) :
    s.runCycle cluster engine steps = (.error stop, { s.dropStaleCaches engine with world }) ∧
      s.deeds cluster engine steps = [.renew, .ask .discover] := by
  rw [runCycle, deeds]
  simp only [hrun, and_self]

theorem deeds_laidOut (cluster : Cluster World) (engine : Engine World) (steps : Nat)
    (s : Scanning World) :
    LaidOut (s.deeds cluster engine steps) (s.runCycle cluster engine steps).1 := by
  cases hrun : Discovery.run cluster engine (s.dropStaleCaches engine).world with
  | mk result world =>
      cases result with
      | error stop =>
          obtain ⟨hcycle, hdeeds⟩ := runCycle_of_run_eq_error steps hrun
          rw [hcycle, hdeeds]
          exact .brokenOff (by simp) .nil
      | ok resources =>
          have hnodup := Discovery.nodup_of_run (congrArg Prod.fst hrun)
          obtain ⟨stop, hdeeds, hstop⟩ := kindsDeeds_deedsOf cluster engine steps resources
            { resourceTypes := resources.length } ((s.dropStaleCaches engine).begun world)
          rw [runCycle_of_run steps hrun, deeds_of_run steps hrun]
          generalize scanKinds cluster engine steps resources _ _ = scanned at hstop ⊢
          obtain ⟨result, s'⟩ := scanned
          cases result with
          | error stop' =>
              rw [List.append_nil]
              exact .brokenOff hnodup hdeeds
          | ok report =>
              rw [hstop.mpr rfl] at hdeeds
              exact .completed hnodup hdeeds

end Scanning

/-! ### What is shown is spared -/

theorem Deed.Scans.view_resource {resource : ResourceType} {view : ObjectView}
    (hscans : (Deed.take view).Scans resource) : view.resource = resource := hscans

namespace DeedsOf

variable {resources : List ResourceType} {deeds : List Deed} {stop : Option Stop}

theorem view_resource (hdeeds : DeedsOf resources deeds stop) {view : ObjectView}
    (htake : .take view ∈ deeds) : view.resource ∈ resources := by
  induction hdeeds with
  | nil => cases htake
  | stopped hscan => exact List.mem_cons.mpr (.inl (hscan _ htake))
  | cons hscan hrest ih =>
      rcases List.mem_append.mp htake with htake | htake
      · exact List.mem_cons.mpr (.inl (hscan _ htake))
      · exact List.mem_cons_of_mem _ (ih ((List.mem_cons.mp htake).resolve_left (by simp)))

theorem finish_resource (hdeeds : DeedsOf resources deeds stop) {resource : ResourceType}
    {observed : Identities} (hfinish : .finish resource observed ∈ deeds) :
    resource ∈ resources := by
  induction hdeeds with
  | nil => cases hfinish
  | stopped hscan => exact (hscan _ hfinish).elim
  | cons hscan hrest ih =>
      rcases List.mem_append.mp hfinish with hfinish | hfinish
      · exact (hscan _ hfinish).elim
      · rcases List.mem_cons.mp hfinish with heq | hfinish
        · cases heq
          exact List.mem_cons_self
        · exact List.mem_cons_of_mem _ (ih hfinish)

/-- There is nothing here but what is done in scans and at their ends. -/
theorem notMem (hdeeds : DeedsOf resources deeds stop) {deed : Deed}
    (hscans : ∀ resource, ¬ deed.Scans resource)
    (hfinish : ∀ resource observed, deed ≠ .finish resource observed) : deed ∉ deeds := by
  intro hmem
  induction hdeeds with
  | nil => cases hmem
  | stopped hscan => exact hscans _ (hscan _ hmem)
  | cons hscan hrest ih =>
      rcases List.mem_append.mp hmem with hmem | hmem
      · exact hscans _ (hscan _ hmem)
      · exact ih ((List.mem_cons.mp hmem).resolve_left (hfinish _ _))

theorem retire_notMem (hdeeds : DeedsOf resources deeds stop) (live : List ResourceKey) :
    Deed.retire live ∉ deeds :=
  hdeeds.notMem (fun _ => id) (by simp)

theorem renew_notMem (hdeeds : DeedsOf resources deeds stop) : Deed.renew ∉ deeds :=
  hdeeds.notMem (fun _ => id) (by simp)

/-- Where nothing stops, each type is listed to its end. -/
theorem completes (hdeeds : DeedsOf resources deeds none) : Completes deeds resources := by
  generalize hstop : (none : Option Stop) = stop at hdeeds
  induction hdeeds with
  | nil => simp [Completes]
  | stopped hscan => cases hstop
  | @cons first rest scan later stop hscan hrest ih =>
      intro resource hresource
      rcases List.mem_cons.mp hresource with rfl | hresource
      · refine ⟨_, List.mem_append_right _ List.mem_cons_self, fun identity hmem => .inr ?_⟩
        rw [Std.ExtTreeSet.mem_insertMany_list, List.contains_iff_mem, Deed.mem_identities] at hmem
        obtain ⟨view, htake, hview⟩ := hmem.resolve_left Std.ExtTreeSet.not_mem_empty
        exact ⟨view, List.mem_append_left _ htake, hview⟩
      · obtain ⟨observed, hfinish, hcovered⟩ := ih hstop resource hresource
        exact ⟨observed, List.mem_append_right _ (List.mem_cons_of_mem _ hfinish),
          hcovered.mono fun deed hdeed => List.mem_append_right _ (List.mem_cons_of_mem _ hdeed)⟩

/-- What is taken up of a kind has been observed when the kind is finished. -/
theorem identity_mem_observed (hdeeds : DeedsOf resources deeds stop)
    (hnodup : (resources.map (·.key)).Nodup) {resource : ResourceType} {observed : Identities}
    (hfinish : .finish resource observed ∈ deeds) {view : ObjectView} (htake : .take view ∈ deeds)
    (hkey : view.resource.key = resource.key) {subject : Subject}
    (hsubject : view.subject? = some subject) :
    subject.identity resource.version ∈ observed := by
  induction hdeeds with
  | nil => cases hfinish
  | stopped hscan => exact (hscan _ hfinish).elim
  | @cons first rest scan later stop hscan hrest ih =>
      rw [List.map_cons, List.nodup_cons] at hnodup
      have hother : ∀ {other : ResourceType}, other ∈ rest → other.key ≠ first.key := by
        intro other hmem heq
        exact hnodup.1 (heq ▸ List.mem_map_of_mem hmem)
      rcases List.mem_append.mp hfinish with hfinish | hfinish
      · exact (hscan _ hfinish).elim
      rcases List.mem_append.mp htake with htaken | hlater
      · have hfirst : view.resource = first := hscan _ htaken
        rcases List.mem_cons.mp hfinish with heq | hfinish
        · cases heq
          rw [Std.ExtTreeSet.mem_insertMany_list, List.contains_iff_mem, Deed.mem_identities]
          exact .inr ⟨view, htaken, by rw [ObjectView.identity?_eq, hsubject, hfirst]; rfl⟩
        · exact absurd (hkey.symm.trans (congrArg _ hfirst)) (hother (hrest.finish_resource hfinish))
      · have htaken := (List.mem_cons.mp hlater).resolve_left (by simp)
        rcases List.mem_cons.mp hfinish with heq | hfinish
        · cases heq
          exact absurd hkey (hother (hrest.view_resource htaken))
        · exact ih hnodup.2 hfinish htaken

end DeedsOf

theorem LaidOut.completes {deeds : List Deed} {report : CycleReport}
    (hlaid : LaidOut deeds (.ok report)) :
    ∃ resources, Completes deeds resources ∧ .retire (resources.map (·.key)) ∈ deeds := by
  cases hlaid with
  | @completed resources deeds report hnodup hdeeds =>
      refine ⟨resources, fun resource hresource => ?_, by simp⟩
      obtain ⟨observed, hfinish, hcovered⟩ := hdeeds.completes resource hresource
      exact ⟨observed, by simp [hfinish], hcovered.mono fun deed hdeed => by simp [hdeed]⟩

/-- A successful attempt completes the listing of certain types, and retires all others. -/
theorem Scanning.completes_deeds (cluster : Cluster World) (engine : Engine World) (steps : Nat)
    (s : Scanning World) (hok : (s.runCycle cluster engine steps).1.isOk = true) :
    ∃ resources, Completes (s.deeds cluster engine steps) resources ∧
      .retire (resources.map (·.key)) ∈ s.deeds cluster engine steps := by
  have hlaid := s.deeds_laidOut cluster engine steps
  cases hresult : (s.runCycle cluster engine steps).1 with
  | error stop =>
      rw [hresult] at hok
      cases hok
  | ok report => exact (hresult ▸ hlaid).completes

theorem LaidOut.eq_renew_cons {deeds : List Deed} {result : Except Stop CycleReport}
    (hlaid : LaidOut deeds result) : ∃ later, deeds = .renew :: later ∧ Deed.renew ∉ later := by
  cases hlaid with
  | completed hnodup hdeeds => exact ⟨_, rfl, by simp [hdeeds.renew_notMem]⟩
  | brokenOff hnodup hdeeds => exact ⟨_, rfl, by simp [hdeeds.renew_notMem]⟩

/-- An attempt that breaks off retires nothing. -/
theorem LaidOut.retire_notMem {deeds : List Deed} {stop : Stop}
    (hlaid : LaidOut deeds (.error stop)) (live : List ResourceKey) : Deed.retire live ∉ deeds := by
  cases hlaid with
  | brokenOff hnodup hdeeds => simp [hdeeds.retire_notMem live]

/-- The generation is looked at first, and then not again. -/
theorem Scanning.deeds_eq_renew_cons (cluster : Cluster World) (engine : Engine World)
    (steps : Nat) (s : Scanning World) :
    ∃ later, s.deeds cluster engine steps = .renew :: later ∧ Deed.renew ∉ later :=
  (s.deeds_laidOut cluster engine steps).eq_renew_cons

/-- The deed drops no entry of these subjects. -/
def Deed.Spares (deed : Deed) (subjects : List Subject) : Prop :=
  match deed with
  | renew => False
  | finish resource observed => ∀ subject ∈ subjects, subject.key = resource.key →
      subject.identity resource.version ∈ observed
  | retire live => ∀ subject ∈ subjects, subject.key ∈ live
  | _ => True

/-- The subjects of the objects that are taken up. -/
def Deed.subjects (deeds : List Deed) : List Subject :=
  (deeds.filterMap Deed.view?).filterMap ObjectView.subject?

@[simp]
theorem Deed.subjects_append (deeds deeds' : List Deed) :
    Deed.subjects (deeds ++ deeds') = Deed.subjects deeds ++ Deed.subjects deeds' := by
  simp [Deed.subjects]

theorem Deed.subjects_of_view?_eq_none {deed : Deed} (hview : deed.view? = none) :
    Deed.subjects [deed] = [] := by
  rw [Deed.subjects, List.filterMap_cons_none hview]
  rfl

theorem Deed.mem_subjects {deeds : List Deed} {subject : Subject} :
    subject ∈ Deed.subjects deeds ↔
      ∃ view, .take view ∈ deeds ∧ view.subject? = some subject := by
  simp only [Deed.subjects, List.mem_filterMap (l := deeds.filterMap Deed.view?), mem_views]

/-- What is shown in an attempt is not dropped for being gone. -/
theorem LaidOut.spares {deeds : List Deed} {result : Except Stop CycleReport}
    (hlaid : LaidOut deeds result) :
    ∀ deed ∈ deeds, deed ≠ .renew → deed.Spares (Deed.subjects deeds) := by
  intro deed hdeed hne
  cases deed with
  | renew => exact absurd rfl hne
  | finish resource observed =>
      intro subject hsubject hkey
      obtain ⟨view, htake, hview⟩ := Deed.mem_subjects.mp hsubject
      have hviewKey := (ObjectView.key_of_subject? hview).symm.trans hkey
      cases hlaid with
      | completed hnodup hdeeds =>
          exact hdeeds.identity_mem_observed hnodup (by simpa using hdeed) (by simpa using htake)
            hviewKey hview
      | brokenOff hnodup hdeeds =>
          exact hdeeds.identity_mem_observed hnodup (by simpa using hdeed) (by simpa using htake)
            hviewKey hview
  | retire live =>
      intro subject hsubject
      obtain ⟨view, htake, hview⟩ := Deed.mem_subjects.mp hsubject
      rw [ObjectView.key_of_subject? hview]
      cases hlaid with
      | @completed resources deeds report hnodup hdeeds =>
          have hlive : live = resources.map (·.key) := by
            simpa [hdeeds.retire_notMem live] using hdeed
          rw [hlive]
          exact List.mem_map_of_mem (hdeeds.view_resource (by simpa using htake))
      | brokenOff hnodup hdeeds =>
          exact absurd (by simpa using hdeed) (hdeeds.retire_notMem live)
  | _ => trivial

end ComplianceScanner
