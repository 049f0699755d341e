import ComplianceScanner.Metrics.Exposition
import ComplianceScanner.Proofs.Attempts
import ComplianceScanner.Proofs.Postings

/-!
# The sizes of the caches

The size of a cache is shown when the scan of its kind comes to the end, and taken back with the cache.
In between the two maps differ: an attempt that breaks off may leave a cache without a size, or a size
that is out of date. It leaves no size without a cache, and that is enough for the next attempt that
comes through to set all of them right. Sizes go by display names, which for kinds that no check applies
to may well be the same; for those that checks apply to they are not.
-/

namespace ComplianceScanner

/-! ### Kinds that checks apply to -/

namespace ResourceKey

def IsChecked (key : ResourceKey) : Prop :=
  ∃ scope : CheckScope, scope.covers key.group key.kind = true

def checked : List ResourceKey :=
  ⟨"policy", "PodDisruptionBudget"⟩ :: deploymentLikeKinds.map fun (group, kind) => ⟨group, kind⟩

theorem IsChecked.mem_checked {key : ResourceKey} (h : key.IsChecked) : key ∈ checked := by
  obtain ⟨scope, hcovers⟩ := h
  obtain ⟨group, kind⟩ := key
  cases scope with
  | deploymentLike =>
      have hmem : (group, kind) ∈ deploymentLikeKinds := List.contains_iff_mem.mp hcovers
      exact List.mem_cons_of_mem _ (List.mem_map_of_mem hmem)
  | podDisruptionBudget =>
      simp only [CheckScope.covers, Bool.and_eq_true, decide_eq_true_eq] at hcovers
      rw [hcovers.1, hcovers.2]
      exact List.mem_cons_self

theorem IsChecked.display_inj {key other : ResourceKey} (h : key.IsChecked) (h' : other.IsChecked)
    (heq : key.display = other.display) : key = other := by
  have hnodup : (checked.map display).Nodup := by decide
  exact List.inj_on_of_nodup_map hnodup h.mem_checked h'.mem_checked heq

end ResourceKey

theorem CheckEngine.isChecked_of_supports {engine : CheckEngine} {group kind : String}
    (hsupports : engine.supports group kind = true) : (⟨group, kind⟩ : ResourceKey).IsChecked := by
  obtain ⟨check, -, hcovers⟩ := List.any_eq_true.mp hsupports
  exact ⟨check.scope, hcovers⟩

theorem Interleaved.isChecked_of_supports {Outside : Type} {w : Interleaved Outside}
    {group kind : String} (hsupports : w.supports group kind = true) :
    (⟨group, kind⟩ : ResourceKey).IsChecked := by
  unfold Interleaved.supports at hsupports
  split at hsupports <;> exact CheckEngine.isChecked_of_supports hsupports

variable {World : Type}

theorem Discovery.supports_of_run {cluster : Cluster World} {engine : Engine World} {world : World}
    {resources : List ResourceType} (hrun : (run cluster engine world).1 = .ok resources)
    {resource : ResourceType} (hresource : resource ∈ resources) :
    ∃ world, engine.supports world resource.group resource.kind = true := by
  unfold run at hrun
  split at hrun <;> cases hrun
  rename_i served asked _
  exact ⟨asked, supports_of_mem_select hresource⟩

/-! ### The cache of one kind -/

/-- Of the caches, none but that of this kind is replaced. -/
def CacheSet.Puts (key : ResourceKey) (set set' : CacheSet) : Prop :=
  set' = set ∨ ∃ cache, set' = set.put key cache

namespace CacheSet.Puts

variable {key other : ResourceKey} {set set' set'' : CacheSet}

theorem trans (h : Puts key set set') (h' : Puts key set' set'') : Puts key set set'' := by
  rcases h with rfl | ⟨cache, rfl⟩
  · exact h'
  · rcases h' with rfl | ⟨cache', rfl⟩
    · exact .inr ⟨cache, rfl⟩
    · exact .inr ⟨cache', CacheSet.put_put _ _ _ _⟩

theorem get?_eq (h : Puts key set set') (hother : other ≠ key) : set'.get? other = set.get? other := by
  rcases h with rfl | ⟨cache, rfl⟩
  · rfl
  · rw [get?_put, if_neg hother.symm]

theorem isSome_get? (h : Puts key set set') (hsome : (set.get? other).isSome = true) :
    (set'.get? other).isSome = true := by
  rcases h with rfl | ⟨cache, rfl⟩
  · exact hsome
  · rw [get?_put]
    split
    · rfl
    · exact hsome

end CacheSet.Puts

namespace Moment

variable {cluster : Cluster World} {engine : Engine World} {resource : ResourceType}

theorem apply_puts {deed : Deed} (hscans : deed.Scans resource) (m : Moment World) :
    CacheSet.Puts resource.key m.caches (m.apply cluster engine deed).caches := by
  cases deed with
  | ask call => exact .inl rfl
  | adopt other =>
      cases hscans
      exact .inr ⟨_, rfl⟩
  | take view =>
      have hresource : view.resource = resource := hscans
      exact .inr ⟨_, by rw [← hresource]; rfl⟩
  | renew | finish other observed | retire live => exact hscans.elim

theorem applyAll_puts {deeds : List Deed} (hscans : ∀ deed ∈ deeds, deed.Scans resource)
    (m : Moment World) :
    CacheSet.Puts resource.key m.caches (m.applyAll cluster engine deeds).caches := by
  induction deeds generalizing m with
  | nil => exact .inl rfl
  | cons deed deeds ih =>
      obtain ⟨hdeed, hdeeds⟩ := List.forall_mem_cons.mp hscans
      exact (apply_puts hdeed m).trans (ih hdeeds _)

end Moment

namespace Scanning

variable {cluster : Cluster World} {engine : Engine World} {steps : Nat} {resource : ResourceType}
  {report report' : CycleReport} {s s' : Scanning World}

theorem scanKind_puts (cluster : Cluster World) (engine : Engine World) (steps : Nat)
    (resource : ResourceType) (report : CycleReport) (s : Scanning World) :
    CacheSet.Puts resource.key s.scheduler.caches
      (s.scanKind cluster engine steps resource report).2.scheduler.caches := by
  obtain ⟨scan, hscans, hdeeds⟩ := s.kindDeeds_cases cluster engine steps resource report
  have hmoment := s.scanKind_moment cluster engine steps resource report
  have hscan : CacheSet.Puts resource.key s.scheduler.caches
      (s.moment.applyAll cluster engine scan).caches := Moment.applyAll_puts hscans s.moment
  have hcaches := congrArg Moment.caches hmoment
  change (s.scanKind cluster engine steps resource report).2.scheduler.caches = _ at hcaches
  rw [hcaches, hdeeds]
  split
  · exact hscan
  · rw [Moment.applyAll_append]
    exact hscan.trans (.inr ⟨_, rfl⟩)

/-! ### No size without a cache -/

/-- Only kinds that checks apply to are cached, and each size that is shown is that of a kind which is
cached, though it may be out of date. -/
structure Gauged (s : Scanning World) : Prop where
  checked : ∀ key, (s.scheduler.caches.get? key).isSome = true → key.IsChecked
  labelled : ∀ label value, s.scheduler.metrics.cached[label]? = some value →
    ∃ key, (s.scheduler.caches.get? key).isSome = true ∧ key.display = label

/-- The cache of a type is there under its version, and the size that is shown is its own. -/
def Shows (s : Scanning World) (resource : ResourceType) : Prop :=
  ∃ cache, s.scheduler.caches.get? resource.key = some cache ∧ cache.version = resource.version ∧
    s.scheduler.metrics.cached[resource.key.display]? = some cache.size.toUInt64.toInt64

section

variable {scopes : List (Option String × String)} {count : Option Nat} {between : Scanning World}
  {scan : KindScan World}
  (h : CameThrough cluster engine steps resource report report' s s' scopes count between scan)
include h

theorem CameThrough.cached_eq : ∃ value, s'.scheduler.metrics.cached =
      s.scheduler.metrics.cached.insert resource.key.display value := by
  rw [h.metrics_eq]
  exact ⟨_, rfl⟩

theorem CameThrough.shows : s'.Shows resource := by
  let cache := (scan.caches.cacheFor resource).keepObserved scan.observed
  have hcaches : s'.scheduler.caches = scan.caches.put resource.key cache :=
    (congrArg (·.2.scheduler.caches) h.finish_eq).symm
  refine ⟨cache, ?_, CacheSet.version_cacheFor _ _, ?_⟩
  · rw [hcaches, CacheSet.get?_put, if_pos rfl]
  · rw [h.metrics_eq]
    exact Std.ExtTreeMap.getElem?_insert_self

end

theorem Gauged.scanKind (h : s.Gauged) (cluster : Cluster World) (engine : Engine World)
    (steps : Nat) (report : CycleReport) (hchecked : resource.key.IsChecked) :
    (s.scanKind cluster engine steps resource report).2.Gauged := by
  have hputs := s.scanKind_puts cluster engine steps resource report
  have hmono : ∀ label value, s.scheduler.metrics.cached[label]? = some value → ∃ key,
      ((s.scanKind cluster engine steps resource report).2.scheduler.caches.get? key).isSome = true ∧
        key.display = label := by
    intro label value hvalue
    obtain ⟨key, hkey, hlabel⟩ := h.labelled label value hvalue
    exact ⟨key, hputs.isSome_get? hkey, hlabel⟩
  constructor
  · intro key hkey
    by_cases heq : key = resource.key
    · exact heq ▸ hchecked
    · rw [hputs.get?_eq heq] at hkey
      exact h.checked key hkey
  · intro label value hvalue
    cases hrun : s.scanKind cluster engine steps resource report with
    | mk result s' =>
        rw [hrun] at hvalue hmono
        cases result with
        | error stop =>
            rw [scanKind_metrics_of_error hrun] at hvalue
            exact hmono label value hvalue
        | ok report' =>
            obtain ⟨scopes, count, between, scan, hthrough⟩ := exists_cameThrough hrun
            obtain ⟨shown, hcached⟩ := hthrough.cached_eq
            rw [hcached, Std.ExtTreeMap.getElem?_insert] at hvalue
            split at hvalue
            · rename_i hlabel
              obtain ⟨cache, hcache, -⟩ := hthrough.shows
              exact ⟨resource.key, by rw [hcache]; rfl, Std.LawfulEqCmp.compare_eq_iff_eq.mp hlabel⟩
            · exact hmono label value hvalue

theorem Gauged.scanKinds {resources : List ResourceType} (h : s.Gauged) (cluster : Cluster World)
    (engine : Engine World) (steps : Nat) (report : CycleReport)
    (hchecked : ∀ resource ∈ resources, resource.key.IsChecked) :
    (s.scanKinds cluster engine steps resources report).2.Gauged := by
  induction resources generalizing report s with
  | nil => exact h
  | cons resource rest ih =>
      obtain ⟨hfirst, hrest⟩ := List.forall_mem_cons.mp hchecked
      have hscanned := h.scanKind cluster engine steps report hfirst
      rw [Scanning.scanKinds]
      split
      · rename_i hrun
        rwa [hrun] at hscanned
      · rename_i hrun
        rw [hrun] at hscanned
        exact ih hscanned _ hrest

/-- A size that is left when these caches are dropped is not that of one of them. -/
theorem getElem?_foldl_erase (caches : List (ResourceKey × Cache))
    (sizes : Std.ExtTreeMap String Int64) (label : String) :
    (caches.foldl (fun sizes (key, _) => sizes.erase key.display) sizes)[label]? =
      if label ∈ caches.map (·.1.display) then none else sizes[label]? := by
  induction caches generalizing sizes with
  | nil => simp
  | cons item caches ih =>
      rw [List.foldl_cons, ih, Std.ExtTreeMap.getElem?_erase]
      by_cases hitem : item.1.display = label
      · simp [hitem]
      · simp only [Std.LawfulEqCmp.compare_eq_iff_eq, hitem, if_false]
        exact if_congr (by simp [Ne.symm hitem]) rfl rfl

theorem Gauged.dropStaleCaches (h : s.Gauged) (engine : Engine World) :
    (s.dropStaleCaches engine).Gauged := by
  unfold Scanning.dropStaleCaches
  simp only
  split
  · exact h
  · constructor
    · intro key hkey
      cases hkey
    · intro label value hvalue
      simp only [foldl_removeCached_eq, getElem?_foldl_erase] at hvalue
      split at hvalue
      · cases hvalue
      · rename_i hlabel
        obtain ⟨key, hkey, rfl⟩ := h.labelled label value hvalue
        obtain ⟨cache, hcache⟩ := Option.isSome_iff_exists.mp hkey
        have hitem := (CacheSet.mem_toList _ _ _).mpr hcache
        exact absurd (List.mem_map.mpr ⟨_, hitem, rfl⟩) hlabel

theorem foldl_dropKind_cached (caches : List (ResourceKey × Cache)) (report : CycleReport)
    (s : Scanning World) :
    (caches.foldl (fun s (key, cache) => dropKind engine key cache s)
      (report, s)).2.scheduler.metrics.cached =
      caches.foldl (fun sizes (key, _) => sizes.erase key.display) s.scheduler.metrics.cached := by
  induction caches generalizing report s with
  | nil => rfl
  | cons item caches ih => exact ih _ _

theorem dropVanished_caches (resources : List ResourceType) (report : CycleReport)
    (s : Scanning World) :
    (s.dropVanished engine resources report).2.scheduler.caches =
      s.scheduler.caches.retain (resources.map (·.key)) :=
  congrArg Moment.caches (foldl_dropKind_moment engine _ report _)

theorem getElem?_cached_dropVanished (resources : List ResourceType) (report : CycleReport)
    (s : Scanning World) (label : String) :
    (s.dropVanished engine resources report).2.scheduler.metrics.cached[label]? =
      if label ∈ (s.scheduler.caches.vanished (resources.map (·.key))).map (·.1.display) then none
      else s.scheduler.metrics.cached[label]? := by
  rw [← getElem?_foldl_erase]
  exact congrArg (·[label]?) (foldl_dropKind_cached _ report _)

theorem Gauged.dropVanished (h : s.Gauged) (engine : Engine World) (resources : List ResourceType)
    (report : CycleReport) :
    (s.dropVanished engine resources report).2.Gauged := by
  constructor
  · intro key hkey
    rw [dropVanished_caches, CacheSet.get?_retain] at hkey
    split at hkey
    · exact h.checked key hkey
    · cases hkey
  · intro label value hvalue
    rw [getElem?_cached_dropVanished] at hvalue
    split at hvalue
    · cases hvalue
    · rename_i hlabel
      obtain ⟨key, hkey, rfl⟩ := h.labelled label value hvalue
      refine ⟨key, ?_, rfl⟩
      rw [dropVanished_caches, CacheSet.get?_retain]
      by_cases hlive : key ∈ resources.map (·.key)
      · rwa [if_pos hlive]
      · obtain ⟨cache, hcache⟩ := Option.isSome_iff_exists.mp hkey
        have hitem := (CacheSet.mem_vanished _ _ _ _).mpr ⟨hcache, hlive⟩
        exact absurd (List.mem_map.mpr ⟨_, hitem, rfl⟩) hlabel

theorem isChecked_of_run
    (hsupports : ∀ world group kind, engine.supports world group kind = true →
      (⟨group, kind⟩ : ResourceKey).IsChecked)
    {resources : List ResourceType} {asked world : World}
    (hdiscovered : Discovery.run cluster engine asked = (.ok resources, world)) :
    ∀ resource ∈ resources, resource.key.IsChecked := by
  intro resource hresource
  obtain ⟨_, hsupported⟩ := Discovery.supports_of_run (congrArg Prod.fst hdiscovered) hresource
  exact hsupports _ _ _ hsupported

theorem Gauged.begun (h : s.Gauged) (world : World) : (s.begun world).Gauged :=
  ⟨h.checked, h.labelled⟩

/-- An attempt leaves no size without a cache, wherever it breaks off. -/
theorem Gauged.runCycle (h : s.Gauged)
    (hsupports : ∀ world group kind, engine.supports world group kind = true →
      (⟨group, kind⟩ : ResourceKey).IsChecked) :
    (s.runCycle cluster engine steps).2.Gauged := by
  have hstale := h.dropStaleCaches engine
  cases hrun : Discovery.run cluster engine (s.dropStaleCaches engine).world with
  | mk result world =>
      cases result with
      | error stop =>
          rw [(runCycle_of_run_eq_error steps hrun).1]
          exact ⟨hstale.checked, hstale.labelled⟩
      | ok resources =>
          have hscanned := (hstale.begun world).scanKinds cluster engine steps
            { resourceTypes := resources.length } (isChecked_of_run hsupports hrun)
          rw [runCycle_of_run steps hrun]
          split
          · rename_i hkinds
            rwa [hkinds] at hscanned
          · rename_i hkinds
            rw [hkinds] at hscanned
            exact hscanned.dropVanished engine resources _

/-! ### All sizes after an attempt that came through -/

theorem Shows.scanKind {other : ResourceType} (h : s.Shows other)
    (hother : other.key.display ≠ resource.key.display)
    (hrun : s.scanKind cluster engine steps resource report = (.ok report', s')) :
    s'.Shows other := by
  obtain ⟨cache, hcache, hversion, hsize⟩ := h
  obtain ⟨scopes, count, between, scan, hthrough⟩ := exists_cameThrough hrun
  obtain ⟨value, hcached⟩ := hthrough.cached_eq
  have hputs := s.scanKind_puts cluster engine steps resource report
  rw [hrun] at hputs
  have hkey : other.key ≠ resource.key := fun heq => hother (congrArg ResourceKey.display heq)
  refine ⟨cache, (hputs.get?_eq hkey).trans hcache, hversion, ?_⟩
  rw [hcached, Std.ExtTreeMap.getElem?_insert, if_neg]
  · exact hsize
  · rw [Std.LawfulEqCmp.compare_eq_iff_eq]
    exact hother.symm

theorem Shows.scanKinds {resources : List ResourceType} {other : ResourceType} (h : s.Shows other)
    (hother : other.key.display ∉ resources.map (·.key.display))
    (hrun : s.scanKinds cluster engine steps resources report = (.ok report', s')) :
    s'.Shows other := by
  induction resources generalizing report s with
  | nil =>
      cases hrun
      exact h
  | cons resource rest ih =>
      rw [List.map_cons, List.mem_cons, not_or] at hother
      obtain ⟨hfirst, hrest⟩ := hother
      obtain ⟨between, t, hscan, hscans⟩ := exists_scanKind_of_scanKinds_cons hrun
      exact ih (h.scanKind hfirst hscan) hrest hscans

/-- When no two types have the same display name, none of them loses its size to another. -/
theorem scanKinds_shows {resources : List ResourceType}
    (hnodup : (resources.map (·.key.display)).Nodup)
    (hrun : s.scanKinds cluster engine steps resources report = (.ok report', s')) :
    ∀ resource ∈ resources, s'.Shows resource := by
  induction resources generalizing report s with
  | nil => simp
  | cons first rest ih =>
      obtain ⟨hfirst, hrest⟩ := List.nodup_cons.mp hnodup
      obtain ⟨between, t, hscan, hscans⟩ := exists_scanKind_of_scanKinds_cons hrun
      obtain ⟨scopes, count, _, scan, hthrough⟩ := exists_cameThrough hscan
      exact List.forall_mem_cons.mpr ⟨hthrough.shows.scanKinds hfirst hscans, ih hrest hscans⟩

theorem Shows.dropVanished (h : s.Shows resource) (hgauged : s.Gauged)
    {resources : List ResourceType} (hresource : resource ∈ resources) (report : CycleReport) :
    (s.dropVanished engine resources report).2.Shows resource := by
  obtain ⟨cache, hcache, hversion, hsize⟩ := h
  have hlive : resource.key ∈ resources.map (·.key) := List.mem_map_of_mem hresource
  refine ⟨cache, ?_, hversion, ?_⟩
  · rw [dropVanished_caches, CacheSet.get?_retain, if_pos hlive, hcache]
  · rw [getElem?_cached_dropVanished, if_neg]
    · exact hsize
    · intro hlabel
      obtain ⟨⟨key, dropped⟩, hdropped, hdisplay⟩ := List.mem_map.mp hlabel
      obtain ⟨hkey, hgone⟩ := (CacheSet.mem_vanished _ _ _ _).mp hdropped
      have hsame : key = resource.key :=
        (hgauged.checked key (by rw [hkey]; rfl)).display_inj
          (hgauged.checked resource.key (by rw [hcache]; rfl)) hdisplay
      exact hgone (hsame ▸ hlive)

/-- The caches are those of these types, and the sizes that are shown are theirs. -/
structure ShowsSizes (s : Scanning World) (resources : List ResourceType) : Prop where
  isSome_get?_iff : ∀ key, (s.scheduler.caches.get? key).isSome = true ↔
    key ∈ resources.map (·.key)
  version_eq : ∀ resource ∈ resources, ∀ cache,
    s.scheduler.caches.get? resource.key = some cache → cache.version = resource.version
  cached_perm : s.scheduler.metrics.cached.toList.Perm
    (s.scheduler.caches.toList.map fun (key, cache) =>
      (key.display, cache.size.toUInt64.toInt64))
  /-- So the text has one sample for each cache, as long as its size is in the signed range. -/
  samples_perm : (∀ item ∈ s.scheduler.caches.toList, item.2.size < 2 ^ 63) → ∀ gauge,
    ∃ family ∈ Exposition.families gauge s.scheduler.metrics,
      family.name = "validation_operator_cached_objects" ∧
        family.samples.Perm (s.scheduler.caches.toList.map fun (key, cache) =>
          { labels := [("kind", key.display)], value := toString cache.size })

theorem Gauged.cached_perm (h : s.Gauged) {resources : List ResourceType}
    (hkeys : ∀ key, (s.scheduler.caches.get? key).isSome = true → key ∈ resources.map (·.key))
    (hshows : ∀ resource ∈ resources, s.Shows resource) :
    s.scheduler.metrics.cached.toList.Perm
      (s.scheduler.caches.toList.map fun (key, cache) =>
        (key.display, cache.size.toUInt64.toInt64)) := by
  -- What is shown for a cached kind is its own size, since it is one of the types.
  have hsize : ∀ key cache, s.scheduler.caches.get? key = some cache →
      s.scheduler.metrics.cached[key.display]? = some cache.size.toUInt64.toInt64 := by
    intro key cache hcache
    obtain ⟨resource, hresource, rfl⟩ := List.mem_map.mp (hkeys key (by rw [hcache]; rfl))
    obtain ⟨found, hfound, -, hsize⟩ := hshows resource hresource
    rwa [Option.some.inj (hcache.symm.trans hfound)]
  apply (List.perm_ext_iff_of_nodup ?_ ?_).mpr
  · rintro ⟨label, value⟩
    rw [Std.ExtTreeMap.mem_toList_iff_getElem?_eq_some, List.mem_map]
    constructor
    · intro hvalue
      obtain ⟨key, hkey, rfl⟩ := h.labelled label value hvalue
      obtain ⟨cache, hcache⟩ := Option.isSome_iff_exists.mp hkey
      have hsame := (hsize key cache hcache).symm.trans hvalue
      exact ⟨(key, cache), (CacheSet.mem_toList _ _ _).mpr hcache,
        Prod.ext rfl (Option.some.inj hsame)⟩
    · rintro ⟨⟨key, cache⟩, hitem, heq⟩
      cases heq
      exact hsize key cache ((CacheSet.mem_toList _ _ _).mp hitem)
  · refine List.Pairwise.imp ?_ Std.ExtTreeMap.distinct_keys_toList
    rintro item other hne rfl
    exact hne (Std.LawfulEqCmp.compare_eq_iff_eq.mpr rfl)
  · refine List.pairwise_map.mpr ?_
    refine List.Pairwise.imp_of_mem ?_ Std.ExtTreeMap.distinct_keys_toList
    rintro ⟨key, cache⟩ ⟨key', cache'⟩ hmem hmem' hne heq
    have hcache := (CacheSet.mem_toList _ _ _).mp hmem
    have hcache' := (CacheSet.mem_toList _ _ _).mp hmem'
    refine hne (Std.LawfulEqCmp.compare_eq_iff_eq.mpr ?_)
    exact (h.checked key (by rw [hcache]; rfl)).display_inj
      (h.checked key' (by rw [hcache']; rfl)) (congrArg Prod.fst heq)

theorem toString_toInt64 {size : Nat} (hsize : size < 2 ^ 63) :
    toString size.toUInt64.toInt64 = toString size := by
  have hvalue : size.toUInt64.toInt64.toInt = size := by
    change (UInt64.ofNat size).toInt64.toInt = size
    rw [UInt64.toInt64_ofNat', Int64.toInt_ofNat_of_lt hsize]
  change toString size.toUInt64.toInt64.toInt = toString size
  rw [hvalue]
  rfl

theorem nodup_display {resources : List ResourceType}
    (hchecked : ∀ resource ∈ resources, resource.key.IsChecked)
    (hnodup : (resources.map (·.key)).Nodup) : (resources.map (·.key.display)).Nodup := by
  have hmap : resources.map (·.key.display) = (resources.map (·.key)).map ResourceKey.display := by
    rw [List.map_map]
    rfl
  rw [hmap]
  refine List.Nodup.map_on ?_ hnodup
  intro key hkey other hother heq
  obtain ⟨resource, hresource, rfl⟩ := List.mem_map.mp hkey
  obtain ⟨resource', hresource', rfl⟩ := List.mem_map.mp hother
  exact (hchecked resource hresource).display_inj (hchecked resource' hresource') heq

/-- An attempt that comes through sets all sizes right. -/
theorem runCycle_showsSizes (hgauged : s.Gauged)
    (hsupports : ∀ world group kind, engine.supports world group kind = true →
      (⟨group, kind⟩ : ResourceKey).IsChecked)
    {resources : List ResourceType} {world : World}
    (hdiscovered : Discovery.run cluster engine (s.dropStaleCaches engine).world =
      (.ok resources, world))
    (hrun : s.runCycle cluster engine steps = (.ok report, s')) : s'.ShowsSizes resources := by
  have hchecked := isChecked_of_run hsupports hdiscovered
  obtain ⟨between, t, hkinds, hdropped⟩ := exists_scanKinds_of_runCycle hdiscovered hrun
  have hscanned := ((hgauged.dropStaleCaches engine).begun world).scanKinds cluster engine steps
    { resourceTypes := resources.length } hchecked
  rw [hkinds] at hscanned
  have hend := hscanned.dropVanished engine resources between
  have hshows : ∀ resource ∈ resources,
      (t.dropVanished engine resources between).2.Shows resource := by
    intro resource hresource
    have hnodup := nodup_display hchecked (Discovery.nodup_of_run (congrArg Prod.fst hdiscovered))
    have hscan := scanKinds_shows hnodup hkinds resource hresource
    exact hscan.dropVanished hscanned hresource between
  have hkeys : ∀ key, ((t.dropVanished engine resources between).2.scheduler.caches.get? key).isSome
      = true → key ∈ resources.map (·.key) := by
    intro key hkey
    rw [dropVanished_caches, CacheSet.get?_retain] at hkey
    split at hkey
    · assumption
    · cases hkey
  rw [hdropped] at hend hshows hkeys
  have hperm := hend.cached_perm hkeys hshows
  constructor
  case isSome_get?_iff =>
    refine fun key => ⟨hkeys key, fun hkey => ?_⟩
    obtain ⟨resource, hresource, rfl⟩ := List.mem_map.mp hkey
    obtain ⟨cache, hcache, -⟩ := hshows resource hresource
    rw [hcache]
    rfl
  case version_eq =>
    intro resource hresource cache hcache
    obtain ⟨found, hfound, hversion, -⟩ := hshows resource hresource
    rwa [Option.some.inj (hcache.symm.trans hfound)]
  case cached_perm => exact hperm
  case samples_perm =>
    intro hsizes gauge
    refine ⟨_, List.mem_of_getElem? (i := 7) rfl, rfl, ?_⟩
    refine (hperm.map _).trans ?_
    rw [List.map_map, List.map_congr_left]
    rintro ⟨key, cache⟩ hitem
    have htext := toString_toInt64 (hsizes _ hitem)
    simp only [Function.comp_apply, htext]

end Scanning

/-! ### Histories -/

variable {Outside : Type} (cluster : Cluster Outside)

/-- Whoever counts cycles and errors leaves the sizes as they are. -/
def Event.SparesSizes (s : Scanning (Interleaved Outside)) : Event Outside → Prop
  | .count _ metrics => metrics.cached = s.scheduler.metrics.cached
  | _ => True

namespace Scanning

/-- In these events nobody but the scanner itself sets sizes. -/
def IsOnlyWriter : List (Event Outside) → Scanning (Interleaved Outside) → Prop
  | [], _ => True
  | event :: events, s => event.SparesSizes s ∧ IsOnlyWriter events (s.meet cluster event)

theorem Fresh.gauged {s : Scanning (Interleaved Outside)} (hfresh : s.Fresh) : s.Gauged := by
  obtain ⟨config, hscheduler⟩ := hfresh.scheduler
  obtain ⟨namespaces, -, heq⟩ := Scheduler.exists_of_ofConfig hscheduler
  constructor
  · intro key hkey
    rw [heq] at hkey
    cases hkey
  · intro label value hvalue
    rw [heq] at hvalue
    cases hvalue

theorem Gauged.meet {s : Scanning (Interleaved Outside)} (h : s.Gauged) {event : Event Outside}
    (hspares : event.SparesSizes s) : (s.meet cluster event).Gauged := by
  cases event with
  | attempt steps due =>
      have hbeset : (s.beset due).Gauged := ⟨h.checked, h.labelled⟩
      exact hbeset.runCycle fun _ _ _ => Interleaved.isChecked_of_supports
  | reload selection => exact ⟨h.checked, h.labelled⟩
  | turn outside => exact ⟨h.checked, h.labelled⟩
  | count completed metrics =>
      have hsame : metrics.cached = s.scheduler.metrics.cached := hspares
      refine ⟨h.checked, fun label value hvalue => h.labelled label value ?_⟩
      rwa [← hsame]

theorem Gauged.live {s : Scanning (Interleaved Outside)} (h : s.Gauged)
    {events : List (Event Outside)} (hwriter : s.IsOnlyWriter cluster events) :
    (s.live cluster events).Gauged := by
  induction events generalizing s with
  | nil => exact h
  | cons event events ih => exact ih (h.meet cluster hwriter.1) hwriter.2

/-- Whatever has happened to a scanner, also in attempts that broke off, after one that comes through
the caches are those of the types just discovered, and the sizes shown are theirs and no others. -/
theorem cached_objects_shown {s : Scanning (Interleaved Outside)} (hfresh : s.Fresh)
    {events : List (Event Outside)} (hwriter : s.IsOnlyWriter cluster events) (steps : Nat)
    (due : List Gap) {report : CycleReport} {s' : Scanning (Interleaved Outside)}
    (hrun : (s.live cluster events).attempt cluster steps due = (.ok report, s')) :
    ∃ resources world,
      Discovery.run (Interleaved.asCluster cluster) Interleaved.asEngine
          (((s.live cluster events).beset due).dropStaleCaches Interleaved.asEngine).world =
        (.ok resources, world) ∧
      s'.ShowsSizes resources := by
  have hgauged := hfresh.gauged.live cluster hwriter
  have hbeset : ((s.live cluster events).beset due).Gauged := ⟨hgauged.checked, hgauged.labelled⟩
  obtain ⟨resources, world, hdiscovered⟩ := exists_discovered hrun
  exact ⟨resources, world, hdiscovered,
    runCycle_showsSizes hbeset (fun _ _ _ => Interleaved.isChecked_of_supports) hdiscovered hrun⟩

end Scanning

namespace Sample

/-- The workloads come to be served in another group, and the first attempt to list them there breaks
off. Then the checks change. -/
def withdrawal : List (Event ScriptedCluster) :=
  [.count 0 { cycleErrors := CounterFamily.add ∅ "config" 1 }, .attempt 2 [],
    .turn (serving ["apps"] [web "uid-1" "2", { web "uid-2" "1" with name := some "api" }]),
    .attempt 1 [], .reload { added := ["host-ipc"] }]

theorem cached_objects_shown_withdrawal :
    let s := scanning (serving ["extensions"] [web "uid-1" "1"])
    let before := s.live ScriptedCluster.asCluster withdrawal
    let last := before.attempt ScriptedCluster.asCluster 2 []
    s.Fresh ∧ s.IsOnlyWriter ScriptedCluster.asCluster withdrawal ∧
      before.scheduler.caches.size = 2 ∧
      before.scheduler.metrics.cached.toList = [("Deployment.extensions", 1)] ∧
      last.2.scheduler.metrics.cached.toList = [("Deployment.apps", 2)] ∧
      last.1.isOk = true ∧ ∃ resources, last.2.ShowsSizes resources := by
  intro s before last
  have hfresh : s.Fresh := fresh_scanning _
  have hwriter : s.IsOnlyWriter ScriptedCluster.asCluster withdrawal :=
    ⟨rfl, trivial, trivial, trivial, trivial, trivial⟩
  have hok : last.1.isOk = true := by decide +kernel
  refine ⟨hfresh, hwriter, by decide +kernel, by decide +kernel, by decide +kernel, hok, ?_⟩
  cases hrun : last with
  | mk result s' =>
      cases result with
      | error stop =>
          rw [hrun] at hok
          cases hok
      | ok report =>
          obtain ⟨resources, -, -, hshows⟩ :=
            Scanning.cached_objects_shown ScriptedCluster.asCluster hfresh hwriter 2 [] hrun
          exact ⟨resources, hshows⟩

end Sample

end ComplianceScanner
