import ComplianceScanner.Proofs.Deeds

/-!
# What one deed drops

An entry can go because a full listing did not show its object, because its kind is served no more,
or because the engine moved on. `Moment.dropped` lists what goes at one deed, each entry once, and
`Moment.mem_dropped` says that these are the entries held before and not afterwards.
-/

namespace ComplianceScanner

variable {World : Type}

/-! ### All entries at once -/

def entriesOf (caches : List (ResourceKey × Cache)) : List (Identity × CacheEntry) :=
  caches.flatMap fun (_, cache) => cache.toList

/-- An entry without the version that its kind is cached under. -/
def bySubject (item : Identity × CacheEntry) : Subject × CacheEntry := (item.1.subject, item.2)

theorem labelsOfAll_eq (caches : List (ResourceKey × Cache)) :
    labelsOfAll caches = labelsOf (entriesOf caches) := by
  simp only [labelsOfAll, labelsOf, entriesOf, List.map_flatMap]

theorem labelsOf_eq_map_bySubject (items : List (Identity × CacheEntry)) :
    labelsOf items = (items.map bySubject).map fun (subject, entry) => subject.labels entry := by
  rw [labelsOf, List.map_map]
  rfl

theorem Cache.nodup_bySubject {cache : Cache} {key : ResourceKey} (hkeyed : cache.Keyed key) :
    (cache.toList.map bySubject).Nodup := by
  refine List.pairwise_map.mpr ?_
  refine List.Pairwise.imp_of_mem ?_ Std.ExtTreeMap.distinct_keys_toList
  rintro ⟨identity, entry⟩ ⟨identity', entry'⟩ hmem hmem' hne heq
  obtain ⟨hversion, -⟩ := hkeyed identity entry ((mem_toList cache _ _).mp hmem)
  obtain ⟨hversion', -⟩ := hkeyed identity' entry' ((mem_toList cache _ _).mp hmem')
  refine hne (Std.LawfulEqOrd.compare_eq_iff_eq.mpr ?_)
  rw [← Identity.identity_subject identity, ← Identity.identity_subject identity',
    hversion, hversion', (Prod.mk.inj heq).1]

namespace CacheSet

/-- What is held, by subjects. -/
def held (set : CacheSet) : List (Subject × CacheEntry) := (entriesOf set.toList).map bySubject

theorem mem_entriesOf {set : CacheSet} {identity : Identity} {entry : CacheEntry} :
    (identity, entry) ∈ entriesOf set.toList ↔ set.Holds identity entry := by
  simp only [entriesOf, List.mem_flatMap, Prod.exists, mem_toList, Cache.mem_toList, Holds]

theorem mem_held {set : CacheSet} (hkeyed : set.Keyed) {subject : Subject} {entry : CacheEntry} :
    (subject, entry) ∈ set.held ↔ set.entryFor? subject = some entry := by
  rw [held, List.mem_map]
  constructor
  · rintro ⟨⟨identity, found⟩, hmem, heq⟩
    cases heq
    exact (mem_entriesOf.mp hmem).entryFor? hkeyed
  · intro hentry
    obtain ⟨version, hholds⟩ := holds_of_entryFor? hentry
    exact ⟨_, mem_entriesOf.mpr hholds, rfl⟩

/-- Caches of different kinds have no subject in common. -/
theorem Keyed.nodup_bySubject {set : CacheSet} (hkeyed : set.Keyed)
    {caches : List (ResourceKey × Cache)} (hcaches : caches.Sublist set.toList) :
    ((entriesOf caches).map bySubject).Nodup := by
  rw [entriesOf, List.map_flatMap]
  refine List.pairwise_flatMap.mpr ⟨?_, ?_⟩
  · rintro ⟨key, cache⟩ hmem
    exact Cache.nodup_bySubject (hkeyed key cache ((mem_toList set _ _).mp (hcaches.subset hmem)))
  · refine List.Pairwise.imp_of_mem ?_ (Std.ExtTreeMap.distinct_keys_toList.sublist hcaches)
    rintro ⟨key, cache⟩ ⟨key', cache'⟩ hmem hmem' hne first hfirst second hsecond rfl
    obtain ⟨⟨identity, entry⟩, hfound, rfl⟩ := List.mem_map.mp hfirst
    obtain ⟨⟨identity', entry'⟩, hfound', heq⟩ := List.mem_map.mp hsecond
    have hkey := (hkeyed key cache ((mem_toList set _ _).mp (hcaches.subset hmem)) identity entry
      ((Cache.mem_toList cache _ _).mp hfound)).2
    have hkey' := (hkeyed key' cache' ((mem_toList set _ _).mp (hcaches.subset hmem')) identity'
      entry' ((Cache.mem_toList cache' _ _).mp hfound')).2
    refine hne (Std.LawfulEqOrd.compare_eq_iff_eq.mpr ?_)
    rw [← hkey, ← hkey', (Prod.mk.inj heq).1]

theorem Keyed.nodup_held {set : CacheSet} (hkeyed : set.Keyed) : set.held.Nodup :=
  hkeyed.nodup_bySubject (List.Sublist.refl _)

theorem mem_unobserved {set : CacheSet} (hkeyed : set.Keyed) {resource : ResourceType}
    {observed : Identities} {subject : Subject} {entry : CacheEntry} :
    (subject, entry) ∈ ((set.cacheFor resource).unobserved observed).map bySubject ↔
      set.entryFor? subject = some entry ∧
        subject.key = resource.key ∧ subject.identity resource.version ∉ observed := by
  simp only [List.mem_map, Prod.exists, Cache.mem_unobserved, bySubject, Prod.mk.injEq]
  constructor
  · rintro ⟨identity, found, ⟨hfound, hobserved⟩, rfl, rfl⟩
    obtain ⟨hversion, hkey⟩ := hkeyed.cacheFor resource identity found hfound
    rw [version_cacheFor] at hversion
    have hidentity : identity.subject.identity resource.version = identity := by
      rw [← hversion, Identity.identity_subject]
    refine ⟨?_, hkey, hidentity.symm ▸ hobserved⟩
    rw [← get?_cacheFor hkeyed hkey, hidentity]
    exact hfound
  · rintro ⟨hheld, hkey, hobserved⟩
    exact ⟨subject.identity resource.version, entry,
      ⟨(get?_cacheFor hkeyed hkey).trans hheld, hobserved⟩, rfl, rfl⟩

theorem mem_entriesOf_vanished {set : CacheSet} (hkeyed : set.Keyed) {live : List ResourceKey}
    {subject : Subject} {entry : CacheEntry} :
    (subject, entry) ∈ (entriesOf (set.vanished live)).map bySubject ↔
      set.entryFor? subject = some entry ∧ subject.key ∉ live := by
  simp only [entriesOf, List.mem_map, List.mem_flatMap, Prod.exists, mem_vanished,
    Cache.mem_toList, bySubject, Prod.mk.injEq]
  constructor
  · rintro ⟨identity, found, ⟨key, cache, ⟨hcache, hlive⟩, hfound⟩, rfl, rfl⟩
    have hkey := (hkeyed key cache hcache identity found hfound).2
    exact ⟨entryFor?_of_get? hkeyed hcache hfound, hkey ▸ hlive⟩
  · rintro ⟨hheld, hlive⟩
    obtain ⟨cache, hcache, hfound⟩ := Option.bind_eq_some_iff.mp hheld
    exact ⟨_, _, ⟨subject.key, cache, ⟨hcache, hlive⟩, hfound⟩, rfl, rfl⟩

end CacheSet

/-! ### What one deed drops -/

namespace Moment

/-- The entries that a deed drops together with their series. -/
def dropped (engine : Engine World) (m : Moment World) : Deed → List (Identity × CacheEntry)
  | .renew => if engine.generation m.world = m.generation then [] else entriesOf m.caches.toList
  | .finish resource observed => (m.caches.cacheFor resource).unobserved observed
  | .retire live => entriesOf (m.caches.vanished live)
  | _ => []

variable (cluster : Cluster World) (engine : Engine World) {m : Moment World}

theorem nodup_dropped (hkeyed : m.caches.Keyed) (deed : Deed) :
    ((m.dropped engine deed).map bySubject).Nodup := by
  cases deed with
  | renew =>
      rw [dropped]
      split
      · exact List.nodup_nil
      · exact hkeyed.nodup_held
  | finish resource observed =>
      exact (Cache.nodup_bySubject (hkeyed.cacheFor resource)).sublist
        (List.filter_sublist.map _)
  | retire live => exact hkeyed.nodup_bySubject List.filter_sublist
  | _ => exact List.nodup_nil

theorem entryFor?_finish (hkeyed : m.caches.Keyed) (resource : ResourceType) (observed : Identities)
    (subject : Subject) :
    (m.apply cluster engine (.finish resource observed)).caches.entryFor? subject =
      if subject.key = resource.key ∧ subject.identity resource.version ∉ observed then none
      else m.caches.entryFor? subject := by
  simp only [apply]
  rw [CacheSet.entryFor?_put]
  by_cases hkey : subject.key = resource.key
  · have hheld := CacheSet.get?_cacheFor hkeyed hkey
    have hversion : ((m.caches.cacheFor resource).keepObserved observed).version =
        resource.version := CacheSet.version_cacheFor _ _
    rw [if_pos hkey, hversion, Cache.get?_keepObserved, hheld]
    by_cases hobserved : subject.identity resource.version ∈ observed
    · rw [if_pos hobserved, if_neg fun h => h.2 hobserved]
    · rw [if_neg hobserved, if_pos ⟨hkey, hobserved⟩]
  · rw [if_neg hkey, if_neg fun h => hkey h.1]

/-- The dropped entries are those that are held before and not afterwards. -/
theorem mem_dropped (hkeyed : m.caches.Keyed) {deed : Deed} (hdeed : deed.view? = none)
    {subject : Subject} {entry : CacheEntry} :
    (subject, entry) ∈ (m.dropped engine deed).map bySubject ↔
      m.caches.entryFor? subject = some entry ∧
        (m.apply cluster engine deed).caches.entryFor? subject = none := by
  cases deed with
  | renew =>
      by_cases hsame : engine.generation m.world = m.generation
      · simp only [dropped, apply, hsame, if_true, List.map_nil, List.not_mem_nil, false_iff]
        rintro ⟨hheld, hnone⟩
        exact Option.some_ne_none _ (hheld.symm.trans hnone)
      · simp only [dropped, apply, hsame, if_false]
        exact (CacheSet.mem_held hkeyed).trans (and_iff_left rfl).symm
  | finish resource observed =>
      rw [entryFor?_finish cluster engine hkeyed, dropped, CacheSet.mem_unobserved hkeyed]
      refine and_congr_right fun hheld => ?_
      rw [hheld]
      split <;> simp_all
  | retire live =>
      change _ ↔ _ ∧ (m.caches.retain live).entryFor? subject = none
      rw [CacheSet.entryFor?_retain, dropped, CacheSet.mem_entriesOf_vanished hkeyed]
      refine and_congr_right fun hheld => ?_
      rw [hheld]
      split <;> simp_all
  | ask call =>
      constructor
      · exact fun hmem => absurd hmem List.not_mem_nil
      · exact fun h => absurd (h.1.symm.trans h.2) (Option.some_ne_none _)
  | adopt resource =>
      have hsame := CacheSet.entryFor?_put_cacheFor hkeyed resource subject
      constructor
      · exact fun hmem => absurd hmem List.not_mem_nil
      · rintro ⟨hheld, hnone⟩
        exact absurd ((hheld.symm.trans hsame.symm).trans hnone) (Option.some_ne_none _)
  | take view => cases hdeed

/-- The series that are removed for dropped entries are those of entries that are gone. -/
theorem mem_labelsOf_dropped (hkeyed : m.caches.Keyed) (deed : Deed) (hdeed : deed.view? = none)
    (labels : ObjectLabels) :
    labels ∈ labelsOf (m.dropped engine deed) ↔ ∃ subject entry,
      m.caches.entryFor? subject = some entry ∧
        (m.apply cluster engine deed).caches.entryFor? subject = none ∧
          subject.labels entry = labels := by
  simp only [labelsOf_eq_map_bySubject, List.mem_map (l := (m.dropped engine deed).map bySubject),
    Prod.exists, mem_dropped cluster engine hkeyed hdeed, and_assoc]

end Moment

end ComplianceScanner
