import ComplianceScanner.Proofs.Reconciled

/-!
# Version moves

When the preferred version of a kind changes, its cache moves to the new version and all its identities
are rewritten. Nothing is lost by that: two identities of a keyed cache differ in more than the version,
so the entries go over one by one, and moving back restores the cache.
-/

namespace ComplianceScanner

variable {World : Type}

theorem Identity.withVersion_eq (identity : Identity) (version : String) :
    identity.withVersion version = identity.subject.identity version := rfl

namespace Cache

/-- A move to another version that loses nothing. -/
structure MovesTo (cache : Cache) (version : String) (moved : Cache) : Prop where
  version_eq : moved.version = version
  injective : ∀ identity entry identity' entry', cache.get? identity = some entry →
    cache.get? identity' = some entry' →
    identity.withVersion version = identity'.withVersion version → identity = identity'
  size_eq : moved.size = cache.size
  kept : ∀ identity entry, cache.get? identity = some entry →
    moved.get? (identity.withVersion version) = some entry
  only : ∀ identity entry, moved.get? identity = some entry →
    ∃ identity', cache.get? identity' = some entry ∧ identity'.withVersion version = identity
  restored : moved.adopt cache.version = cache

variable {cache : Cache} {key : ResourceKey}

theorem adopt_self (cache : Cache) : cache.adopt cache.version = cache := if_pos rfl

/-- Of several moves in a row only the last one shows. -/
theorem adopt_adopt (hkeyed : cache.Keyed key) (version version' : String) :
    (cache.adopt version).adopt version' = cache.adopt version' := by
  apply eq_of_forall_get?_eq
  · simp
  · intro identity
    rw [get?_adopt (hkeyed.adopt version), get?_adopt hkeyed, get?_adopt hkeyed]
    simp

theorem mem_map_bySubject_toList (hkeyed : cache.Keyed key) {subject : Subject}
    {entry : CacheEntry} :
    (subject, entry) ∈ cache.toList.map bySubject ↔
      cache.get? (subject.identity cache.version) = some entry := by
  simp only [List.mem_map, Prod.exists, mem_toList, bySubject, Prod.mk.injEq]
  constructor
  · rintro ⟨identity, found, hfound, rfl, rfl⟩
    rwa [← (hkeyed identity found hfound).1, Identity.identity_subject]
  · intro hentry
    exact ⟨subject.identity cache.version, entry, hentry, rfl, rfl⟩

theorem toList_adopt_perm (hkeyed : cache.Keyed key) (version : String) :
    ((cache.adopt version).toList.map bySubject).Perm (cache.toList.map bySubject) := by
  have hmoved := hkeyed.adopt version
  -- Without their versions the entries of either cache are all different.
  refine (List.perm_ext_iff_of_nodup (nodup_bySubject hmoved) (nodup_bySubject hkeyed)).mpr ?_
  rintro ⟨subject, entry⟩
  rw [mem_map_bySubject_toList hmoved, mem_map_bySubject_toList hkeyed, version_adopt,
    get?_adopt hkeyed]
  simp

theorem size_eq_length (cache : Cache) : cache.size = cache.toList.length :=
  Std.ExtTreeMap.length_toList.symm

theorem size_adopt (hkeyed : cache.Keyed key) (version : String) :
    (cache.adopt version).size = cache.size := by
  have hlength := (toList_adopt_perm hkeyed version).length_eq
  simpa [size_eq_length] using hlength

theorem carriedOver_eq (hkeyed : cache.Keyed key) (version : String) :
    cache.carriedOver version = if cache.version = version then 0 else cache.size := by
  rw [carriedOver, size_adopt hkeyed]

theorem Keyed.movesTo (hkeyed : cache.Keyed key) (version : String) :
    cache.MovesTo version (cache.adopt version) where
  version_eq := version_adopt cache version
  injective identity entry identity' entry' hentry hentry' heq := by
    have hversion := (hkeyed identity entry hentry).1
    have hversion' := (hkeyed identity' entry' hentry').1
    rw [Identity.withVersion_eq, Identity.withVersion_eq] at heq
    have hsubject := (Subject.identity_inj.mp heq).1
    calc identity
      _ = identity.subject.identity cache.version := by rw [← hversion, Identity.identity_subject]
      _ = identity'.subject.identity cache.version := by rw [hsubject]
      _ = identity' := by rw [← hversion', Identity.identity_subject]
  size_eq := size_adopt hkeyed version
  kept identity entry hentry := by
    have hversion := (hkeyed identity entry hentry).1
    rw [Identity.withVersion_eq, get?_adopt hkeyed]
    simpa [← hversion, Identity.identity_subject] using hentry
  only identity entry hentry := by
    rw [get?_adopt hkeyed] at hentry
    by_cases hversion : identity.version = version
    · rw [if_pos hversion] at hentry
      refine ⟨_, hentry, ?_⟩
      rw [Identity.withVersion_eq, Subject.subject_identity, ← hversion,
        Identity.identity_subject]
    · simp [hversion] at hentry
  restored := by rw [adopt_adopt hkeyed, adopt_self]

end Cache

namespace Scanning

/-- At every moment of every attempt, whatever was served and wherever earlier attempts have failed,
the identities of a cache agree with its kind and its version. So no move to another version loses
anything. -/
theorem version_moves_lossless {s : Scanning (Journaled World)} (hreached : s.Reached)
    (cluster : Cluster World) (engine : Engine World) (steps count : Nat) :
    let done := (s.deeds cluster.journaled engine.journaled steps).take count
    let caches := (s.moment.applyAll cluster.journaled engine.journaled done).caches
    ∀ key cache, caches.get? key = some cache →
      (∀ identity entry, cache.get? identity = some entry →
        identity.group = key.group ∧ identity.kind = key.kind ∧
          identity.version = cache.version) ∧
      (∀ version, cache.MovesTo version (cache.adopt version)) ∧
      ∀ resource, resource.key = key →
        cache.MovesTo resource.version (caches.cacheFor resource) ∧
          cache.carriedOver resource.version =
            if cache.version = resource.version then 0 else cache.size := by
  intro done caches key cache hcache
  have hkeyed : cache.Keyed key :=
    Moment.applyAll_keyed _ _ hreached.keyed_and_proven.1 done key cache hcache
  refine ⟨?_, hkeyed.movesTo, ?_⟩
  · intro identity entry hentry
    obtain ⟨hversion, hkey⟩ := hkeyed identity entry hentry
    exact ⟨congrArg ResourceKey.group hkey, congrArg ResourceKey.kind hkey, hversion⟩
  · rintro resource rfl
    have hadopted : caches.cacheFor resource = cache.adopt resource.version := by
      rw [CacheSet.cacheFor, hcache, Option.getD_some]
    exact ⟨hadopted ▸ hkeyed.movesTo resource.version, Cache.carriedOver_eq hkeyed _⟩

end Scanning

namespace Sample

/-- The group that has moved on is served under its old version again. -/
theorem version_moves_lossless_migrated :
    let key : ResourceKey := ⟨"apps", "Deployment"⟩
    migrated.Reached ∧ ∃ cache, migrated.scheduler.caches.get? key = some cache ∧
      cache.version = "v2" ∧ cache.size = 1 ∧
      cache.MovesTo "v1" (migrated.scheduler.caches.cacheFor (deployment "apps")) := by
  intro key
  have hcached : (migrated.scheduler.caches.get? key).map (fun cache => (cache.version, cache.size)) =
      some ("v2", 1) := by decide +kernel
  obtain ⟨cache, hcache, hshape⟩ := Option.map_eq_some_iff.mp hcached
  obtain ⟨hversion, hsize⟩ := Prod.mk.inj hshape
  obtain ⟨-, -, hmoves⟩ := Scanning.version_moves_lossless reached_migrated
    ScriptedCluster.asCluster.beside StandIn.asEngine.beside 2 0 key cache hcache
  exact ⟨reached_migrated, cache, hcache, hversion, hsize, (hmoves (deployment "apps") rfl).1⟩

end Sample

end ComplianceScanner
