import ComplianceScanner.Cache.Set

/-!
# Entries by subject

The identities of a cache carry the version of its kind, and a version move rewrites all of them.
What stays is the subject of an entry: group, kind, namespace and name. In caches that are *keyed*,
where each identity agrees with the key and the version it is stored under, an entry is found by its
subject alone. Every operation on the caches is then an operation on this one look-up, and none of
the later arguments has to speak of versions again.
-/

namespace ComplianceScanner

/-- What an object keeps when its kind moves to another version. -/
structure Subject where
  group : String
  kind : String
  namespaceName : String
  name : String
deriving DecidableEq

namespace Subject

def key (subject : Subject) : ResourceKey := ⟨subject.group, subject.kind⟩

def identity (subject : Subject) (version : String) : Identity :=
  ⟨subject.group, version, subject.kind, subject.namespaceName, subject.name⟩

def labels (subject : Subject) (entry : CacheEntry) : ObjectLabels :=
  ⟨entry.namespaceUid, subject.namespaceName, entry.uid, subject.name, subject.kind⟩

end Subject

def Identity.subject (identity : Identity) : Subject :=
  ⟨identity.group, identity.kind, identity.namespaceName, identity.name⟩

/-- An object without a name is nobody's subject. -/
def ObjectView.subject? (view : ObjectView) : Option Subject :=
  view.name?.map fun name => ⟨view.group, view.kind, view.namespaceName, name⟩

@[simp]
theorem Subject.subject_identity (subject : Subject) (version : String) :
    (subject.identity version).subject = subject := rfl

@[simp]
theorem Subject.version_identity (subject : Subject) (version : String) :
    (subject.identity version).version = version := rfl

theorem Identity.identity_subject (identity : Identity) :
    identity.subject.identity identity.version = identity := rfl

theorem Subject.identity_inj {subject other : Subject} {version version' : String} :
    subject.identity version = other.identity version' ↔ subject = other ∧ version = version' := by
  cases subject
  cases other
  simp only [Subject.identity, Identity.mk.injEq, Subject.mk.injEq]
  constructor
  · rintro ⟨rfl, rfl, rfl, rfl, rfl⟩
    exact ⟨⟨rfl, rfl, rfl, rfl⟩, rfl⟩
  · rintro ⟨⟨rfl, rfl, rfl, rfl⟩, rfl⟩
    exact ⟨rfl, rfl, rfl, rfl, rfl⟩

@[simp]
theorem ObjectLabels.ofEntry_eq (identity : Identity) (entry : CacheEntry) :
    ObjectLabels.ofEntry identity entry = identity.subject.labels entry := rfl

namespace ObjectView

theorem identity?_eq (view : ObjectView) :
    view.identity? = view.subject?.map fun subject => subject.identity view.resource.version := by
  cases hname : view.name? <;> simp only [identity?, subject?, hname] <;> rfl

theorem key_of_subject? {view : ObjectView} {subject : Subject}
    (hsubject : view.subject? = some subject) : subject.key = view.resource.key := by
  obtain ⟨name, -, rfl⟩ := Option.map_eq_some_iff.mp hsubject
  rfl

theorem group_of_subject? {view : ObjectView} {subject : Subject}
    (hsubject : view.subject? = some subject) : view.group = subject.group := by
  obtain ⟨name, -, rfl⟩ := Option.map_eq_some_iff.mp hsubject
  rfl

theorem kind_of_subject? {view : ObjectView} {subject : Subject}
    (hsubject : view.subject? = some subject) : view.kind = subject.kind := by
  obtain ⟨name, -, rfl⟩ := Option.map_eq_some_iff.mp hsubject
  rfl

theorem labels_of_subject? {view : ObjectView} {subject : Subject} (outcome : Outcome)
    (hsubject : view.subject? = some subject) :
    subject.labels (.ofView view outcome) = view.labels := by
  obtain ⟨name, hname, rfl⟩ := Option.map_eq_some_iff.mp hsubject
  simp only [Subject.labels, CacheEntry.ofView, labels, hname, Option.getD_some]

end ObjectView

namespace Cache

/-- Each identity agrees with the key and the version it is stored under. -/
def Keyed (cache : Cache) (key : ResourceKey) : Prop :=
  ∀ identity entry, cache.get? identity = some entry →
    identity.version = cache.version ∧ identity.subject.key = key

theorem eq_of_forall_get?_eq {cache cache' : Cache} (hversion : cache.version = cache'.version)
    (hget : ∀ identity, cache.get? identity = cache'.get? identity) : cache = cache' := by
  obtain ⟨version, entries⟩ := cache
  obtain ⟨version', entries'⟩ := cache'
  simp only [Cache.mk.injEq]
  exact ⟨hversion, Std.ExtTreeMap.ext_getElem? hget⟩

theorem get?_remove (cache : Cache) (identity other : Identity) :
    (cache.remove identity).get? other = if identity = other then none else cache.get? other := by
  simp only [get?, remove, Std.ExtTreeMap.getElem?_erase, Std.LawfulEqOrd.compare_eq_iff_eq]

theorem get?_store (cache : Cache) (identity other : Identity) (entry : CacheEntry) :
    (cache.store identity entry).get? other =
      if identity = other then some entry else cache.get? other := by
  simp only [get?, store, Std.ExtTreeMap.getElem?_insert, Std.LawfulEqOrd.compare_eq_iff_eq]

theorem get?_remove_identity (cache : Cache) (subject other : Subject) (version : String) :
    (cache.remove (subject.identity version)).get? (other.identity version) =
      if other = subject then none else cache.get? (other.identity version) := by
  simp only [get?_remove, Subject.identity_inj, and_true, eq_comm]

theorem get?_store_identity (cache : Cache) (subject other : Subject) (version : String)
    (entry : CacheEntry) :
    (cache.store (subject.identity version) entry).get? (other.identity version) =
      if other = subject then some entry else cache.get? (other.identity version) := by
  simp only [get?_store, Subject.identity_inj, and_true, eq_comm]

theorem get?_keepObserved (cache : Cache) (observed : Identities) (identity : Identity) :
    (cache.keepObserved observed).get? identity =
      if identity ∈ observed then cache.get? identity else none := by
  simp only [get?, keepObserved, Std.ExtTreeMap.getElem?_filter']
  cases hentry : cache.entries[identity]? with
  | none => simp
  | some entry => by_cases hmem : identity ∈ observed <;> simp [hmem]

theorem mem_toList (cache : Cache) (identity : Identity) (entry : CacheEntry) :
    (identity, entry) ∈ cache.toList ↔ cache.get? identity = some entry :=
  Std.ExtTreeMap.mem_toList_iff_getElem?_eq_some

theorem mem_unobserved (cache : Cache) (observed : Identities) (identity : Identity)
    (entry : CacheEntry) :
    (identity, entry) ∈ cache.unobserved observed ↔
      cache.get? identity = some entry ∧ identity ∉ observed := by
  simp only [unobserved, List.mem_filter, mem_toList, Bool.not_eq_true',
    ← Bool.not_eq_true, Std.ExtTreeSet.contains_iff_mem]

@[simp]
theorem version_adopt (cache : Cache) (version : String) :
    (cache.adopt version).version = version := by
  unfold adopt
  split
  · assumption
  · rfl

/-- Inserting under renamed keys leaves alone whatever no name is given to. -/
theorem getElem?_foldl_insert_of_forall_ne (rename : Identity → Identity) {identity : Identity}
    (listed : List (Identity × CacheEntry)) (hne : ∀ item ∈ listed, rename item.1 ≠ identity)
    (held : Std.ExtTreeMap Identity CacheEntry) :
    (listed.foldl (fun held item => held.insert (rename item.1) item.2) held)[identity]? =
      held[identity]? := by
  induction listed generalizing held with
  | nil => rfl
  | cons item listed ih =>
      rw [List.foldl_cons, ih (fun item hitem => hne item (List.mem_cons_of_mem _ hitem)),
        Std.ExtTreeMap.getElem?_insert, if_neg]
      rw [Std.LawfulEqOrd.compare_eq_iff_eq]
      exact hne item List.mem_cons_self

/-- Inserting under renamed keys puts there what alone is given that name. -/
theorem getElem?_foldl_insert_of_mem (rename : Identity → Identity) {source : Identity}
    {entry : CacheEntry} (listed : List (Identity × CacheEntry))
    (hmem : (source, entry) ∈ listed)
    (hunique : ∀ item ∈ listed, rename item.1 = rename source → item = (source, entry))
    (held : Std.ExtTreeMap Identity CacheEntry) :
    (listed.foldl (fun held item => held.insert (rename item.1) item.2) held)[rename source]? =
      some entry := by
  induction listed generalizing held with
  | nil => simp at hmem
  | cons item listed ih =>
      rw [List.foldl_cons]
      by_cases hlater : (source, entry) ∈ listed
      · exact ih hlater (fun item hitem => hunique item (List.mem_cons_of_mem _ hitem)) _
      · have hitem : (source, entry) = item := (List.mem_cons.mp hmem).resolve_right hlater
        subst hitem
        rw [getElem?_foldl_insert_of_forall_ne]
        · simp
        · intro item hitem hrename
          exact hlater (hunique item (List.mem_cons_of_mem _ hitem) hrename ▸ hitem)

theorem get?_adopt {cache : Cache} {key : ResourceKey} (hkeyed : cache.Keyed key)
    (version : String) (identity : Identity) :
    (cache.adopt version).get? identity =
      if identity.version = version then cache.get? (identity.subject.identity cache.version)
      else none := by
  by_cases hsame : cache.version = version
  · rw [adopt, if_pos hsame]
    by_cases hversion : identity.version = version
    · rw [if_pos hversion, hsame, ← hversion, Identity.identity_subject]
    · rw [if_neg hversion, Option.eq_none_iff_forall_ne_some]
      intro entry hentry
      exact hversion ((hkeyed identity entry hentry).1.trans hsame)
  · rw [adopt, if_neg hsame]
    simp only [get?, Std.ExtTreeMap.foldl_eq_foldl_toList]
    by_cases hversion : identity.version = version
    · let source := identity.subject.identity cache.version
      have hrename : identity = source.withVersion version := by
        rw [← hversion]
        rfl
      have hsource : ∀ item ∈ cache.entries.toList,
          item.1.withVersion version = source.withVersion version → item.1 = source := by
        intro item hitem heq
        have hitemVersion := (hkeyed item.1 item.2 ((mem_toList cache _ _).mp hitem)).1
        have hitemSubject := congrArg Identity.subject heq
        rw [← Identity.identity_subject item.1, Subject.identity_inj]
        exact ⟨hitemSubject, hitemVersion⟩
      rw [if_pos hversion, hrename]
      cases hentry : cache.entries[source]? with
      | none =>
          rw [getElem?_foldl_insert_of_forall_ne (·.withVersion version)]
          · exact Std.ExtTreeMap.getElem?_empty.trans hentry.symm
          · intro item hitem heq
            have hfound := (mem_toList cache _ _).mp hitem
            rw [hsource item hitem heq, get?, hentry] at hfound
            exact Option.some_ne_none _ hfound.symm
      | some entry =>
          refine Eq.trans ?_ hentry.symm
          refine getElem?_foldl_insert_of_mem (·.withVersion version) _
            ((mem_toList cache _ _).mpr hentry) ?_ _
          intro item hitem heq
          have hfound := (mem_toList cache _ _).mp hitem
          rw [hsource item hitem heq, get?, hentry] at hfound
          exact Prod.ext (hsource item hitem heq) (Option.some.inj hfound).symm
    · rw [if_neg hversion, getElem?_foldl_insert_of_forall_ne (·.withVersion version)]
      · exact Std.ExtTreeMap.getElem?_empty
      · rintro item - rfl
        exact hversion rfl

theorem keyed_empty (key : ResourceKey) : Cache.empty.Keyed key := by
  intro identity entry hentry
  simp [get?, empty] at hentry

theorem Keyed.adopt {cache : Cache} {key : ResourceKey} (hkeyed : cache.Keyed key)
    (version : String) : (cache.adopt version).Keyed key := by
  intro identity entry hentry
  rw [get?_adopt hkeyed] at hentry
  split at hentry
  · rename_i hversion
    rw [version_adopt]
    exact ⟨hversion, (hkeyed _ _ hentry).2⟩
  · exact absurd hentry (by simp)

theorem Keyed.remove {cache : Cache} {key : ResourceKey} (hkeyed : cache.Keyed key)
    (identity : Identity) : (cache.remove identity).Keyed key := by
  intro other entry hentry
  rw [get?_remove] at hentry
  split at hentry
  · exact absurd hentry (by simp)
  · exact hkeyed other entry hentry

theorem Keyed.store {cache : Cache} {key : ResourceKey} (hkeyed : cache.Keyed key)
    {identity : Identity} (hversion : identity.version = cache.version)
    (hkey : identity.subject.key = key) (entry : CacheEntry) :
    (cache.store identity entry).Keyed key := by
  intro other found hfound
  rw [get?_store] at hfound
  split at hfound
  · rename_i heq
    exact heq ▸ ⟨hversion, hkey⟩
  · exact hkeyed other found hfound

theorem Keyed.keepObserved {cache : Cache} {key : ResourceKey} (hkeyed : cache.Keyed key)
    (observed : Identities) : (cache.keepObserved observed).Keyed key := by
  intro identity entry hentry
  rw [get?_keepObserved] at hentry
  split at hentry
  · exact hkeyed identity entry hentry
  · exact absurd hentry (by simp)

end Cache

namespace CacheSet

def Keyed (set : CacheSet) : Prop :=
  ∀ key cache, set.get? key = some cache → cache.Keyed key

/-- The entry of a subject, whatever the version its kind is cached under. -/
def entryFor? (set : CacheSet) (subject : Subject) : Option CacheEntry :=
  (set.get? subject.key).bind fun cache => cache.get? (subject.identity cache.version)

/-- An identity and its entry are in one of the caches. -/
def Holds (set : CacheSet) (identity : Identity) (entry : CacheEntry) : Prop :=
  ∃ key cache, set.get? key = some cache ∧ cache.get? identity = some entry

theorem eq_of_forall_get?_eq {set set' : CacheSet}
    (hget : ∀ key, set.get? key = set'.get? key) : set = set' := by
  obtain ⟨caches⟩ := set
  obtain ⟨caches'⟩ := set'
  simp only [CacheSet.mk.injEq]
  exact Std.ExtTreeMap.ext_getElem? hget

theorem get?_put (set : CacheSet) (key other : ResourceKey) (cache : Cache) :
    (set.put key cache).get? other = if key = other then some cache else set.get? other := by
  simp only [get?, put, Std.ExtTreeMap.getElem?_insert, Std.LawfulEqOrd.compare_eq_iff_eq]

theorem get?_retain (set : CacheSet) (live : List ResourceKey) (key : ResourceKey) :
    (set.retain live).get? key = if key ∈ live then set.get? key else none := by
  simp only [get?, retain, Std.ExtTreeMap.getElem?_filter']
  cases hcache : set.caches[key]? with
  | none => simp
  | some cache => by_cases hmem : key ∈ live <;> simp [hmem]

theorem mem_toList (set : CacheSet) (key : ResourceKey) (cache : Cache) :
    (key, cache) ∈ set.toList ↔ set.get? key = some cache :=
  Std.ExtTreeMap.mem_toList_iff_getElem?_eq_some

theorem mem_vanished (set : CacheSet) (live : List ResourceKey) (key : ResourceKey)
    (cache : Cache) :
    (key, cache) ∈ set.vanished live ↔ set.get? key = some cache ∧ key ∉ live := by
  simp [vanished, mem_toList]

@[simp]
theorem get?_empty (key : ResourceKey) : CacheSet.empty.get? key = none := by
  simp [get?, empty]

theorem keyed_empty : CacheSet.empty.Keyed := by
  intro key cache hcache
  simp at hcache

theorem Keyed.cacheFor {set : CacheSet} (hkeyed : set.Keyed) (resource : ResourceType) :
    (set.cacheFor resource).Keyed resource.key := by
  apply Cache.Keyed.adopt
  cases hcache : set.get? resource.key with
  | none => exact Cache.keyed_empty _
  | some cache => exact hkeyed _ _ hcache

theorem Keyed.put {set : CacheSet} (hkeyed : set.Keyed) {key : ResourceKey} {cache : Cache}
    (hcache : cache.Keyed key) : (set.put key cache).Keyed := by
  intro other found hfound
  rw [get?_put] at hfound
  split at hfound
  · rename_i heq
    exact heq ▸ Option.some.inj hfound ▸ hcache
  · exact hkeyed other found hfound

theorem Keyed.retain {set : CacheSet} (hkeyed : set.Keyed) (live : List ResourceKey) :
    (set.retain live).Keyed := by
  intro key cache hcache
  rw [get?_retain] at hcache
  split at hcache
  · exact hkeyed key cache hcache
  · exact absurd hcache (by simp)

@[simp]
theorem version_cacheFor (set : CacheSet) (resource : ResourceType) :
    (set.cacheFor resource).version = resource.version :=
  Cache.version_adopt _ _

/-- The cache that is in use for a type holds the entries of the subjects of its kind. -/
theorem get?_cacheFor {set : CacheSet} (hkeyed : set.Keyed) {resource : ResourceType}
    {subject : Subject} (hkey : subject.key = resource.key) :
    (set.cacheFor resource).get? (subject.identity resource.version) = set.entryFor? subject := by
  rw [CacheSet.cacheFor, entryFor?, hkey]
  cases hcache : set.get? resource.key with
  | none =>
      rw [Option.getD_none, Cache.get?_adopt (Cache.keyed_empty resource.key)]
      simp [Cache.get?, Cache.empty]
  | some cache =>
      rw [Option.getD_some, Cache.get?_adopt (hkeyed _ _ hcache)]
      simp

theorem entryFor?_put (set : CacheSet) (key : ResourceKey) (cache : Cache) (subject : Subject) :
    (set.put key cache).entryFor? subject =
      if subject.key = key then cache.get? (subject.identity cache.version)
      else set.entryFor? subject := by
  rw [entryFor?, get?_put]
  by_cases hkey : subject.key = key
  · simp [hkey]
  · rw [if_neg (Ne.symm hkey), if_neg hkey, entryFor?]

theorem entryFor?_put_cacheFor {set : CacheSet} (hkeyed : set.Keyed) (resource : ResourceType)
    (subject : Subject) :
    (set.put resource.key (set.cacheFor resource)).entryFor? subject = set.entryFor? subject := by
  rw [entryFor?_put, version_cacheFor]
  split
  · rename_i hkey
    exact get?_cacheFor hkeyed hkey
  · rfl

/-- Changing the entry of one identity in the cache of a type changes the entry of its subject. -/
theorem entryFor?_put_of_forall_get? {set : CacheSet} (hkeyed : set.Keyed) {resource : ResourceType}
    {subject : Subject} (hkey : subject.key = resource.key) {cache : Cache}
    (hversion : cache.version = resource.version) {found : Option CacheEntry}
    (hcache : ∀ other : Subject, cache.get? (other.identity resource.version) =
      if other = subject then found
      else (set.cacheFor resource).get? (other.identity resource.version))
    (other : Subject) :
    (set.put resource.key cache).entryFor? other =
      if other = subject then found else set.entryFor? other := by
  rw [entryFor?_put, hversion, hcache]
  by_cases hsubject : other = subject
  · rw [if_pos hsubject, if_pos hsubject, if_pos (hsubject ▸ hkey)]
  · rw [if_neg hsubject, if_neg hsubject]
    split
    · rename_i hother
      exact get?_cacheFor hkeyed hother
    · rfl

theorem entryFor?_retain (set : CacheSet) (live : List ResourceKey) (subject : Subject) :
    (set.retain live).entryFor? subject =
      if subject.key ∈ live then set.entryFor? subject else none := by
  rw [entryFor?, get?_retain, entryFor?]
  split <;> rfl

theorem entryFor?_of_get? {set : CacheSet} (hkeyed : set.Keyed) {key : ResourceKey} {cache : Cache}
    {identity : Identity} {entry : CacheEntry} (hcache : set.get? key = some cache)
    (hentry : cache.get? identity = some entry) : set.entryFor? identity.subject = some entry := by
  obtain ⟨hversion, hkey⟩ := hkeyed key cache hcache identity entry hentry
  rw [entryFor?, hkey, hcache, Option.bind_some, ← hversion]
  exact hentry

theorem Holds.entryFor? {set : CacheSet} (hkeyed : set.Keyed) {identity : Identity}
    {entry : CacheEntry} (hholds : set.Holds identity entry) :
    set.entryFor? identity.subject = some entry := by
  obtain ⟨key, cache, hcache, hentry⟩ := hholds
  exact entryFor?_of_get? hkeyed hcache hentry

theorem holds_of_entryFor? {set : CacheSet} {subject : Subject} {entry : CacheEntry}
    (hentry : set.entryFor? subject = some entry) :
    ∃ version, set.Holds (subject.identity version) entry := by
  obtain ⟨cache, hcache, hfound⟩ := Option.bind_eq_some_iff.mp hentry
  exact ⟨cache.version, subject.key, cache, hcache, hfound⟩

end CacheSet

end ComplianceScanner
