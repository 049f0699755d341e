import ComplianceScanner.Proofs.VersionMoves
import Mathlib.Data.List.Nodup

/-!
# Fates of entries

What a cache answers depends on all that was done to it before. Read by subject, each operation is small:
it puts the entry of a subject there, throws it out, or spares it. So an entry is held iff everything
since its store has spared it, and what does not spare it is its end: it is overwritten, found stale,
or returned. Versions come in only where an operation names an identity that may be out of date.
-/

namespace ComplianceScanner

namespace Cache

/-- What is done to a cache from outside. -/
inductive Op where
  | store (identity : Identity) (entry : CacheEntry)
  | remove (identity : Identity)
  | query (identity : Identity) (resourceVersion : String)
  | evict (observed : Identities)
  | adopt (version : String)

def perform (cache : Cache) : Op → Cache
  | .store identity entry => cache.store identity entry
  | .remove identity => cache.remove identity
  | .query identity resourceVersion => (cache.needsValidation identity resourceVersion).2
  | .evict observed => cache.keepObserved observed
  | .adopt version => cache.adopt version

def performAll (cache : Cache) (ops : List Op) : Cache := ops.foldl perform cache

/-- An identity of this kind under the version that the cache is at. -/
def Admits (cache : Cache) (key : ResourceKey) (identity : Identity) : Prop :=
  identity.version = cache.version ∧ identity.subject.key = key

instance (cache : Cache) (key : ResourceKey) (identity : Identity) :
    Decidable (cache.Admits key identity) :=
  inferInstanceAs (Decidable (_ ∧ _))

namespace Op

/-- The entries that are handed back. -/
def returned (cache : Cache) : Op → List (Identity × CacheEntry)
  | remove identity => (cache.get? identity).toList.map fun entry => (identity, entry)
  | evict observed => cache.unobserved observed
  | _ => []

/-- What is stored and what is asked about is of the kind and version of the cache. What is removed or
observed may be anything. -/
def IsProper (cache : Cache) (key : ResourceKey) : Op → Prop
  | store identity _ => cache.Admits key identity
  | query identity _ => cache.Admits key identity
  | _ => True

instance (cache : Cache) (key : ResourceKey) : (op : Op) → Decidable (op.IsProper cache key)
  | store identity _ => inferInstanceAs (Decidable (cache.Admits key identity))
  | query identity _ => inferInstanceAs (Decidable (cache.Admits key identity))
  | remove _ | evict _ | adopt _ => isTrue trivial

def Stores (subject : Subject) : Op → Prop
  | store identity _ => identity.subject = subject
  | _ => False

instance (subject : Subject) : (op : Op) → Decidable (op.Stores subject)
  | store identity _ => inferInstanceAs (Decidable (identity.subject = subject))
  | remove _ | query _ _ | evict _ | adopt _ => isFalse not_false

/-- The operation leaves an entry alone that is held for the subject with this resource version. -/
def Spares (version : String) (subject : Subject) (resourceVersion : String) : Op → Prop
  | store identity _ => identity.subject ≠ subject
  | remove identity => identity ≠ subject.identity version
  | query identity asked => identity.subject = subject → asked = resourceVersion
  | evict observed => subject.identity version ∈ observed
  | adopt _ => True

theorem Spares.not_stores {version : String} {subject : Subject} {resourceVersion : String} {op : Op}
    (hspares : op.Spares version subject resourceVersion) : ¬ op.Stores subject := by
  cases op with
  | store identity entry => exact hspares
  | _ => exact not_false

end Op

/-- Each of the operations is proper when its turn comes. -/
def Proper (key : ResourceKey) : Cache → List Op → Prop
  | _, [] => True
  | cache, op :: ops => op.IsProper cache key ∧ Proper key (cache.perform op) ops

instance decidableProper (key : ResourceKey) :
    (cache : Cache) → (ops : List Op) → Decidable (Proper key cache ops)
  | _, [] => isTrue trivial
  | cache, op :: ops =>
    have := decidableProper key (cache.perform op) ops
    inferInstanceAs (Decidable (op.IsProper cache key ∧ Proper key (cache.perform op) ops))

/-- Each of the operations in turn leaves such an entry alone, under the version of its time. -/
def Spared (subject : Subject) (resourceVersion : String) : Cache → List Op → Prop
  | _, [] => True
  | cache, op :: ops =>
    op.Spares cache.version subject resourceVersion ∧
      Spared subject resourceVersion (cache.perform op) ops

/-- The last store of the subject has put this entry there, and everything since has spared it. -/
def Endures (cache : Cache) (ops : List Op) (subject : Subject) (entry : CacheEntry) : Prop :=
  ∃ past identity since, ops = past ++ .store identity entry :: since ∧ identity.subject = subject ∧
    Spared subject entry.resourceVersion ((cache.performAll past).store identity entry) since

/-- The entry of a subject, under the version that the cache is at. -/
def entryOf? (cache : Cache) (subject : Subject) : Option CacheEntry :=
  cache.get? (subject.identity cache.version)

variable {cache : Cache} {key : ResourceKey} {subject : Subject} {entry : CacheEntry}

/-! ### One operation -/

theorem Admits.identity_eq {identity : Identity} (hadmits : cache.Admits key identity) :
    identity = identity.subject.identity cache.version := by
  rw [← hadmits.1, Identity.identity_subject]

theorem Admits.get?_eq {identity : Identity} (hadmits : cache.Admits key identity) :
    cache.get? identity = cache.entryOf? identity.subject :=
  congrArg cache.get? hadmits.identity_eq

theorem Keyed.admits (hkeyed : cache.Keyed key) {identity : Identity}
    (hentry : cache.get? identity = some entry) : cache.Admits key identity :=
  hkeyed identity entry hentry

theorem entryOf?_store {identity : Identity} (hadmits : cache.Admits key identity)
    (entry : CacheEntry) (subject : Subject) :
    (cache.store identity entry).entryOf? subject =
      if subject = identity.subject then some entry else cache.entryOf? subject := by
  rw [hadmits.identity_eq]
  exact get?_store_identity cache identity.subject subject cache.version entry

theorem entryOf?_remove (cache : Cache) (identity : Identity) (subject : Subject) :
    (cache.remove identity).entryOf? subject =
      if identity = subject.identity cache.version then none else cache.entryOf? subject :=
  get?_remove cache identity (subject.identity cache.version)

theorem entryOf?_keepObserved (cache : Cache) (observed : Identities) (subject : Subject) :
    (cache.keepObserved observed).entryOf? subject =
      if subject.identity cache.version ∈ observed then cache.entryOf? subject else none :=
  get?_keepObserved cache observed (subject.identity cache.version)

theorem entryOf?_adopt (hkeyed : cache.Keyed key) (version : String) (subject : Subject) :
    (cache.adopt version).entryOf? subject = cache.entryOf? subject := by
  rw [entryOf?, version_adopt, get?_adopt hkeyed]
  exact if_pos rfl

theorem fst_needsValidation (cache : Cache) (identity : Identity) (resourceVersion : String) :
    (cache.needsValidation identity resourceVersion).1 = cache.isDue identity resourceVersion := by
  by_cases hdue : cache.isDue identity resourceVersion = true
  · rw [needsValidation_of_isDue hdue, hdue]
  · rw [needsValidation_of_isDue_eq_false (Bool.eq_false_iff.mpr hdue), Bool.eq_false_iff.mpr hdue]

/-- A question throws out what it finds under another resource version. -/
theorem entryOf?_query_eq_some_iff {identity : Identity} (hadmits : cache.Admits key identity)
    (asked : String) :
    (cache.needsValidation identity asked).2.entryOf? subject = some entry ↔
      cache.entryOf? subject = some entry ∧
        (identity.subject = subject → asked = entry.resourceVersion) := by
  have hsame (hsubject : identity.subject = subject) :
      cache.get? identity = cache.entryOf? subject :=
    hsubject ▸ hadmits.get?_eq
  by_cases hdue : cache.isDue identity asked = true
  · rw [needsValidation_of_isDue hdue, entryOf?_remove]
    by_cases hsubject : identity.subject = subject
    · have hidentity : identity = subject.identity cache.version := hsubject ▸ hadmits.identity_eq
      rw [if_pos hidentity]
      constructor
      · intro hnone
        cases hnone
      · rintro ⟨hheld, hasked⟩
        have hne := isDue_iff.mp hdue entry ((hsame hsubject).trans hheld)
        exact absurd (hasked hsubject).symm hne
    · have hidentity : identity ≠ subject.identity cache.version := by
        intro heq
        exact hsubject (congrArg Identity.subject heq)
      rw [if_neg hidentity]
      exact (and_iff_left fun heq => absurd heq hsubject).symm
  · have hdue := Bool.eq_false_iff.mpr hdue
    rw [needsValidation_of_isDue_eq_false hdue]
    refine (and_iff_left_of_imp fun hheld hsubject => ?_).symm
    obtain ⟨found, hfound, hasked⟩ := isDue_eq_false_iff.mp hdue
    rw [hsame hsubject, hheld] at hfound
    rw [← hasked, Option.some.inj hfound]

theorem Keyed.perform (hkeyed : cache.Keyed key) {op : Op} (hproper : op.IsProper cache key) :
    (cache.perform op).Keyed key := by
  cases op with
  | store identity entry => exact hkeyed.store hproper.1 hproper.2 entry
  | remove identity => exact hkeyed.remove identity
  | query identity resourceVersion =>
      by_cases hdue : cache.isDue identity resourceVersion = true
      · rw [Cache.perform, needsValidation_of_isDue hdue]
        exact hkeyed.remove identity
      · rw [Cache.perform, needsValidation_of_isDue_eq_false (Bool.eq_false_iff.mpr hdue)]
        exact hkeyed
  | evict observed => exact hkeyed.keepObserved observed
  | adopt version => exact hkeyed.adopt version

/-- After an operation an entry is held iff it was stored by it, or held before and spared. -/
theorem entryOf?_perform_eq_some_iff (hkeyed : cache.Keyed key) {op : Op}
    (hproper : op.IsProper cache key) :
    (cache.perform op).entryOf? subject = some entry ↔
      (∃ identity, op = .store identity entry ∧ identity.subject = subject) ∨
        cache.entryOf? subject = some entry ∧
          op.Spares cache.version subject entry.resourceVersion := by
  cases op with
  | store identity stored =>
      rw [perform, entryOf?_store hproper]
      by_cases hsubject : identity.subject = subject
      · simp [hsubject, Op.Spares]
      · simp [hsubject, Ne.symm hsubject, Op.Spares]
  | remove identity =>
      rw [perform, entryOf?_remove]
      by_cases hidentity : identity = subject.identity cache.version
      · simp [hidentity, Op.Spares]
      · simp [hidentity, Op.Spares]
  | query identity asked =>
      rw [perform, entryOf?_query_eq_some_iff hproper]
      simp [Op.Spares]
  | evict observed =>
      rw [perform, entryOf?_keepObserved]
      by_cases hobserved : subject.identity cache.version ∈ observed
      · simp [hobserved, Op.Spares]
      · simp [hobserved, Op.Spares]
  | adopt version =>
      rw [perform, entryOf?_adopt hkeyed]
      simp [Op.Spares]

/-! ### A history -/

theorem Keyed.performAll (hkeyed : cache.Keyed key) {ops : List Op} (hproper : Proper key cache ops) :
    (cache.performAll ops).Keyed key := by
  induction ops generalizing cache with
  | nil => exact hkeyed
  | cons op ops ih => exact ih (hkeyed.perform hproper.1) hproper.2

theorem Proper.of_append {past since : List Op} (hproper : Proper key cache (past ++ since)) :
    Proper key cache past ∧ Proper key (cache.performAll past) since := by
  induction past generalizing cache with
  | nil => exact ⟨trivial, hproper⟩
  | cons op past ih =>
      obtain ⟨hpast, hsince⟩ := ih hproper.2
      exact ⟨⟨hproper.1, hpast⟩, hsince⟩

theorem Endures.exists_store {ops : List Op} (hendures : cache.Endures ops subject entry) :
    ∃ op ∈ ops, op.Stores subject := by
  obtain ⟨past, identity, since, rfl, hsubject, -⟩ := hendures
  exact ⟨.store identity entry, by simp, hsubject⟩

theorem endures_cons_iff {op : Op} {ops : List Op} :
    cache.Endures (op :: ops) subject entry ↔
      (cache.perform op).Endures ops subject entry ∨
        (∃ identity, op = .store identity entry ∧ identity.subject = subject) ∧
          Spared subject entry.resourceVersion (cache.perform op) ops := by
  constructor
  · rintro ⟨past, identity, since, hops, hsubject, hspared⟩
    cases past with
    | nil =>
        obtain ⟨rfl, rfl⟩ := List.cons.inj hops
        exact .inr ⟨⟨identity, rfl, hsubject⟩, hspared⟩
    | cons first past =>
        obtain ⟨rfl, rfl⟩ := List.cons.inj hops
        exact .inl ⟨past, identity, since, rfl, hsubject, hspared⟩
  · rintro (⟨past, identity, since, rfl, hsubject, hspared⟩ |
      ⟨⟨identity, rfl, hsubject⟩, hspared⟩)
    · exact ⟨op :: past, identity, since, rfl, hsubject, hspared⟩
    · exact ⟨[], identity, ops, rfl, hsubject, hspared⟩

/-- After a history an entry is held iff it endures from its store on, or from the beginning. -/
theorem entryOf?_performAll_eq_some_iff (hkeyed : cache.Keyed key) {ops : List Op}
    (hproper : Proper key cache ops) :
    (cache.performAll ops).entryOf? subject = some entry ↔
      cache.Endures ops subject entry ∨
        cache.entryOf? subject = some entry ∧ Spared subject entry.resourceVersion cache ops := by
  induction ops generalizing cache with
  | nil =>
      constructor
      · exact fun hheld => .inr ⟨hheld, trivial⟩
      · rintro (hendures | ⟨hheld, -⟩)
        · obtain ⟨op, hop, -⟩ := hendures.exists_store
          cases hop
        · exact hheld
  | cons op ops ih =>
      calc ((cache.perform op).performAll ops).entryOf? subject = some entry
        _ ↔ (cache.perform op).Endures ops subject entry ∨
              (cache.perform op).entryOf? subject = some entry ∧
                Spared subject entry.resourceVersion (cache.perform op) ops :=
            ih (hkeyed.perform hproper.1) hproper.2
        _ ↔ cache.Endures (op :: ops) subject entry ∨ cache.entryOf? subject = some entry ∧
              Spared subject entry.resourceVersion cache (op :: ops) := by
            rw [entryOf?_perform_eq_some_iff hkeyed hproper.1, endures_cons_iff, or_assoc, or_and_right,
              and_assoc]
            rfl

/-- Where nothing is stored for a subject, its entry is held as long as it is spared. -/
theorem entryOf?_performAll_of_not_stores (hkeyed : cache.Keyed key) {ops : List Op}
    (hproper : Proper key cache ops) (hstores : ∀ op ∈ ops, ¬ op.Stores subject) :
    (cache.performAll ops).entryOf? subject = some entry ↔
      cache.entryOf? subject = some entry ∧ Spared subject entry.resourceVersion cache ops := by
  rw [entryOf?_performAll_eq_some_iff hkeyed hproper]
  refine or_iff_right fun hendures => ?_
  obtain ⟨op, hop, hstore⟩ := hendures.exists_store
  exact hstores op hop hstore

theorem entryOf?_performAll_empty {ops : List Op} (hproper : Proper key .empty ops) :
    (Cache.empty.performAll ops).entryOf? subject = some entry ↔
      Cache.empty.Endures ops subject entry := by
  rw [entryOf?_performAll_eq_some_iff (keyed_empty key) hproper]
  refine or_iff_left fun ⟨hheld, _⟩ => ?_
  simp [entryOf?, get?, Cache.empty] at hheld

theorem Keyed.get?_eq_none (hkeyed : cache.Keyed key) (hnone : cache.entryOf? subject = none)
    {identity : Identity} (hsubject : identity.subject = subject) : cache.get? identity = none := by
  rw [Option.eq_none_iff_forall_ne_some]
  intro entry hentry
  rw [(hkeyed.admits hentry).get?_eq, hsubject, hnone] at hentry
  cases hentry

/-! ### The end of an entry -/

/-- How a stored entry comes out of the cache. -/
inductive Ending where
  | overwritten
  | stale
  | returned

/-- The operation ends the entry of a subject in this way. A returned entry is the only one of its
subject that the operation returns. -/
def Op.Ends (op : Op) (cache : Cache) (subject : Subject) (entry : CacheEntry) : Ending → Prop
  | .overwritten => op.Stores subject
  | .stale => ∃ identity asked, op = .query identity asked ∧ identity.subject = subject ∧
      asked ≠ entry.resourceVersion
  | .returned => (op.returned cache).filter (fun item => item.1.subject = subject) =
      [(subject.identity cache.version, entry)]

/-- What has become of a stored entry, after so many operations since. -/
inductive Fate where
  | retrievable
  | ended (count : Nat) (ending : Ending)

/-- Nothing was stored for the subject in so many operations, and its entry is still there. -/
def StillAt (cache : Cache) (since : List Op) (subject : Subject) (entry : CacheEntry)
    (count : Nat) : Prop :=
  (∀ op ∈ since.take count, ¬ op.Stores subject) ∧
    (cache.performAll (since.take count)).entryOf? subject = some entry

def Fate.Met (cache : Cache) (since : List Op) (subject : Subject) (entry : CacheEntry) : Fate → Prop
  | .retrievable => cache.StillAt since subject entry since.length
  | .ended count ending => cache.StillAt since subject entry count ∧
      ∃ op, since[count]? = some op ∧
        op.Ends (cache.performAll (since.take count)) subject entry ending

namespace Op

theorem mem_returned_iff {op : Op} {identity : Identity} :
    (identity, entry) ∈ op.returned cache ↔ cache.get? identity = some entry ∧
      (op = .remove identity ∨ ∃ observed, op = .evict observed ∧ identity ∉ observed) := by
  cases op with
  | remove removed =>
      simp only [returned, List.mem_map, Option.mem_toList, Prod.mk.injEq, remove.injEq, reduceCtorEq,
        false_and, exists_false, or_false]
      constructor
      · rintro ⟨found, hfound, rfl, rfl⟩
        exact ⟨hfound, rfl⟩
      · rintro ⟨hfound, rfl⟩
        exact ⟨entry, hfound, rfl, rfl⟩
  | evict observed => simp [returned, mem_unobserved]
  | _ => simp [returned]

theorem nodup_returned (hkeyed : cache.Keyed key) (op : Op) : (op.returned cache).Nodup := by
  cases op with
  | remove identity => cases hentry : cache.get? identity <;> simp [returned, hentry]
  | evict observed => exact (List.Nodup.of_map bySubject (nodup_bySubject hkeyed)).filter _
  | _ => exact List.nodup_nil

theorem ends_returned_iff (hkeyed : cache.Keyed key) {op : Op} :
    op.Ends cache subject entry .returned ↔
      (subject.identity cache.version, entry) ∈ op.returned cache := by
  constructor
  · intro hreturned
    have hmem : (subject.identity cache.version, entry) ∈
        (op.returned cache).filter (fun item => item.1.subject = subject) := by
      rw [hreturned]
      exact List.mem_singleton_self _
    exact (List.mem_filter.mp hmem).1
  · intro hmem
    refine List.perm_singleton.mp ((List.perm_ext_iff_of_nodup
      ((nodup_returned hkeyed op).filter _) (List.nodup_singleton _)).mpr ?_)
    rintro ⟨identity, found⟩
    rw [List.mem_filter, List.mem_singleton, decide_eq_true_iff]
    constructor
    · rintro ⟨hfound, rfl⟩
      have hheld := (mem_returned_iff.mp hfound).1
      have hidentity := (hkeyed.admits hheld).identity_eq
      rw [← hidentity] at hmem ⊢
      rw [Option.some.inj (hheld.symm.trans (mem_returned_iff.mp hmem).1)]
    · intro heq
      obtain ⟨rfl, rfl⟩ := Prod.mk.inj heq
      exact ⟨hmem, rfl⟩

theorem exists_ends (hkeyed : cache.Keyed key) (hheld : cache.entryOf? subject = some entry) {op : Op}
    (hspares : ¬ op.Spares cache.version subject entry.resourceVersion) :
    ∃ ending, op.Ends cache subject entry ending := by
  cases op with
  | store identity stored => exact ⟨.overwritten, not_not.mp hspares⟩
  | remove identity =>
      have hidentity : identity = subject.identity cache.version := not_not.mp hspares
      exact ⟨.returned, (ends_returned_iff hkeyed).mpr
        (mem_returned_iff.mpr ⟨hheld, .inl (congrArg _ hidentity)⟩)⟩
  | query identity asked =>
      obtain ⟨hsubject, hasked⟩ := Classical.not_imp.mp hspares
      exact ⟨.stale, identity, asked, rfl, hsubject, hasked⟩
  | evict observed =>
      exact ⟨.returned, (ends_returned_iff hkeyed).mpr
        (mem_returned_iff.mpr ⟨hheld, .inr ⟨observed, rfl, hspares⟩⟩)⟩
  | adopt version => exact absurd trivial hspares

theorem Spares.not_ends (hkeyed : cache.Keyed key) {op : Op}
    (hspares : op.Spares cache.version subject entry.resourceVersion) (ending : Ending) :
    ¬ op.Ends cache subject entry ending := by
  intro hends
  cases ending with
  | overwritten => exact hspares.not_stores hends
  | stale =>
      obtain ⟨identity, asked, rfl, hsubject, hasked⟩ := hends
      exact hasked (hspares hsubject)
  | returned =>
      obtain ⟨-, rfl | ⟨observed, rfl, hobserved⟩⟩ :=
        mem_returned_iff.mp ((ends_returned_iff hkeyed).mp hends)
      · exact hspares rfl
      · exact hobserved hspares

/-- The way in which an operation can end entries. -/
def ending? : Op → Option Ending
  | store _ _ => some .overwritten
  | query _ _ => some .stale
  | remove _ => some .returned
  | evict _ => some .returned
  | adopt _ => none

theorem ending?_of_ends {op : Op} {ending : Ending} (hends : op.Ends cache subject entry ending) :
    op.ending? = some ending := by
  cases ending with
  | overwritten =>
      cases op with
      | store identity stored => rfl
      | _ => exact hends.elim
  | stale =>
      obtain ⟨identity, asked, rfl, -⟩ := hends
      rfl
  | returned =>
      cases op with
      | remove identity => rfl
      | evict observed => rfl
      | _ => cases hends

end Op

/-! ### From the store on -/

/-- What is still there after some operations was there before them. -/
theorem StillAt.held (hkeyed : cache.Keyed key) {since : List Op} (hproper : Proper key cache since)
    {count : Nat} (hstill : cache.StillAt since subject entry count) :
    cache.entryOf? subject = some entry := by
  obtain ⟨hstores, hentry⟩ := hstill
  rw [← List.take_append_drop count since] at hproper
  exact ((entryOf?_performAll_of_not_stores hkeyed hproper.of_append.1 hstores).mp hentry).1

namespace Fate

/-- The same fate, counted from one operation before. -/
def later : Fate → Fate
  | retrievable => retrievable
  | ended count ending => ended (count + 1) ending

theorem eq_ended_zero_or_later (fate : Fate) :
    (∃ ending, fate = ended 0 ending) ∨ ∃ earlier, fate = later earlier := by
  cases fate with
  | retrievable => exact .inr ⟨retrievable, rfl⟩
  | ended count ending =>
      cases count with
      | zero => exact .inl ⟨ending, rfl⟩
      | succ count => exact .inr ⟨ended count ending, rfl⟩

theorem met_later_iff {op : Op} {since : List Op} {fate : Fate} :
    fate.later.Met cache (op :: since) subject entry ↔
      ¬ op.Stores subject ∧ fate.Met (cache.perform op) since subject entry := by
  cases fate with
  | retrievable => simp [later, Met, StillAt, performAll, and_assoc]
  | ended count ending => simp [later, Met, StillAt, performAll, and_assoc]

theorem Met.held (hkeyed : cache.Keyed key) {since : List Op} (hproper : Proper key cache since)
    {fate : Fate} (hmet : fate.Met cache since subject entry) :
    cache.entryOf? subject = some entry := by
  cases fate with
  | retrievable => exact StillAt.held hkeyed hproper hmet
  | ended count ending => exact hmet.1.held hkeyed hproper

/-- A held entry meets one fate. -/
theorem existsUnique_met (hkeyed : cache.Keyed key) {since : List Op}
    (hproper : Proper key cache since) (hheld : cache.entryOf? subject = some entry) :
    ∃! fate : Fate, fate.Met cache since subject entry := by
  induction since generalizing cache with
  | nil =>
      refine ⟨retrievable, ⟨List.forall_mem_nil _, hheld⟩, ?_⟩
      intro fate hmet
      cases fate with
      | retrievable => rfl
      | ended count ending =>
          obtain ⟨-, op, hop, -⟩ := hmet
          cases hop
  | cons op since ih =>
      by_cases hspares : op.Spares cache.version subject entry.resourceVersion
      · have hstill : (cache.perform op).entryOf? subject = some entry :=
          (entryOf?_perform_eq_some_iff hkeyed hproper.1).mpr (.inr ⟨hheld, hspares⟩)
        obtain ⟨fate, hmet, hunique⟩ := ih (hkeyed.perform hproper.1) hproper.2 hstill
        refine ⟨fate.later, met_later_iff.mpr ⟨hspares.not_stores, hmet⟩, ?_⟩
        intro other hother
        obtain ⟨ending, rfl⟩ | ⟨earlier, rfl⟩ := other.eq_ended_zero_or_later
        · obtain ⟨-, first, hfirst, hends⟩ := hother
          cases hfirst
          exact absurd hends (hspares.not_ends hkeyed ending)
        · rw [hunique earlier (met_later_iff.mp hother).2]
      · obtain ⟨ending, hends⟩ := Op.exists_ends hkeyed hheld hspares
        refine ⟨ended 0 ending, ⟨⟨List.forall_mem_nil _, hheld⟩, op, rfl, hends⟩, ?_⟩
        intro other hother
        obtain ⟨ending', rfl⟩ | ⟨earlier, rfl⟩ := other.eq_ended_zero_or_later
        · obtain ⟨-, first, hfirst, hends'⟩ := hother
          cases hfirst
          have hsame := (Op.ending?_of_ends hends').symm.trans (Op.ending?_of_ends hends)
          rw [Option.some.inj hsame]
        · -- The entry would have had to outlast an operation that neither stores nor spares it.
          obtain ⟨hstores, hlater⟩ := met_later_iff.mp hother
          have hstill := hlater.held (hkeyed.perform hproper.1) hproper.2
          obtain ⟨identity, rfl, hsubject⟩ | ⟨-, hspared⟩ :=
            (entryOf?_perform_eq_some_iff hkeyed hproper.1).mp hstill
          · exact absurd hsubject hstores
          · exact absurd hspared hspares

end Fate

/-- What a cache answers, read off its history. An object need not be validated iff what its last store
recorded is asked for and has been spared since; once it is due, nothing is found of it until it is
stored again. And each entry that was ever stored has met one fate: it is held, or one operation has
ended it in one way. -/
theorem history_accounts {key : ResourceKey} {ops : List Op} (hproper : Proper key .empty ops) :
    let cache := Cache.empty.performAll ops
    (∀ identity resourceVersion, cache.Admits key identity →
      let asked := cache.needsValidation identity resourceVersion
      (asked.1 = false ↔ ∃ entry, Cache.empty.Endures ops identity.subject entry ∧
        entry.resourceVersion = resourceVersion) ∧
      (asked.1 = true → ∀ later, Proper key asked.2 later →
        (∀ op ∈ later, ¬ op.Stores identity.subject) →
        ∀ other, other.subject = identity.subject →
          (asked.2.performAll later).get? other = none)) ∧
    ∀ past identity entry since, ops = past ++ .store identity entry :: since →
      ∃! fate : Fate, fate.Met ((Cache.empty.performAll past).store identity entry) since
        identity.subject entry := by
  intro cache
  have hkeyed : cache.Keyed key := (keyed_empty key).performAll hproper
  refine ⟨?_, ?_⟩
  · intro identity resourceVersion hadmits asked
    refine ⟨?_, ?_⟩
    · calc asked.1 = false
        _ ↔ cache.isDue identity resourceVersion = false := by rw [fst_needsValidation]
        _ ↔ ∃ entry, cache.entryOf? identity.subject = some entry ∧
              entry.resourceVersion = resourceVersion := by
            rw [isDue_eq_false_iff, hadmits.get?_eq]
        _ ↔ ∃ entry, Cache.empty.Endures ops identity.subject entry ∧
              entry.resourceVersion = resourceVersion := by
            simp only [cache, entryOf?_performAll_empty hproper]
    · intro hdue later hlater hstores other hother
      have hasked : asked.2.entryOf? identity.subject = none := by
        rw [fst_needsValidation] at hdue
        simp only [asked, needsValidation_of_isDue hdue, entryOf?_remove]
        exact if_pos hadmits.identity_eq
      have hquery : (Op.query identity resourceVersion).IsProper cache key := hadmits
      have hkeyed' : asked.2.Keyed key := hkeyed.perform hquery
      refine (hkeyed'.performAll hlater).get?_eq_none ?_ hother
      rw [Option.eq_none_iff_forall_ne_some]
      intro entry hentry
      rw [entryOf?_performAll_of_not_stores hkeyed' hlater hstores, hasked] at hentry
      cases hentry.1
  · rintro past identity entry since rfl
    obtain ⟨hpast, hstore, hsince⟩ := hproper.of_append
    have hbefore := (keyed_empty key).performAll hpast
    refine Fate.existsUnique_met (hbefore.perform hstore) hsince ?_
    exact (entryOf?_perform_eq_some_iff hbefore hstore).mpr (.inl ⟨identity, rfl, rfl⟩)

end Cache

namespace Sample

/-- Two workloads are validated, and their kind moves to another version. Then one of them has changed,
and the other is gone. -/
theorem history_accounts_moved :
    let identity (version name : String) : Identity := ⟨"apps", version, "Deployment", "default", name⟩
    let entry (resourceVersion : String) : CacheEntry := ⟨resourceVersion, "uid-1", "ns-1", .valid⟩
    let past : List Cache.Op := [.adopt "v1", .store (identity "v1" "web") (entry "1")]
    let since : List Cache.Op :=
      [.adopt "v2", .query (identity "v2" "web") "2", .store (identity "v2" "web") (entry "2"),
        .remove (identity "v1" "web"), .evict (.ofList [identity "v2" "web"])]
    let ops := past ++ .store (identity "v1" "db") (entry "1") :: since
    let cache := Cache.empty.performAll ops
    Cache.Proper ⟨"apps", "Deployment"⟩ .empty ops ∧
      (cache.needsValidation (identity "v2" "web") "2").1 = false ∧
      (∃ found, Cache.empty.Endures ops (identity "v2" "web").subject found ∧
        found.resourceVersion = "2") ∧
      ((cache.needsValidation (identity "v2" "web") "3").2.performAll [.adopt "v3"]).get?
        (identity "v3" "web") = none ∧
      ∀ fate : Cache.Fate,
        fate.Met ((Cache.empty.performAll past).store (identity "v1" "db") (entry "1")) since
          (identity "v1" "db").subject (entry "1") ↔ fate = .ended 4 .returned := by
  intro identity entry past since ops cache
  have hproper : Cache.Proper ⟨"apps", "Deployment"⟩ .empty ops := by decide +kernel
  obtain ⟨hasked, hfates⟩ := Cache.history_accounts hproper
  have hadmits : cache.Admits ⟨"apps", "Deployment"⟩ (identity "v2" "web") := by decide +kernel
  have hspared : (cache.needsValidation (identity "v2" "web") "2").1 = false := by decide +kernel
  refine ⟨hproper, hspared, (hasked _ _ hadmits).1.mp hspared, ?_, ?_⟩
  · exact (hasked _ "3" hadmits).2 (by decide +kernel) [.adopt "v3"] (by decide +kernel)
      (by decide +kernel) _ rfl
  · have hreturned : (Cache.Fate.ended 4 .returned).Met
        ((Cache.empty.performAll past).store (identity "v1" "db") (entry "1")) since
        (identity "v1" "db").subject (entry "1") := by
      refine ⟨⟨by decide +kernel, by decide +kernel⟩, .evict (.ofList [identity "v2" "web"]), rfl, ?_⟩
      change List.filter _ _ = _
      decide +kernel
    intro fate
    constructor
    · intro hmet
      exact (hfates past _ _ since rfl).unique hmet hreturned
    · rintro rfl
      exact hreturned

end Sample

end ComplianceScanner
