import ComplianceScanner.Proofs.Dropped

/-!
# What one deed can do

`apply_change` says once and for all what a deed does to the entries, found by their subjects, and to
the world. It is the only place that looks into the deeds; invariants are proved by cases on it.
-/

namespace ComplianceScanner

variable {World : Type}

namespace Cache

variable {cache : Cache} {identity : Identity} {resourceVersion : String}

theorem isDue_eq_false_iff :
    cache.isDue identity resourceVersion = false ↔
      ∃ entry, cache.get? identity = some entry ∧ entry.resourceVersion = resourceVersion := by
  unfold isDue
  cases cache.get? identity <;> simp

theorem isDue_iff :
    cache.isDue identity resourceVersion = true ↔
      ∀ entry, cache.get? identity = some entry → entry.resourceVersion ≠ resourceVersion := by
  unfold isDue
  cases cache.get? identity <;> simp

theorem needsValidation_of_isDue (hdue : cache.isDue identity resourceVersion = true) :
    cache.needsValidation identity resourceVersion = (true, cache.remove identity) :=
  if_pos hdue

theorem needsValidation_of_isDue_eq_false (hdue : cache.isDue identity resourceVersion = false) :
    cache.needsValidation identity resourceVersion = (false, cache) :=
  if_neg (Bool.eq_false_iff.mp hdue)

end Cache

namespace PageScan

variable (engine : Engine World) {view : ObjectView} {identity : Identity} (scan : PageScan World)

theorem take_of_identity?_eq_none (hidentity : view.identity? = none) :
    scan.take engine view = { scan with tally := scan.tally.see } := by
  simp only [take, hidentity]

theorem take_of_isDue_eq_false (hidentity : view.identity? = some identity)
    (hdue : scan.cache.isDue identity view.resourceVersion = false) :
    scan.take engine view =
      { scan with
        observed := scan.observed.insert identity
        tally := scan.tally.see.hit } := by
  simp only [take, hidentity, Cache.needsValidation_of_isDue_eq_false hdue]

theorem take_of_isDue (hidentity : view.identity? = some identity)
    (hdue : scan.cache.isDue identity view.resourceVersion = true) :
    scan.take engine view =
      validate engine view identity
        { scan with
          cache := scan.cache.remove identity
          observed := scan.observed.insert identity
          tally := scan.tally.see } := by
  simp only [take, hidentity, Cache.needsValidation_of_isDue hdue]

end PageScan

namespace Moment

/-- What a deed can make of a moment. -/
inductive Change (cluster : Cluster World) (engine : Engine World) (m : Moment World) :
    Deed → Moment World → Prop
  /-- Nothing that concerns an entry; an object without a name is passed over. -/
  | idle {deed : Deed} {m' : Moment World}
      (hview : ∀ view, deed.view? = some view → view.subject? = none)
      (hgeneration : m'.generation = m.generation) (hworld : m'.world = m.world)
      (hentry : ∀ subject, m'.caches.entryFor? subject = m.caches.entryFor? subject) :
      Change cluster engine m deed m'
  | asked {call : Cluster.Call} {m' : Moment World}
      (hgeneration : m'.generation = m.generation)
      (hworld : m'.world = cluster.after call m.world)
      (hentry : ∀ subject, m'.caches.entryFor? subject = m.caches.entryFor? subject) :
      Change cluster engine m (.ask call) m'
  /-- Some entries go, and the series of just these are removed; or all of them, for a new
  generation. -/
  | dropped {deed : Deed} {m' : Moment World} (gone : List ObjectLabels)
      (hview : deed.view? = none)
      (hgeneration : m'.generation = m.generation ∨
        m'.generation = engine.generation m.world ∧ ∀ subject, m'.caches.entryFor? subject = none)
      (hworld : m'.world = engine.deleteAll gone m.world)
      (hentry : ∀ subject, m'.caches.entryFor? subject = none ∨
        m'.caches.entryFor? subject = m.caches.entryFor? subject)
      (hgone : ∀ labels, labels ∈ gone ↔ ∃ subject entry, m.caches.entryFor? subject = some entry ∧
        m'.caches.entryFor? subject = none ∧ subject.labels entry = labels) :
      Change cluster engine m deed m'
  | hit {view : ObjectView} {m' : Moment World} {subject : Subject} {entry : CacheEntry}
      (hsubject : view.subject? = some subject)
      (hheld : m.caches.entryFor? subject = some entry)
      (hversion : entry.resourceVersion = view.resourceVersion)
      (hgeneration : m'.generation = m.generation) (hworld : m'.world = m.world)
      (hentry : ∀ other, m'.caches.entryFor? other = m.caches.entryFor? other) :
      Change cluster engine m (.take view) m'
  | stored {view : ObjectView} {m' : Moment World} {subject : Subject} {outcome : Outcome}
      (hsubject : view.subject? = some subject)
      (hdue : ∀ entry, m.caches.entryFor? subject = some entry →
        entry.resourceVersion ≠ view.resourceVersion)
      (hgeneration : m'.generation = m.generation)
      (hworld : engine.validate view m.world = (.ok outcome, m'.world))
      (hentry : ∀ other, m'.caches.entryFor? other =
        if other = subject then some (.ofView view outcome) else m.caches.entryFor? other) :
      Change cluster engine m (.take view) m'
  | failed {view : ObjectView} {m' : Moment World} {subject : Subject} {error : ScanError}
      {world : World} (hsubject : view.subject? = some subject)
      (hdue : ∀ entry, m.caches.entryFor? subject = some entry →
        entry.resourceVersion ≠ view.resourceVersion)
      (hgeneration : m'.generation = m.generation)
      (hvalidate : engine.validate view m.world = (.error error, world))
      (hworld : m'.world = engine.deleteMetrics view.labels world)
      (hentry : ∀ other, m'.caches.entryFor? other =
        if other = subject then none else m.caches.entryFor? other) :
      Change cluster engine m (.take view) m'

variable (cluster : Cluster World) (engine : Engine World) {m : Moment World}

theorem apply_keyed (hkeyed : m.caches.Keyed) (deed : Deed) :
    (m.apply cluster engine deed).caches.Keyed := by
  cases deed with
  | renew =>
      unfold apply
      simp only
      split
      · exact hkeyed
      · exact CacheSet.keyed_empty
  | ask call => exact hkeyed
  | adopt resource => exact hkeyed.put (hkeyed.cacheFor resource)
  | take view =>
      refine hkeyed.put ?_
      have hcache := hkeyed.cacheFor view.resource
      cases hidentity : view.identity? with
      | none =>
          rw [PageScan.take_of_identity?_eq_none engine _ hidentity]
          exact hcache
      | some identity =>
          have hown : identity.version = (m.caches.cacheFor view.resource).version ∧
              identity.subject.key = view.resource.key := by
            rw [ObjectView.identity?_eq, Option.map_eq_some_iff] at hidentity
            obtain ⟨subject, hsubject, rfl⟩ := hidentity
            exact ⟨by simp, ObjectView.key_of_subject? hsubject⟩
          cases hdue : (m.caches.cacheFor view.resource).isDue identity view.resourceVersion with
          | false =>
              rw [PageScan.take_of_isDue_eq_false engine _ hidentity hdue]
              exact hcache
          | true =>
              rw [PageScan.take_of_isDue engine _ hidentity hdue, PageScan.validate]
              split
              · exact (hcache.remove identity).store hown.1 hown.2 _
              · exact hcache.remove identity
  | finish resource observed =>
      exact hkeyed.put ((hkeyed.cacheFor resource).keepObserved observed)
  | retire live => exact hkeyed.retain live

theorem applyAll_keyed (hkeyed : m.caches.Keyed) (deeds : List Deed) :
    (m.applyAll cluster engine deeds).caches.Keyed := by
  induction deeds generalizing m with
  | nil => exact hkeyed
  | cons deed deeds ih => exact ih (apply_keyed cluster engine hkeyed deed)

theorem renew_change (hkeyed : m.caches.Keyed) :
    m.Change cluster engine .renew (m.apply cluster engine .renew) := by
  have hgone := mem_labelsOf_dropped cluster engine hkeyed .renew rfl
  by_cases hsame : engine.generation m.world = m.generation
  · simp only [apply, hsame, if_true]
    exact .idle (fun view hview => by cases hview) rfl rfl fun _ => rfl
  · simp only [dropped, apply, hsame, if_false, ← labelsOfAll_eq] at hgone ⊢
    have hnone : ∀ subject, CacheSet.entryFor? {} subject = none := fun _ => rfl
    exact .dropped _ rfl (.inr ⟨rfl, hnone⟩) rfl (fun subject => .inl (hnone subject)) hgone

theorem retire_change (hkeyed : m.caches.Keyed) (live : List ResourceKey) :
    m.Change cluster engine (.retire live) (m.apply cluster engine (.retire live)) := by
  have hgone := mem_labelsOf_dropped cluster engine hkeyed (.retire live) rfl
  have hworld := congrArg (engine.deleteAll · m.world)
    (labelsOfAll_eq (m.caches.vanished live))
  refine .dropped _ rfl (.inl rfl) hworld (fun subject => ?_) hgone
  have hentry := CacheSet.entryFor?_retain m.caches live subject
  by_cases hlive : subject.key ∈ live
  · exact .inr (hentry.trans (if_pos hlive))
  · exact .inl (hentry.trans (if_neg hlive))

theorem finish_change (hkeyed : m.caches.Keyed) (resource : ResourceType)
    (observed : Identities) :
    m.Change cluster engine (.finish resource observed)
      (m.apply cluster engine (.finish resource observed)) := by
  have hgone := mem_labelsOf_dropped cluster engine hkeyed (.finish resource observed) rfl
  refine .dropped _ rfl (.inl rfl) rfl (fun subject => ?_) hgone
  rw [entryFor?_finish cluster engine hkeyed]
  split
  · exact .inl rfl
  · exact .inr rfl

/-- An object that is not known with its resource version is judged. -/
theorem judge_change (hkeyed : m.caches.Keyed) {view : ObjectView} {subject : Subject}
    (hsubject : view.subject? = some subject)
    (hdue : (m.page view).cache.isDue (subject.identity view.resource.version)
      view.resourceVersion = true) :
    m.Change cluster engine (.take view) (m.apply cluster engine (.take view)) := by
  have hkey := ObjectView.key_of_subject? hsubject
  have hidentity : view.identity? = some (subject.identity view.resource.version) := by
    simp [ObjectView.identity?_eq, hsubject]
  have hstale : ∀ entry, m.caches.entryFor? subject = some entry →
      entry.resourceVersion ≠ view.resourceVersion := by
    intro entry hentry
    exact Cache.isDue_iff.mp hdue entry ((CacheSet.get?_cacheFor hkeyed hkey).trans hentry)
  have hversion : (m.caches.cacheFor view.resource).version = view.resource.version :=
    CacheSet.version_cacheFor _ _
  have htake := PageScan.take_of_isDue engine (m.page view) hidentity hdue
  cases hvalidate : engine.validate view m.world with
  | mk result world =>
      have hjudge : engine.validate view (m.page view).world = (result, world) := hvalidate
      cases result with
      | ok outcome =>
          have hworld : engine.validate view m.world =
              (.ok outcome, (m.apply cluster engine (.take view)).world) := by
            simp only [apply, htake, PageScan.validate, hjudge, hvalidate]
          refine .stored hsubject hstale rfl hworld ?_
          simp only [apply, htake, PageScan.validate, hjudge]
          refine CacheSet.entryFor?_put_of_forall_get? hkeyed hkey ?_ fun other => ?_
          · exact hversion
          · rw [Cache.get?_store_identity, Cache.get?_remove_identity]
            split <;> rfl
      | error error =>
          refine .failed hsubject hstale rfl hvalidate ?_ ?_
          · simp only [apply, htake, PageScan.validate, hjudge]
          · simp only [apply, htake, PageScan.validate, hjudge]
            refine CacheSet.entryFor?_put_of_forall_get? hkeyed hkey ?_ fun other => ?_
            · exact hversion
            · exact Cache.get?_remove_identity _ _ _ _

theorem take_change (hkeyed : m.caches.Keyed) (view : ObjectView) :
    m.Change cluster engine (.take view) (m.apply cluster engine (.take view)) := by
  cases hsubject : view.subject? with
  | none =>
      have hidentity : view.identity? = none := by simp [ObjectView.identity?_eq, hsubject]
      have htake := PageScan.take_of_identity?_eq_none engine (m.page view) hidentity
      refine .idle ?_ rfl ?_ ?_
      · rintro other ⟨⟩
        exact hsubject
      · simp only [apply, htake]
        rfl
      · simp only [apply, htake]
        exact CacheSet.entryFor?_put_cacheFor hkeyed view.resource
  | some subject =>
      cases hdue : (m.page view).cache.isDue (subject.identity view.resource.version)
          view.resourceVersion with
      | true => exact judge_change cluster engine hkeyed hsubject hdue
      | false =>
          have hidentity : view.identity? = some (subject.identity view.resource.version) := by
            simp [ObjectView.identity?_eq, hsubject]
          have htake := PageScan.take_of_isDue_eq_false engine (m.page view) hidentity hdue
          have hheld := CacheSet.get?_cacheFor hkeyed (ObjectView.key_of_subject? hsubject)
          obtain ⟨entry, hentry, hversion⟩ := Cache.isDue_eq_false_iff.mp hdue
          refine .hit hsubject (hheld.symm.trans hentry) hversion rfl ?_ ?_
          · simp only [apply, htake]
            rfl
          · simp only [apply, htake]
            exact CacheSet.entryFor?_put_cacheFor hkeyed view.resource

/-- All that one deed can do where the caches are keyed. -/
theorem apply_change (hkeyed : m.caches.Keyed) (deed : Deed) :
    m.Change cluster engine deed (m.apply cluster engine deed) := by
  cases deed with
  | renew => exact renew_change cluster engine hkeyed
  | ask call => exact .asked rfl rfl fun _ => rfl
  | adopt resource =>
      exact .idle (fun view hview => by cases hview) rfl rfl
        (CacheSet.entryFor?_put_cacheFor hkeyed resource)
  | take view => exact take_change cluster engine hkeyed view
  | finish resource observed => exact finish_change cluster engine hkeyed resource observed
  | retire live => exact retire_change cluster engine hkeyed live

end Moment

namespace Scanning

theorem dropStaleCaches_keyed (cluster : Cluster World) (engine : Engine World)
    {s : Scanning World} (hkeyed : s.scheduler.caches.Keyed) :
    (s.dropStaleCaches engine).moment.caches.Keyed := by
  rw [dropStaleCaches_moment cluster]
  exact Moment.apply_keyed cluster engine hkeyed .renew

end Scanning

end ComplianceScanner
