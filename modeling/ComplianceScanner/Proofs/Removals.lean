import ComplianceScanner.Proofs.Changes
import ComplianceScanner.Proofs.Completed

/-!
# Each disappearance is reported once

For objects that are not shown in between, what is cached before a run of deeds is what is cached
after it together with what was dropped on the way, each entry counted once.
-/

namespace ComplianceScanner

variable {World : Type}

namespace Moment

def droppedAll (cluster : Cluster World) (engine : Engine World) :
    Moment World → List Deed → List (Identity × CacheEntry)
  | _, [] => []
  | m, deed :: deeds =>
    m.dropped engine deed ++ droppedAll cluster engine (m.apply cluster engine deed) deeds

variable (cluster : Cluster World) (engine : Engine World) {m : Moment World}

theorem droppedAll_append (m : Moment World) (deeds deeds' : List Deed) :
    m.droppedAll cluster engine (deeds ++ deeds') =
      m.droppedAll cluster engine deeds ++
        (m.applyAll cluster engine deeds).droppedAll cluster engine deeds' := by
  induction deeds generalizing m with
  | nil => rfl
  | cons deed deeds ih => simp only [List.cons_append, droppedAll, ih, applyAll_cons,
      List.append_assoc]

theorem exists_of_mem_droppedAll (hkeyed : m.caches.Keyed) {deeds : List Deed}
    {item : Identity × CacheEntry} (hitem : item ∈ m.droppedAll cluster engine deeds) :
    ∃ deed ∈ deeds, ∃ m' : Moment World, m'.caches.Keyed ∧ item ∈ m'.dropped engine deed := by
  induction deeds generalizing m with
  | nil => cases hitem
  | cons deed deeds ih =>
      rcases List.mem_append.mp hitem with hfirst | hlater
      · exact ⟨deed, List.mem_cons_self, m, hkeyed, hfirst⟩
      · obtain ⟨later, hmem, hdropped⟩ := ih (apply_keyed cluster engine hkeyed deed) hlater
        exact ⟨later, List.mem_cons_of_mem _ hmem, hdropped⟩

/-- Where nothing is retired and the generation stays, what is dropped belongs to a kind that was
listed to its end. -/
theorem exists_finish_of_mem_droppedAll (hkeyed : m.caches.Keyed) {deeds : List Deed}
    (hrenew : Deed.renew ∉ deeds) (hretire : ∀ live, Deed.retire live ∉ deeds)
    {item : Identity × CacheEntry} (hitem : item ∈ m.droppedAll cluster engine deeds) :
    ∃ resource observed, .finish resource observed ∈ deeds ∧
      resource.key = item.1.subject.key := by
  obtain ⟨deed, hdeed, m', hkeyed', hdropped⟩ :=
    exists_of_mem_droppedAll cluster engine hkeyed hitem
  cases deed with
  | renew => exact absurd hdeed hrenew
  | retire live => exact absurd hdeed (hretire live)
  | finish resource observed =>
      obtain ⟨hfound, -⟩ := (Cache.mem_unobserved _ _ _ _).mp hdropped
      exact ⟨resource, observed, hdeed, (hkeyed'.cacheFor resource _ _ hfound).2.symm⟩
  | _ => cases hdropped

/-- Only a new generation and the end of an attempt do away with the cache of a kind. -/
theorem isSome_get?_applyAll {deeds : List Deed} (hrenew : Deed.renew ∉ deeds)
    (hretire : ∀ live, Deed.retire live ∉ deeds) {key : ResourceKey}
    (hsome : (m.caches.get? key).isSome = true) :
    ((m.applyAll cluster engine deeds).caches.get? key).isSome = true := by
  have hput : ∀ (set : CacheSet) (other : ResourceKey) (cache : Cache),
      (set.get? key).isSome = true → ((set.put other cache).get? key).isSome = true := by
    intro set other cache hset
    rw [CacheSet.get?_put]
    split
    · rfl
    · exact hset
  induction deeds generalizing m with
  | nil => exact hsome
  | cons deed deeds ih =>
      rw [List.mem_cons, not_or] at hrenew
      refine ih hrenew.2 (fun live hmem => hretire live (List.mem_cons_of_mem _ hmem)) ?_
      cases deed with
      | renew => exact absurd rfl hrenew.1
      | ask call => exact hsome
      | adopt resource => exact hput _ _ _ hsome
      | take view => exact hput _ _ _ hsome
      | finish resource observed => exact hput _ _ _ hsome
      | retire live => exact absurd List.mem_cons_self (hretire live)

/-! ### Objects that are shown -/

theorem entryFor?_apply_of_spares (hkeyed : m.caches.Keyed) {deed : Deed}
    (hview : deed.view? = none) {subjects : List Subject} (hspares : deed.Spares subjects)
    {subject : Subject} (hsubject : subject ∈ subjects) :
    (m.apply cluster engine deed).caches.entryFor? subject = m.caches.entryFor? subject := by
  cases deed with
  | renew => exact hspares.elim
  | ask call => rfl
  | adopt resource => exact CacheSet.entryFor?_put_cacheFor hkeyed resource subject
  | take view => cases hview
  | finish resource observed =>
      rw [entryFor?_finish cluster engine hkeyed, if_neg]
      exact fun hgone => hgone.2 (hspares subject hsubject hgone.1)
  | retire live =>
      exact (CacheSet.entryFor?_retain _ _ _).trans (if_pos (hspares subject hsubject))

/-! ### Objects that are not shown -/

/-- What is not shown can only go. -/
theorem entryFor?_apply_of_notMem (hkeyed : m.caches.Keyed) {deed : Deed} {subject : Subject}
    (hsubject : subject ∉ Deed.subjects [deed]) :
    deed.view? = none ∧ (m.apply cluster engine deed).caches.entryFor? subject = none ∨
      (m.apply cluster engine deed).caches.entryFor? subject = m.caches.entryFor? subject := by
  have hother : ∀ {view : ObjectView} {other : Subject}, deed = .take view →
      view.subject? = some other → subject ≠ other := by
    rintro view other rfl hview rfl
    exact hsubject (Deed.mem_subjects.mpr ⟨view, List.mem_singleton_self _, hview⟩)
  generalize hnext : m.apply cluster engine deed = m'
  cases hnext ▸ apply_change cluster engine hkeyed deed with
  | idle hview hgeneration hworld hentry => exact .inr (hentry subject)
  | asked hgeneration hworld hentry => exact .inr (hentry subject)
  | dropped gone hview hgeneration hworld hentry hgone =>
      exact (hentry subject).imp_left fun hnone => ⟨hview, hnone⟩
  | hit hsubject hheld hversion hgeneration hworld hentry => exact .inr (hentry subject)
  | stored hshown hdue hgeneration hworld hentry =>
      exact .inr ((hentry subject).trans (if_neg (hother rfl hshown)))
  | failed hshown hdue hgeneration hvalidate hworld hentry =>
      exact .inr ((hentry subject).trans (if_neg (hother rfl hshown)))

/-- While an object is not shown its entry does not come back. -/
theorem entryFor?_applyAll_eq_none (hkeyed : m.caches.Keyed) {deeds : List Deed}
    {subject : Subject} (hsubject : subject ∉ Deed.subjects deeds)
    (hnone : m.caches.entryFor? subject = none) :
    (m.applyAll cluster engine deeds).caches.entryFor? subject = none := by
  induction deeds generalizing m with
  | nil => exact hnone
  | cons deed deeds ih =>
      rw [← List.singleton_append, Deed.subjects_append, List.mem_append, not_or] at hsubject
      have hnext := entryFor?_apply_of_notMem cluster engine hkeyed hsubject.1
      exact ih (apply_keyed cluster engine hkeyed deed) hsubject.2
        (hnext.elim And.right (·.trans hnone))

/-- The entries of all subjects but these. -/
def heldBeyond (m : Moment World) (subjects : List Subject) : List (Subject × CacheEntry) :=
  m.caches.held.filter fun item => item.1 ∉ subjects

theorem mem_heldBeyond (hkeyed : m.caches.Keyed) {subjects : List Subject} {subject : Subject}
    {entry : CacheEntry} :
    (subject, entry) ∈ m.heldBeyond subjects ↔
      m.caches.entryFor? subject = some entry ∧ subject ∉ subjects := by
  simp only [heldBeyond, List.mem_filter, CacheSet.mem_held hkeyed, decide_eq_true_eq]

/-- The same entries, each with the version that its kind is cached under. -/
def entriesBeyond (m : Moment World) (subjects : List Subject) : List (Identity × CacheEntry) :=
  (entriesOf m.caches.toList).filter fun item => item.1.subject ∉ subjects

theorem mem_entriesBeyond {subjects : List Subject} {identity : Identity} {entry : CacheEntry} :
    (identity, entry) ∈ m.entriesBeyond subjects ↔
      m.caches.Holds identity entry ∧ identity.subject ∉ subjects := by
  simp only [entriesBeyond, List.mem_filter, CacheSet.mem_entriesOf, decide_eq_true_eq]

theorem map_bySubject_entriesBeyond (m : Moment World) (subjects : List Subject) :
    (m.entriesBeyond subjects).map bySubject = m.heldBeyond subjects := by
  rw [heldBeyond, CacheSet.held, List.filter_map]
  rfl

theorem nodup_entriesBeyond (hkeyed : m.caches.Keyed) (subjects : List Subject) :
    (m.entriesBeyond subjects).Nodup := by
  have hnodup : ((m.entriesBeyond subjects).map bySubject).Nodup := by
    rw [map_bySubject_entriesBeyond]
    exact hkeyed.nodup_held.sublist List.filter_sublist
  exact List.Pairwise.of_map bySubject (fun _ _ hne heq => hne (congrArg bySubject heq)) hnodup

/-- Where these subjects are spared, what is dropped belongs to others. -/
theorem mem_dropped_of_spares (hkeyed : m.caches.Keyed) {deed : Deed} {subjects : List Subject}
    (hspares : deed.Spares subjects) (hshown : Deed.subjects [deed] ⊆ subjects)
    {subject : Subject} {entry : CacheEntry} :
    (subject, entry) ∈ (m.dropped engine deed).map bySubject ↔
      subject ∉ subjects ∧ m.caches.entryFor? subject = some entry ∧
        (m.apply cluster engine deed).caches.entryFor? subject = none := by
  cases hview : deed.view? with
  | none =>
      rw [mem_dropped cluster engine hkeyed hview]
      refine ⟨fun hgone => ⟨fun hsubject => ?_, hgone⟩, And.right⟩
      have hkept := entryFor?_apply_of_spares cluster engine hkeyed hview hspares hsubject
      exact Option.some_ne_none _ (hgone.1.symm.trans (hkept.symm.trans hgone.2))
  | some view =>
      have hnil : m.dropped engine deed = [] := by cases deed <;> first | rfl | cases hview
      rw [hnil]
      refine ⟨fun hmem => absurd hmem List.not_mem_nil, fun ⟨hsubject, hheld, hnone⟩ => ?_⟩
      rcases entryFor?_apply_of_notMem cluster engine hkeyed
        fun hmem => hsubject (hshown hmem) with ⟨hview', -⟩ | hsame
      · exact absurd (hview.symm.trans hview') (Option.some_ne_none _)
      · exact absurd (hheld.symm.trans (hsame.symm.trans hnone)) (Option.some_ne_none _)

/-- Where these subjects are spared, the entries of the others are held on or dropped, and none is
counted twice. -/
theorem heldBeyond_perm_apply (hkeyed : m.caches.Keyed) {deed : Deed} {subjects : List Subject}
    (hspares : deed.Spares subjects) (hshown : Deed.subjects [deed] ⊆ subjects) :
    (m.heldBeyond subjects).Perm
      ((m.apply cluster engine deed).heldBeyond subjects ++
        (m.dropped engine deed).map bySubject) := by
  have hkeyed' := apply_keyed cluster engine hkeyed deed
  have hdropped := @mem_dropped_of_spares World cluster engine m hkeyed deed subjects hspares hshown
  -- Neither side has an entry twice, so it is enough that they have the same entries.
  refine (List.perm_ext_iff_of_nodup (hkeyed.nodup_held.sublist List.filter_sublist) ?_).mpr ?_
  · refine List.nodup_append.mpr ⟨hkeyed'.nodup_held.sublist List.filter_sublist,
      nodup_dropped engine hkeyed deed, ?_⟩
    rintro ⟨subject, entry⟩ hheld other hgone rfl
    have hentry := ((mem_heldBeyond hkeyed').mp hheld).1
    have hnone := (hdropped.mp hgone).2.2
    exact Option.some_ne_none _ (hentry.symm.trans hnone)
  · rintro ⟨subject, entry⟩
    change (subject, entry) ∈ m.heldBeyond subjects ↔ _
    rw [List.mem_append, mem_heldBeyond hkeyed, mem_heldBeyond hkeyed', hdropped]
    constructor
    · rintro ⟨hheld, hsubject⟩
      rcases entryFor?_apply_of_notMem cluster engine hkeyed
        fun hmem => hsubject (hshown hmem) with ⟨-, hnone⟩ | hsame
      · exact .inr ⟨hsubject, hheld, hnone⟩
      · exact .inl ⟨hsame.trans hheld, hsubject⟩
    · rintro (⟨hheld, hsubject⟩ | ⟨hsubject, hheld, -⟩)
      · rcases entryFor?_apply_of_notMem cluster engine hkeyed
          fun hmem => hsubject (hshown hmem) with ⟨-, hnone⟩ | hsame
        · exact absurd (hheld.symm.trans hnone) (Option.some_ne_none _)
        · exact ⟨hsame.symm.trans hheld, hsubject⟩
      · exact ⟨hheld, hsubject⟩

theorem heldBeyond_perm_applyAll (hkeyed : m.caches.Keyed) {deeds : List Deed}
    {subjects : List Subject} (hspares : ∀ deed ∈ deeds, deed.Spares subjects)
    (hshown : Deed.subjects deeds ⊆ subjects) :
    (m.heldBeyond subjects).Perm
      ((m.applyAll cluster engine deeds).heldBeyond subjects ++
        (m.droppedAll cluster engine deeds).map bySubject) := by
  induction deeds generalizing m with
  | nil => simp [droppedAll]
  | cons deed deeds ih =>
      rw [← List.singleton_append, Deed.subjects_append, List.append_subset] at hshown
      have hfirst := heldBeyond_perm_apply cluster engine hkeyed
        (hspares deed List.mem_cons_self) hshown.1
      have hrest := ih (apply_keyed cluster engine hkeyed deed)
        (fun later hlater => hspares later (List.mem_cons_of_mem _ hlater)) hshown.2
      refine hfirst.trans ((hrest.append_right _).trans ?_)
      rw [droppedAll, List.map_append, List.append_assoc]
      exact List.perm_append_comm.append_left _

/-- A deed that leaves a subject without an entry does so for good, unless the object is shown. -/
theorem entryFor?_applyAll_eq_none_of_mem (hkeyed : m.caches.Keyed) {deeds : List Deed}
    {subject : Subject} (hsubject : subject ∉ Deed.subjects deeds) {deed : Deed}
    (hdeed : deed ∈ deeds) (hgone : ∀ {m : Moment World}, m.caches.Keyed →
      (m.apply cluster engine deed).caches.entryFor? subject = none) :
    (m.applyAll cluster engine deeds).caches.entryFor? subject = none := by
  obtain ⟨earlier, later, rfl⟩ := List.append_of_mem hdeed
  rw [← List.singleton_append, Deed.subjects_append, Deed.subjects_append] at hsubject
  simp only [List.mem_append, not_or] at hsubject
  have hbetween := applyAll_keyed cluster engine hkeyed earlier
  rw [applyAll_append, applyAll_cons]
  exact entryFor?_applyAll_eq_none cluster engine (apply_keyed cluster engine hbetween deed)
    hsubject.2.2 (hgone hbetween)

end Moment

/-! ### What a report counts -/

section

variable (cluster : Cluster World) (engine : Engine World)

namespace Moment

theorem droppedAll_eq_nil {deeds : List Deed} {resource : ResourceType}
    (hscan : ∀ deed ∈ deeds, deed.Scans resource) (m : Moment World) :
    m.droppedAll cluster engine deeds = [] := by
  induction deeds generalizing m with
  | nil => rfl
  | cons deed deeds ih =>
      have hfirst : m.dropped engine deed = [] := by
        have hscans := hscan deed List.mem_cons_self
        cases deed <;> first | rfl | exact hscans.elim
      rw [droppedAll, hfirst, List.nil_append]
      exact ih (fun later hlater => hscan later (List.mem_cons_of_mem _ hlater)) _

end Moment

namespace Scanning

theorem CameThrough.droppedAll_eq {resource : ResourceType} {report report' : CycleReport}
    {s s' : Scanning World} {steps : Nat} {scopes : List (Option String × String)}
    {count : Option Nat} {between : Scanning World} {scan : KindScan World}
    (h : CameThrough cluster engine steps resource report report' s s' scopes count between scan) :
    s.moment.droppedAll cluster engine (s.kindDeeds cluster engine steps resource) =
      (scan.caches.cacheFor resource).unobserved scan.observed := by
  have hscans := scans_scanDeeds cluster engine steps resource scopes s between
  rw [h.kindDeeds_eq, Moment.droppedAll_append, Moment.droppedAll_eq_nil cluster engine hscans,
    ← h.moment_eq, List.nil_append]
  exact List.append_nil _

theorem scanKind_deleted (steps : Nat) (resource : ResourceType) (report : CycleReport)
    (s : Scanning World) {report' : CycleReport}
    (hok : (s.scanKind cluster engine steps resource report).1 = .ok report') :
    report'.deleted = report.deleted + (s.moment.droppedAll cluster engine
      (s.kindDeeds cluster engine steps resource)).length := by
  obtain ⟨scopes, count, between, scan, hthrough⟩ := exists_cameThrough (Prod.ext hok rfl)
  rw [hthrough.droppedAll_eq, ← (Prod.mk.inj hthrough.finish_eq).1]
  rfl

theorem scanKinds_deleted (steps : Nat) (resources : List ResourceType) (report : CycleReport)
    (s : Scanning World) {report' : CycleReport}
    (hok : (s.scanKinds cluster engine steps resources report).1 = .ok report') :
    report'.deleted = report.deleted + (s.moment.droppedAll cluster engine
      (s.kindsDeeds cluster engine steps resources report)).length := by
  induction resources generalizing report s with
  | nil =>
      cases hok
      rfl
  | cons resource rest ih =>
      obtain ⟨between, t, hfirst, hrest⟩ := exists_scanKind_of_scanKinds_cons (Prod.ext hok rfl)
      obtain ⟨hdeeds, hmoment⟩ := kindsDeeds_cons_of_scanKind rest hfirst
      have hdeleted := s.scanKind_deleted cluster engine steps resource report
        (congrArg Prod.fst hfirst)
      have hlater := ih between t (congrArg Prod.fst hrest)
      rw [hdeeds, Moment.droppedAll_append, ← hmoment, List.length_append, hlater, hdeleted,
        Nat.add_assoc]

theorem foldl_dropKind_deleted (caches : List (ResourceKey × Cache)) (report : CycleReport)
    (s : Scanning World) :
    (caches.foldl (fun s (key, cache) => dropKind engine key cache s) (report, s)).1.deleted =
      report.deleted + (entriesOf caches).length := by
  induction caches generalizing report s with
  | nil => rfl
  | cons item caches ih =>
      have hsize : item.2.size = item.2.toList.length := Std.ExtTreeMap.length_toList.symm
      refine (ih _ _).trans ?_
      simp only [entriesOf, List.flatMap_cons, List.length_append, ← hsize]
      exact Nat.add_assoc _ _ _

/-- A report counts the entries that were dropped after the attempt looked at the generation. -/
theorem runCycle_deleted (steps : Nat) (s : Scanning World) {report : CycleReport}
    (hok : (s.runCycle cluster engine steps).1 = .ok report) :
    report.deleted = ((s.dropStaleCaches engine).moment.droppedAll cluster engine
      (s.deeds cluster engine steps).tail).length := by
  obtain ⟨resources, world, hdiscovered⟩ := exists_discovered (Prod.ext hok rfl)
  obtain ⟨between, t, hkinds, hdropped⟩ :=
    exists_scanKinds_of_runCycle hdiscovered (Prod.ext hok rfl)
  obtain ⟨hdeeds, hbegun, hmoment⟩ := tail_deeds_of_scanKinds hdiscovered hkinds
  have hscanned := scanKinds_deleted cluster engine steps resources _ _ (congrArg Prod.fst hkinds)
  let vanished := t.scheduler.caches.vanished (resources.map (·.key))
  have hvanished : report.deleted = between.deleted + (entriesOf vanished).length := by
    rw [← (Prod.mk.inj hdropped).1]
    exact foldl_dropKind_deleted engine _ _ _
  have hretired : t.moment.droppedAll cluster engine [.retire (resources.map (·.key))] =
      entriesOf vanished := List.append_nil _
  have hasked : (s.dropStaleCaches engine).moment.dropped engine (.ask .discover) = [] := rfl
  rw [hdeeds, Moment.droppedAll, hasked, List.nil_append, ← hbegun, Moment.droppedAll_append,
    ← hmoment, hretired, List.length_append, hvanished, hscanned, Nat.zero_add]

end Scanning

end

end ComplianceScanner
