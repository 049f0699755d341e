import ComplianceScanner.Proofs.Silenced

/-!
# Series as the mirror of entries

Under three conditions on what is listed the series are exactly those of the failing checks behind the
entries of the present epoch: equal resource versions stand for equal objects, objects of one name
keep their uids and none comes to be left to its owner, and no two objects share their labels. Two
scanners with the same entries then publish the same series.
-/

namespace ComplianceScanner

variable {Outside : Type}

namespace Moment

/-- The series is that of a check that failed, in the present epoch, for the object behind the entry of
the subject. -/
def Explains (m : Moment (Interleaved Outside)) (subject : Subject) (key : SeriesKey) : Prop :=
  ∃ entry judgement, m.caches.entryFor? subject = some entry ∧ entry.outcome = .needsImprovement ∧
    judgement ∈ m.world.judgements ∧ judgement.epoch = m.world.epoch ∧
    judgement.Yields subject entry ∧
    ∃ check ∈ judgement.view.faults judgement.engine.enabled,
      key = ⟨check.name, judgement.view.labels⟩

/-- The series are those that the entries explain. -/
def Mirrored (m : Moment (Interleaved Outside)) : Prop :=
  ∀ key value, m.world.engine.gauge.get? key = some value ↔
    value = 1 ∧ ∃ subject, m.Explains subject key

variable {m m' : Moment (Interleaved Outside)} {base : Nat} {happening : Happening Outside}
  {subject : Subject} {key : SeriesKey}

theorem Explains.of_entryFor?_eq (hexplains : m.Explains subject key)
    (hsubset : m.world.judgements ⊆ m'.world.judgements) (hepoch : m'.world.epoch = m.world.epoch)
    (hentry : m'.caches.entryFor? subject = m.caches.entryFor? subject) : m'.Explains subject key := by
  obtain ⟨entry, judgement, hheld, houtcome, hmem, hnow, hyields, hcheck⟩ := hexplains
  exact ⟨entry, judgement, hentry.trans hheld, houtcome, hsubset hmem, hnow.trans hepoch.symm,
    hyields, hcheck⟩

theorem Explains.exists_entry (hexplains : m.Explains subject key) :
    ∃ entry, m.caches.entryFor? subject = some entry ∧ entry.outcome = .needsImprovement := by
  obtain ⟨entry, _, hheld, houtcome, -⟩ := hexplains
  exact ⟨entry, hheld, houtcome⟩

theorem Explains.entryFor?_ne_none (hexplains : m.Explains subject key) :
    m.caches.entryFor? subject ≠ none := by
  obtain ⟨entry, hheld, -⟩ := hexplains.exists_entry
  simp [hheld]

/-- An entry that a step leaves alone explained its series before, in the same epoch. -/
theorem Explains.before (hexplains : m'.Explains subject key) (hrecorded : m.world.Recorded)
    (hstep : m.Step happening m') (hentry : m'.caches.entryFor? subject = m.caches.entryFor? subject)
    (hother : ∀ judgement ∈ m'.world.judgements, judgement.view.subject? = some subject →
      judgement ∈ m.world.judgements) :
    m.Explains subject key ∧ m'.world.epoch = m.world.epoch := by
  obtain ⟨entry, judgement, hheld, houtcome, hmem, hnow, hyields, hcheck⟩ := hexplains
  have hbefore := hother judgement hmem hyields.1
  have hepoch : m'.world.epoch = m.world.epoch :=
    Nat.le_antisymm (hnow ▸ hrecorded.epoch_le judgement hbefore) hstep.epoch_le
  exact ⟨⟨entry, judgement, hentry.symm.trans hheld, houtcome, hbefore, hnow.trans hepoch, hyields,
    hcheck⟩, hepoch⟩

theorem Explains.before_of_ne {view : ObjectView} (hexplains : m'.Explains subject key)
    (hrecorded : m.world.Recorded) (hstep : m.Step (.deed (.take view)) m') {judged : Subject}
    (hsubject : view.subject? = some judged) (hne : subject ≠ judged)
    (hentry : m'.caches.entryFor? subject = m.caches.entryFor? subject) :
    m.Explains subject key ∧ m'.world.epoch = m.world.epoch :=
  hexplains.before hrecorded hstep hentry (hstep.mem_judgements_of_ne hsubject hne)

/-- A series that the entry of an object explains is that of a check that the object fails as it was
listed last. -/
theorem Explains.exists_fault (hexplains : m.Explains subject key) (hrecorded : m.world.Recorded)
    {views : List ObjectView} (hconsistent : Consistent views)
    (hlisted : ∀ judgement ∈ m.world.judgements, judgement.view ∈ views) {view : ObjectView}
    (hview : view ∈ views) (hsubject : view.subject? = some subject) {entry : CacheEntry}
    (hentry : m.caches.entryFor? subject = some entry)
    (hversion : entry.resourceVersion = view.resourceVersion) :
    ∃ check ∈ view.faults m.world.engine.enabled, key = ⟨check.name, view.labels⟩ := by
  obtain ⟨held, judgement, hheld, -, hmem, hnow, hyields, check, hcheck, rfl⟩ := hexplains
  obtain rfl : held = entry := Option.some.inj (hheld.symm.trans hentry)
  obtain ⟨hown, _, -, rfl⟩ := hyields
  obtain ⟨huid, -, hdata, hnamespace⟩ := hconsistent judgement.view (hlisted judgement hmem) view
    hview subject hown hsubject hversion
  refine ⟨check, ?_, ?_⟩
  · rwa [← hrecorded.enabled judgement hmem hnow,
      ← CheckEngine.faults_congr _ hown hsubject hdata]
  · rw [ObjectView.labels_eq_of_subject? hown hsubject huid.symm hnamespace.symm]

variable {past : List ObjectView}

/-- The stale entry of a judged object explains no series that the judgement does not reach. -/
theorem Explains.reached (hexplains : m.Explains subject key)
    (hlisted : ∀ judgement ∈ m.world.judgements, judgement.view ∈ past) {view : ObjectView}
    (hsubject : view.subject? = some subject) (hsteady : Steady (past ++ [view])) :
    key.labels = view.labels ∧ view.isLeftToOwner = false ∧
      ∃ judgement ∈ m.world.judgements, judgement.epoch = m.world.epoch ∧
        ∃ check ∈ judgement.engine.inScope view.group view.kind,
          key = ⟨check.name, view.labels⟩ := by
  obtain ⟨entry, judgement, hheld, houtcome, hmem, hnow, hyields, check, hcheck, rfl⟩ := hexplains
  obtain ⟨huid, hnamespace, hleft⟩ := (List.pairwise_append.mp hsteady).2.2 judgement.view
    (hlisted judgement hmem) view (List.mem_singleton_self view) subject hyields.1 hsubject
  have hlabels := ObjectView.labels_eq_of_subject? hyields.1 hsubject huid hnamespace
  obtain ⟨henabled, hcovers, -⟩ := CheckEngine.mem_faults.mp hcheck
  rw [ObjectView.group_of_subject? hyields.1, ObjectView.kind_of_subject? hyields.1,
    ← ObjectView.group_of_subject? hsubject, ← ObjectView.kind_of_subject? hsubject] at hcovers
  refine ⟨hlabels, Bool.eq_false_iff.mpr fun hnow => ?_, judgement, hmem, hnow, check,
    List.mem_filter.mpr ⟨henabled, hcovers⟩, by rw [hlabels]⟩
  exact CheckEngine.validate_of_isLeftToOwner judgement.engine (hleft hnow)
    (houtcome ▸ hyields.outcome_eq)

theorem Step.explained (hgrounded : m.Grounded base) (hstep : m.Step happening m')
    (hlisted : ∀ judgement ∈ m.world.judgements, judgement.view ∈ past)
    (hsteady : Steady (past ++ happening.view?.toList)) (hmirrored : m.Mirrored) {value : Int64}
    (hvalue : m'.world.engine.gauge.get? key = some value) :
    ∃ subject, m'.Explains subject key := by
  have hsubset := hstep.judgements_subset
  have hsettle := m.world.settle_loses
  have horderly := hgrounded.sound.settle.orderly
  cases hstep with
  | lost gone hgeneration hworld hentry hgone =>
      have hepoch := hworld.epoch_eq hvalue
      obtain ⟨-, subject, hexplains⟩ := (hmirrored key value).mp (hworld.shrinks key value hvalue)
      rcases hentry subject with hnone | hsame
      · obtain ⟨entry, judgement, hheld, -, -, -, hyields, check, -, rfl⟩ := hexplains
        have hmem := (hgone _).mpr ⟨subject, entry, hheld, hnone, hyields.labels_eq⟩
        rw [hworld.lost _ hmem] at hvalue
        cases hvalue
      · exact ⟨subject, hexplains.of_entryFor?_eq hsubset hepoch hsame⟩
  | @stored view _ judged outcome hsubject hdue hgeneration hvalidate hworld hentry =>
      have hnow : m'.world.epoch = m.world.settle.epoch := by rw [hworld]; rfl
      rw [hworld] at hvalue
      rcases CheckEngine.get?_validate_cases horderly hvalidate hvalue with
        ⟨rfl, check, hcheck, rfl⟩ | ⟨hsettled, hunreached⟩
      · refine ⟨judged, .ofView view .needsImprovement,
          ⟨m.world.settle.engine, view, m.world.settle.epoch⟩, ?_, rfl, ?_, hnow.symm,
          ⟨hsubject, _, hvalidate, rfl⟩, check, hcheck, rfl⟩
        · rw [hentry, if_pos rfl]
        · rw [hworld]
          exact Interleaved.mem_judgements_judge _ _
      · have hepoch := hsettle.epoch_eq hsettled
        obtain ⟨-, subject, hexplains⟩ :=
          (hmirrored key value).mp (hsettle.shrinks key value hsettled)
        by_cases hjudged : subject = judged
        · subst hjudged
          obtain ⟨hlabels, hleft, judgement, hmem, hjudgement, check, hcheck, hkey⟩ :=
            hexplains.reached hlisted hsubject hsteady
          rcases hunreached with hne | hnow | hne
          · exact absurd hlabels hne
          · exact absurd (hleft.symm.trans hnow) (by simp)
          · rw [CheckEngine.inScope, hgrounded.recorded.enabled judgement hmem hjudgement,
              ← hsettle.enabled hepoch] at hcheck
            exact absurd hkey (hne check hcheck)
        · refine ⟨subject, hexplains.of_entryFor?_eq hsubset (hnow.trans hepoch) ?_⟩
          rw [hentry, if_neg hjudged]
  | @failed view _ judged error hsubject hdue hgeneration hvalidate hworld hentry =>
      have hsettled := hworld.shrinks key value hvalue
      rw [Interleaved.judge, CheckEngine.validate_snd_of_error hvalidate] at hsettled
      have hnow : m'.world.epoch = m.world.settle.epoch := hworld.epoch_eq hvalue
      have hepoch := hsettle.epoch_eq hsettled
      obtain ⟨-, subject, hexplains⟩ :=
        (hmirrored key value).mp (hsettle.shrinks key value hsettled)
      by_cases hjudged : subject = judged
      · subst hjudged
        obtain ⟨hlabels, -⟩ := hexplains.reached hlisted hsubject hsteady
        rw [hworld.lost key hlabels] at hvalue
        cases hvalue
      · refine ⟨subject, hexplains.of_entryFor?_eq hsubset (hnow.trans hepoch) ?_⟩
        rw [hentry, if_neg hjudged]

theorem Explains.exists_listed (hexplains : m.Explains subject key)
    (hlisted : ∀ judgement ∈ m.world.judgements, judgement.view ∈ past) :
    ∃ view ∈ past, view.subject? = some subject ∧ view.labels = key.labels := by
  obtain ⟨entry, judgement, -, -, hmem, -, hyields, check, -, rfl⟩ := hexplains
  exact ⟨judgement.view, hlisted judgement hmem, hyields.1, rfl⟩

theorem Explains.labels_ne (hexplains : m.Explains subject key)
    (hlisted : ∀ judgement ∈ m.world.judgements, judgement.view ∈ past) {view : ObjectView}
    {judged : Subject} (hdistinct : Distinct (past ++ [view]))
    (hsubject : view.subject? = some judged) (hne : subject ≠ judged) :
    key.labels ≠ view.labels := by
  obtain ⟨own, hown, hownSubject, hlabels⟩ := hexplains.exists_listed hlisted
  intro hshared
  exact hne (hdistinct own (List.mem_append_left _ hown) view
    (List.mem_append_right _ (List.mem_singleton_self view)) subject judged hownSubject hsubject
    (hlabels.trans hshared))

/-- No other object has an entry with the labels of an explained series. -/
theorem Explains.eq_of_labels_eq (hexplains : m.Explains subject key)
    (hgrounded : m.Grounded base)
    (hlisted : ∀ judgement ∈ m.world.judgements, judgement.view ∈ past)
    (hdistinct : Distinct past) {other : Subject} {entry : CacheEntry}
    (hheld : m.caches.entryFor? other = some entry) (hlabels : other.labels entry = key.labels) :
    other = subject := by
  obtain ⟨judgement, hmem, -, hyields⟩ := hgrounded.grounded other entry hheld
  obtain ⟨own, hown, hsubject, hownLabels⟩ := hexplains.exists_listed hlisted
  refine hdistinct judgement.view (hlisted judgement hmem) own hown other subject hyields.1
    hsubject ?_
  exact (hyields.labels_eq.symm.trans hlabels).trans hownLabels.symm

theorem Step.published (hgrounded : m.Grounded base) (hstep : m.Step happening m')
    (hlisted : ∀ judgement ∈ m.world.judgements, judgement.view ∈ past)
    (hconsistent : Consistent (past ++ happening.view?.toList))
    (hdistinct : Distinct (past ++ happening.view?.toList)) (hmirrored : m.Mirrored)
    (hexplains : m'.Explains subject key) : m'.world.engine.gauge.get? key = some 1 := by
  have htaken := hstep
  have hrecorded := hstep.recorded hgrounded.sound hgrounded.recorded
  have hbefore := hexplains.before hgrounded.recorded hstep
  have hpublished : m.Explains subject key → m.world.engine.gauge.get? key = some 1 :=
    fun hexplains => (hmirrored key 1).mpr ⟨rfl, subject, hexplains⟩
  cases hstep with
  | lost gone hgeneration hworld hentry hgone =>
      rcases hentry subject with hnone | hsame
      · exact absurd hnone hexplains.entryFor?_ne_none
      · obtain ⟨hexplained, hepoch⟩ := hbefore hsame fun judgement hmem _ =>
          hworld.judgements ▸ hmem
        rw [hworld.kept hepoch key ?_]
        · exact hpublished hexplained
        · intro hmem
          obtain ⟨other, entry, hheld, hnone, hlabels⟩ := (hgone _).mp hmem
          have hother := hexplained.eq_of_labels_eq hgrounded hlisted
            (hdistinct.subset (List.subset_append_left _ _)) hheld hlabels
          exact hexplains.entryFor?_ne_none (hother ▸ hnone)
  | @stored view _ judged outcome hsubject hdue hgeneration hvalidate hworld hentry =>
      by_cases hjudged : subject = judged
      · subst hjudged
        have hheld : m'.caches.entryFor? subject = some (.ofView view outcome) := by
          rw [hentry, if_pos rfl]
        obtain ⟨entry, hsame, houtcome⟩ := hexplains.exists_entry
        obtain rfl : entry = .ofView view outcome := Option.some.inj (hsame.symm.trans hheld)
        obtain rfl : outcome = .needsImprovement := houtcome
        obtain ⟨check, hcheck, rfl⟩ := hexplains.exists_fault hrecorded hconsistent
          (htaken.judged_mem hlisted) (List.mem_append_right _ (List.mem_singleton_self view))
          hsubject hheld rfl
        rw [hworld, Interleaved.judge, CheckEngine.validate_enabled] at hcheck
        rw [hworld]
        exact CheckEngine.get?_validate_of_mem_faults hvalidate hcheck
      · obtain ⟨hexplained, hepoch⟩ := hexplains.before_of_ne hgrounded.recorded htaken hsubject
          hjudged (by rw [hentry, if_neg hjudged])
        rw [hworld] at hepoch ⊢
        have hne := hexplained.labels_ne hlisted hdistinct hsubject hjudged
        exact (Interleaved.get?_judge_of_ne hgrounded.sound hepoch hne).trans
          (hpublished hexplained)
  | @failed view _ judged error hsubject hdue hgeneration hvalidate hworld hentry =>
      by_cases hjudged : subject = judged
      · refine absurd ?_ hexplains.entryFor?_ne_none
        rw [hentry, if_pos hjudged]
      · obtain ⟨hexplained, hepoch⟩ := hexplains.before_of_ne hgrounded.recorded htaken hsubject
          hjudged (by rw [hentry, if_neg hjudged])
        have hsettled : m.world.settle.epoch = m.world.epoch :=
          Nat.le_antisymm (hepoch ▸ hworld.epoch) m.world.settle_loses.epoch
        have hne := hexplained.labels_ne hlisted hdistinct hsubject hjudged
        rw [hworld.kept (hepoch.trans hsettled.symm) key hne]
        exact (Interleaved.get?_judge_of_ne hgrounded.sound hsettled hne).trans
          (hpublished hexplained)

theorem Step.mirrored (hgrounded : m.Grounded base) (hstep : m.Step happening m')
    (hlisted : ∀ judgement ∈ m.world.judgements, judgement.view ∈ past)
    (hconsistent : Consistent (past ++ happening.view?.toList))
    (hsteady : Steady (past ++ happening.view?.toList))
    (hdistinct : Distinct (past ++ happening.view?.toList)) (hmirrored : m.Mirrored) :
    m'.Mirrored := by
  intro key value
  constructor
  · intro hvalue
    obtain ⟨hone, -⟩ := (hstep.sound hgrounded.sound).orderly key value hvalue
    exact ⟨hone, hstep.explained hgrounded hlisted hsteady hmirrored hvalue⟩
  · rintro ⟨rfl, subject, hexplains⟩
    exact hstep.published hgrounded hlisted hconsistent hdistinct hmirrored hexplains

/-- At moments with the same entries and checks, all outcomes being of the present epoch, an entry
explains the same series. -/
theorem Explains.transfer {n : Moment (Interleaved Outside)} {views : List ObjectView}
    (hexplains : m.Explains subject key) (hrecorded : m.world.Recorded)
    (hgrounded : n.Grounded n.world.epoch)
    (henabled : m.world.engine.enabled = n.world.engine.enabled)
    (hentry : m.caches.entryFor? subject = n.caches.entryFor? subject) (hconsistent : Consistent views)
    (hlisted : ∀ judgement ∈ m.world.judgements, judgement.view ∈ views)
    (hlisted' : ∀ judgement ∈ n.world.judgements, judgement.view ∈ views) :
    n.Explains subject key := by
  obtain ⟨entry, hheld, houtcome⟩ := hexplains.exists_entry
  rw [hentry] at hheld
  obtain ⟨judgement, hmem, hbase, hyields⟩ := hgrounded.grounded subject entry hheld
  have hnow : judgement.epoch = n.world.epoch :=
    Nat.le_antisymm (hgrounded.recorded.epoch_le judgement hmem) hbase
  obtain ⟨check, hcheck, hkey⟩ := hexplains.exists_fault hrecorded hconsistent hlisted
    (hlisted' judgement hmem) hyields.1 (hentry.trans hheld) hyields.resourceVersion_eq
  refine ⟨entry, judgement, hheld, houtcome, hmem, hnow, hyields, check, ?_, hkey⟩
  rwa [hgrounded.recorded.enabled judgement hmem hnow, ← henabled]

end Moment

theorem CheckGauge.eq_of_forall_get?_eq {gauge gauge' : CheckGauge}
    (hget : ∀ key, gauge.get? key = gauge'.get? key) : gauge = gauge' := by
  obtain ⟨series⟩ := gauge
  obtain ⟨series'⟩ := gauge'
  simp only [CheckGauge.mk.injEq]
  exact Std.ExtTreeMap.ext_getElem? hget

theorem Moment.Mirrored.gauge_eq {m n : Moment (Interleaved Outside)} (hmirrored : m.Mirrored)
    (hmirrored' : n.Mirrored)
    (hexplains : ∀ subject key, m.Explains subject key ↔ n.Explains subject key) :
    m.world.engine.gauge = n.world.engine.gauge := by
  refine CheckGauge.eq_of_forall_get?_eq fun key => Option.ext fun value => ?_
  simp only [hmirrored key value, hmirrored' key value, hexplains]

namespace Scanning

variable {cluster : Cluster Outside} {s : Scanning (Interleaved Outside)}

theorem Fresh.mirrored (hfresh : s.Fresh) (past : List (Happening Outside))
    (hconsistent : Consistent (listedViews past)) (hsteady : Steady (listedViews past))
    (hdistinct : Distinct (listedViews past)) : (s.moment.after cluster past).Mirrored := by
  induction past using List.reverseRecOn with
  | nil =>
      intro key value
      have hgauge : s.moment.world.engine.gauge = {} := hfresh.gauge
      have hjudgements : s.moment.world.judgements = [] := hfresh.judgements
      simp [Moment.Explains, hgauge, hjudgements]
  | append_singleton past happening ih =>
      have hviews : listedViews (past ++ [happening]) =
          listedViews past ++ happening.view?.toList := by
        rw [listedViews_append]
        cases hview : happening.view? <;> simp [listedViews, hview]
      rw [hviews] at hconsistent hsteady hdistinct
      obtain ⟨base, -, hgrounded⟩ := hfresh.grounded.after cluster past
      have hstep := Moment.meet_step cluster hgrounded.keyed hgrounded.sound happening
      have hsubset := List.subset_append_left (listedViews past) happening.view?.toList
      have hmirrored := ih (hconsistent.subset hsubset)
        (hsteady.sublist (List.sublist_append_left _ _)) (hdistinct.subset hsubset)
      rw [Moment.after_append_singleton]
      exact hstep.mirrored hgrounded (fun _ hmem => hfresh.view_mem_listedViews past hmem)
        hconsistent hsteady hdistinct hmirrored

end Scanning

end ComplianceScanner
