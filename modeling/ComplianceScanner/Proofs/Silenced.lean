import ComplianceScanner.Proofs.Tracked

/-!
# Alerts that are cached and not published

An object that counts as known is not published again, so its series have to stay where they are.
They do while the check selection does, except that labels do not name a group: two objects that are
served under two groups can share their labels, and what removes the series of the one removes those
of the other. Then an alert is *silenced*. `alertsOut_iff` says that no alert is lost in another way.
-/

namespace ComplianceScanner

variable {Outside : Type}

namespace CheckEngine

theorem isOut_iff {engine : CheckEngine} (horderly : engine.Orderly) {labels : ObjectLabels} :
    engine.IsOut labels ↔ ∃ check, engine.gauge.get? ⟨check, labels⟩ = some 1 := by
  constructor
  · rintro ⟨key, value, hvalue, rfl⟩
    obtain ⟨rfl, -⟩ := horderly key value hvalue
    exact ⟨key.check, hvalue⟩
  · rintro ⟨check, hvalue⟩
    exact ⟨_, 1, hvalue, rfl⟩

theorem isOut_validate_of_needsImprovement {engine : CheckEngine} {view : ObjectView}
    (houtcome : (engine.validate view).1 = .ok .needsImprovement) :
    (engine.validate view).2.IsOut view.labels := by
  obtain ⟨check, hcheck⟩ := exists_mem_faults houtcome
  exact ⟨_, 1, get?_validate_of_mem_faults houtcome hcheck, rfl⟩

end CheckEngine

namespace Interleaved

theorem isOut_judge_of_ne {w : Interleaved Outside} (hsound : w.Sound)
    (hepoch : w.settle.epoch = w.epoch) {view : ObjectView} {labels : ObjectLabels}
    (hlabels : labels ≠ view.labels) (hout : w.engine.IsOut labels) :
    (w.settle.judge view).engine.IsOut labels := by
  obtain ⟨key, value, hvalue, rfl⟩ := hout
  exact ⟨key, value, (get?_judge_of_ne hsound hepoch hlabels).trans hvalue, rfl⟩

theorem Loses.isOut_of_not_gone {gone : ObjectLabels → Prop}
    {w w' : Interleaved Outside} (hloses : Loses gone w w') (hepoch : w'.epoch = w.epoch)
    {labels : ObjectLabels} (hkept : ¬ gone labels) (hout : w.engine.IsOut labels) :
    w'.engine.IsOut labels := by
  obtain ⟨key, value, hvalue, rfl⟩ := hout
  exact ⟨key, value, (hloses.kept hepoch key hkept).trans hvalue, rfl⟩

end Interleaved

namespace Moment

/-- Every entry that calls for improvement has a series. -/
def AlertsOut (m : Moment (Interleaved Outside)) : Prop :=
  ∀ identity entry, m.caches.Holds identity entry → entry.outcome = .needsImprovement →
    ∃ check, m.world.engine.gauge.get? ⟨check, ObjectLabels.ofEntry identity entry⟩ = some 1

/-- The outcomes in the caches are of the engine's generation. -/
def Quiet (m : Moment (Interleaved Outside)) : Prop :=
  m.generation = m.world.engine.generation

/-- The subject has an entry that calls for improvement, with these labels. -/
def HasAlert (m : Moment (Interleaved Outside)) (subject : Subject) (labels : ObjectLabels) :
    Prop :=
  ∃ entry, m.caches.entryFor? subject = some entry ∧ entry.outcome = .needsImprovement ∧
    subject.labels entry = labels

variable {m m' : Moment (Interleaved Outside)} {base : Nat} {happening : Happening Outside}

/-- A quiet moment that began with the outcomes of the moment before comes without a reload after a
quiet one. -/
theorem Step.quiet (hgrounded : m.Grounded base) (hstep : m.Step happening m')
    (hepoch : m'.world.epoch < UInt64.size) (hquiet : m'.Quiet)
    (hgeneration : m'.generation = m.generation) :
    m.Quiet ∧ m'.world.epoch = m.world.epoch := by
  have hle := hstep.epoch_le
  have hbase := hgrounded.base_le
  have hsound := hstep.sound hgrounded.sound
  have hnow : m.generation = .ofNat m'.world.epoch :=
    hgeneration.symm.trans (hquiet.trans hsound.generation)
  have heq := hgrounded.base_eq_of_generation_eq (by omega) hepoch hnow
  have hsame : m'.world.epoch = m.world.epoch := by omega
  refine ⟨?_, hsame⟩
  rw [Quiet, hgrounded.sound.generation, ← hsame]
  exact hnow

/-- An alert that is cached and not out after a step was so before, or another subject with its
labels was taken up or has lost its entry. -/
theorem Step.silent_cases (hgrounded : m.Grounded base) (hstep : m.Step happening m')
    (hepoch : m'.world.epoch < UInt64.size) (hquiet : m'.Quiet) {subject : Subject}
    {labels : ObjectLabels} (halert : m'.HasAlert subject labels)
    (hsilent : ¬ m'.world.engine.IsOut labels) :
    m.Quiet ∧ m.HasAlert subject labels ∧ (¬ m.world.engine.IsOut labels ∨
      ∃ other, other ≠ subject ∧
        ((∃ view, happening = .deed (.take view) ∧ view.subject? = some other ∧
          view.labels = labels) ∨
        (∃ entry, m.caches.entryFor? other = some entry ∧ m'.caches.entryFor? other = none ∧
          other.labels entry = labels))) := by
  obtain ⟨entry, hentry, houtcome, hlabels⟩ := halert
  have hquietOf := hstep.quiet hgrounded hepoch hquiet
  cases hstep with
  | lost gone hgeneration hworld hsame hgone =>
      have hkept : m.caches.entryFor? subject = some entry := by
        rcases hsame subject with hnone | hsame
        · exact absurd (hnone.symm.trans hentry) (by simp)
        · exact hsame.symm.trans hentry
      rcases hgeneration with hgeneration | ⟨-, hnone⟩
      · obtain ⟨hbefore, hnow⟩ := hquietOf hgeneration
        refine ⟨hbefore, ⟨entry, hkept, houtcome, hlabels⟩, or_iff_not_imp_left.mpr fun hout => ?_⟩
        have hmem : labels ∈ gone := by
          by_contra hmem
          exact hsilent (hworld.isOut_of_not_gone hnow hmem (not_not.mp hout))
        obtain ⟨other, lost, hheld, hnone, hlost⟩ := (hgone labels).mp hmem
        refine ⟨other, ?_, .inr ⟨lost, hheld, hnone, hlost⟩⟩
        rintro rfl
        exact absurd (hnone.symm.trans hentry) (by simp)
      · exact absurd ((hnone subject).symm.trans hentry) (by simp)
  | @stored view _ judged outcome hsubject hdue hgeneration hvalidate hworld hsame =>
      obtain ⟨hbefore, hnow⟩ := hquietOf hgeneration
      rw [hworld] at hnow hsilent
      rw [hsame] at hentry
      by_cases hjudged : subject = judged
      · subst hjudged
        rw [if_pos rfl, Option.some.injEq] at hentry
        subst hentry
        have hview : labels = view.labels :=
          hlabels.symm.trans (ObjectView.labels_of_subject? outcome hsubject)
        have himprove : outcome = .needsImprovement := houtcome
        subst himprove
        have hpublished := CheckEngine.isOut_validate_of_needsImprovement hvalidate
        exact absurd (hview ▸ hpublished) hsilent
      · rw [if_neg hjudged] at hentry
        refine ⟨hbefore, ⟨entry, hentry, houtcome, hlabels⟩, or_iff_not_imp_left.mpr fun hout => ?_⟩
        refine ⟨judged, Ne.symm hjudged, .inl ⟨view, rfl, hsubject, ?_⟩⟩
        by_contra hview
        exact hsilent (Interleaved.isOut_judge_of_ne hgrounded.sound hnow (Ne.symm hview)
          (not_not.mp hout))
  | @failed view _ judged error hsubject hdue hgeneration hvalidate hworld hsame =>
      obtain ⟨hbefore, hnow⟩ := hquietOf hgeneration
      have hsettled : m.world.settle.epoch = m.world.epoch :=
        Nat.le_antisymm (hnow ▸ hworld.epoch) m.world.settle_loses.epoch
      rw [hsame] at hentry
      by_cases hjudged : subject = judged
      · rw [if_pos hjudged] at hentry
        cases hentry
      · rw [if_neg hjudged] at hentry
        refine ⟨hbefore, ⟨entry, hentry, houtcome, hlabels⟩, or_iff_not_imp_left.mpr fun hout => ?_⟩
        refine ⟨judged, Ne.symm hjudged, .inl ⟨view, rfl, hsubject, ?_⟩⟩
        by_contra hview
        have hjudge := Interleaved.isOut_judge_of_ne hgrounded.sound hsettled (Ne.symm hview)
          (not_not.mp hout)
        exact hsilent (hworld.isOut_of_not_gone (hnow.trans hsettled.symm) (Ne.symm hview) hjudge)

theorem alertsOut_iff_forall_hasAlert (hgrounded : m.Grounded base) :
    m.AlertsOut ↔
      ∀ subject labels, m.HasAlert subject labels → m.world.engine.IsOut labels := by
  have horderly := hgrounded.sound.orderly
  constructor
  · rintro hout subject _ ⟨entry, hentry, houtcome, rfl⟩
    obtain ⟨version, hholds⟩ := CacheSet.holds_of_entryFor? hentry
    exact (CheckEngine.isOut_iff horderly).mpr (hout _ entry hholds houtcome)
  · intro hout identity entry hholds houtcome
    exact (CheckEngine.isOut_iff horderly).mp
      (hout identity.subject _ ⟨entry, hholds.entryFor? hgrounded.keyed, houtcome, rfl⟩)

variable (cluster : Cluster Outside)

/-- An alert of the subject stays cached while its series may go, since another subject with the same
labels is taken up or loses its entry. -/
def Silences (m : Moment (Interleaved Outside)) (happening : Happening Outside)
    (subject : Subject) (labels : ObjectLabels) : Prop :=
  m.HasAlert subject labels ∧ (m.meet cluster happening).HasAlert subject labels ∧
    ∃ other, other ≠ subject ∧
      ((∃ view, happening = .deed (.take view) ∧ view.subject? = some other ∧
        view.labels = labels) ∨
      (∃ entry, m.caches.entryFor? other = some entry ∧
        (m.meet cluster happening).caches.entryFor? other = none ∧ other.labels entry = labels))

end Moment

namespace Scanning

variable {cluster : Cluster Outside} {s : Scanning (Interleaved Outside)}

theorem Lived.quiet_attempt (hlived : s.Lived cluster) {steps : Nat} {due : List Gap}
    (hepoch : (s.attempt cluster steps due).2.world.epoch < UInt64.size)
    (hsame : (s.attempt cluster steps due).2.world.epoch = s.world.epoch) :
    (s.attempt cluster steps due).2.moment.Quiet := by
  have hgrounded := hlived.grounded_attempt hepoch
  have hepochs : s.world.epoch = (s.attempt cluster steps due).2.moment.world.epoch := hsame.symm
  rw [Moment.Quiet, hgrounded.generation, hgrounded.sound.generation, hepochs]

/-- An alert that is cached and not out at a quiet moment has been silenced at an earlier one. -/
theorem Fresh.exists_silences (hfresh : s.Fresh) {happenings past : List (Happening Outside)}
    (hpast : past <+: happenings) (hepoch : (s.moment.after cluster past).world.epoch < UInt64.size)
    (hquiet : (s.moment.after cluster past).Quiet) {subject : Subject} {labels : ObjectLabels}
    (halert : (s.moment.after cluster past).HasAlert subject labels)
    (hsilent : ¬ (s.moment.after cluster past).world.engine.IsOut labels) :
    ∃ before happening, before ++ [happening] <+: happenings ∧
      (s.moment.after cluster before).Silences cluster happening subject labels := by
  induction past using List.reverseRecOn with
  | nil =>
      obtain ⟨entry, hentry, -⟩ := halert
      obtain ⟨judgement, hmem, -⟩ := hfresh.grounded.grounded subject entry hentry
      have hjudgements : s.moment.world.judgements = [] := hfresh.judgements
      rw [hjudgements] at hmem
      simp at hmem
  | append_singleton past happening ih =>
      obtain ⟨base, -, hgrounded⟩ := hfresh.grounded.after cluster past
      have hstep := Moment.meet_step cluster hgrounded.keyed hgrounded.sound happening
      rw [Moment.after_append_singleton] at hepoch hquiet halert hsilent
      obtain ⟨hbefore, hheld, hsilent | hother⟩ :=
        hstep.silent_cases hgrounded hepoch hquiet halert hsilent
      · exact ih ((List.prefix_append past _).trans hpast)
          (Nat.lt_of_le_of_lt hstep.epoch_le hepoch) hbefore hheld hsilent
      · exact ⟨past, happening, hpast, hheld, halert, hother⟩

theorem Distinct.not_silences (hfresh : s.Fresh) {past : List (Happening Outside)}
    {happening : Happening Outside} (hdistinct : Distinct (listedViews (past ++ [happening])))
    {subject : Subject} {labels : ObjectLabels} :
    ¬ (s.moment.after cluster past).Silences cluster happening subject labels := by
  obtain ⟨base, -, hgrounded⟩ := hfresh.grounded.after cluster past
  have hsource : ∀ subject entry,
      (s.moment.after cluster past).caches.entryFor? subject = some entry →
      ∃ view ∈ listedViews (past ++ [happening]), view.subject? = some subject ∧
        view.labels = subject.labels entry := by
    intro subject entry hentry
    obtain ⟨judgement, hmem, -, hyields⟩ := hgrounded.grounded subject entry hentry
    refine ⟨judgement.view, ?_, hyields.1, hyields.labels_eq.symm⟩
    rw [listedViews_append]
    exact List.mem_append_left _ (hfresh.view_mem_listedViews past hmem)
  rintro ⟨⟨entry, hentry, -, rfl⟩, -, other, hne, hother⟩
  obtain ⟨own, hown, hsubject, hlabels⟩ := hsource subject entry hentry
  rcases hother with ⟨view, rfl, hview, hshared⟩ | ⟨gone, hgone, -, hshared⟩
  · have hlisted : view ∈ listedViews (past ++ [.deed (.take view)]) := by
      rw [listedViews_append]
      exact List.mem_append_right _ (List.mem_singleton_self view)
    exact hne (hdistinct view hlisted own hown other subject hview hsubject
      (hshared.trans hlabels.symm))
  · obtain ⟨lost, hlost, hlostSubject, hlostLabels⟩ := hsource other gone hgone
    exact hne (hdistinct lost hlost own hown other subject hlostSubject hsubject
      ((hlostLabels.trans hshared).trans hlabels.symm))

/-- After an attempt during which no reload takes effect, all cached alerts are out exactly when each
silenced one that is still cached is out anew; and none is silenced where no two objects share their
labels. -/
theorem alertsOut_iff (hfresh : s.Fresh) (events : List (Event Outside)) (steps : Nat)
    (due : List Gap)
    (hepoch : ((s.live cluster events).attempt cluster steps due).2.world.epoch < UInt64.size)
    (hsame : ((s.live cluster events).attempt cluster steps due).2.world.epoch =
      (s.live cluster events).world.epoch) :
    let last := ((s.live cluster events).attempt cluster steps due).2
    let happenings := s.happenings cluster (events ++ [.attempt steps due])
    (last.moment.AlertsOut ↔
      ∀ past happening subject labels, past ++ [happening] <+: happenings →
        (s.moment.after cluster past).Silences cluster happening subject labels →
        last.moment.HasAlert subject labels → last.world.engine.IsOut labels) ∧
      (Distinct (listedViews happenings) → last.moment.AlertsOut) := by
  intro last happenings
  have hlived : (s.live cluster events).Lived cluster := ⟨s, hfresh, events, rfl⟩
  have hgrounded := hlived.grounded_attempt hepoch
  have hlast : last.moment = s.moment.after cluster happenings := by
    have hlive := live_moment cluster s (events ++ [.attempt steps due])
    rwa [live_append] at hlive
  have hquiet : last.moment.Quiet := hlived.quiet_attempt hepoch hsame
  have hsilenced : ∀ subject labels, last.moment.HasAlert subject labels →
      ¬ last.world.engine.IsOut labels → ∃ past happening, past ++ [happening] <+: happenings ∧
        (s.moment.after cluster past).Silences cluster happening subject labels := by
    intro subject labels halert hsilent
    have hepoch : last.moment.world.epoch < UInt64.size := hepoch
    have hsilent : ¬ last.moment.world.engine.IsOut labels := hsilent
    rw [hlast] at hepoch hquiet halert hsilent
    exact hfresh.exists_silences (List.prefix_refl _) hepoch hquiet halert hsilent
  rw [Moment.alertsOut_iff_forall_hasAlert hgrounded]
  constructor
  · constructor
    · intro hout past happening subject labels _ _ halert
      exact hout subject labels halert
    · intro hgood subject labels halert
      by_contra hsilent
      obtain ⟨past, happening, hpast, hsilences⟩ := hsilenced subject labels halert hsilent
      exact hsilent (hgood past happening subject labels hpast hsilences halert)
  · intro hdistinct subject labels halert
    by_contra hsilent
    obtain ⟨past, happening, hpast, hsilences⟩ := hsilenced subject labels halert hsilent
    refine Distinct.not_silences hfresh ?_ hsilences
    intro view hview view' hview'
    have hsub : listedViews (past ++ [happening]) ⊆ listedViews happenings :=
      (hpast.filterMap Happening.view?).subset
    exact hdistinct view (hsub hview) view' (hsub hview')

end Scanning

namespace Sample

/-- A workload that was served under one group is served under another. -/
def migration : List (Event ScriptedCluster) :=
  [.attempt 2 [], .turn (serving ["apps"] [web "uid-1" "1"])]

theorem alertsOut_iff_migration :
    let s := scanning (serving ["extensions"] [web "uid-1" "1"])
    let last := ((s.live ScriptedCluster.asCluster migration).attempt
      ScriptedCluster.asCluster 2 []).2
    let happenings := s.happenings ScriptedCluster.asCluster (migration ++ [.attempt 2 []])
    let subject : Subject := ⟨"apps", "Deployment", "default", "web"⟩
    let labels : ObjectLabels := ⟨"ns-1", "default", "uid-1", "web", "Deployment"⟩
    s.Fresh ∧ ((s.live ScriptedCluster.asCluster migration).attempt
        ScriptedCluster.asCluster 2 []).1.isOk = true ∧
      last.moment.HasAlert subject labels ∧ ¬ last.world.engine.IsOut labels ∧
      ∃ past happening subject labels, past ++ [happening] <+: happenings ∧
        (s.moment.after ScriptedCluster.asCluster past).Silences ScriptedCluster.asCluster
          happening subject labels := by
  intro s last happenings subject labels
  have hfresh : s.Fresh := fresh_scanning _
  have hepoch : last.world.epoch < UInt64.size := by decide +kernel
  have hsame : last.world.epoch =
      (s.live ScriptedCluster.asCluster migration).world.epoch := by
    decide +kernel
  have hentry : last.moment.caches.entryFor? subject =
      some ⟨"1", "uid-1", "ns-1", .needsImprovement⟩ := by
    decide +kernel
  have halert : last.moment.HasAlert subject labels := ⟨_, hentry, rfl, rfl⟩
  have hsilent : ¬ last.world.engine.IsOut labels := by decide +kernel
  refine ⟨hfresh, by decide +kernel, halert, hsilent, ?_⟩
  have hiff := (Scanning.alertsOut_iff hfresh migration 2 [] hepoch hsame).1
  by_contra hnone
  have hout : last.moment.AlertsOut := by
    refine hiff.mpr fun past happening subject labels hpast hsilences => ?_
    exact absurd ⟨past, happening, subject, labels, hpast, hsilences⟩ hnone
  obtain ⟨base, hgrounded⟩ := (lived_live _ (migration ++ [.attempt 2 []])).grounded
  exact hsilent ((Moment.alertsOut_iff_forall_hasAlert hgrounded).mp hout subject labels halert)

end Sample

end ComplianceScanner
