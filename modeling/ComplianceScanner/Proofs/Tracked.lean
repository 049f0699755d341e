import ComplianceScanner.Proofs.Attempts
import ComplianceScanner.Proofs.Listed

/-!
# Alerts and the entries that remember them

A published series is *tracked* while an entry with the outcome `needsImprovement` has its labels,
since its labels can then still be named when the object is gone. An entry that goes takes its
series along, with one exception: the entry of an object that is taken up again with another
resource version is thrown out, and what is removed then are the series of the object as it is now.
So a series is *abandoned* when the object has another uid by now, in an object of the same name that
was created anew, or when it has come to be judged through an owner. This is the only way, and
`alertsTracked_iff` says so.
-/

namespace ComplianceScanner

variable {Outside : Type}

/-- A series with these labels is published. -/
def CheckEngine.IsOut (engine : CheckEngine) (labels : ObjectLabels) : Prop :=
  ∃ key value, engine.gauge.get? key = some value ∧ key.labels = labels

/-- An entry that calls for improvement has these labels. -/
def CacheSet.Tracks (set : CacheSet) (labels : ObjectLabels) : Prop :=
  ∃ identity entry, set.Holds identity entry ∧ entry.outcome = .needsImprovement ∧
    ObjectLabels.ofEntry identity entry = labels

instance (engine : CheckEngine) (labels : ObjectLabels) : Decidable (engine.IsOut labels) :=
  decidable_of_iff (∃ item ∈ engine.gauge.toList, item.1.labels = labels) (by
    simp only [CheckEngine.IsOut, CheckGauge.toList, CheckGauge.get?, Prod.exists,
      Std.ExtTreeMap.mem_toList_iff_getElem?_eq_some, exists_and_right])

instance (set : CacheSet) (labels : ObjectLabels) : Decidable (set.Tracks labels) :=
  decidable_of_iff (∃ kind ∈ set.toList, ∃ item ∈ kind.2.toList,
    item.2.outcome = .needsImprovement ∧ ObjectLabels.ofEntry item.1 item.2 = labels) (by
    simp only [CacheSet.Tracks, CacheSet.Holds, Prod.exists, CacheSet.mem_toList, Cache.mem_toList]
    constructor
    · rintro ⟨key, cache, hcache, identity, entry, hentry, houtcome, hlabels⟩
      exact ⟨identity, entry, ⟨key, cache, hcache, hentry⟩, houtcome, hlabels⟩
    · rintro ⟨identity, entry, ⟨key, cache, hcache, hentry⟩, houtcome, hlabels⟩
      exact ⟨key, cache, hcache, identity, entry, hentry, houtcome, hlabels⟩)

namespace CheckEngine

/-- A series that is out after a judgement is that of the judged object, which calls for improvement;
or it was out before and the judgement did not reach it. -/
theorem isOut_validate {engine : CheckEngine} (horderly : engine.Orderly) {view : ObjectView}
    {outcome : Outcome} (houtcome : (engine.validate view).1 = .ok outcome)
    {labels : ObjectLabels} (hout : (engine.validate view).2.IsOut labels) :
    (outcome = .needsImprovement ∧ labels = view.labels) ∨
      engine.IsOut labels ∧ (labels ≠ view.labels ∨ view.isLeftToOwner = true ∨
        ∀ check : Check, check.scope.covers view.group view.kind = false) := by
  obtain ⟨key, value, hvalue, rfl⟩ := hout
  rcases get?_validate_cases horderly houtcome hvalue with
    ⟨himprove, check, -, rfl⟩ | ⟨hbefore, hlabels | hleft | hne⟩
  · exact .inl ⟨himprove, rfl⟩
  · exact .inr ⟨⟨key, value, hbefore, rfl⟩, .inl hlabels⟩
  · exact .inr ⟨⟨key, value, hbefore, rfl⟩, .inr (.inl hleft)⟩
  · refine .inr ⟨⟨key, value, hbefore, rfl⟩, or_iff_not_imp_left.mpr fun hlabels => .inr ?_⟩
    -- Were any check to apply, so would that of the series, and it would be in scope.
    intro other
    refine Bool.eq_false_iff.mpr fun hother => ?_
    obtain ⟨-, check, hcheck, hname, group, hcovers⟩ := horderly key value hbefore
    rw [not_not.mp hlabels] at hcovers
    have hscope := CheckScope.covers_of_covers hcovers hother
    refine hne check (List.mem_filter.mpr ⟨hcheck, hscope⟩) ?_
    rw [hname, ← not_not.mp hlabels]

end CheckEngine

theorem Interleaved.Loses.isOut {gone : ObjectLabels → Prop} {w w' : Interleaved Outside}
    (hloses : Loses gone w w') {labels : ObjectLabels} (hout : w'.engine.IsOut labels) :
    w.engine.IsOut labels ∧ ¬ gone labels := by
  obtain ⟨key, value, hvalue, rfl⟩ := hout
  refine ⟨⟨key, value, hloses.shrinks key value hvalue, rfl⟩, fun hgone => ?_⟩
  rw [hloses.lost key hgone] at hvalue
  cases hvalue

namespace Moment

/-- Every published series is tracked. -/
def AlertsTracked (m : Moment (Interleaved Outside)) : Prop :=
  ∀ labels, m.world.engine.IsOut labels → m.caches.Tracks labels

/-- Taking up this object throws out the entry with these labels, and removes no series of them: they
are those of an earlier object of the name, or the object is now left to its owner. -/
def Abandons (m : Moment (Interleaved Outside)) (view : ObjectView) (labels : ObjectLabels) :
    Prop :=
  ∃ subject entry, view.subject? = some subject ∧ m.caches.entryFor? subject = some entry ∧
    entry.outcome = .needsImprovement ∧ entry.resourceVersion ≠ view.resourceVersion ∧
    subject.labels entry = labels ∧ (labels ≠ view.labels ∨ view.isLeftToOwner = true)

variable {m m' : Moment (Interleaved Outside)} {base : Nat} {happening : Happening Outside}

theorem tracks_iff (hkeyed : m.caches.Keyed) {labels : ObjectLabels} :
    m.caches.Tracks labels ↔ ∃ subject entry, m.caches.entryFor? subject = some entry ∧
      entry.outcome = .needsImprovement ∧ subject.labels entry = labels := by
  constructor
  · rintro ⟨identity, entry, hholds, houtcome, hlabels⟩
    exact ⟨identity.subject, entry, hholds.entryFor? hkeyed, houtcome, hlabels⟩
  · rintro ⟨subject, entry, hentry, houtcome, hlabels⟩
    obtain ⟨version, hholds⟩ := CacheSet.holds_of_entryFor? hentry
    exact ⟨subject.identity version, entry, hholds, houtcome, hlabels⟩

/-- What becomes of the labels of a series that is out after a step: they are tracked, or they were
out before, and then the only entry with them that can have gone is a stale one of the object taken
up. -/
theorem Step.isOut_cases (hgrounded : m.Grounded base) (hstep : m.Step happening m')
    {labels : ObjectLabels} (hout : m'.world.engine.IsOut labels) :
    (∃ subject entry, m'.caches.entryFor? subject = some entry ∧
      entry.outcome = .needsImprovement ∧ subject.labels entry = labels) ∨
      m.world.engine.IsOut labels ∧ ∀ subject entry, m.caches.entryFor? subject = some entry →
        entry.outcome = .needsImprovement → subject.labels entry = labels →
        m'.caches.entryFor? subject = some entry ∨
          ∃ view, happening = .deed (.take view) ∧ view.subject? = some subject ∧
            entry.resourceVersion ≠ view.resourceVersion ∧
            (labels ≠ view.labels ∨ view.isLeftToOwner = true) := by
  have horderly := hgrounded.sound.settle.orderly
  cases hstep with
  | lost gone hgeneration hworld hentry hgone =>
      obtain ⟨hbefore, hkept⟩ := hworld.isOut hout
      refine .inr ⟨hbefore, fun subject entry hheld _ hlabels => .inl ?_⟩
      rcases hentry subject with hnone | hsame
      · exact absurd ((hgone labels).mpr ⟨subject, entry, hheld, hnone, hlabels⟩) hkept
      · exact hsame.trans hheld
  | @stored view _ subject outcome hsubject hdue hgeneration hvalidate hworld hentry =>
      rw [hworld] at hout
      rcases CheckEngine.isOut_validate horderly hvalidate hout with
        ⟨rfl, rfl⟩ | ⟨hsettled, hreached⟩
      · refine .inl ⟨subject, .ofView view .needsImprovement, ?_, rfl, ?_⟩
        · rw [hentry, if_pos rfl]
        · exact ObjectView.labels_of_subject? _ hsubject
      · refine .inr ⟨(m.world.settle_loses.isOut hsettled).1, ?_⟩
        intro other entry hheld houtcome hlabels
        by_cases hother : other = subject
        · subst hother
          refine .inr ⟨view, rfl, hsubject, hdue entry hheld, ?_⟩
          rcases hreached with hlabels | hleft | hscope
          · exact .inl hlabels
          · exact .inr hleft
          · -- The stale entry called for improvement, so some check does apply to the kind.
            obtain ⟨judgement, -, -, hyields⟩ := hgrounded.grounded other entry hheld
            obtain ⟨check, hcheck⟩ :=
              CheckEngine.exists_mem_faults (houtcome ▸ hyields.outcome_eq)
            have hcovers := (CheckEngine.mem_faults.mp hcheck).2.1
            rw [ObjectView.group_of_subject? hyields.1, ObjectView.kind_of_subject? hyields.1,
              ← ObjectView.group_of_subject? hsubject, ← ObjectView.kind_of_subject? hsubject,
              hscope check] at hcovers
            exact absurd hcovers (by simp)
        · refine .inl ?_
          rw [hentry, if_neg hother]
          exact hheld
  | @failed view _ subject error hsubject hdue hgeneration hvalidate hworld hentry =>
      obtain ⟨hjudged, hlabels⟩ := hworld.isOut hout
      have hsettled : m.world.settle.engine.IsOut labels := by
        rw [Interleaved.judge, CheckEngine.validate_snd_of_error hvalidate] at hjudged
        exact hjudged
      refine .inr ⟨(m.world.settle_loses.isOut hsettled).1, ?_⟩
      intro other entry hheld houtcome _
      by_cases hother : other = subject
      · subst hother
        exact .inr ⟨view, rfl, hsubject, hdue entry hheld, .inl hlabels⟩
      · refine .inl ?_
        rw [hentry, if_neg hother]
        exact hheld

variable (cluster : Cluster Outside)

/-- Labels that are out and not tracked were so before, or they have just been abandoned. -/
theorem untracked_cases (hgrounded : m.Grounded base) {labels : ObjectLabels}
    (hout : (m.meet cluster happening).world.engine.IsOut labels)
    (huntracked : ¬ (m.meet cluster happening).caches.Tracks labels) :
    m.world.engine.IsOut labels ∧ (¬ m.caches.Tracks labels ∨
      ∃ view, happening = .deed (.take view) ∧ m.Abandons view labels) := by
  have hstep := meet_step cluster hgrounded.keyed hgrounded.sound happening
  have hkeyed := meet_keyed cluster hgrounded.keyed happening
  rcases hstep.isOut_cases hgrounded hout with hfound | ⟨hbefore, hentries⟩
  · exact absurd ((tracks_iff hkeyed).mpr hfound) huntracked
  · refine ⟨hbefore, or_iff_not_imp_left.mpr fun htracks => ?_⟩
    obtain ⟨subject, entry, hheld, houtcome, hlabels⟩ :=
      (tracks_iff hgrounded.keyed).mp (not_not.mp htracks)
    rcases hentries subject entry hheld houtcome hlabels with
      hkept | ⟨view, htake, hsubject, hversion, hother⟩
    · exact absurd ((tracks_iff hkeyed).mpr ⟨subject, entry, hkept, houtcome, hlabels⟩) huntracked
    · exact ⟨view, htake, subject, entry, hsubject, hheld, houtcome, hversion, hlabels, hother⟩

end Moment

namespace Scanning

variable {cluster : Cluster Outside} {s : Scanning (Interleaved Outside)}

/-- Labels that are out and not tracked have been abandoned at some moment. -/
theorem Fresh.exists_abandons (hfresh : s.Fresh) {happenings past : List (Happening Outside)}
    (hpast : past <+: happenings) {labels : ObjectLabels}
    (hout : (s.moment.after cluster past).world.engine.IsOut labels)
    (huntracked : ¬ (s.moment.after cluster past).caches.Tracks labels) :
    ∃ before view, before ++ [.deed (.take view)] <+: happenings ∧
      (s.moment.after cluster before).Abandons view labels := by
  induction past using List.reverseRecOn with
  | nil =>
      obtain ⟨key, value, hvalue, -⟩ := hout
      have hgauge : s.moment.world.engine.gauge = {} := hfresh.gauge
      rw [Moment.after_nil, hgauge] at hvalue
      simp at hvalue
  | append_singleton past happening ih =>
      obtain ⟨base, -, hgrounded⟩ := hfresh.grounded.after cluster past
      rw [Moment.after_append_singleton] at hout huntracked
      obtain ⟨hbefore, huntracked | ⟨view, rfl, habandons⟩⟩ :=
        Moment.untracked_cases cluster hgrounded hout huntracked
      · exact ih ((List.prefix_append past _).trans hpast) hbefore huntracked
      · exact ⟨past, view, hpast, habandons⟩

theorem Fresh.exists_abandons_live (hfresh : s.Fresh) (events : List (Event Outside))
    {labels : ObjectLabels} (hout : (s.live cluster events).world.engine.IsOut labels)
    (huntracked : ¬ (s.live cluster events).scheduler.caches.Tracks labels) :
    ∃ past view, past ++ [.deed (.take view)] <+: s.happenings cluster events ∧
      (s.moment.after cluster past).Abandons view labels := by
  have hlive := live_moment cluster s events
  have hlast : (s.moment.after cluster (s.happenings cluster events)).world.engine.IsOut labels :=
    hlive ▸ hout
  exact hfresh.exists_abandons (List.prefix_refl _) hlast (hlive ▸ huntracked)

theorem Steady.not_abandons (hfresh : s.Fresh) {past : List (Happening Outside)}
    {view : ObjectView} (hsteady : Steady (listedViews past ++ [view])) {labels : ObjectLabels} :
    ¬ (s.moment.after cluster past).Abandons view labels := by
  rintro ⟨subject, entry, hsubject, hheld, houtcome, -, rfl, hother⟩
  obtain ⟨base, -, hgrounded⟩ := hfresh.grounded.after cluster past
  obtain ⟨judgement, hmem, -, hyields⟩ := hgrounded.grounded subject entry hheld
  have hlisted := hfresh.view_mem_listedViews past hmem
  obtain ⟨huid, hnamespace, hleft⟩ := (List.pairwise_append.mp hsteady).2.2 judgement.view hlisted
    view (List.mem_singleton_self view) subject hyields.1 hsubject
  rcases hother with hlabels | hnow
  · refine hlabels ?_
    rw [hyields.labels_eq]
    exact ObjectView.labels_eq_of_subject? hyields.1 hsubject huid hnamespace
  · -- An object left to its owner does not call for improvement.
    exact CheckEngine.validate_of_isLeftToOwner judgement.engine (hleft hnow)
      (houtcome ▸ hyields.outcome_eq)

/-- The series that are left without an entry are those that were abandoned. So all alerts are
tracked exactly when each abandoned one is gone or tracked anew; and nothing is abandoned where
objects of one name keep their uids and none comes to be left to its owner. -/
theorem alertsTracked_iff (hfresh : s.Fresh) (events : List (Event Outside)) :
    ((s.live cluster events).moment.AlertsTracked ↔
      ∀ past view labels, past ++ [.deed (.take view)] <+: s.happenings cluster events →
        (s.moment.after cluster past).Abandons view labels →
        (s.live cluster events).world.engine.IsOut labels →
        (s.live cluster events).scheduler.caches.Tracks labels) ∧
      (Steady (listedViews (s.happenings cluster events)) →
        (s.live cluster events).moment.AlertsTracked) := by
  constructor
  · constructor
    · intro htracked past view labels _ _ hout
      exact htracked labels hout
    · intro hgood labels hout
      by_contra huntracked
      obtain ⟨past, view, hpast, habandons⟩ := hfresh.exists_abandons_live events hout huntracked
      exact huntracked (hgood past view labels hpast habandons hout)
  · intro hsteady labels hout
    by_contra huntracked
    obtain ⟨past, view, hpast, habandons⟩ := hfresh.exists_abandons_live events hout huntracked
    refine Steady.not_abandons hfresh ?_ habandons
    have hlisted : listedViews past ++ [view] <+: listedViews (s.happenings cluster events) := by
      have hmap := hpast.filterMap Happening.view?
      rwa [List.filterMap_append] at hmap
    exact hsteady.sublist hlisted.sublist

end Scanning

namespace Sample

/-- Between two cycles the workload is deleted and created anew. -/
def recreation : List (Event ScriptedCluster) :=
  [.attempt 2 [], .turn (serving ["apps"] [web "uid-2" "2"]), .attempt 2 []]

theorem alertsTracked_iff_recreation :
    let s := scanning (serving ["apps"] [web "uid-1" "1"])
    let labels : ObjectLabels := ⟨"ns-1", "default", "uid-1", "web", "Deployment"⟩
    s.Fresh ∧ (s.live ScriptedCluster.asCluster recreation).world.engine.IsOut labels ∧
      ¬ (s.live ScriptedCluster.asCluster recreation).scheduler.caches.Tracks labels ∧
      ∃ past view labels,
        past ++ [.deed (.take view)] <+: s.happenings ScriptedCluster.asCluster recreation ∧
        (s.moment.after ScriptedCluster.asCluster past).Abandons view labels := by
  intro s labels
  have hfresh : s.Fresh := fresh_scanning _
  have hout : (s.live ScriptedCluster.asCluster recreation).world.engine.IsOut labels := by
    decide +kernel
  have huntracked :
      ¬ (s.live ScriptedCluster.asCluster recreation).scheduler.caches.Tracks labels := by
    decide +kernel
  refine ⟨hfresh, hout, huntracked, ?_⟩
  by_contra hnone
  refine huntracked ((Scanning.alertsTracked_iff hfresh recreation).1.mpr ?_ labels hout)
  intro past view labels hpast habandons
  exact absurd ⟨past, view, labels, hpast, habandons⟩ hnone

end Sample

end ComplianceScanner
