import ComplianceScanner.Proofs.History

/-!
# Entries and the judgements behind them

Every entry comes from a judgement on record, and from none that was passed before the outcomes were
last dropped. The epoch of that drop is the *base* of a moment. Generations are the epochs modulo the
size of the counter, so while the counter has not wrapped around an unchanged generation means an
unchanged base.
-/

namespace ComplianceScanner

variable {Outside : Type}

/-- The judgement left this entry for the subject. -/
def Judgement.Yields (judgement : Judgement) (subject : Subject) (entry : CacheEntry) : Prop :=
  judgement.view.subject? = some subject ∧
    ∃ outcome, judgement.outcome = .ok outcome ∧ entry = .ofView judgement.view outcome

theorem Judgement.Yields.labels_eq {judgement : Judgement} {subject : Subject}
    {entry : CacheEntry} (hyields : judgement.Yields subject entry) :
    subject.labels entry = judgement.view.labels := by
  obtain ⟨hsubject, outcome, -, rfl⟩ := hyields
  exact ObjectView.labels_of_subject? outcome hsubject

theorem Judgement.Yields.outcome_eq {judgement : Judgement} {subject : Subject}
    {entry : CacheEntry} (hyields : judgement.Yields subject entry) :
    judgement.outcome = .ok entry.outcome := by
  obtain ⟨-, outcome, houtcome, rfl⟩ := hyields
  exact houtcome

theorem Judgement.Yields.resourceVersion_eq {judgement : Judgement} {subject : Subject}
    {entry : CacheEntry} (hyields : judgement.Yields subject entry) :
    entry.resourceVersion = judgement.view.resourceVersion := by
  obtain ⟨-, outcome, -, rfl⟩ := hyields
  rfl

namespace Interleaved

/-- What is on record fits the engine as it is now. -/
structure Recorded (w : Interleaved Outside) : Prop where
  epoch_le : ∀ judgement ∈ w.judgements, judgement.epoch ≤ w.epoch
  generation : ∀ judgement ∈ w.judgements,
    judgement.engine.generation = .ofNat judgement.epoch
  enabled : ∀ judgement ∈ w.judgements, judgement.epoch = w.epoch →
    judgement.engine.enabled = w.engine.enabled

theorem Recorded.of_loses {w w' : Interleaved Outside} {gone : ObjectLabels → Prop}
    (hrecorded : w.Recorded) (hloses : Loses gone w w') : w'.Recorded where
  epoch_le judgement hmem :=
    Nat.le_trans (hrecorded.epoch_le judgement (hloses.judgements ▸ hmem)) hloses.epoch
  generation judgement hmem := hrecorded.generation judgement (hloses.judgements ▸ hmem)
  enabled judgement hmem hepoch := by
    rw [hloses.judgements] at hmem
    have hle := hrecorded.epoch_le judgement hmem
    have hsame : w'.epoch = w.epoch := Nat.le_antisymm (hepoch ▸ hle) hloses.epoch
    rw [hrecorded.enabled judgement hmem (hepoch.trans hsame), hloses.enabled hsame]

theorem Recorded.judge {w : Interleaved Outside} (hrecorded : w.Recorded) (hsound : w.Sound)
    (view : ObjectView) : (w.judge view).Recorded where
  epoch_le judgement hmem := by
    rcases List.mem_append.mp hmem with hmem | hmem
    · exact hrecorded.epoch_le judgement hmem
    · rw [List.mem_singleton.mp hmem]
      exact Nat.le_refl _
  generation judgement hmem := by
    rcases List.mem_append.mp hmem with hmem | hmem
    · exact hrecorded.generation judgement hmem
    · rw [List.mem_singleton.mp hmem]
      exact hsound.generation
  enabled judgement hmem hepoch := by
    have henabled : (w.judge view).engine.enabled = w.engine.enabled :=
      CheckEngine.validate_enabled w.engine view
    rw [henabled]
    rcases List.mem_append.mp hmem with hmem | hmem
    · exact hrecorded.enabled judgement hmem hepoch
    · rw [List.mem_singleton.mp hmem]

theorem mem_judgements_judge (w : Interleaved Outside) (view : ObjectView) :
    ⟨w.engine, view, w.epoch⟩ ∈ (w.judge view).judgements :=
  List.mem_append_right _ List.mem_cons_self

end Interleaved

namespace Moment

structure Grounded (m : Moment (Interleaved Outside)) (base : Nat) : Prop where
  keyed : m.caches.Keyed
  sound : m.world.Sound
  recorded : m.world.Recorded
  generation : m.generation = .ofNat base
  base_le : base ≤ m.world.epoch
  grounded : ∀ subject entry, m.caches.entryFor? subject = some entry →
    ∃ judgement ∈ m.world.judgements, base ≤ judgement.epoch ∧ judgement.Yields subject entry

variable {m m' : Moment (Interleaved Outside)} {base : Nat} {happening : Happening Outside}

theorem Step.epoch_le (hstep : m.Step happening m') : m.world.epoch ≤ m'.world.epoch := by
  cases hstep with
  | lost gone hgeneration hworld hentry hgone => exact hworld.epoch
  | stored hsubject hdue hgeneration hvalidate hworld hentry =>
      rw [hworld]
      exact m.world.settle_loses.epoch
  | failed hsubject hdue hgeneration hvalidate hworld hentry =>
      exact Nat.le_trans m.world.settle_loses.epoch hworld.epoch

theorem Step.judgements_subset (hstep : m.Step happening m') :
    m.world.judgements ⊆ m'.world.judgements := by
  intro judgement hmem
  cases hstep with
  | lost gone hgeneration hworld hentry hgone => exact hworld.judgements ▸ hmem
  | stored hsubject hdue hgeneration hvalidate hworld hentry =>
      rw [hworld]
      exact List.mem_append_left _ (m.world.settle_loses.judgements ▸ hmem)
  | failed hsubject hdue hgeneration hvalidate hworld hentry =>
      rw [hworld.judgements]
      exact List.mem_append_left _ (m.world.settle_loses.judgements ▸ hmem)

/-- Only what is taken up is judged. -/
theorem Step.mem_judgements (hstep : m.Step happening m') {judgement : Judgement}
    (hmem : judgement ∈ m'.world.judgements) :
    judgement ∈ m.world.judgements ∨ happening.view? = some judgement.view := by
  cases hstep with
  | lost gone hgeneration hworld hentry hgone => exact .inl (hworld.judgements ▸ hmem)
  | @stored view _ subject outcome hsubject hdue hgeneration hvalidate hworld hentry =>
      rw [hworld, Interleaved.judge, m.world.settle_loses.judgements, List.mem_append] at hmem
      exact hmem.imp_right fun hnew => by rw [List.mem_singleton.mp hnew]; rfl
  | @failed view _ subject error hsubject hdue hgeneration hvalidate hworld hentry =>
      rw [hworld.judgements, Interleaved.judge, m.world.settle_loses.judgements,
        List.mem_append] at hmem
      exact hmem.imp_right fun hnew => by rw [List.mem_singleton.mp hnew]; rfl

theorem Step.judged_mem (hstep : m.Step happening m') {past : List ObjectView}
    (hlisted : ∀ judgement ∈ m.world.judgements, judgement.view ∈ past) :
    ∀ judgement ∈ m'.world.judgements, judgement.view ∈ past ++ happening.view?.toList := by
  intro judgement hmem
  rcases hstep.mem_judgements hmem with hbefore | hview
  · exact List.mem_append_left _ (hlisted judgement hbefore)
  · exact List.mem_append_right _ (by simp [hview])

theorem Step.mem_judgements_of_ne {view : ObjectView} (hstep : m.Step (.deed (.take view)) m')
    {subject judged : Subject} (hsubject : view.subject? = some judged) (hne : subject ≠ judged) :
    ∀ judgement ∈ m'.world.judgements, judgement.view.subject? = some subject →
      judgement ∈ m.world.judgements := by
  intro judgement hmem hown
  refine (hstep.mem_judgements hmem).resolve_right fun hview => hne ?_
  have hview : view = judgement.view := Option.some.inj hview
  exact Option.some.inj (hown.symm.trans (hview ▸ hsubject))

theorem Step.sound (hsound : m.world.Sound) (hstep : m.Step happening m') : m'.world.Sound := by
  cases hstep with
  | lost gone hgeneration hworld hentry hgone => exact hworld.sound hsound
  | stored hsubject hdue hgeneration hvalidate hworld hentry =>
      rw [hworld]
      exact hsound.settle.judge _
  | failed hsubject hdue hgeneration hvalidate hworld hentry =>
      exact hworld.sound (hsound.settle.judge _)

theorem Step.recorded (hsound : m.world.Sound) (hrecorded : m.world.Recorded)
    (hstep : m.Step happening m') : m'.world.Recorded := by
  have hsettled := hrecorded.of_loses m.world.settle_loses
  cases hstep with
  | lost gone hgeneration hworld hentry hgone => exact hrecorded.of_loses hworld
  | stored hsubject hdue hgeneration hvalidate hworld hentry =>
      rw [hworld]
      exact hsettled.judge hsound.settle _
  | failed hsubject hdue hgeneration hvalidate hworld hentry =>
      exact (hsettled.judge hsound.settle _).of_loses hworld

/-- An entry after a step was there before, or it is that of the object just judged. -/
theorem Step.entryFor?_cases (hstep : m.Step happening m') {subject : Subject} {entry : CacheEntry}
    (hentry : m'.caches.entryFor? subject = some entry) :
    m.caches.entryFor? subject = some entry ∨
      ∃ view, happening = .deed (.take view) ∧ m'.world = m.world.settle.judge view ∧
        (⟨m.world.settle.engine, view, m.world.settle.epoch⟩ : Judgement).Yields subject entry := by
  cases hstep with
  | lost gone hgeneration hworld hsame hgone =>
      rcases hsame subject with hnone | hsame
      · exact absurd (hnone.symm.trans hentry) (by simp)
      · exact .inl (hsame ▸ hentry)
  | stored hsubject hdue hgeneration hvalidate hworld hsame =>
      rw [hsame] at hentry
      split at hentry
      · rename_i heq
        exact .inr ⟨_, rfl, hworld, heq ▸ hsubject, _, hvalidate, (Option.some.inj hentry).symm⟩
      · exact .inl hentry
  | failed hsubject hdue hgeneration hvalidate hworld hsame =>
      rw [hsame] at hentry
      split at hentry
      · exact absurd hentry (by simp)
      · exact .inl hentry

theorem Step.generation_cases (hstep : m.Step happening m') :
    m'.generation = m.generation ∨
      m'.generation = m.world.engine.generation ∧
        ∀ subject, m'.caches.entryFor? subject = none := by
  cases hstep with
  | lost gone hgeneration hworld hentry hgone => exact hgeneration
  | stored hsubject hdue hgeneration hvalidate hworld hentry => exact .inl hgeneration
  | failed hsubject hdue hgeneration hvalidate hworld hentry => exact .inl hgeneration

variable (cluster : Cluster Outside)

theorem Grounded.meet (hgrounded : m.Grounded base) (happening : Happening Outside) :
    ∃ base', base ≤ base' ∧ (m.meet cluster happening).Grounded base' := by
  have hstep := meet_step cluster hgrounded.keyed hgrounded.sound happening
  have hkeyed := meet_keyed cluster hgrounded.keyed happening
  have hsound := hstep.sound hgrounded.sound
  have hrecorded := hstep.recorded hgrounded.sound hgrounded.recorded
  rcases hstep.generation_cases with hgeneration | ⟨hgeneration, hnone⟩
  · refine ⟨base, Nat.le_refl _, hkeyed, hsound, hrecorded,
      hgeneration.trans hgrounded.generation, Nat.le_trans hgrounded.base_le hstep.epoch_le, ?_⟩
    intro subject entry hentry
    rcases hstep.entryFor?_cases hentry with hbefore | ⟨view, -, hworld, hyields⟩
    · obtain ⟨judgement, hmem, hbase, hyields⟩ := hgrounded.grounded subject entry hbefore
      exact ⟨judgement, hstep.judgements_subset hmem, hbase, hyields⟩
    · refine ⟨_, ?_, ?_, hyields⟩
      · rw [hworld]
        exact Interleaved.mem_judgements_judge _ _
      · exact Nat.le_trans hgrounded.base_le m.world.settle_loses.epoch
  · refine ⟨m.world.epoch, hgrounded.base_le, hkeyed, hsound, hrecorded,
      hgeneration.trans hgrounded.sound.generation, hstep.epoch_le, ?_⟩
    intro subject entry hentry
    rw [hnone] at hentry
    exact absurd hentry (by simp)

theorem Grounded.after (hgrounded : m.Grounded base) (happenings : List (Happening Outside)) :
    ∃ base', base ≤ base' ∧ (m.after cluster happenings).Grounded base' := by
  induction happenings generalizing m base with
  | nil => exact ⟨base, Nat.le_refl _, hgrounded⟩
  | cons happening happenings ih =>
      obtain ⟨next, hnext, hgrounded⟩ := hgrounded.meet cluster happening
      obtain ⟨last, hlast, hgrounded⟩ := ih hgrounded
      exact ⟨last, Nat.le_trans hnext hlast, hgrounded⟩

theorem Grounded.epoch_le_after (hgrounded : m.Grounded base)
    (happenings : List (Happening Outside)) :
    m.world.epoch ≤ (m.after cluster happenings).world.epoch := by
  induction happenings generalizing m base with
  | nil => exact Nat.le_refl _
  | cons happening happenings ih =>
      obtain ⟨next, -, hnext⟩ := hgrounded.meet cluster happening
      have hstep := meet_step cluster hgrounded.keyed hgrounded.sound happening
      exact Nat.le_trans hstep.epoch_le (ih hnext)

/-- While the counter of generations has not wrapped around, outcomes of an epoch's generation are
outcomes of that epoch. -/
theorem Grounded.base_eq_of_generation_eq (hgrounded : m.Grounded base) {epoch : Nat}
    (hbase : base < UInt64.size) (hepoch : epoch < UInt64.size)
    (hgeneration : m.generation = .ofNat epoch) : base = epoch := by
  have hnat := congrArg UInt64.toNat (hgrounded.generation.symm.trans hgeneration)
  rwa [UInt64.toNat_ofNat_of_lt' hbase, UInt64.toNat_ofNat_of_lt' hepoch] at hnat

end Moment

namespace Scanning

/-- The scanner has come here from its beginnings. -/
def Lived (cluster : Cluster Outside) (s : Scanning (Interleaved Outside)) : Prop :=
  ∃ fresh : Scanning (Interleaved Outside), fresh.Fresh ∧ ∃ events, fresh.live cluster events = s

variable {cluster : Cluster Outside} {s : Scanning (Interleaved Outside)}

theorem Fresh.grounded (hfresh : s.Fresh) : s.moment.Grounded s.world.epoch := by
  obtain ⟨config, hscheduler⟩ := hfresh.scheduler
  obtain ⟨namespaces, -, hbuilt⟩ := Scheduler.exists_of_ofConfig hscheduler
  have hempty : s.moment.caches = {} := congrArg Scheduler.caches hbuilt
  have hgeneration : s.moment.generation = s.world.engine.generation :=
    congrArg Scheduler.generation hbuilt
  have hjudgements : s.moment.world.judgements = [] := hfresh.judgements
  refine ⟨hempty ▸ CacheSet.keyed_empty,
    ⟨CheckEngine.orderly_of_gauge_empty hfresh.gauge, hfresh.generation⟩,
    ⟨?_, ?_, ?_⟩, hgeneration.trans hfresh.generation, Nat.le_refl _, ?_⟩
  · simp [hjudgements]
  · simp [hjudgements]
  · simp [hjudgements]
  · intro subject entry hentry
    rw [hempty] at hentry
    exact absurd hentry (by simp [CacheSet.entryFor?, CacheSet.get?])

theorem Fresh.view_mem_listedViews (hfresh : s.Fresh) (past : List (Happening Outside))
    {judgement : Judgement} (hmem : judgement ∈ (s.moment.after cluster past).world.judgements) :
    judgement.view ∈ listedViews past := by
  induction past using List.reverseRecOn with
  | nil =>
      have hjudgements : s.moment.world.judgements = [] := hfresh.judgements
      rw [Moment.after_nil, hjudgements] at hmem
      simp at hmem
  | append_singleton past happening ih =>
      obtain ⟨base, -, hgrounded⟩ := hfresh.grounded.after cluster past
      have hstep := Moment.meet_step cluster hgrounded.keyed hgrounded.sound happening
      rw [Moment.after_append_singleton] at hmem
      rw [listedViews_append, List.mem_append]
      rcases hstep.mem_judgements hmem with hbefore | hview
      · exact .inl (ih hbefore)
      · refine .inr ?_
        simp [listedViews, hview]

theorem Lived.grounded (hlived : s.Lived cluster) : ∃ base, s.moment.Grounded base := by
  obtain ⟨fresh, hfresh, events, rfl⟩ := hlived
  obtain ⟨base, -, hgrounded⟩ := hfresh.grounded.after cluster (fresh.happenings cluster events)
  exact ⟨base, live_moment cluster fresh events ▸ hgrounded⟩

end Scanning

end ComplianceScanner
