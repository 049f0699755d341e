import ComplianceScanner.Proofs.Mirrored
import ComplianceScanner.Proofs.Settled

/-!
# Scanning from scratch

A scanner passes over what it knows already, and what it knows comes from a long past: from attempts
that failed halfway, under checks that have been replaced, of kinds that were served in another
version. Still a successful attempt leaves the caches that a scanner without any past would leave on
the same cluster, as long as equal resource versions stand for equal objects. The series follow
under the conditions of `Mirrored`.
-/

namespace ComplianceScanner

variable {Outside : Type}

namespace Interleaved

theorem Calm.applyAll {start : Interleaved Outside} (cluster : Cluster Outside)
    {m : Moment (Interleaved Outside)} (hcalm : Calm start m.world) (hkeyed : m.caches.Keyed)
    (deeds : List Deed) :
    Calm start (m.applyAll (asCluster cluster) asEngine deeds).world := by
  induction deeds generalizing m with
  | nil => exact hcalm
  | cons deed deeds ih =>
      exact ih (hcalm.apply cluster hkeyed deed) (Moment.apply_keyed _ _ hkeyed deed)

end Interleaved

namespace Scanning

variable {cluster : Cluster Outside} {start anew s : Scanning (Interleaved Outside)} {steps : Nat}
  {done : List Deed} {views : List ObjectView}

/-! ### Settings -/

theorem live_sameSettings (cluster : Cluster Outside) (s : Scanning (Interleaved Outside))
    (events : List (Event Outside)) :
    (s.live cluster events).scheduler.SameSettings s.scheduler := by
  induction events generalizing s with
  | nil => exact .refl _
  | cons event events ih =>
      refine (ih (s.meet cluster event)).trans ?_
      cases event with
      | attempt steps due => exact (runCycle_untouched _ _ steps (s.beset due)).settings
      | reload selection => exact .refl _
      | turn outside => exact .refl _
      | count completed metrics => exact ⟨rfl, rfl⟩

theorem Fresh.sameSettings (hfresh : start.Fresh) (hanew : anew.Fresh)
    (hconfig : anew.scheduler.config = start.scheduler.config) :
    start.scheduler.SameSettings anew.scheduler := by
  obtain ⟨config, hscheduler⟩ := hfresh.scheduler
  obtain ⟨config', hscheduler'⟩ := hanew.scheduler
  obtain ⟨namespaces, hnamespaces, hbuilt⟩ := Scheduler.exists_of_ofConfig hscheduler
  obtain ⟨namespaces', hnamespaces', hbuilt'⟩ := Scheduler.exists_of_ofConfig hscheduler'
  refine ⟨hconfig.symm, ?_⟩
  rw [hbuilt, hbuilt'] at hconfig ⊢
  rw [show config' = config from hconfig, hnamespaces] at hnamespaces'
  rw [Except.ok.inj hnamespaces']

/-! ### One attempt without reloads -/

theorem attempt_alike {s' : Scanning (Interleaved Outside)}
    (hsettings : s.scheduler.SameSettings s'.scheduler)
    (hsight : Interleaved.SameSight (s.beset []).world (s'.beset []).world) (steps : Nat) :
    s.attemptDeeds cluster steps [] = s'.attemptDeeds cluster steps [] ∧
      (s.attempt cluster steps []).1.isOk = (s'.attempt cluster steps []).1.isOk := by
  have hbeset : (s.beset []).scheduler.SameSettings (s'.beset []).scheduler := hsettings
  exact (Interleaved.alike_sameSight cluster).deeds steps hbeset hsight

theorem Lived.calm_momentAfter (hlived : s.Lived cluster) (done : List Deed) :
    Interleaved.Calm (s.beset []).world (s.momentAfter cluster [] done).world := by
  obtain ⟨base, hgrounded⟩ := hlived.grounded
  have hcalm : Interleaved.Calm (s.beset []).world (s.beset []).moment.world :=
    Interleaved.calm_self rfl
  exact hcalm.applyAll cluster hgrounded.keyed done

/-- No reload falls into the attempt, all entries in its course are of the epoch of its start, and
what it judges or has ever been judged is among these objects. -/
structure Undisturbed (cluster : Cluster Outside) (steps : Nat) (views : List ObjectView)
    (s : Scanning (Interleaved Outside)) : Prop where
  calm : ∀ done, Interleaved.Calm (s.beset []).world (s.momentAfter cluster [] done).world
  grounded : ∀ done, done <+: s.attemptDeeds cluster steps [] → done ≠ [] →
    (s.momentAfter cluster [] done).Grounded s.world.epoch
  judged : ∀ done, done <+: s.attemptDeeds cluster steps [] →
    ∀ judgement ∈ (s.momentAfter cluster [] done).world.judgements, judgement.view ∈ views
  taken : ∀ deed ∈ s.attemptDeeds cluster steps [], ∀ view, deed.view? = some view → view ∈ views

namespace Undisturbed

theorem mono (h : s.Undisturbed cluster steps views) {views' : List ObjectView}
    (hsubset : views ⊆ views') : s.Undisturbed cluster steps views' where
  calm := h.calm
  grounded := h.grounded
  judged done hdone judgement hmem := hsubset (h.judged done hdone judgement hmem)
  taken deed hdeed view hview := hsubset (h.taken deed hdeed view hview)

variable (h : s.Undisturbed cluster steps views)

include h

/-- At any moment of the attempt each entry is as a full scan would leave it. -/
theorem settled (hdone : done <+: s.attemptDeeds cluster steps []) (hne : done ≠ []) :
    (s.momentAfter cluster [] done).Settled (s.beset []).world views where
  keyed := (h.grounded done hdone hne).keyed
  calm := h.calm done
  entries subject entry hentry := by
    have hgrounded := h.grounded done hdone hne
    obtain ⟨judgement, hmem, hbase, hyields⟩ := hgrounded.grounded subject entry hentry
    have hnow : judgement.epoch = (s.momentAfter cluster [] done).world.epoch :=
      Nat.le_antisymm (hgrounded.recorded.epoch_le judgement hmem) ((h.calm done).epoch ▸ hbase)
    have henabled :=
      (hgrounded.recorded.enabled judgement hmem hnow).trans (h.calm done).enabled
    obtain ⟨hsubject, outcome, houtcome, rfl⟩ := hyields
    refine ⟨judgement.view, h.judged done hdone judgement hmem, hsubject, ?_⟩
    rw [Judgement.outcome, CheckEngine.validate_fst, henabled] at houtcome
    rw [CheckEngine.entryOf?, houtcome]
    rfl

theorem calm_attempt :
    Interleaved.Calm (s.beset []).world (s.attempt cluster steps []).2.moment.world := by
  rw [attempt_moment]
  exact h.calm _

theorem grounded_attempt :
    (s.attempt cluster steps []).2.moment.Grounded
      (s.attempt cluster steps []).2.moment.world.epoch := by
  rw [h.calm_attempt.epoch, attempt_moment]
  exact h.grounded _ (List.prefix_refl _) attemptDeeds_ne_nil

theorem judged_attempt :
    ∀ judgement ∈ (s.attempt cluster steps []).2.moment.world.judgements,
      judgement.view ∈ views := by
  rw [attempt_moment]
  exact h.judged _ (List.prefix_refl _)

variable {s' : Scanning (Interleaved Outside)} (h' : s'.Undisturbed cluster steps views)
  (hsight : Interleaved.SameSight (s.beset []).world (s'.beset []).world)

include h' hsight

/-- Two scanners that do the same deeds at the same cluster with the same checks have the same caches
after a successful attempt. -/
theorem caches_eq (hdeeds : s.attemptDeeds cluster steps [] = s'.attemptDeeds cluster steps [])
    (hok : (s.attempt cluster steps []).1.isOk = true) (hconsistent : Consistent views) :
    (s.attempt cluster steps []).2.moment.caches =
      (s'.attempt cluster steps []).2.moment.caches := by
  obtain ⟨resources, hcompletes, hretire⟩ :=
    completes_deeds (Interleaved.asCluster cluster) Interleaved.asEngine steps (s.beset []) hok
  obtain ⟨later, hlater, hrenew⟩ := deeds_eq_renew_cons (Interleaved.asCluster cluster)
    Interleaved.asEngine steps (s.beset [])
  rw [hlater] at hcompletes hretire
  have hretire := (List.mem_cons.mp hretire).resolve_left (by simp)
  have hfirst : [.renew] <+: s.attemptDeeds cluster steps [] := by
    rw [attemptDeeds, hlater]
    exact List.prefix_append [.renew] later
  have hsettled := h.settled hfirst (List.cons_ne_nil _ _)
  have hsettled' := h'.settled (hdeeds ▸ hfirst) (List.cons_ne_nil _ _)
  have hview := h.taken
  rw [attempt_moment, attempt_moment, ← hdeeds]
  rw [attemptDeeds, hlater] at hview ⊢
  exact hsettled.caches_eq hsettled' hsight.enabled hconsistent cluster hrenew
    (fun deed hdeed => hview deed (List.mem_cons_of_mem _ hdeed)) hcompletes.of_renew_cons hretire

theorem explains_attempt
    (hcaches : (s.attempt cluster steps []).2.moment.caches =
      (s'.attempt cluster steps []).2.moment.caches) (hconsistent : Consistent views)
    {subject : Subject} {key : SeriesKey}
    (hexplains : (s.attempt cluster steps []).2.moment.Explains subject key) :
    (s'.attempt cluster steps []).2.moment.Explains subject key := by
  have henabled := (h.calm_attempt.enabled.trans hsight.enabled).trans h'.calm_attempt.enabled.symm
  exact hexplains.transfer h.grounded_attempt.recorded h'.grounded_attempt henabled
    (congrArg (CacheSet.entryFor? · subject) hcaches) hconsistent h.judged_attempt h'.judged_attempt

end Undisturbed

/-! ### The last attempt of a history -/

theorem happenings_attempt (cluster : Cluster Outside) (events : List (Event Outside)) (steps : Nat)
    (due : List Gap) (s : Scanning (Interleaved Outside)) :
    s.happenings cluster (events ++ [.attempt steps due]) =
      s.happenings cluster events ++ .turn (s.live cluster events).world.outside due ::
        ((s.live cluster events).attemptDeeds cluster steps due).map .deed := by
  rw [happenings_append]
  simp only [happenings, eventHappenings, List.append_nil]

theorem listedViews_attempt_suffix (cluster : Cluster Outside) (events : List (Event Outside))
    (steps : Nat) (due : List Gap) (s : Scanning (Interleaved Outside)) :
    ((s.live cluster events).attemptDeeds cluster steps due).filterMap Deed.view? <:+
      listedViews (s.happenings cluster (events ++ [.attempt steps due])) := by
  rw [happenings_attempt, listedViews_append, listedViews, listedViews, List.filterMap_cons_none rfl,
    List.filterMap_map]
  exact List.suffix_append _ _

theorem listedViews_first_attempt (cluster : Cluster Outside) (steps : Nat) (due : List Gap)
    (s : Scanning (Interleaved Outside)) :
    listedViews (s.happenings cluster [.attempt steps due]) =
      (s.attemptDeeds cluster steps due).filterMap Deed.view? := by
  change listedViews (s.happenings cluster ([] ++ [.attempt steps due])) = _
  rw [happenings_attempt, happenings, List.nil_append, listedViews, List.filterMap_cons_none rfl,
    List.filterMap_map]
  rfl

theorem Fresh.view_mem_of_momentAfter (hfresh : start.Fresh) (events : List (Event Outside))
    (hdone : done <+: (start.live cluster events).attemptDeeds cluster steps [])
    {judgement : Judgement}
    (hmem : judgement ∈ ((start.live cluster events).momentAfter cluster [] done).world.judgements) :
    judgement.view ∈ listedViews (start.happenings cluster (events ++ [.attempt steps []])) := by
  rw [momentAfter_eq_after, live_moment, ← Moment.after_append] at hmem
  have hlisted := hfresh.view_mem_listedViews _ hmem
  rw [happenings_attempt]
  refine (List.IsPrefix.filterMap Happening.view? ?_).subset hlisted
  rw [List.prefix_append_right_inj, List.prefix_cons_inj]
  exact hdone.map Happening.deed

theorem Fresh.undisturbed_of_grounded (hfresh : start.Fresh) (events : List (Event Outside))
    (hgrounded : ∀ done, done <+: (start.live cluster events).attemptDeeds cluster steps [] →
      done ≠ [] → ((start.live cluster events).momentAfter cluster [] done).Grounded
        (start.live cluster events).world.epoch) :
    (start.live cluster events).Undisturbed cluster steps
      (listedViews (start.happenings cluster (events ++ [.attempt steps []]))) where
  calm := Lived.calm_momentAfter ⟨start, hfresh, events, rfl⟩
  grounded := hgrounded
  judged _ hdone _ hmem := hfresh.view_mem_of_momentAfter events hdone hmem
  taken deed hdeed _ hview :=
    (listedViews_attempt_suffix cluster events steps [] start).subset
      (List.mem_filterMap.mpr ⟨deed, hdeed, hview⟩)

theorem Fresh.undisturbed (hfresh : start.Fresh) (events : List (Event Outside))
    (hepoch : (start.live cluster events).world.epoch < UInt64.size) :
    (start.live cluster events).Undisturbed cluster steps
      (listedViews (start.happenings cluster (events ++ [.attempt steps []]))) := by
  have hlived : (start.live cluster events).Lived cluster := ⟨start, hfresh, events, rfl⟩
  have hend : ((start.live cluster events).attempt cluster steps []).2.moment.world.epoch <
      UInt64.size := by
    rw [attempt_moment, (hlived.calm_momentAfter _).epoch]
    exact hepoch
  exact hfresh.undisturbed_of_grounded events fun done hdone hne =>
    hlived.grounded_momentAfter hend hdone hne

/-- The first attempt of a scanner needs no bound on the number of reloads. -/
theorem Fresh.undisturbed_first (hanew : anew.Fresh) :
    anew.Undisturbed cluster steps (listedViews (anew.happenings cluster [.attempt steps []])) := by
  have hlived : anew.Lived cluster := ⟨anew, hanew, [], rfl⟩
  refine hanew.undisturbed_of_grounded [] fun done _ _ => ?_
  obtain ⟨base, hbase, hgrounded⟩ :=
    hanew.grounded.after cluster (.turn anew.world.outside [] :: done.map .deed)
  rw [← momentAfter_eq_after] at hgrounded
  have hepoch : base = anew.world.epoch :=
    Nat.le_antisymm ((hlived.calm_momentAfter done).epoch ▸ hgrounded.base_le) hbase
  exact hepoch ▸ hgrounded

theorem Fresh.mirrored_attempt (hfresh : start.Fresh) (events : List (Event Outside))
    (hconsistent : Consistent
      (listedViews (start.happenings cluster (events ++ [.attempt steps []]))))
    (hsteady : Steady (listedViews (start.happenings cluster (events ++ [.attempt steps []]))))
    (hdistinct : Distinct
      (listedViews (start.happenings cluster (events ++ [.attempt steps []])))) :
    ((start.live cluster events).attempt cluster steps []).2.moment.Mirrored := by
  have hlive := live_moment cluster start (events ++ [.attempt steps []])
  rw [live_append] at hlive
  exact hlive ▸ hfresh.mirrored _ hconsistent hsteady hdistinct

/-- After a successful attempt into which no reload falls the caches are those that a scanner without
any past leaves on the same cluster, if equal resource versions stand for equal objects. The same goes
for the series if, besides, objects of one name keep their uids, none comes to be left to its owner
and no two share their labels. -/
theorem rescan_eq (hfresh : start.Fresh) (hanew : anew.Fresh) (events : List (Event Outside))
    (steps : Nat) (hconfig : anew.scheduler.config = start.scheduler.config)
    (houtside : anew.world.outside = (start.live cluster events).world.outside)
    (henabled : anew.world.engine.enabled = (start.live cluster events).world.engine.enabled)
    (hepoch : (start.live cluster events).world.epoch < UInt64.size)
    (hconsistent : Consistent
      (listedViews (start.happenings cluster (events ++ [.attempt steps []]))))
    (hok : ((start.live cluster events).attempt cluster steps []).1.isOk = true) :
    let last := (start.live cluster events).attempt cluster steps []
    let rescan := anew.attempt cluster steps []
    let views := listedViews (start.happenings cluster (events ++ [.attempt steps []]))
    rescan.1.isOk = true ∧ last.2.scheduler.caches = rescan.2.scheduler.caches ∧
      (Steady views → Distinct views →
        last.2.world.engine.gauge = rescan.2.world.engine.gauge) := by
  intro last rescan views
  have hsettings := (live_sameSettings cluster start events).trans
    (hfresh.sameSettings hanew hconfig)
  have hsight : Interleaved.SameSight ((start.live cluster events).beset []).world
      (anew.beset []).world := ⟨houtside.symm, henabled.symm, rfl, rfl⟩
  obtain ⟨hdeeds, hsucceeds⟩ := attempt_alike hsettings hsight steps
  have hsuffix : listedViews (anew.happenings cluster [.attempt steps []]) <:+ views := by
    rw [listedViews_first_attempt, ← hdeeds]
    exact listedViews_attempt_suffix cluster events steps [] start
  have h : (start.live cluster events).Undisturbed cluster steps views :=
    hfresh.undisturbed events hepoch
  have h' : anew.Undisturbed cluster steps views := hanew.undisturbed_first.mono hsuffix.subset
  have hcaches := h.caches_eq h' hsight hdeeds hok hconsistent
  refine ⟨hsucceeds ▸ hok, hcaches, fun hsteady hdistinct => ?_⟩
  have hmirrored := hfresh.mirrored_attempt events hconsistent hsteady hdistinct
  have hmirrored' := hanew.mirrored_attempt [] (hconsistent.subset hsuffix.subset)
    (hsteady.sublist hsuffix.sublist) (hdistinct.subset hsuffix.subset)
  refine hmirrored.gauge_eq hmirrored' fun subject key => ⟨?_, ?_⟩
  · exact h.explains_attempt h' hsight hcaches hconsistent
  · exact h'.explains_attempt h hsight.symm hcaches.symm hconsistent

end Scanning

namespace Sample

/-- The workload before it shares the process ids. -/
def plain : Object := { web "uid-1" "1" with data := .obj [] }

/-- A reload falls into the first attempt, and the second breaks off when the object has changed. -/
def updates : List (Event ScriptedCluster) :=
  [.attempt 2 [{}, {}, {}, { reloads := [{ added := ["host-ipc"] }] }],
    .turn (serving ["apps"] [web "uid-1" "2"]), .attempt 1 []]

def updated : Scanning (Interleaved ScriptedCluster) :=
  (scanning (serving ["apps"] [plain])).live ScriptedCluster.asCluster updates

/-- What is listed up to the end of one more attempt. -/
def updatedViews : List ObjectView :=
  [⟨deployment "apps", plain, "ns-1"⟩, ⟨deployment "apps", web "uid-1" "2", "ns-1"⟩,
    ⟨deployment "apps", web "uid-1" "2", "ns-1"⟩]

theorem rescan_eq_updated :
    let anew := scanning updated.world.outside updated.world.engine.enabled
    let last := updated.attempt ScriptedCluster.asCluster 2 []
    let rescan := anew.attempt ScriptedCluster.asCluster 2 []
    updated.world.epoch = 1 ∧ last.1.isOk = true ∧ rescan.1.isOk = true ∧
      last.2.scheduler.caches = rescan.2.scheduler.caches ∧
      last.2.world.engine.gauge = rescan.2.world.engine.gauge := by
  intro anew last rescan
  have hviews : listedViews ((scanning (serving ["apps"] [plain])).happenings
      ScriptedCluster.asCluster (updates ++ [.attempt 2 []])) = updatedViews := by
    with_unfolding_all rfl
  have hconsistent : Consistent updatedViews := by
    intro view hview view' hview' subject _ _ hversion
    simp only [updatedViews, List.mem_cons, List.not_mem_nil, or_false] at hview hview'
    rcases hview with rfl | rfl | rfl <;> rcases hview' with rfl | rfl | rfl <;>
      first | exact ⟨rfl, rfl, rfl, rfl⟩ | exact absurd hversion (by decide)
  have hfresh : (scanning (serving ["apps"] [plain])).Fresh := fresh_scanning _
  have hanew : anew.Fresh := fresh_scanning _
  have hepoch : updated.world.epoch = 1 := by decide +kernel
  have hbound : updated.world.epoch < UInt64.size := by rw [hepoch]; decide
  have hok : last.1.isOk = true := by decide +kernel
  obtain ⟨hrescan, hcaches, hgauge⟩ := Scanning.rescan_eq hfresh hanew updates 2 rfl rfl
    rfl hbound (hviews ▸ hconsistent) hok
  refine ⟨hepoch, hok, hrescan, hcaches, hgauge ?_ ?_⟩
  · rw [hviews]
    decide +kernel
  · rw [hviews]
    decide +kernel

end Sample

end ComplianceScanner
