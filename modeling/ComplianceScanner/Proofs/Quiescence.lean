import ComplianceScanner.Proofs.AtRest
import ComplianceScanner.Proofs.Course
import ComplianceScanner.Proofs.Reconciled
import ComplianceScanner.Proofs.Settled
import Mathlib.Data.List.Nodup

/-!
# One pass is enough

Whatever was cached before, a successful attempt leaves nothing to do: if the cluster answers the
next one in the same way, and the engine goes by the same rules, then only those objects are judged
again that the engine failed at, the caches stay as they are, and the report has nothing but hits
and failures.
-/

namespace ComplianceScanner

variable {World : Type}

/-- The identities of all named objects that were listed, with the versions they were listed under. -/
def listedIdentities (exchanges : List Exchange) : List Identity :=
  (exchanges.flatMap Exchange.items).filterMap fun (resource, object) =>
    (resource.subject? object).map (·.identity resource.version)

theorem Asks.identities_eq {j j' : Journaled World} {exchanges : List Exchange} {deeds : List Deed}
    (hasks : Asks j j' exchanges deeds) : Deed.identities deeds = listedIdentities exchanges := by
  rw [listedIdentities, ← hasks.shown_eq, Deed.shown, List.filterMap_map]
  exact List.filterMap_congr fun view _ => view.identity?_eq

theorem length_listedIdentities (exchanges : List Exchange) :
    (listedIdentities exchanges).length = (listedSubjects exchanges).length := by
  unfold listedIdentities listedSubjects
  induction exchanges.flatMap Exchange.items with
  | nil => rfl
  | cons item items ih =>
      obtain ⟨resource, object⟩ := item
      cases hsubject : resource.subject? object <;> simp [hsubject, ih]

namespace LaidOut

variable {deeds : List Deed} {result : Except Stop CycleReport} (hlaid : LaidOut deeds result)
include hlaid

theorem exists_resources : ∃ resources : List ResourceType, (resources.map (·.key)).Nodup ∧
    ∀ view, .take view ∈ deeds → view.resource ∈ resources := by
  cases hlaid with
  | @completed resources _ _ hnodup hdeeds =>
      exact ⟨resources, hnodup, fun view htake => hdeeds.view_resource (by simpa using htake)⟩
  | @brokenOff resources _ _ _ hnodup hdeeds =>
      exact ⟨resources, hnodup, fun view htake => hdeeds.view_resource (by simpa using htake)⟩

/-- A kind is listed under one version, so who is listed once as an identity is so as a subject. -/
theorem nodup_subjects (honce : (Deed.identities deeds).Nodup) : (Deed.subjects deeds).Nodup := by
  obtain ⟨resources, hnodup, hresource⟩ := hlaid.exists_resources
  have hinj := List.inj_on_of_nodup_map hnodup
  refine List.pairwise_filterMap.mpr ((List.pairwise_filterMap.mp honce).imp_of_mem ?_)
  intro view other hview hother hne subject hsubject subject' hsubject' heq
  subst heq
  have hkey : view.resource.key = other.resource.key :=
    (ObjectView.key_of_subject? hsubject).symm.trans (ObjectView.key_of_subject? hsubject')
  have hsame := hinj (hresource view (Deed.mem_views.mp hview))
    (hresource other (Deed.mem_views.mp hother)) hkey
  refine hne (subject.identity view.resource.version) ?_ _ ?_ rfl
  · rw [ObjectView.identity?_eq, hsubject, Option.map_some]
  · rw [ObjectView.identity?_eq, hsubject', hsame, Option.map_some]

end LaidOut

namespace Scanning

/-- A successful attempt by an engine that goes by these rules: what it has asked for, and what it
has done once it has looked at the generation. -/
structure IsPass (cluster : Cluster World) (engine : Engine World) (rules : Engine.Rules)
    (holds : World → Prop) (steps : Nat) (s : Scanning (Journaled World)) (report : CycleReport)
    (s' : Scanning (Journaled World)) (exchanges : List Exchange) (later : List Deed) : Prop where
  run_eq : s.runCycle cluster.journaled engine.journaled steps = (.ok report, s')
  exchanges_eq : s'.world.exchanges = s.world.exchanges ++ exchanges
  deeds_eq : s.deeds cluster.journaled engine.journaled steps = .renew :: later
  course : Survey.Course s.scheduler.config.pageSize steps s.scheduler.namespaces.isIgnored
    rules.supports exchanges later
  laidOut : LaidOut (.renew :: later) (.ok report)
  subjects_eq : Deed.subjects later = listedSubjects exchanges
  identities_eq : Deed.identities later = listedIdentities exchanges
  moment_eq : s'.moment = (s.dropStaleCaches engine.journaled).moment.applyAll cluster.journaled
    engine.journaled later
  holds : holds s.world.world

section

variable {cluster : Cluster World} {engine : Engine World} {rules : Engine.Rules}
  {holds : World → Prop} (hkeeps : engine.KeepsTo rules holds)
  (hasks : ∀ call world, holds world → holds (cluster.after call world))

include hkeeps in
theorem dropStaleCaches_holds {s : Scanning (Journaled World)} (hholds : holds s.world.world) :
    holds (s.dropStaleCaches engine.journaled).world.world := by
  unfold dropStaleCaches
  simp only
  split
  · exact hholds
  · rw [Engine.deleteAll_journaled]
    exact hkeeps.deleteAll _ hholds

include hkeeps hasks in
theorem exists_pass {steps : Nat} {s s' : Scanning (Journaled World)} {report : CycleReport}
    (hholds : holds s.world.world)
    (hrun : s.runCycle cluster.journaled engine.journaled steps = (.ok report, s')) :
    ∃ exchanges later, IsPass cluster engine rules holds steps s report s' exchanges later := by
  have hmoment := s.runCycle_moment cluster.journaled engine.journaled steps
  have hlaid := s.deeds_laidOut cluster.journaled engine.journaled steps
  have hcourse := s.runCycle_course cluster engine steps (by rw [hrun]; rfl)
  have hsupports := hkeeps.supports_eq _
    (hasks .discover _ (dropStaleCaches_holds hkeeps hholds))
  obtain ⟨asked, hsurvey⟩ := s.runCycle_isSurvey cluster engine steps
  have hasked := hsurvey.asks
  rw [hrun] at hmoment hlaid hcourse hasked
  obtain ⟨exchanges, later, hexchanges, hdeeds, hcourse⟩ := hcourse
  obtain rfl : asked = exchanges :=
    List.append_cancel_left (hasked.exchanges_eq.symm.trans hexchanges)
  rw [hdeeds] at hmoment hlaid hasked
  rw [Moment.applyAll_cons, ← dropStaleCaches_moment] at hmoment
  exact ⟨asked, later, hrun, hexchanges, hdeeds, hsupports ▸ hcourse, hlaid, hasked.subjects_eq,
    hasked.identities_eq, hmoment, hholds⟩

namespace IsPass

variable {steps : Nat} {s s' : Scanning (Journaled World)} {report : CycleReport}
  {exchanges : List Exchange} {later : List Deed}
  (h : IsPass cluster engine rules holds steps s report s' exchanges later)
include h

theorem renew_notMem : Deed.renew ∉ later := by
  obtain ⟨_, heq, hlater⟩ := h.laidOut.eq_renew_cons
  cases heq
  exact hlater

theorem spares : ∀ deed ∈ later, deed.Spares (listedSubjects exchanges) := by
  intro deed hdeed
  have hne : deed ≠ .renew := fun heq => h.renew_notMem (heq ▸ hdeed)
  exact h.subjects_eq ▸ h.laidOut.spares deed (List.mem_cons_of_mem _ hdeed) hne

include hkeeps in
theorem generation_eq : s'.scheduler.generation = rules.generation := by
  have hgeneration := congrArg Moment.generation h.moment_eq
  rw [Moment.applyAll_generation _ _ _ h.renew_notMem, dropStaleCaches_moment cluster.journaled,
    Moment.apply_renew_generation] at hgeneration
  exact hgeneration.trans (hkeeps.generation_eq _ h.holds)

include hkeeps hasks in
/-- If none is listed twice, a pass leaves all objects settled. -/
theorem leaves_atRest (hkeyed : s.scheduler.caches.Keyed)
    (honce : (listedIdentities exchanges).Nodup) :
    s'.moment.AtRest rules holds (listedSubjects exchanges) (later.filterMap Deed.view?) ∧
      ∃ calls, s'.world.calls = s.world.calls ++ calls ∧
        Engine.failures calls =
          (later.filterMap Deed.view?).filter (·.isLeft s'.scheduler.caches) := by
  have hkeyed' := dropStaleCaches_keyed cluster.journaled engine.journaled hkeyed
  have hholds := dropStaleCaches_holds hkeeps h.holds
  have hnodup : (Deed.subjects later).Nodup :=
    h.laidOut.nodup_subjects (h.identities_eq ▸ honce)
  obtain ⟨hsettled, calls, hcalls, hfailures⟩ := Moment.applyAll_settles hkeeps hasks hkeyed'
    hholds h.spares (h.subjects_eq ▸ List.Subset.refl _) hnodup
  let stale : List Engine.Call :=
    (labelsOf (s.moment.dropped engine.journaled .renew)).map .deleted
  have hstale : _ = s.world.calls ++ stale :=
    s.moment.calls_apply_of_view?_eq_none cluster engine rfl
  rw [← dropStaleCaches_moment] at hstale
  rw [← h.moment_eq] at hsettled hcalls hfailures
  refine ⟨⟨?_, ?_, hsettled, ?_⟩, stale ++ calls, ?_, ?_⟩
  · rw [h.moment_eq]
    exact Moment.applyAll_keyed _ _ hkeyed' later
  · rw [h.moment_eq]
    exact Moment.applyAll_holds hkeeps hasks hkeyed' hholds later
  · intro subject hsubject
    rw [h.moment_eq]
    exact Moment.entryFor?_applyAll_of_completed _ _ hkeyed' h.laidOut (h.subjects_eq ▸ hsubject)
  · refine hcalls.trans ?_
    rw [hstale, List.append_assoc]
  · rw [Engine.failures_append, Engine.failures_map_deleted]
    exact hfailures

include hkeeps hasks in
/-- A pass over settled objects. -/
theorem of_atRest
    (hrest : s.moment.AtRest rules holds (listedSubjects exchanges) (later.filterMap Deed.view?))
    (hgeneration : s.scheduler.generation = rules.generation) :
    (∀ subject, s'.scheduler.caches.entryFor? subject = s.scheduler.caches.entryFor? subject) ∧
      s'.world.calls = s.world.calls ++
        retries rules s.scheduler.caches (later.filterMap Deed.view?) ∧
      report.validated = 0 ∧ report.deleted = 0 ∧
      report.cacheHits + report.engineErrors = (listedSubjects exchanges).length := by
  have hstale : s.dropStaleCaches engine.journaled = s :=
    if_pos ((hkeeps.generation_eq _ h.holds).trans hgeneration.symm)
  have hok := congrArg Prod.fst h.run_eq
  have hdeleted := s.runCycle_deleted cluster.journaled engine.journaled steps hok
  have htally := s.runCycle_tally cluster.journaled engine.journaled steps hok
  have hmoment := h.moment_eq
  rw [hstale] at hmoment hdeleted htally
  rw [h.deeds_eq, List.tail_cons] at hdeleted htally
  obtain ⟨hentry, hcalls, hdropped, hvalidated⟩ :=
    hrest.applyAll hkeeps hasks h.spares fun view hview => hview
  obtain ⟨-, hsettled⟩ :=
    Moment.tallyAll_counts cluster.journaled engine.journaled hrest.keyed later
  rw [← hmoment] at hentry hcalls
  rw [← htally] at hvalidated hsettled
  rw [h.subjects_eq] at hsettled
  refine ⟨hentry, hcalls, hvalidated, ?_, ?_⟩
  · rw [hdeleted, hdropped]
    rfl
  · rw [← hsettled, Tally.settled, hvalidated, Nat.zero_add]
    rfl

/-- The versions that the kinds are cached under follow from what is done. -/
theorem version?_eq {t t' : Scanning (Journaled World)} {report' : CycleReport}
    (h' : IsPass cluster engine rules holds steps t report' t' exchanges later)
    (key : ResourceKey) : t'.moment.version? key = s'.moment.version? key := by
  obtain ⟨resources, hcompletes, hretire⟩ := h.laidOut.completes
  have hretire := (List.mem_cons.mp hretire).resolve_left (by simp)
  rw [h.moment_eq, h'.moment_eq, Moment.version?_applyAll _ _ _ h.renew_notMem,
    Moment.version?_applyAll _ _ _ h.renew_notMem]
  exact foldl_getD_eq_of_exists _ later
    (hcompletes.of_renew_cons.exists_editVersion hretire key) _ _

end IsPass

end

variable {Client Judge : Type} (cluster : Cluster Client) (engine : Engine Judge)

variable (Client) {engine} in
theorem beside_keepsTo {rules : Engine.Rules} {holds : Judge → Prop}
    (hkeeps : engine.KeepsTo rules holds) :
    (engine.beside : Engine (Client × Judge)).KeepsTo rules fun world => holds world.2 where
  supports_eq world hholds := hkeeps.supports_eq world.2 hholds
  generation_eq world hholds := hkeeps.generation_eq world.2 hholds
  verdict_eq view world hholds := hkeeps.verdict_eq view world.2 hholds
  validate view world hholds := hkeeps.validate view world.2 hholds
  deleteMetrics labels world hholds := hkeeps.deleteMetrics labels world.2 hholds

theorem beside_asks (holds : Judge → Prop) (call : Cluster.Call) (world : Client × Judge)
    (hholds : holds world.2) : holds (cluster.beside.after call world).2 := by
  rw [Cluster.after_beside]
  exact hholds

variable {engine} in
theorem supported_eq {rules : Engine.Rules} {holds : Judge → Prop}
    (hkeeps : engine.KeepsTo rules holds) {s : Scanning (Journaled (Client × Judge))}
    (hholds : holds s.world.world.2) : s.supported engine = rules.supports :=
  hkeeps.supports_eq _ (dropStaleCaches_holds (beside_keepsTo Client hkeeps) hholds)

variable {cluster engine} in
/-- A scanner with the same settings comes through as well where the cluster gives the same answers,
and does the same. -/
theorem exists_pass_again {steps : Nat} {rules : Engine.Rules} {holds : Judge → Prop}
    (hkeeps : engine.KeepsTo rules holds) {s s' t : Scanning (Journaled (Client × Judge))}
    {report : CycleReport} {exchanges : List Exchange} {later : List Deed}
    (hpass : IsPass cluster.beside engine.beside rules (fun world => holds world.2) steps s report
      s' exchanges later)
    (hsettings : t.scheduler.SameSettings s.scheduler) (hholds : holds t.world.world.2)
    {client : Client} (hplays : cluster.Plays t.world.world.1 exchanges client) :
    ∃ report' t', IsPass cluster.beside engine.beside rules (fun world => holds world.2) steps t
      report' t' exchanges later := by
  obtain ⟨asked, hasked, -, hwhole⟩ := s.survey_whole cluster engine steps
  obtain ⟨again, hagain, hplays', hwhole'⟩ := t.survey_whole cluster engine steps
  rw [supported_eq hkeeps hpass.holds, survey, hpass.run_eq] at hwhole
  rw [supported_eq hkeeps hholds, hsettings.config, hsettings.isIgnored_eq] at hwhole'
  rw [survey, hpass.run_eq] at hasked
  obtain rfl : asked = exchanges :=
    List.append_cancel_left (hasked.symm.trans hpass.exchanges_eq)
  obtain ⟨rfl, hstop⟩ := hwhole.unique hwhole' hplays hplays'
  obtain ⟨report', hok⟩ : ∃ report', (t.survey cluster engine steps).1 = .ok report' := by
    cases hresult : (t.survey cluster engine steps).1 with
    | ok report' => exact ⟨report', rfl⟩
    | error stop =>
        rw [hresult] at hstop
        cases hstop
  obtain ⟨played, done, hpass'⟩ := exists_pass (beside_keepsTo Client hkeeps)
    (beside_asks cluster holds) hholds (Prod.ext hok rfl : t.survey cluster engine steps = (_, _))
  obtain rfl : played = asked :=
    List.append_cancel_left (hpass'.exchanges_eq.symm.trans hagain)
  have hcourse := hpass'.course
  rw [hsettings.config, hsettings.isIgnored_eq] at hcourse
  obtain ⟨-, rfl⟩ := hpass.course.unique hcourse hplays hplays
  exact ⟨report', _, hpass'⟩

/-- If no object is listed twice, a successful attempt leaves nothing to do, whatever it has started
from. Where the cluster gives the same answers once more, and the engine goes by the same rules, the
next attempt comes through too. It asks the engine for just those objects that the engine has failed
at, in the same order, and has their series removed once more. It leaves the caches as they are, and
its report counts the named objects as hits and failures. -/
theorem quiescent (steps : Nat) {rules : Engine.Rules} {holds : Judge → Prop}
    (hkeeps : engine.KeepsTo rules holds) {s s' : Scanning (Journaled (Client × Judge))}
    (hreached : s.Reached) (hholds : holds s.world.world.2) {report : CycleReport}
    (hrun : s.survey cluster engine steps = (.ok report, s')) {exchanges : List Exchange}
    (hexchanges : s'.world.exchanges = s.world.exchanges ++ exchanges)
    (honce : (listedIdentities exchanges).Nodup) {client client' : Client}
    (hplays : cluster.Plays client exchanges client') {judge : Judge} (hholds' : holds judge)
    (completed : Nat) (metrics : Metrics) :
    let again : Scanning (Journaled (Client × Judge)) :=
      ⟨{ s'.scheduler with completed, metrics }, { s'.world with world := (client, judge) }⟩
    ∃ calls report' t, again.survey cluster engine steps = (.ok report', t) ∧
      s'.world.calls = s.world.calls ++ calls ∧
      t.world.exchanges = s'.world.exchanges ++ exchanges ∧
      t.world.calls = s'.world.calls ++ (Engine.failures calls).flatMap (fun view =>
        [.validated view (rules.verdict view), .deleted view.labels]) ∧
      t.scheduler.caches = s'.scheduler.caches ∧
      report'.validated = 0 ∧ report'.deleted = 0 ∧
      report'.cacheHits + report'.engineErrors = (listedIdentities exchanges).length := by
  intro again
  have hkeeps' := beside_keepsTo Client hkeeps
  have hasks := beside_asks cluster holds
  obtain ⟨asked, later, hpass⟩ := exists_pass hkeeps' hasks hholds hrun
  obtain rfl : asked = exchanges :=
    List.append_cancel_left (hpass.exchanges_eq.symm.trans hexchanges)
  have hsettings : again.scheduler.SameSettings s.scheduler := by
    have huntouched := s.runCycle_untouched cluster.beside.journaled engine.beside.journaled steps
    rw [hpass.run_eq] at huntouched
    exact ⟨huntouched.settings.config, huntouched.settings.ignore⟩
  obtain ⟨report', t, hpass'⟩ := exists_pass_again hkeeps hpass hsettings hholds' hplays
  obtain ⟨hrest, calls, hcalls, hfailures⟩ :=
    hpass.leaves_atRest hkeeps' hasks hreached.keyed_and_proven.1 honce
  obtain ⟨hentry, hretries, hvalidated, hdeleted, hcount⟩ :=
    hpass'.of_atRest hkeeps' hasks
      (hrest.of_entryFor?_eq hrest.keyed hholds' fun _ => rfl) (hpass.generation_eq hkeeps')
  refine ⟨calls, report', t, hpass'.run_eq, hcalls, hpass'.exchanges_eq, ?_, ?_, hvalidated,
    hdeleted, ?_⟩
  · rw [hfailures]
    exact hretries
  · have hkeyed : t.moment.caches.Keyed := by
      rw [hpass'.moment_eq]
      refine Moment.applyAll_keyed _ _ ?_ later
      exact dropStaleCaches_keyed cluster.beside.journaled _ (s := again) hrest.keyed
    exact CacheSet.eq_of_forall_entryFor?_eq hkeyed hrest.keyed (hpass.version?_eq hpass') hentry
  · rw [length_listedIdentities]
    exact hcount

end Scanning

namespace Sample

def rulesOf (judge : StandIn) : Engine.Rules where
  supports := StandIn.asEngine.supports judge
  generation := judge.generation
  verdict := judge.validate

theorem keepsTo_standIn (judge : StandIn) :
    StandIn.asEngine.KeepsTo (rulesOf judge) (· = judge) where
  supports_eq := by rintro _ rfl; rfl
  generation_eq := by rintro _ rfl; rfl
  verdict_eq := by rintro _ _ rfl; rfl
  validate := by rintro _ _ rfl; rfl
  deleteMetrics := by rintro _ _ rfl; rfl

/-- The engine fails at one of two workloads, the other has changed, and a group is gone. -/
theorem quiescent_migrated :
    let judge : StandIn := { unsupportedKinds := [], failing := ["api"] }
    let cluster := servingV2 [web "uid-1" "2", api]
    let first := attempted cluster ["api"] 2 migrated
    let second := attempted cluster ["api"] 2 first.2
    ∃ report calls, second.1 = .ok report ∧
      first.2.world.calls = migrated.world.calls ++ calls ∧
      (Engine.failures calls).length = 1 ∧
      second.2.world.calls = first.2.world.calls ++ (Engine.failures calls).flatMap (fun view =>
        [.validated view (judge.validate view), .deleted view.labels]) ∧
      second.2.scheduler.caches = first.2.scheduler.caches ∧
      report.validated = 0 ∧ report.deleted = 0 ∧ report.cacheHits + report.engineErrors = 2 := by
  intro judge cluster first second
  let start : Scanning (Journaled (ScriptedCluster × StandIn)) :=
    { migrated with world := { migrated.world with world := (cluster, judge) } }
  obtain ⟨exchanges, hexchanges, hplays⟩ :=
    start.survey_plays ScriptedCluster.asCluster StandIn.asEngine 2
  have hlisted : listedIdentities exchanges =
      listedIdentities (first.2.world.exchanges.drop migrated.world.exchanges.length) := by
    change first.2.world.exchanges = migrated.world.exchanges ++ exchanges at hexchanges
    rw [hexchanges, List.drop_left]
  have hok : first.1.isOk = true := by decide +kernel
  obtain ⟨report, hreport⟩ : ∃ report, first.1 = .ok report := by
    cases hresult : first.1 with
    | ok report => exact ⟨report, rfl⟩
    | error stop =>
        rw [hresult] at hok
        cases hok
  obtain ⟨calls, report', t, hagain, hcalls, -, hretries, hcaches, hvalidated, hdeleted, hcount⟩ :=
    Scanning.quiescent ScriptedCluster.asCluster StandIn.asEngine 2 (keepsTo_standIn judge)
      (.turn (cluster, judge) reached_migrated) rfl (Prod.ext hreport rfl : first = (_, _))
      hexchanges (by rw [hlisted]; decide +kernel) hplays (rfl : judge = judge)
      first.2.scheduler.completed first.2.scheduler.metrics
  have hsecond : second = (.ok report', t) := hagain
  change first.2.world.calls = migrated.world.calls ++ calls at hcalls
  rw [hsecond]
  refine ⟨report', calls, rfl, hcalls, ?_, hretries, hcaches, hvalidated, hdeleted, ?_⟩
  · have hall : (Engine.failures first.2.world.calls).length = 1 := by decide +kernel
    have hnone : Engine.failures migrated.world.calls = [] := by
      apply List.eq_nil_of_length_eq_zero
      decide +kernel
    rwa [hcalls, Engine.failures_append, hnone, List.nil_append] at hall
  · rw [hcount, hlisted]
    decide +kernel

end Sample

end ComplianceScanner
