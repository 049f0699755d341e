import ComplianceScanner.Proofs.Recorded
import ComplianceScanner.Proofs.Series
import ComplianceScanner.Proofs.Tallies

/-!
# Moments at which all is settled

Once every object that an attempt lists has been taken up, doing the same deeds again changes no
entry: an object with an entry is a hit, and one without an entry is one that the engine fails at. So
long as the engine goes by the same rules only the latter are judged again, with the same result.
-/

namespace ComplianceScanner

variable {World : Type}

namespace Engine

structure Rules where
  supports : String → String → Bool
  generation : UInt64
  verdict : ObjectView → Except ScanError Outcome

/-- While this holds of the world the engine goes by the rules, whatever it is asked to do. -/
structure KeepsTo (engine : Engine World) (rules : Rules) (holds : World → Prop) : Prop where
  supports_eq : ∀ world, holds world → engine.supports world = rules.supports
  generation_eq : ∀ world, holds world → engine.generation world = rules.generation
  verdict_eq : ∀ view world, holds world → (engine.validate view world).1 = rules.verdict view
  validate : ∀ view world, holds world → holds (engine.validate view world).2
  deleteMetrics : ∀ labels world, holds world → holds (engine.deleteMetrics labels world)

theorem KeepsTo.deleteAll {engine : Engine World} {rules : Rules} {holds : World → Prop}
    (hkeeps : engine.KeepsTo rules holds) (labels : List ObjectLabels) {world : World}
    (hholds : holds world) : holds (engine.deleteAll labels world) := by
  induction labels generalizing world with
  | nil => exact hholds
  | cons first labels ih => exact ih (hkeeps.deleteMetrics first world hholds)

end Engine

/-- The engine of checks goes by the checks that are enabled until it is reloaded. -/
theorem CheckEngine.keepsTo (engine : CheckEngine) :
    CheckEngine.asEngine.KeepsTo
      ⟨engine.supports, engine.generation, CheckEngine.verdict engine.enabled⟩
      fun other => other.enabled = engine.enabled ∧ other.generation = engine.generation where
  supports_eq other hsame := by
    funext group kind
    change other.supports group kind = engine.supports group kind
    rw [CheckEngine.supports, CheckEngine.supports, hsame.1]
  generation_eq other hsame := hsame.2
  verdict_eq view other hsame := by
    rw [← hsame.1]
    exact CheckEngine.validate_fst other view
  validate view other hsame :=
    ⟨(CheckEngine.validate_enabled other view).trans hsame.1,
      (CheckEngine.validate_generation other view).trans hsame.2⟩
  deleteMetrics labels other hsame := hsame

namespace ObjectView

/-- The object has a name but no entry. -/
def isLeft (caches : CacheSet) (view : ObjectView) : Bool :=
  view.subject?.any fun subject => (caches.entryFor? subject).isNone

/-- What is cached of the object is what taking it up once more would leave. -/
def IsSettled (rules : Engine.Rules) (caches : CacheSet) (view : ObjectView) : Prop :=
  ∀ subject, view.subject? = some subject →
    match caches.entryFor? subject with
    | some entry => entry.resourceVersion = view.resourceVersion
    | none => ∃ error, rules.verdict view = .error error

section

variable {rules : Engine.Rules} {caches caches' : CacheSet} {view : ObjectView}
  (hentry : ∀ subject, view.subject? = some subject →
    caches'.entryFor? subject = caches.entryFor? subject)
include hentry

theorem isLeft_congr : view.isLeft caches' = view.isLeft caches := by
  unfold isLeft
  cases hsubject : view.subject? with
  | none => rfl
  | some subject => rw [Option.any_some, Option.any_some, hentry subject hsubject]

theorem IsSettled.congr (hsettled : view.IsSettled rules caches) :
    view.IsSettled rules caches' := by
  intro subject hsubject
  rw [hentry subject hsubject]
  exact hsettled subject hsubject

end

variable (caches : CacheSet) {view : ObjectView}

theorem isLeft_of_subject?_eq_none (hsubject : view.subject? = none) :
    view.isLeft caches = false := by
  simp [isLeft, hsubject]

theorem isLeft_of_subject? {subject : Subject} (hsubject : view.subject? = some subject) :
    view.isLeft caches = (caches.entryFor? subject).isNone := by
  simp [isLeft, hsubject]

end ObjectView

/-- The calls for the objects that are left without an entry. -/
def retries (rules : Engine.Rules) (caches : CacheSet) (views : List ObjectView) :
    List Engine.Call :=
  (views.filter (·.isLeft caches)).flatMap fun view =>
    [.validated view (rules.verdict view), .deleted view.labels]

theorem retries_append (rules : Engine.Rules) (caches : CacheSet) (views later : List ObjectView) :
    retries rules caches (views ++ later) =
      retries rules caches views ++ retries rules caches later := by
  simp [retries]

theorem retries_congr (rules : Engine.Rules) {caches caches' : CacheSet}
    (hentry : ∀ subject, caches'.entryFor? subject = caches.entryFor? subject)
    (views : List ObjectView) : retries rules caches' views = retries rules caches views := by
  have hleft : ∀ view ∈ views, view.isLeft caches' = view.isLeft caches :=
    fun view _ => ObjectView.isLeft_congr fun subject _ => hentry subject
  rw [retries, retries, List.filter_congr hleft]

namespace Moment

section

variable (cluster : Cluster World) (engine : Engine World) {m : Moment World}

/-- A spared object keeps its entry while it is not taken up. -/
theorem entryFor?_apply_of_untaken (hkeyed : m.caches.Keyed) {deed : Deed}
    {subjects : List Subject} (hspares : deed.Spares subjects) {subject : Subject}
    (hsubject : subject ∈ subjects) (huntaken : subject ∉ Deed.subjects [deed]) :
    (m.apply cluster engine deed).caches.entryFor? subject = m.caches.entryFor? subject := by
  cases hview : deed.view? with
  | none => exact entryFor?_apply_of_spares cluster engine hkeyed hview hspares hsubject
  | some view =>
      rcases entryFor?_apply_of_notMem cluster engine hkeyed huntaken with ⟨hnone, -⟩ | hsame
      · exact absurd (hview.symm.trans hnone) (Option.some_ne_none _)
      · exact hsame

theorem entryFor?_applyAll_of_untaken (hkeyed : m.caches.Keyed) {deeds : List Deed}
    {subjects : List Subject} (hspares : ∀ deed ∈ deeds, deed.Spares subjects) {subject : Subject}
    (hsubject : subject ∈ subjects) (huntaken : subject ∉ Deed.subjects deeds) :
    (m.applyAll cluster engine deeds).caches.entryFor? subject = m.caches.entryFor? subject := by
  induction deeds generalizing m with
  | nil => rfl
  | cons deed deeds ih =>
      rw [← List.singleton_append, Deed.subjects_append, List.mem_append, not_or] at huntaken
      rw [applyAll_cons, ih (apply_keyed cluster engine hkeyed deed)
        (fun later hlater => hspares later (List.mem_cons_of_mem _ hlater)) huntaken.2]
      exact entryFor?_apply_of_untaken cluster engine hkeyed (hspares deed List.mem_cons_self)
        hsubject huntaken.1

end

variable {cluster : Cluster World} {engine : Engine World} {rules : Engine.Rules}
  {holds : World → Prop} {m : Moment (Journaled World)}
  (hkeeps : engine.KeepsTo rules holds)
  (hasks : ∀ call world, holds world → holds (cluster.after call world))

include hkeeps hasks in
theorem apply_holds (hkeyed : m.caches.Keyed) (hholds : holds m.world.world) (deed : Deed) :
    holds (m.apply cluster.journaled engine.journaled deed).world.world := by
  generalize hnext : m.apply cluster.journaled engine.journaled deed = m'
  cases hnext ▸ apply_change cluster.journaled engine.journaled hkeyed deed with
  | idle hview hgeneration hworld hentry => exact hworld ▸ hholds
  | asked hgeneration hworld hentry =>
      rw [hworld, Cluster.after_journaled]
      exact hasks _ _ hholds
  | dropped gone hview hgeneration hworld hentry hgone =>
      rw [hworld, Engine.deleteAll_journaled]
      exact hkeeps.deleteAll gone hholds
  | hit hsubject hheld hversion hgeneration hworld hentry => exact hworld ▸ hholds
  | @stored view _ subject outcome hsubject hdue hgeneration hworld hentry =>
      rw [Engine.validate_journaled] at hworld
      rw [← (Prod.mk.inj hworld).2]
      exact hkeeps.validate view _ hholds
  | @failed view _ subject error world hsubject hdue hgeneration hvalidate hworld hentry =>
      rw [Engine.validate_journaled] at hvalidate
      rw [hworld, Engine.deleteMetrics_journaled, ← (Prod.mk.inj hvalidate).2]
      exact hkeeps.deleteMetrics _ _ (hkeeps.validate view _ hholds)

include hkeeps hasks in
theorem applyAll_holds (hkeyed : m.caches.Keyed) (hholds : holds m.world.world)
    (deeds : List Deed) :
    holds (m.applyAll cluster.journaled engine.journaled deeds).world.world := by
  induction deeds generalizing m with
  | nil => exact hholds
  | cons deed deeds ih =>
      exact ih (apply_keyed _ _ hkeyed deed) (apply_holds hkeeps hasks hkeyed hholds deed)

/-! ### The first pass settles all objects -/

include hkeeps in
/-- Taking up an object settles it, and the engine has failed at it if it is left. -/
theorem take_settles (hkeyed : m.caches.Keyed) (hholds : holds m.world.world) {view : ObjectView}
    {m' : Moment (Journaled World)}
    (hnext : m.apply cluster.journaled engine.journaled (.take view) = m') :
    view.IsSettled rules m'.caches ∧
      ∃ calls, m'.world.calls = m.world.calls ++ calls ∧
        Engine.failures calls = [view].filter (·.isLeft m'.caches) := by
  have hverdict := hkeeps.verdict_eq view m.world.world hholds
  cases hnext ▸ take_change cluster.journaled engine.journaled hkeyed view with
  | idle hview hgeneration hworld hentry =>
      have hnone := hview view rfl
      refine ⟨fun subject hsubject => ?_, [], by rw [hworld, List.append_nil], ?_⟩
      · exact absurd (hsubject.symm.trans hnone) (Option.some_ne_none _)
      · rw [List.filter, ObjectView.isLeft_of_subject?_eq_none _ hnone]
        rfl
  | dropped gone hview hgeneration hworld hentry hgone => cases hview
  | @hit _ _ subject entry hsubject hheld hversion hgeneration hworld hentry =>
      have hafter := (hentry subject).trans hheld
      refine ⟨fun other hother => ?_, [], by rw [hworld, List.append_nil], ?_⟩
      · cases hsubject.symm.trans hother
        rw [hafter]
        exact hversion
      · rw [List.filter, ObjectView.isLeft_of_subject? _ hsubject, hafter]
        rfl
  | @stored _ _ subject outcome hsubject hdue hgeneration hworld hentry =>
      have hafter := (hentry subject).trans (if_pos rfl)
      rw [Engine.validate_journaled] at hworld
      obtain ⟨hresult, hworld⟩ := Prod.mk.inj hworld
      refine ⟨fun other hother => ?_, [.validated view (.ok outcome)], ?_, ?_⟩
      · cases hsubject.symm.trans hother
        rw [hafter]
        rfl
      · rw [← hworld, hresult]
      · rw [List.filter, ObjectView.isLeft_of_subject? _ hsubject, hafter]
        rfl
  | @failed _ _ subject error world hsubject hdue hgeneration hvalidate hworld hentry =>
      have hafter := (hentry subject).trans (if_pos rfl)
      rw [Engine.validate_journaled] at hvalidate
      obtain ⟨hresult, hvalidate⟩ := Prod.mk.inj hvalidate
      refine ⟨fun other hother => ?_,
        [.validated view (.error error), .deleted view.labels], ?_, ?_⟩
      · cases hsubject.symm.trans hother
        rw [hafter]
        exact ⟨error, hverdict.symm.trans hresult⟩
      · rw [hworld, Engine.deleteMetrics_journaled, ← hvalidate, hresult, List.append_assoc]
        rfl
      · rw [List.filter, ObjectView.isLeft_of_subject? _ hsubject, hafter]
        rfl

include hkeeps in
theorem apply_settles (hkeyed : m.caches.Keyed) (hholds : holds m.world.world) (deed : Deed) :
    let m' := m.apply cluster.journaled engine.journaled deed
    (∀ view ∈ [deed].filterMap Deed.view?, view.IsSettled rules m'.caches) ∧
      ∃ calls, m'.world.calls = m.world.calls ++ calls ∧
        Engine.failures calls = ([deed].filterMap Deed.view?).filter (·.isLeft m'.caches) := by
  intro m'
  cases hview : deed.view? with
  | none =>
      rw [List.filterMap_cons_none hview]
      refine ⟨fun _ hmem => absurd hmem List.not_mem_nil, _,
        m.calls_apply_of_view?_eq_none cluster engine hview, ?_⟩
      exact Engine.failures_map_deleted _
  | some view =>
      obtain rfl := Deed.eq_take hview
      obtain ⟨hsettled, hcalls⟩ := take_settles hkeeps hkeyed hholds rfl
      refine ⟨fun other hother => ?_, hcalls⟩
      exact List.mem_singleton.mp hother ▸ hsettled

include hkeeps hasks in
/-- A pass in which no object is listed twice settles each of them, whatever was cached before. It
leaves those that the engine has failed at on the way. -/
theorem applyAll_settles (hkeyed : m.caches.Keyed) (hholds : holds m.world.world)
    {deeds : List Deed} {subjects : List Subject} (hspares : ∀ deed ∈ deeds, deed.Spares subjects)
    (hshown : Deed.subjects deeds ⊆ subjects) (hnodup : (Deed.subjects deeds).Nodup) :
    let m' := m.applyAll cluster.journaled engine.journaled deeds
    (∀ view ∈ deeds.filterMap Deed.view?, view.IsSettled rules m'.caches) ∧
      ∃ calls, m'.world.calls = m.world.calls ++ calls ∧
        Engine.failures calls = (deeds.filterMap Deed.view?).filter (·.isLeft m'.caches) := by
  induction deeds generalizing m with
  | nil => exact ⟨fun _ hmem => absurd hmem List.not_mem_nil, [], (List.append_nil _).symm, rfl⟩
  | cons deed deeds ih =>
      rw [← List.singleton_append, Deed.subjects_append] at hshown hnodup
      obtain ⟨hfirst, hlater⟩ := List.append_subset.mp hshown
      obtain ⟨-, hnodup', hdisjoint⟩ := List.nodup_append.mp hnodup
      have hspares' : ∀ later ∈ deeds, later.Spares subjects :=
        fun later hmem => hspares later (List.mem_cons_of_mem _ hmem)
      have hkeyed' := apply_keyed cluster.journaled engine.journaled hkeyed deed
      obtain ⟨hsettled, calls, hcalls, hfailures⟩ :=
        apply_settles hkeeps hkeyed hholds deed
      obtain ⟨hsettled', calls', hcalls', hfailures'⟩ :=
        ih hkeyed' (apply_holds hkeeps hasks hkeyed hholds deed) hspares' hlater hnodup'
      -- The object is not listed again, so what the deed has left of it stays until the end.
      have hkept : ∀ view ∈ [deed].filterMap Deed.view?, ∀ subject, view.subject? = some subject →
          (m.applyAll cluster.journaled engine.journaled (deed :: deeds)).caches.entryFor? subject =
            (m.apply cluster.journaled engine.journaled deed).caches.entryFor? subject := by
        intro view hview subject hsubject
        have hmem : subject ∈ Deed.subjects [deed] :=
          List.mem_filterMap.mpr ⟨view, hview, hsubject⟩
        exact entryFor?_applyAll_of_untaken _ _ hkeyed' hspares' (hfirst hmem)
          fun hagain => hdisjoint subject hmem subject hagain rfl
      rw [applyAll_cons, ← List.singleton_append, List.filterMap_append]
      refine ⟨fun view hview => ?_, calls ++ calls', ?_, ?_⟩
      · rcases List.mem_append.mp hview with hview | hview
        · exact (hsettled view hview).congr (hkept view hview)
        · exact hsettled' view hview
      · rw [hcalls', hcalls, List.append_assoc]
      · rw [Engine.failures_append, hfailures, hfailures', List.filter_append]
        congr 1
        refine List.filter_congr fun view hview => ?_
        exact (ObjectView.isLeft_congr (hkept view hview)).symm

/-! ### Further passes -/

/-- All these objects are settled, and no others have entries. -/
structure AtRest (rules : Engine.Rules) (holds : World → Prop) (subjects : List Subject)
    (views : List ObjectView) (m : Moment (Journaled World)) : Prop where
  keyed : m.caches.Keyed
  holds : holds m.world.world
  settled : ∀ view ∈ views, view.IsSettled rules m.caches
  unlisted : ∀ subject ∉ subjects, m.caches.entryFor? subject = none

namespace AtRest

variable {subjects : List Subject} {views : List ObjectView}
  (hrest : m.AtRest rules holds subjects views)
include hrest

include hkeeps in
/-- A settled object is not found to be valid or in need of improvement once more. -/
theorem not_validated {view : ObjectView} (hview : view ∈ views) {subject : Subject}
    (hsubject : view.subject? = some subject)
    (hdue : ∀ entry, m.caches.entryFor? subject = some entry →
      entry.resourceVersion ≠ view.resourceVersion) (outcome : Outcome) :
    (engine.journaled.validate view m.world).1 ≠ .ok outcome := by
  intro hok
  have hsettled := hrest.settled view hview subject hsubject
  cases hentry : m.caches.entryFor? subject with
  | some entry =>
      rw [hentry] at hsettled
      exact hdue entry hentry hsettled
  | none =>
      rw [hentry] at hsettled
      obtain ⟨error, herror⟩ := hsettled
      rw [Engine.validate_journaled, hkeeps.verdict_eq view _ hrest.holds, herror] at hok
      cases hok

theorem entryFor?_apply_of_view?_eq_none {deed : Deed} (hview : deed.view? = none)
    (hspares : deed.Spares subjects) (subject : Subject) :
    (m.apply cluster.journaled engine.journaled deed).caches.entryFor? subject =
      m.caches.entryFor? subject := by
  by_cases hsubject : subject ∈ subjects
  · exact entryFor?_apply_of_spares _ _ hrest.keyed hview hspares hsubject
  · have huntaken : subject ∉ Deed.subjects [deed] :=
      Deed.subjects_of_view?_eq_none hview ▸ List.not_mem_nil
    have hnone := hrest.unlisted subject hsubject
    exact (entryFor?_applyAll_eq_none _ _ hrest.keyed huntaken hnone).trans hnone.symm

theorem dropped_eq_nil (cluster : Cluster World) (engine : Engine World) {deed : Deed}
    (hview : deed.view? = none) (hspares : deed.Spares subjects) :
    m.dropped engine.journaled deed = [] := by
  rw [← List.map_eq_nil_iff (f := bySubject), List.eq_nil_iff_forall_not_mem]
  rintro ⟨subject, entry⟩ hmem
  obtain ⟨hheld, hnone⟩ :=
    (mem_dropped cluster.journaled engine.journaled hrest.keyed hview).mp hmem
  rw [hrest.entryFor?_apply_of_view?_eq_none hview hspares] at hnone
  exact Option.some_ne_none _ (hheld.symm.trans hnone)

include hkeeps in
/-- Taking up a settled object changes no entry, and asks for nothing but what failed before. -/
theorem take {view : ObjectView} (hview : view ∈ views) {m' : Moment (Journaled World)}
    (hnext : m.apply cluster.journaled engine.journaled (.take view) = m') :
    (∀ subject, m'.caches.entryFor? subject = m.caches.entryFor? subject) ∧
      m'.world.calls = m.world.calls ++ retries rules m.caches [view] := by
  have hsettled := hrest.settled view hview
  have hverdict := hkeeps.verdict_eq view m.world.world hrest.holds
  cases hnext ▸ take_change cluster.journaled engine.journaled hrest.keyed view with
  | idle hnone hgeneration hworld hentry =>
      have hleft := ObjectView.isLeft_of_subject?_eq_none m.caches (hnone view rfl)
      refine ⟨hentry, ?_⟩
      rw [hworld, retries, List.filter, hleft]
      exact (List.append_nil _).symm
  | dropped gone hnone hgeneration hworld hentry hgone => cases hnone
  | @hit _ _ subject entry hsubject hheld hversion hgeneration hworld hentry =>
      have hleft := ObjectView.isLeft_of_subject? m.caches hsubject
      rw [hheld] at hleft
      refine ⟨hentry, ?_⟩
      rw [hworld, retries, List.filter, hleft]
      exact (List.append_nil _).symm
  | @stored _ _ subject outcome hsubject hdue hgeneration hworld hentry =>
      exact absurd (congrArg Prod.fst hworld)
        (hrest.not_validated hkeeps hview hsubject hdue outcome)
  | @failed _ _ subject error world hsubject hdue hgeneration hvalidate hworld hentry =>
      have hnone : m.caches.entryFor? subject = none := by
        rw [Option.eq_none_iff_forall_ne_some]
        intro entry hheld
        have hversion := hsettled subject hsubject
        rw [hheld] at hversion
        exact hdue entry hheld hversion
      have hleft := ObjectView.isLeft_of_subject? m.caches hsubject
      rw [hnone] at hleft
      rw [Engine.validate_journaled] at hvalidate
      refine ⟨fun other => ?_, ?_⟩
      · rw [hentry other]
        split
        · rename_i heq
          exact heq ▸ hnone.symm
        · rfl
      · rw [hworld, Engine.deleteMetrics_journaled, ← (Prod.mk.inj hvalidate).2, hverdict, retries,
          List.filter, hleft, List.append_assoc]
        rfl

include hkeeps in
theorem apply (cluster : Cluster World) {deed : Deed} (hspares : deed.Spares subjects)
    (hviews : ∀ view ∈ [deed].filterMap Deed.view?, view ∈ views) :
    let m' := m.apply cluster.journaled engine.journaled deed
    (∀ subject, m'.caches.entryFor? subject = m.caches.entryFor? subject) ∧
      m'.world.calls = m.world.calls ++ retries rules m.caches ([deed].filterMap Deed.view?) ∧
      m.dropped engine.journaled deed = [] ∧ (m.tally engine.journaled deed).validated = 0 := by
  intro m'
  cases hview : deed.view? with
  | none =>
      have hdropped := hrest.dropped_eq_nil cluster engine hview hspares
      refine ⟨hrest.entryFor?_apply_of_view?_eq_none hview hspares, ?_, hdropped, ?_⟩
      · have hcalls := m.calls_apply_of_view?_eq_none cluster engine hview
        rw [hdropped] at hcalls
        rw [List.filterMap_cons_none hview]
        exact hcalls
      · rw [tally_of_view?_eq_none _ _ hview]
  | some view =>
      obtain rfl := Deed.eq_take hview
      have hmem := hviews view (List.mem_singleton_self view)
      obtain ⟨hentry, hcalls⟩ := hrest.take hkeeps hmem rfl
      refine ⟨hentry, hcalls, rfl, ?_⟩
      rcases tally_take_cases engine.journaled hrest.keyed view with ⟨-, htally⟩ |
        ⟨subject, hsubject, ⟨_, _, _, htally⟩ | ⟨outcome, hok, hdue, -⟩ | ⟨_, _, htally⟩⟩
      · rw [htally]
      · rw [htally]
      · exact absurd hok (hrest.not_validated hkeeps hmem hsubject hdue outcome)
      · rw [htally]

/-- It stays quiet while no entry changes. -/
theorem of_entryFor?_eq {m' : Moment (Journaled World)} (hkeyed : m'.caches.Keyed)
    (hholds : holds m'.world.world)
    (hentry : ∀ subject, m'.caches.entryFor? subject = m.caches.entryFor? subject) :
    m'.AtRest rules holds subjects views where
  keyed := hkeyed
  holds := hholds
  settled view hview := (hrest.settled view hview).congr fun subject _ => hentry subject
  unlisted subject hsubject := (hentry subject).trans (hrest.unlisted subject hsubject)

include hkeeps hasks in
/-- A pass over settled objects changes no entry. It asks just for what is left, in the order of the
pass, and has nothing to drop and nothing to count as validated. -/
theorem applyAll {deeds : List Deed} (hspares : ∀ deed ∈ deeds, deed.Spares subjects)
    (hviews : ∀ view ∈ deeds.filterMap Deed.view?, view ∈ views) :
    let m' := m.applyAll cluster.journaled engine.journaled deeds
    (∀ subject, m'.caches.entryFor? subject = m.caches.entryFor? subject) ∧
      m'.world.calls = m.world.calls ++ retries rules m.caches (deeds.filterMap Deed.view?) ∧
      m.droppedAll cluster.journaled engine.journaled deeds = [] ∧
      (m.tallyAll cluster.journaled engine.journaled deeds).validated = 0 := by
  induction deeds generalizing m with
  | nil => exact ⟨fun _ => rfl, (List.append_nil _).symm, rfl, rfl⟩
  | cons deed deeds ih =>
      rw [← List.singleton_append, List.filterMap_append] at hviews
      obtain ⟨hentry, hcalls, hdropped, htally⟩ := hrest.apply hkeeps cluster
        (hspares deed List.mem_cons_self)
        fun view hview => hviews view (List.mem_append_left _ hview)
      have hrest' := hrest.of_entryFor?_eq (apply_keyed _ _ hrest.keyed deed)
        (apply_holds hkeeps hasks hrest.keyed hrest.holds deed) hentry
      obtain ⟨hentry', hcalls', hdropped', htally'⟩ := ih hrest'
        (fun later hlater => hspares later (List.mem_cons_of_mem _ hlater))
        fun view hview => hviews view (List.mem_append_right _ hview)
      refine ⟨fun subject => (hentry' subject).trans (hentry subject), ?_, ?_, ?_⟩
      · rw [applyAll_cons, ← List.singleton_append, List.filterMap_append, hcalls', hcalls,
          retries_congr rules hentry, List.append_assoc, ← retries_append]
      · rw [droppedAll, hdropped, hdropped', List.append_nil]
      · rw [tallyAll, Tally.add, htally, htally']

end AtRest

end Moment

end ComplianceScanner
