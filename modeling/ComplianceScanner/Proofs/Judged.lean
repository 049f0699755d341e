import ComplianceScanner.Proofs.InUse
import ComplianceScanner.Proofs.Mirrored

/-!
# What a judgement publishes

A judgement works on the series of one object: it puts out those of the checks that fail, takes in
those of the checks that pass, and comes to no other. Two such acts for objects with different labels
do not get into each other's way, in whatever order they are done.

The exception is an object that is left to its owner. Nothing is published for it, but what an earlier
judgement has published stays.
-/

namespace ComplianceScanner

namespace CheckEngine

theorem eq_of_forall_get?_eq {engine other : CheckEngine} (henabled : engine.enabled = other.enabled)
    (hgeneration : engine.generation = other.generation)
    (hget : ∀ key, engine.gauge.get? key = other.gauge.get? key) : engine = other := by
  obtain ⟨enabled, generation, gauge⟩ := engine
  obtain ⟨enabled', generation', gauge'⟩ := other
  have hgauge : gauge = gauge' := CheckGauge.eq_of_forall_get?_eq hget
  simp_all

/-! ### Acts that are confined to one object -/

/-- The act works on series with these labels only, and looks at no others. -/
structure ConfinedTo (labels : ObjectLabels) (act : CheckEngine → CheckEngine) : Prop where
  enabled : ∀ engine, (act engine).enabled = engine.enabled
  generation : ∀ engine, (act engine).generation = engine.generation
  frame : ∀ engine key, key.labels ≠ labels →
    (act engine).gauge.get? key = engine.gauge.get? key
  congr : ∀ engine other key, engine.enabled = other.enabled →
    engine.gauge.get? key = other.gauge.get? key →
    (act engine).gauge.get? key = (act other).gauge.get? key

namespace ConfinedTo

variable {labels labels' : ObjectLabels} {act act' : CheckEngine → CheckEngine}

theorem comp (h : ConfinedTo labels act) (h' : ConfinedTo labels act') :
    ConfinedTo labels fun engine => act (act' engine) where
  enabled engine := (h.enabled _).trans (h'.enabled engine)
  generation engine := (h.generation _).trans (h'.generation engine)
  frame engine key hkey := (h.frame _ key hkey).trans (h'.frame engine key hkey)
  congr engine other key henabled hget := by
    refine h.congr _ _ key ?_ (h'.congr engine other key henabled hget)
    rw [h'.enabled, h'.enabled, henabled]

/-- A series of the one object is left alone by the act for the other, before it or after it. -/
theorem comm (h : ConfinedTo labels act) (h' : ConfinedTo labels' act') (hne : labels ≠ labels')
    (engine : CheckEngine) : act (act' engine) = act' (act engine) := by
  apply eq_of_forall_get?_eq
  · rw [h.enabled, h'.enabled, h'.enabled, h.enabled]
  · rw [h.generation, h'.generation, h'.generation, h.generation]
  · intro key
    by_cases hkey : key.labels = labels
    · have hkey' : key.labels ≠ labels' := fun heq => hne (hkey.symm.trans heq)
      calc (act (act' engine)).gauge.get? key
          = (act engine).gauge.get? key :=
            h.congr _ _ key (h'.enabled engine) (h'.frame engine key hkey')
        _ = (act' (act engine)).gauge.get? key := (h'.frame _ key hkey').symm
    · calc (act (act' engine)).gauge.get? key
          = (act' engine).gauge.get? key := h.frame _ key hkey
        _ = (act' (act engine)).gauge.get? key :=
            (h'.congr _ _ key (h.enabled engine) (h.frame engine key hkey)).symm

end ConfinedTo

theorem confinedTo_deleteMetrics (labels : ObjectLabels) :
    ConfinedTo labels fun engine => engine.deleteMetrics labels where
  enabled _ := rfl
  generation _ := rfl
  frame engine key hkey := by
    rw [get?_deleteMetrics, if_neg fun h => hkey h.1]
  congr engine other key henabled hget := by
    rw [get?_deleteMetrics, get?_deleteMetrics, henabled, hget]

/-- Publishing sets or removes a series, whatever it has been, or leaves it as it is. -/
theorem get?_foldl_publish_congr (view : ObjectView) (checks : List Check)
    {gauge gauge' : CheckGauge} {key : SeriesKey} (hget : gauge.get? key = gauge'.get? key) :
    (checks.foldl (publish view) gauge).get? key =
      (checks.foldl (publish view) gauge').get? key := by
  by_cases hne : ∀ check ∈ checks, key ≠ ⟨check.name, view.labels⟩
  · rw [get?_foldl_publish_of_forall_ne view checks gauge hne,
      get?_foldl_publish_of_forall_ne view checks gauge' hne, hget]
  · push Not at hne
    obtain ⟨check, hcheck, rfl⟩ := hne
    rw [get?_foldl_publish_of_mem view checks gauge hcheck,
      get?_foldl_publish_of_mem view checks gauge' hcheck]

theorem inScope_eq_of_enabled_eq {engine other : CheckEngine}
    (henabled : engine.enabled = other.enabled) (group kind : String) :
    engine.inScope group kind = other.inScope group kind := by
  rw [inScope, inScope, henabled]

theorem confinedTo_validate (view : ObjectView) :
    ConfinedTo view.labels fun engine => (engine.validate view).2 where
  enabled engine := validate_enabled engine view
  generation engine := validate_generation engine view
  frame engine key hkey := by
    rcases validate_cases engine view with ⟨_, -, h⟩ | ⟨-, -, h⟩ | ⟨-, -, -, h⟩ | ⟨-, -, -, h⟩ <;>
      rw [h]
    · exact (confinedTo_deleteMetrics view.labels).frame engine key hkey
    · refine get?_foldl_publish_of_forall_ne view _ _ ?_
      rintro check - rfl
      exact hkey rfl
  congr engine other key henabled hget := by
    have hscope := inScope_eq_of_enabled_eq henabled view.group view.kind
    -- Which way a judgement goes hangs on the object alone.
    unfold validate
    cases view.fault? with
    | some error => exact hget
    | none =>
        simp only [hscope]
        split
        · exact hget
        · split
          · exact (confinedTo_deleteMetrics view.labels).congr engine other key henabled hget
          · exact get?_foldl_publish_congr view _ hget

/-! ### Judging again -/

theorem deleteMetrics_deleteMetrics (engine : CheckEngine) (labels : ObjectLabels) :
    (engine.deleteMetrics labels).deleteMetrics labels = engine.deleteMetrics labels := by
  refine eq_of_forall_get?_eq rfl rfl fun key => ?_
  have henabled : (engine.deleteMetrics labels).enabled = engine.enabled := rfl
  rw [get?_deleteMetrics, get?_deleteMetrics, henabled]
  split <;> rfl

theorem foldl_publish_foldl_publish (view : ObjectView) (checks : List Check) (gauge : CheckGauge) :
    checks.foldl (publish view) (checks.foldl (publish view) gauge) =
      checks.foldl (publish view) gauge := by
  refine CheckGauge.eq_of_forall_get?_eq fun key => ?_
  by_cases hne : ∀ check ∈ checks, key ≠ ⟨check.name, view.labels⟩
  · rw [get?_foldl_publish_of_forall_ne view checks _ hne]
  · push Not at hne
    obtain ⟨check, hcheck, rfl⟩ := hne
    rw [get?_foldl_publish_of_mem view checks _ hcheck,
      get?_foldl_publish_of_mem view checks gauge hcheck]

theorem validate_validate (engine : CheckEngine) (view : ObjectView) :
    (engine.validate view).2.validate view = engine.validate view := by
  have hscope : ∀ gauge, { engine with gauge }.inScope view.group view.kind =
      engine.inScope view.group view.kind := fun _ => rfl
  unfold validate
  cases view.fault? with
  | some error => rfl
  | none =>
      simp only
      split
      · rfl
      · split
        · simp only [deleteMetrics_deleteMetrics]
        · simp only [hscope, foldl_publish_foldl_publish]

theorem faults_ne_nil_iff (engine : CheckEngine) (view : ObjectView) :
    view.faults engine.enabled ≠ [] ↔
      ∃ check ∈ engine.inScope view.group view.kind,
        (check.evaluate view.kind view.data).isSome = true := by
  simp [ObjectView.faults, inScope, and_assoc, Option.isSome_iff_ne_none]

/-- A judgement that fails changes nothing. One that does not pass the object over leaves the series of
each check in scope with the value 1 if the object fails the check and takes it in if it does not, says
in the outcome whether there is such a failure, and changes no other series. A second judgement of the
same object changes nothing, and objects with different labels may be judged in either order. -/
theorem validate_mirrors (engine : CheckEngine) (view : ObjectView) :
    let judged := engine.validate view
    let checks := engine.inScope view.group view.kind
    (∀ error, judged.1 = .error error → judged.2 = engine) ∧
    (∀ outcome, judged.1 = .ok outcome → outcome ≠ .ignored →
      (∀ check ∈ checks, judged.2.gauge.get? ⟨check.name, view.labels⟩ =
        if (check.evaluate view.kind view.data).isSome then some 1 else none) ∧
      (outcome = .needsImprovement ↔
        ∃ check ∈ checks, (check.evaluate view.kind view.data).isSome = true) ∧
      ∀ key, (key.labels ≠ view.labels ∨ ∀ check ∈ checks, check.name ≠ key.check) →
        judged.2.gauge.get? key = engine.gauge.get? key) ∧
    judged.2.validate view = judged ∧
    ∀ other : ObjectView, other.labels ≠ view.labels →
      (judged.2.validate other).2 = ((engine.validate other).2.validate view).2 ∧
      (judged.2.validate other).1 = (engine.validate other).1 ∧
      ((engine.validate other).2.validate view).1 = judged.1 := by
  intro judged checks
  refine ⟨fun error herror => validate_snd_of_error herror, ?_, validate_validate engine view, ?_⟩
  · intro outcome houtcome hjudged
    rcases validate_cases engine view with ⟨_, -, h⟩ | ⟨-, -, h⟩ | ⟨-, -, -, h⟩ | ⟨-, -, -, h⟩ <;>
      simp only [judged, h] at houtcome ⊢
    · cases houtcome
    · exact absurd (Except.ok.inj houtcome).symm hjudged
    · exact absurd (Except.ok.inj houtcome).symm hjudged
    · refine ⟨fun check hcheck => get?_foldl_publish_of_mem view checks engine.gauge hcheck, ?_, ?_⟩
      · rw [← faults_ne_nil_iff, ← Except.ok.inj houtcome]
        by_cases hnil : view.faults engine.enabled = [] <;> simp [hnil]
      · intro key hkey
        refine get?_foldl_publish_of_forall_ne view checks engine.gauge ?_
        rintro check hcheck rfl
        rcases hkey with hlabels | hname
        · exact hlabels rfl
        · exact hname check hcheck rfl
  · intro other hne
    refine ⟨(confinedTo_validate other).comm (confinedTo_validate view) hne engine, ?_, ?_⟩
    · rw [validate_fst, validate_fst, validate_enabled]
    · rw [validate_fst, validate_fst, validate_enabled]

end CheckEngine

namespace Sample

/-- Of two namespaces each has a workload of the same name. What is out for a check that passes is
taken in, and what is out for a check that is not enabled stays. -/
theorem validate_mirrors_web :
    let view (namespaceUid : String) : ObjectView :=
      ⟨deployment "apps", web "uid-1" "1", namespaceUid⟩
    let labels := (view "ns-1").labels
    let engine : CheckEngine :=
      { enabled := [.hostPid, .hostIpc]
        gauge := (({} : CheckGauge).set ⟨"host-ipc", labels⟩ 1).set ⟨"latest-tag", labels⟩ 1 }
    let judged := engine.validate (view "ns-1")
    judged.1 = .ok .needsImprovement ∧
      judged.2.gauge.get? ⟨"host-pid", labels⟩ = some 1 ∧
      judged.2.gauge.get? ⟨"host-ipc", labels⟩ = none ∧
      judged.2.gauge.get? ⟨"latest-tag", labels⟩ = some 1 ∧
      (judged.2.validate (view "ns-2")).2 =
        ((engine.validate (view "ns-2")).2.validate (view "ns-1")).2 := by
  intro view labels engine judged
  obtain ⟨-, hseries, -, hswap⟩ := CheckEngine.validate_mirrors engine (view "ns-1")
  have houtcome : judged.1 = .ok .needsImprovement := by decide +kernel
  obtain ⟨hscope, -, hframe⟩ := hseries .needsImprovement houtcome (by decide)
  have hpid := hscope .hostPid (by decide +kernel)
  have hipc := hscope .hostIpc (by decide +kernel)
  have htag := hframe ⟨"latest-tag", labels⟩ (.inr (by decide +kernel))
  refine ⟨houtcome, ?_, ?_, ?_, (hswap (view "ns-2") (by decide)).1⟩
  · exact hpid.trans (if_pos (by decide +kernel))
  · exact hipc.trans (if_neg (by decide +kernel))
  · exact htag.trans (by decide +kernel)

end Sample

namespace CheckEngine

/-! ### What is left of an object that is passed over -/

/-- Judging the object brings about this series, as that of a check that fails. -/
def Publishes (engine : CheckEngine) (view : ObjectView) (key : SeriesKey) : Prop :=
  (engine.validate view).1 = .ok .needsImprovement ∧
    ∃ check ∈ view.faults engine.enabled, key = ⟨check.name, view.labels⟩

variable {engine : CheckEngine} {key : SeriesKey} {value : Int64}

theorem perform_published (horderly : engine.Orderly) {use : Use}
    (hvalue : (engine.perform use).gauge.get? key = some value) :
    engine.gauge.get? key = some value ∨
      ∃ view, use = .validate view ∧ engine.Publishes view key := by
  cases use with
  | validate view =>
      cases houtcome : (engine.validate view).1 with
      | error error =>
          rw [perform, validate_snd_of_error houtcome] at hvalue
          exact .inl hvalue
      | ok outcome =>
          rcases get?_validate_cases horderly houtcome hvalue with
            ⟨rfl, check, hcheck, hkey⟩ | ⟨hbefore, -⟩
          · exact .inr ⟨view, rfl, houtcome, check, hcheck, hkey⟩
          · exact .inl hbefore
  | deleteMetrics labels =>
      rw [perform, horderly.get?_deleteMetrics] at hvalue
      split at hvalue
      · cases hvalue
      · exact .inl hvalue
  | reload selection =>
      rcases reload_cases engine selection with ⟨hsame, -⟩ | ⟨enabled, hreload⟩
      · rw [perform, hsame] at hvalue
        exact .inl hvalue
      · rw [perform, hreload] at hvalue
        simp at hvalue

/-- Every series that is out has been published by a judgement on the way. -/
theorem performAll_published (hgauge : engine.gauge = {}) (uses : List Use)
    (hvalue : (engine.performAll uses).gauge.get? key = some value) :
    ∃ before earlier after, uses = before ++ .validate earlier :: after ∧
      (engine.performAll before).Publishes earlier key := by
  induction uses using List.reverseRecOn with
  | nil => simp [performAll, hgauge] at hvalue
  | append_singleton uses use ih =>
      rw [performAll, List.foldl_append] at hvalue
      have horderly := (orderly_of_gauge_empty hgauge).performAll uses
      rcases perform_published horderly hvalue with hbefore | ⟨view, rfl, hpublishes⟩
      · obtain ⟨before, earlier, after, rfl, hpublishes⟩ := ih hbefore
        exact ⟨before, earlier, after ++ [use], by simp, hpublishes⟩
      · exact ⟨uses, view, [], rfl, hpublishes⟩

/-- Of the two ways to be passed over only one takes in what is out. -/
theorem get?_validate_of_ignored (horderly : engine.Orderly) {view : ObjectView}
    (hignored : (engine.validate view).1 = .ok .ignored) (hlabels : key.labels = view.labels) :
    (engine.validate view).2.gauge.get? key =
      if view.isLeftToOwner = true then engine.gauge.get? key else none := by
  rcases validate_cases engine view with
    ⟨_, -, h⟩ | ⟨-, hleft, h⟩ | ⟨-, hleft, -, h⟩ | ⟨-, -, -, h⟩ <;> rw [h] at hignored ⊢
  · cases hignored
  · rw [if_pos hleft]
  · rw [horderly.get?_deleteMetrics, if_pos hlabels, if_neg (by simp [hleft])]
  · split at hignored <;> cases hignored

/-- From an empty gauge on, an object that is passed over has no series afterwards, unless it is left
to its owner and has had one before. Then the series is that of a check that the object, or one with
its labels, has failed in an earlier judgement. -/
theorem ignored_published_iff (hgauge : engine.gauge = {}) (uses : List Use) {view : ObjectView}
    (hignored : ((engine.performAll uses).validate view).1 = .ok .ignored) :
    let used := engine.performAll uses
    let judged := used.validate view
    ((∀ key, key.labels = view.labels → judged.2.gauge.get? key = none) ↔
      (view.isLeftToOwner = true →
        ∀ key, key.labels = view.labels → used.gauge.get? key = none)) ∧
    ∀ key value, key.labels = view.labels → judged.2.gauge.get? key = some value →
      view.isLeftToOwner = true ∧ used.gauge.get? key = some value ∧
      ∃ before earlier after, uses = before ++ .validate earlier :: after ∧
        (engine.performAll before).Publishes earlier key := by
  intro used judged
  have horderly : used.Orderly := (orderly_of_gauge_empty hgauge).performAll uses
  have hafter : ∀ key, key.labels = view.labels → judged.2.gauge.get? key =
      if view.isLeftToOwner = true then used.gauge.get? key else none :=
    fun key hlabels => get?_validate_of_ignored horderly hignored hlabels
  by_cases hleft : view.isLeftToOwner = true
  · simp only [if_pos hleft] at hafter
    refine ⟨⟨fun hnone _ key hlabels => (hafter key hlabels).symm.trans (hnone key hlabels),
      fun hnone key hlabels => (hafter key hlabels).trans (hnone hleft key hlabels)⟩, ?_⟩
    intro key value hlabels hvalue
    have hbefore := (hafter key hlabels).symm.trans hvalue
    exact ⟨hleft, hbefore, performAll_published hgauge uses hbefore⟩
  · simp only [if_neg hleft] at hafter
    refine ⟨iff_of_true hafter fun h => absurd h hleft, ?_⟩
    intro key value hlabels hvalue
    rw [hafter key hlabels] at hvalue
    cases hvalue

end CheckEngine

namespace Sample

/-- The workload is handed over to a deployment while its series is out. -/
theorem ignored_published_iff_adoption :
    let engine : CheckEngine := { enabled := [.hostPid] }
    let free : ObjectView := ⟨deployment "apps", web "uid-1" "1", "ns-1"⟩
    let owned : ObjectView :=
      ⟨deployment "apps", { web "uid-1" "2" with owners := [⟨"apps/v1", "Deployment"⟩] }, "ns-1"⟩
    let used := engine.performAll [.validate free]
    let key : SeriesKey := ⟨"host-pid", owned.labels⟩
    engine.gauge = {} ∧ (used.validate owned).1 = .ok .ignored ∧
      (used.validate owned).2.gauge.get? key = some 1 ∧ owned.isLeftToOwner = true ∧
      ¬ ∀ key, key.labels = owned.labels → (used.validate owned).2.gauge.get? key = none := by
  intro engine free owned used key
  have hempty : engine.gauge = {} := rfl
  have hignored : (used.validate owned).1 = .ok .ignored := by decide +kernel
  have hout : (used.validate owned).2.gauge.get? key = some 1 := by decide +kernel
  obtain ⟨hiff, hleft⟩ := CheckEngine.ignored_published_iff hempty [.validate free] hignored
  obtain ⟨howner, hbefore, -⟩ := hleft key 1 rfl hout
  refine ⟨hempty, hignored, hout, howner, fun hnone => ?_⟩
  exact absurd (hbefore.symm.trans (hiff.mp hnone howner key rfl)) (by simp)

end Sample

end ComplianceScanner
