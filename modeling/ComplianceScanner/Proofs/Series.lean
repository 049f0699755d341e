import ComplianceScanner.Engine.Checks
import Mathlib.Tactic.Push

/-!
# What the engine does to its series

One lemma for each operation on the check engine says which series are there afterwards. Removal
goes through the enabled checks only, so it is complete only while no series of a disabled check is
left: an engine for which that holds is called *orderly*, and every operation keeps it so.
-/

namespace ComplianceScanner

namespace Check

theorem ofName?_name (check : Check) : ofName? check.name = some check := by
  cases check <;> decide

theorem name_injective : Function.Injective name := by
  intro check other hname
  have hsome := ofName?_name check
  rw [hname, ofName?_name] at hsome
  exact (Option.some.inj hsome).symm

end Check

/-- The scopes share no kind, so a scope that has a kind in one group has it in every group in
which any check applies to it. -/
theorem CheckScope.covers_of_covers {scope other : CheckScope} {group group' kind : String}
    (hscope : scope.covers group kind = true) (hother : other.covers group' kind = true) :
    scope.covers group' kind = true := by
  cases scope <;> cases other <;> try exact hother
  · simp only [covers, Bool.and_eq_true, decide_eq_true_eq] at hscope hother
    rw [hother.2] at hscope
    simp [isDeploymentLike, deploymentLikeKinds] at hscope
  · simp only [covers, Bool.and_eq_true, decide_eq_true_eq] at hscope hother
    rw [hscope.2] at hother
    simp [isDeploymentLike, deploymentLikeKinds] at hother

namespace CheckGauge

theorem get?_set (gauge : CheckGauge) (key other : SeriesKey) (value : Int64) :
    (gauge.set key value).get? other = if key = other then some value else gauge.get? other := by
  simp only [get?, set, Std.ExtTreeMap.getElem?_insert, Std.LawfulEqOrd.compare_eq_iff_eq]

theorem get?_remove (gauge : CheckGauge) (key other : SeriesKey) :
    (gauge.remove key).get? other = if key = other then none else gauge.get? other := by
  simp only [get?, remove, Std.ExtTreeMap.getElem?_erase, Std.LawfulEqOrd.compare_eq_iff_eq]

@[simp]
theorem get?_empty (key : SeriesKey) : ({} : CheckGauge).get? key = none := by
  simp [get?]

end CheckGauge

namespace ObjectView

/-- Left out because its owner is judged in its place. -/
def isLeftToOwner (view : ObjectView) : Bool :=
  isDeploymentLike view.group view.kind && view.isManaged

/-- The checks in scope that fail for the object. -/
def faults (view : ObjectView) (checks : List Check) : List Check :=
  checks.filter fun check =>
    check.scope.covers view.group view.kind && (check.evaluate view.kind view.data).isSome

end ObjectView

namespace CheckEngine

/-- Every series has the value 1, and its check is enabled and applies to its kind in some group. -/
def Orderly (engine : CheckEngine) : Prop :=
  ∀ key value, engine.gauge.get? key = some value →
    value = 1 ∧ ∃ check ∈ engine.enabled, check.name = key.check ∧
      ∃ group, check.scope.covers group key.labels.kind = true

/-- What the enabled checks say about an object. -/
def verdict (enabled : List Check) (view : ObjectView) : Except ScanError Outcome :=
  (validate { enabled } view).1

theorem reload_cases (engine : CheckEngine) (selection : Selection) :
    ((engine.reload selection).2 = engine ∧ (engine.reload selection).1 ≠ .ok true) ∨
      ∃ enabled, engine.reload selection =
        (.ok true, { enabled, generation := engine.generation + 1, gauge := {} }) := by
  unfold reload
  split
  · exact .inl ⟨rfl, by simp⟩
  · rename_i enabled _
    split
    · exact .inl ⟨rfl, by simp⟩
    · exact .inr ⟨enabled, rfl⟩

/-- A reload that leaves the enabled checks alone does nothing at all. -/
theorem reload_of_enabled_eq {engine : CheckEngine} {selection : Selection}
    (hsame : (engine.reload selection).2.enabled = engine.enabled) :
    (engine.reload selection).2 = engine := by
  unfold reload at hsame ⊢
  cases hresolve : selection.resolve with
  | error => rfl
  | ok enabled =>
      simp only [hresolve] at hsame ⊢
      by_cases hother : enabled = engine.enabled
      · rw [if_pos hother]
      · rw [if_neg hother] at hsame
        exact absurd hsame hother

theorem generation_reload (engine : CheckEngine) (selection : Selection) :
    (engine.reload selection).2.generation = engine.generation +
      if (engine.reload selection).2.enabled = engine.enabled then 0 else 1 := by
  by_cases hsame : (engine.reload selection).2.enabled = engine.enabled
  · rw [if_pos hsame, reload_of_enabled_eq hsame, UInt64.add_zero]
  · rw [if_neg hsame]
    rcases reload_cases engine selection with ⟨hidle, -⟩ | ⟨enabled, hreload⟩
    · exact absurd (congrArg CheckEngine.enabled hidle) hsame
    · rw [hreload]

theorem failsAny_inScope (engine : CheckEngine) (view : ObjectView) :
    view.failsAny (engine.inScope view.group view.kind) =
      !decide (view.faults engine.enabled = []) := by
  rw [Bool.eq_iff_iff]
  simp [ObjectView.failsAny, inScope, ObjectView.faults, Option.isSome_iff_ne_none]

theorem validate_cases (engine : CheckEngine) (view : ObjectView) :
    (∃ error, view.fault? = some error ∧ engine.validate view = (.error error, engine)) ∨
      (view.fault? = none ∧ view.isLeftToOwner = true ∧
        engine.validate view = (.ok .ignored, engine)) ∨
      (view.fault? = none ∧ view.isLeftToOwner = false ∧ view.isScaledToZero = true ∧
        engine.validate view = (.ok .ignored, engine.deleteMetrics view.labels)) ∨
      (view.fault? = none ∧ view.isLeftToOwner = false ∧ view.isScaledToZero = false ∧
        engine.validate view =
          (.ok (if view.faults engine.enabled = [] then .valid else .needsImprovement),
            { engine with gauge :=
              (engine.inScope view.group view.kind).foldl (publish view) engine.gauge })) := by
  unfold validate
  cases hfault : view.fault? with
  | some error => exact .inl ⟨error, rfl, rfl⟩
  | none =>
      refine .inr ?_
      by_cases hleft : view.isLeftToOwner = true
      · refine .inl ⟨rfl, hleft, ?_⟩
        have hbranch : (isDeploymentLike view.group view.kind && view.isManaged) = true := hleft
        simp only [hbranch, if_true]
      · have hbranch : (isDeploymentLike view.group view.kind && view.isManaged) = false :=
          Bool.eq_false_iff.mpr hleft
        refine .inr ?_
        cases hscaled : view.isScaledToZero with
        | true => exact .inl ⟨rfl, hbranch, rfl, by simp [hbranch]⟩
        | false => exact .inr ⟨rfl, hbranch, rfl, by simp [hbranch, failsAny_inScope]⟩

theorem validate_fst (engine : CheckEngine) (view : ObjectView) :
    (engine.validate view).1 = verdict engine.enabled view := by
  unfold verdict validate
  split
  · rfl
  · split
    · rfl
    · split <;> rfl

/-- Nothing but the gauge is touched. -/
theorem exists_validate_snd_eq (engine : CheckEngine) (view : ObjectView) :
    ∃ gauge, (engine.validate view).2 = { engine with gauge } := by
  rcases validate_cases engine view with ⟨_, -, h⟩ | ⟨-, -, h⟩ | ⟨-, -, -, h⟩ | ⟨-, -, -, h⟩
  all_goals exact ⟨_, congrArg Prod.snd h⟩

theorem validate_enabled (engine : CheckEngine) (view : ObjectView) :
    (engine.validate view).2.enabled = engine.enabled := by
  obtain ⟨gauge, heq⟩ := exists_validate_snd_eq engine view
  rw [heq]

theorem validate_generation (engine : CheckEngine) (view : ObjectView) :
    (engine.validate view).2.generation = engine.generation := by
  obtain ⟨gauge, heq⟩ := exists_validate_snd_eq engine view
  rw [heq]

theorem get?_deleteMetrics (engine : CheckEngine) (labels : ObjectLabels) (key : SeriesKey) :
    (engine.deleteMetrics labels).gauge.get? key =
      if key.labels = labels ∧ ∃ check ∈ engine.enabled, check.name = key.check then none
      else engine.gauge.get? key := by
  unfold deleteMetrics
  simp only
  generalize engine.gauge = gauge
  induction engine.enabled generalizing gauge with
  | nil => simp
  | cons check checks ih =>
      rw [List.foldl_cons, ih, CheckGauge.get?_remove]
      obtain ⟨name, keyLabels⟩ := key
      by_cases hlabels : keyLabels = labels
      · by_cases hname : check.name = name
        · simp [hlabels, hname]
        · simp [hlabels, hname]
      · simp [hlabels, Ne.symm hlabels]

theorem Orderly.get?_deleteMetrics {engine : CheckEngine} (horderly : engine.Orderly)
    (labels : ObjectLabels) (key : SeriesKey) :
    (engine.deleteMetrics labels).gauge.get? key =
      if key.labels = labels then none else engine.gauge.get? key := by
  rw [CheckEngine.get?_deleteMetrics]
  by_cases hlabels : key.labels = labels
  · rw [if_pos hlabels]
    split
    · rfl
    · rename_i hnone
      rw [Option.eq_none_iff_forall_ne_some]
      intro value hvalue
      obtain ⟨-, check, hcheck, hname, -⟩ := horderly key value hvalue
      exact hnone ⟨hlabels, check, hcheck, hname⟩
  · rw [if_neg hlabels, if_neg fun h => hlabels h.1]

theorem get?_publish (view : ObjectView) (gauge : CheckGauge) (check : Check) (key : SeriesKey) :
    (publish view gauge check).get? key =
      if key = ⟨check.name, view.labels⟩ then
        if (check.evaluate view.kind view.data).isSome then some 1 else none
      else gauge.get? key := by
  unfold publish
  split
  · rw [CheckGauge.get?_set]
    simp only [eq_comm]
  · rw [CheckGauge.get?_remove]
    simp only [eq_comm]

/-- Publishing touches only the series of the object and of the checks it is published for. -/
theorem get?_foldl_publish_of_forall_ne (view : ObjectView) (checks : List Check)
    (gauge : CheckGauge) {key : SeriesKey}
    (hne : ∀ check ∈ checks, key ≠ ⟨check.name, view.labels⟩) :
    (checks.foldl (publish view) gauge).get? key = gauge.get? key := by
  induction checks generalizing gauge with
  | nil => rfl
  | cons check checks ih =>
      rw [List.foldl_cons, ih _ fun other hother => hne other (List.mem_cons_of_mem _ hother),
        get?_publish, if_neg (hne check List.mem_cons_self)]

theorem get?_foldl_publish_of_mem (view : ObjectView) (checks : List Check) (gauge : CheckGauge)
    {check : Check} (hcheck : check ∈ checks) :
    (checks.foldl (publish view) gauge).get? ⟨check.name, view.labels⟩ =
      if (check.evaluate view.kind view.data).isSome then some 1 else none := by
  induction checks generalizing gauge with
  | nil => simp at hcheck
  | cons first checks ih =>
      rw [List.foldl_cons]
      by_cases hlater : check ∈ checks
      · exact ih _ hlater
      · have hfirst : check = first := (List.mem_cons.mp hcheck).resolve_right hlater
        rw [get?_foldl_publish_of_forall_ne, get?_publish, if_pos (by rw [hfirst]), hfirst]
        intro other hother heq
        have hname : check = other := Check.name_injective (SeriesKey.mk.inj heq).1
        exact hlater (hname ▸ hother)

/-- A series that is there after publishing was there before and is of other labels or of no check
in scope, or it is that of a check that fails. -/
theorem get?_foldl_publish_cases {engine : CheckEngine} {view : ObjectView} {key : SeriesKey}
    {value : Int64}
    (hvalue : ((engine.inScope view.group view.kind).foldl (publish view) engine.gauge).get? key =
      some value) :
    (∃ check ∈ view.faults engine.enabled, key = ⟨check.name, view.labels⟩ ∧ value = 1) ∨
      (engine.gauge.get? key = some value ∧
        ∀ check ∈ engine.inScope view.group view.kind, key ≠ ⟨check.name, view.labels⟩) := by
  by_cases hne : ∀ check ∈ engine.inScope view.group view.kind, key ≠ ⟨check.name, view.labels⟩
  · rw [get?_foldl_publish_of_forall_ne view _ _ hne] at hvalue
    exact .inr ⟨hvalue, hne⟩
  · push Not at hne
    obtain ⟨check, hcheck, rfl⟩ := hne
    rw [get?_foldl_publish_of_mem view _ _ hcheck] at hvalue
    split at hvalue
    · rename_i hfails
      obtain ⟨henabled, hcovers⟩ := List.mem_filter.mp hcheck
      refine .inl ⟨check, List.mem_filter.mpr ⟨henabled, ?_⟩, rfl, (Option.some.inj hvalue).symm⟩
      simp [hcovers, hfails]
    · exact absurd hvalue (by simp)

theorem mem_faults {view : ObjectView} {checks : List Check} {check : Check} :
    check ∈ view.faults checks ↔
      check ∈ checks ∧ check.scope.covers view.group view.kind = true ∧
        (check.evaluate view.kind view.data).isSome = true := by
  simp [ObjectView.faults]

theorem get?_foldl_publish_of_mem_faults {engine : CheckEngine} {view : ObjectView}
    {check : Check} (hcheck : check ∈ view.faults engine.enabled) :
    ((engine.inScope view.group view.kind).foldl (publish view) engine.gauge).get?
      ⟨check.name, view.labels⟩ = some 1 := by
  obtain ⟨henabled, hcovers, hfails⟩ := mem_faults.mp hcheck
  have hscope : check ∈ engine.inScope view.group view.kind :=
    List.mem_filter.mpr ⟨henabled, hcovers⟩
  rw [get?_foldl_publish_of_mem view _ _ hscope, if_pos hfails]

/-- A judgement does not touch series of other labels. -/
theorem get?_validate_of_ne {engine : CheckEngine} (horderly : engine.Orderly)
    {view : ObjectView} {key : SeriesKey} (hlabels : key.labels ≠ view.labels) :
    (engine.validate view).2.gauge.get? key = engine.gauge.get? key := by
  rcases validate_cases engine view with ⟨_, -, h⟩ | ⟨-, -, h⟩ | ⟨-, -, -, h⟩ | ⟨-, -, -, h⟩ <;>
    rw [h]
  · rw [horderly.get?_deleteMetrics, if_neg hlabels]
  · refine get?_foldl_publish_of_forall_ne view _ _ ?_
    rintro check - rfl
    exact hlabels rfl

theorem get?_validate_of_mem_faults {engine : CheckEngine} {view : ObjectView}
    (houtcome : (engine.validate view).1 = .ok .needsImprovement) {check : Check}
    (hcheck : check ∈ view.faults engine.enabled) :
    (engine.validate view).2.gauge.get? ⟨check.name, view.labels⟩ = some 1 := by
  rcases validate_cases engine view with ⟨_, -, h⟩ | ⟨-, -, h⟩ | ⟨-, -, -, h⟩ | ⟨-, -, -, h⟩ <;>
    rw [h] at houtcome ⊢
  · cases houtcome
  · cases houtcome
  · cases houtcome
  · exact get?_foldl_publish_of_mem_faults hcheck

/-- A series that is there after a successful judgement is that of a check that fails for the judged
object, or it was there before and the judgement did not reach it. -/
theorem get?_validate_cases {engine : CheckEngine} (horderly : engine.Orderly)
    {view : ObjectView} {outcome : Outcome} (houtcome : (engine.validate view).1 = .ok outcome)
    {key : SeriesKey} {value : Int64}
    (hvalue : (engine.validate view).2.gauge.get? key = some value) :
    (outcome = .needsImprovement ∧
        ∃ check ∈ view.faults engine.enabled, key = ⟨check.name, view.labels⟩) ∨
      engine.gauge.get? key = some value ∧ (key.labels ≠ view.labels ∨
        view.isLeftToOwner = true ∨
        ∀ check ∈ engine.inScope view.group view.kind, key ≠ ⟨check.name, view.labels⟩) := by
  rcases validate_cases engine view with
    ⟨_, -, h⟩ | ⟨-, hleft, h⟩ | ⟨-, -, -, h⟩ | ⟨-, -, -, h⟩ <;>
    rw [h] at houtcome hvalue
  · cases houtcome
  · exact .inr ⟨hvalue, .inr (.inl hleft)⟩
  · rw [horderly.get?_deleteMetrics] at hvalue
    split at hvalue
    · cases hvalue
    · rename_i hlabels
      exact .inr ⟨hvalue, .inl hlabels⟩
  · rcases get?_foldl_publish_cases hvalue with ⟨check, hcheck, rfl, -⟩ | ⟨hbefore, hne⟩
    · rw [if_neg (List.ne_nil_of_mem hcheck)] at houtcome
      exact .inl ⟨(Except.ok.inj houtcome).symm, check, hcheck, rfl⟩
    · exact .inr ⟨hbefore, .inr (.inr hne)⟩

theorem exists_mem_faults {engine : CheckEngine} {view : ObjectView}
    (houtcome : (engine.validate view).1 = .ok .needsImprovement) :
    ∃ check, check ∈ view.faults engine.enabled := by
  rcases validate_cases engine view with ⟨_, -, h⟩ | ⟨-, -, h⟩ | ⟨-, -, -, h⟩ | ⟨-, -, -, h⟩ <;>
    rw [h] at houtcome
  · cases houtcome
  · cases houtcome
  · cases houtcome
  · refine List.exists_mem_of_ne_nil _ fun hnil => ?_
    simp [hnil] at houtcome

/-- An object that is left to its owner does not call for improvement. -/
theorem validate_of_isLeftToOwner (engine : CheckEngine) {view : ObjectView}
    (hleft : view.isLeftToOwner = true) :
    (engine.validate view).1 ≠ .ok .needsImprovement := by
  rcases validate_cases engine view with
    ⟨_, -, h⟩ | ⟨-, -, h⟩ | ⟨-, hnot, -, h⟩ | ⟨-, hnot, -, h⟩
  · rw [h]
    simp
  · rw [h]
    simp
  · rw [hleft] at hnot
    cases hnot
  · rw [hleft] at hnot
    cases hnot

theorem validate_snd_of_error {engine : CheckEngine} {view : ObjectView} {error : ScanError}
    (herror : (engine.validate view).1 = .error error) : (engine.validate view).2 = engine := by
  rcases validate_cases engine view with ⟨_, -, h⟩ | ⟨-, -, h⟩ | ⟨-, -, -, h⟩ | ⟨-, -, -, h⟩ <;>
    rw [h] at herror ⊢ <;> cases herror

theorem orderly_of_gauge_empty {engine : CheckEngine} (hgauge : engine.gauge = {}) :
    engine.Orderly := by
  intro key value hvalue
  simp [hgauge] at hvalue

theorem Orderly.reload {engine : CheckEngine} (horderly : engine.Orderly)
    (selection : Selection) : (engine.reload selection).2.Orderly := by
  rcases reload_cases engine selection with ⟨hsame, -⟩ | ⟨enabled, hreload⟩
  · rw [hsame]
    exact horderly
  · rw [hreload]
    exact orderly_of_gauge_empty rfl

theorem Orderly.deleteMetrics {engine : CheckEngine} (horderly : engine.Orderly)
    (labels : ObjectLabels) : (engine.deleteMetrics labels).Orderly := by
  intro key value hvalue
  rw [horderly.get?_deleteMetrics] at hvalue
  split at hvalue
  · exact absurd hvalue (by simp)
  · exact horderly key value hvalue

theorem Orderly.validate {engine : CheckEngine} (horderly : engine.Orderly) (view : ObjectView) :
    (engine.validate view).2.Orderly := by
  rcases validate_cases engine view with ⟨_, -, h⟩ | ⟨-, -, h⟩ | ⟨-, -, -, h⟩ | ⟨-, -, -, h⟩ <;>
    rw [h]
  · exact horderly
  · exact horderly
  · exact horderly.deleteMetrics view.labels
  · intro key value hvalue
    rcases get?_foldl_publish_cases hvalue with ⟨check, hcheck, rfl, rfl⟩ | ⟨hbefore, -⟩
    · obtain ⟨henabled, hcovers, -⟩ := mem_faults.mp hcheck
      exact ⟨rfl, check, henabled, rfl, view.group, hcovers⟩
    · exact horderly key value hbefore

end CheckEngine

end ComplianceScanner
