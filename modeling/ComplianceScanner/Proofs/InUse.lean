import ComplianceScanner.Proofs.Attempts

/-!
# The engine in use

An engine removes the series of an object check by check, and it looks only at the checks that are
enabled now. That this leaves none behind rests on the history of the engine: no order of judgements,
removals and reloads, whether they succeed or fail, brings about a series of a check that is not
enabled.
-/

namespace ComplianceScanner

namespace CheckEngine

inductive Use where
  | validate (view : ObjectView)
  | deleteMetrics (labels : ObjectLabels)
  | reload (selection : Selection)

def perform (engine : CheckEngine) : Use → CheckEngine
  | .validate view => (engine.validate view).2
  | .deleteMetrics labels => engine.deleteMetrics labels
  | .reload selection => (engine.reload selection).2

def performAll (engine : CheckEngine) (uses : List Use) : CheckEngine := uses.foldl perform engine

theorem Orderly.perform {engine : CheckEngine} (horderly : engine.Orderly) (use : Use) :
    (engine.perform use).Orderly := by
  cases use with
  | validate view => exact horderly.validate view
  | deleteMetrics labels => exact horderly.deleteMetrics labels
  | reload selection => exact horderly.reload selection

theorem Orderly.performAll {engine : CheckEngine} (horderly : engine.Orderly) (uses : List Use) :
    (engine.performAll uses).Orderly := by
  induction uses generalizing engine with
  | nil => exact horderly
  | cons use uses ih => exact ih (horderly.perform use)

theorem Orderly.isEnabled {engine : CheckEngine} (horderly : engine.Orderly) {key : SeriesKey}
    {value : Int64} (hvalue : engine.gauge.get? key = some value) :
    value = 1 ∧ engine.isEnabled key.check = true := by
  obtain ⟨hone, check, hcheck, hname, -⟩ := horderly key value hvalue
  refine ⟨hone, List.any_eq_true.mpr ⟨check, hcheck, ?_⟩⟩
  simpa using hname

theorem gauge_reload_of_effective {engine : CheckEngine} {selection : Selection}
    (heffective : (engine.reload selection).1 = .ok true) :
    (engine.reload selection).2.gauge = {} := by
  rcases reload_cases engine selection with ⟨-, hidle⟩ | ⟨enabled, hreload⟩
  · exact absurd heffective hidle
  · rw [hreload]

/-- From an empty gauge on, however the engine is used, every series has the value 1 and is that of
an enabled check. So removing the series of an object leaves none of them and touches no others, and
a reload that takes effect leaves none at all. -/
theorem performAll_series_enabled {engine : CheckEngine} (hgauge : engine.gauge = {})
    (uses : List Use) :
    let used := engine.performAll uses
    (∀ key value, used.gauge.get? key = some value →
      value = 1 ∧ used.isEnabled key.check = true) ∧
    (∀ labels key, (used.deleteMetrics labels).gauge.get? key =
      if key.labels = labels then none else used.gauge.get? key) ∧
    ∀ selection, (used.reload selection).1 = .ok true →
      (used.reload selection).2.gauge = {} := by
  intro used
  have horderly : used.Orderly := (orderly_of_gauge_empty hgauge).performAll uses
  refine ⟨?_, ?_, ?_⟩
  · intro key value hvalue
    exact horderly.isEnabled hvalue
  · intro labels key
    exact horderly.get?_deleteMetrics labels key
  · intro selection heffective
    exact gauge_reload_of_effective heffective

end CheckEngine

namespace Sample

/-- The workload fails a check, a reload fails, and another workload of that name is forgotten. -/
theorem performAll_series_enabled_web :
    let engine : CheckEngine := { enabled := [.hostPid] }
    let view : ObjectView := ⟨deployment "apps", web "uid-1" "1", "ns-1"⟩
    let used := engine.performAll
      [.validate view, .reload { added := ["no-such-check"] },
       .deleteMetrics { view.labels with uid := "uid-2" }]
    let key : SeriesKey := ⟨"host-pid", view.labels⟩
    engine.gauge = {} ∧ used.gauge.get? key = some 1 ∧ used.isEnabled "host-pid" = true ∧
      (used.deleteMetrics view.labels).gauge.get? key = none ∧
      (used.reload { allBuiltIn := true }).1 = .ok true ∧
      (used.reload { allBuiltIn := true }).2.gauge = {} := by
  intro engine view used key
  have hempty : engine.gauge = {} := rfl
  obtain ⟨hseries, hdeleted, hreloaded⟩ := CheckEngine.performAll_series_enabled hempty
    [.validate view, .reload { added := ["no-such-check"] },
     .deleteMetrics { view.labels with uid := "uid-2" }]
  have hout : used.gauge.get? key = some 1 := by decide +kernel
  have heffective : (used.reload { allBuiltIn := true }).1 = .ok true := by decide +kernel
  refine ⟨hempty, hout, (hseries key 1 hout).2, ?_, heffective, hreloaded _ heffective⟩
  exact (hdeleted view.labels key).trans (if_pos rfl)

end Sample

end ComplianceScanner
