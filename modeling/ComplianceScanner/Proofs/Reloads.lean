import ComplianceScanner.Proofs.InUse

/-!
# What a reload does

A reload compares two lists of checks, but what it answers to is the set of them: all lists that come
from a selection name their checks in the built-in order and none twice, so each set has one list. The
generation counts the reloads that take effect, and who finds it unchanged has missed none.
-/

namespace ComplianceScanner

theorem Check.mem_all (check : Check) : check ∈ all := by
  cases check <;> decide

/-! ### What a selection picks -/

namespace Selection

/-- The checks in this list are the selected ones. -/
def Picks (selection : Selection) (checks : List Check) : Prop :=
  ∀ check, check ∈ checks ↔ selection.enables check = true

variable {selection other : Selection}

theorem picks_filter (selection : Selection) :
    selection.Picks (Check.all.filter selection.enables) := by
  intro check
  rw [List.mem_filter, and_iff_right check.mem_all]

theorem resolve_of_isOk (hok : selection.resolve.isOk = true) :
    selection.resolve = .ok (Check.all.filter selection.enables) := by
  unfold resolve at hok ⊢
  cases hunknown : selection.unknownName? with
  | some name =>
      rw [hunknown] at hok
      cases hok
  | none =>
      cases hpicked : Check.all.filter selection.enables with
      | nil =>
          rw [hunknown, hpicked] at hok
          cases hok
      | cons check checks => rfl

theorem isOk_resolve_iff :
    selection.resolve.isOk = true ↔
      (∀ name ∈ selection.added ++ selection.removed, Check.ofName? name ≠ none) ∧
        ∃ check, selection.enables check = true := by
  have hknown : selection.unknownName? = none ↔
      ∀ name ∈ selection.added ++ selection.removed, Check.ofName? name ≠ none := by
    rw [unknownName?, List.find?_eq_none]
    simp only [Option.isNone_iff_eq_none, ne_eq]
  have hpicked : (∃ check, selection.enables check = true) ↔
      Check.all.filter selection.enables ≠ [] := by
    constructor
    · rintro ⟨check, hcheck⟩
      exact List.ne_nil_of_mem ((selection.picks_filter check).mpr hcheck)
    · intro hne
      obtain ⟨check, hcheck⟩ := List.exists_mem_of_ne_nil _ hne
      exact ⟨check, (selection.picks_filter check).mp hcheck⟩
  rw [← hknown, hpicked, resolve]
  cases selection.unknownName? with
  | some name => simp [Except.isOk, Except.toBool]
  | none => cases Check.all.filter selection.enables <;> simp [Except.isOk, Except.toBool]

/-- The same flags, and the same names in either list, in whatever order and however often. -/
structure SameNames (selection other : Selection) : Prop where
  withoutDefaults : selection.withoutDefaults = other.withoutDefaults
  allBuiltIn : selection.allBuiltIn = other.allBuiltIn
  added : ∀ name, name ∈ selection.added ↔ name ∈ other.added
  removed : ∀ name, name ∈ selection.removed ↔ name ∈ other.removed

theorem SameNames.enables_eq (hsame : selection.SameNames other) (check : Check) :
    selection.enables check = other.enables check := by
  have hadded : selection.added.contains check.name = other.added.contains check.name := by
    rw [Bool.eq_iff_iff, List.contains_iff_mem, List.contains_iff_mem, hsame.added]
  have hremoved : selection.removed.contains check.name = other.removed.contains check.name := by
    rw [Bool.eq_iff_iff, List.contains_iff_mem, List.contains_iff_mem, hsame.removed]
  rw [enables, enables, inBase, inBase, hsame.withoutDefaults, hsame.allBuiltIn, hadded, hremoved]

theorem SameNames.isOk_resolve_eq (hsame : selection.SameNames other) :
    selection.resolve.isOk = other.resolve.isOk := by
  rw [Bool.eq_iff_iff, isOk_resolve_iff, isOk_resolve_iff]
  simp only [List.mem_append, hsame.added, hsame.removed, hsame.enables_eq]

end Selection

/-! ### One reload -/

namespace CheckEngine

/-- The enabled checks come in their built-in order, each once. -/
def InOrder (engine : CheckEngine) : Prop :=
  engine.enabled = Check.all.filter (· ∈ engine.enabled)

variable {engine : CheckEngine} {selection other : Selection}

theorem reload_of_resolve_eq_error {error : SelectionError}
    (hresolve : selection.resolve = .error error) :
    engine.reload selection = (.error error, engine) := by
  rw [reload, hresolve]

theorem reload_of_isOk (hok : selection.resolve.isOk = true) :
    engine.reload selection =
      if Check.all.filter selection.enables = engine.enabled then (.ok false, engine)
      else
        (.ok true,
          { enabled := Check.all.filter selection.enables
            generation := engine.generation + 1
            gauge := {} }) := by
  rw [reload, Selection.resolve_of_isOk hok]

theorem reload_of_isOk_eq_false (engine : CheckEngine)
    (hfailed : selection.resolve.isOk = false) :
    ∃ error, engine.reload selection = (.error error, engine) := by
  cases hresolve : selection.resolve with
  | error error => exact ⟨error, reload_of_resolve_eq_error hresolve⟩
  | ok enabled =>
      rw [hresolve] at hfailed
      cases hfailed

theorem inOrder_of_enabled_eq_filter {enables : Check → Bool}
    (henabled : engine.enabled = Check.all.filter enables) : engine.InOrder := by
  unfold InOrder
  conv_lhs => rw [henabled]
  apply List.filter_congr
  intro check hmem
  rw [henabled, Bool.eq_iff_iff, decide_eq_true_iff, List.mem_filter, and_iff_right hmem]

theorem inOrder_of_ofSelection {initial : Selection} {gauge : CheckGauge}
    (hfirst : ofSelection initial gauge = .ok engine) : engine.InOrder := by
  unfold ofSelection at hfirst
  cases hok : initial.resolve.isOk with
  | false =>
      cases hresolve : initial.resolve with
      | error error =>
          rw [hresolve] at hfirst
          cases hfirst
      | ok enabled =>
          rw [hresolve] at hok
          cases hok
  | true =>
      rw [Selection.resolve_of_isOk hok] at hfirst
      cases hfirst
      exact inOrder_of_enabled_eq_filter rfl

namespace InOrder

variable (horder : engine.InOrder)
include horder

theorem eq_filter_iff :
    Check.all.filter selection.enables = engine.enabled ↔ selection.Picks engine.enabled := by
  constructor
  · intro heq
    rw [← heq]
    exact selection.picks_filter
  · intro hpicks
    rw [horder]
    apply List.filter_congr
    intro check _
    rw [Bool.eq_iff_iff, decide_eq_true_iff, hpicks]

theorem reload_of_picks (hok : selection.resolve.isOk = true)
    (hpicks : selection.Picks engine.enabled) : engine.reload selection = (.ok false, engine) := by
  rw [reload_of_isOk hok, if_pos (horder.eq_filter_iff.mpr hpicks)]

theorem reload_of_not_picks (hok : selection.resolve.isOk = true)
    (hother : ¬ selection.Picks engine.enabled) :
    engine.reload selection =
      (.ok true,
        { enabled := Check.all.filter selection.enables
          generation := engine.generation + 1
          gauge := {} }) := by
  rw [reload_of_isOk hok, if_neg (horder.eq_filter_iff.not.mpr hother)]

theorem reload (selection : Selection) : (engine.reload selection).2.InOrder := by
  cases hok : selection.resolve.isOk with
  | false =>
      obtain ⟨error, hreload⟩ := reload_of_isOk_eq_false engine hok
      rw [hreload]
      exact horder
  | true =>
      rw [reload_of_isOk hok]
      split
      · exact horder
      · exact inOrder_of_enabled_eq_filter rfl

theorem perform (use : Use) : (engine.perform use).InOrder := by
  cases use with
  | validate view =>
      unfold CheckEngine.perform InOrder
      rw [validate_enabled]
      exact horder
  | deleteMetrics labels => exact horder
  | reload selection => exact horder.reload selection

theorem performAll (uses : List Use) : (engine.performAll uses).InOrder := by
  induction uses generalizing engine with
  | nil => exact horder
  | cons use uses ih => exact ih (horder.perform use)

theorem picks_reload (hok : selection.resolve.isOk = true) :
    selection.Picks (engine.reload selection).2.enabled := by
  by_cases hpicks : selection.Picks engine.enabled
  · rw [horder.reload_of_picks hok hpicks]
    exact hpicks
  · rw [horder.reload_of_not_picks hok hpicks]
    exact selection.picks_filter

/-- Who picks what has been picked before is not taken for a change. -/
theorem reload_reload (hok : selection.resolve.isOk = true)
    (hsame : ∀ check, selection.enables check = other.enables check) :
    ((engine.reload selection).2.reload other).2 = (engine.reload selection).2 := by
  have hpicks : other.Picks (engine.reload selection).2.enabled := by
    intro check
    rw [← hsame check]
    exact horder.picks_reload hok check
  cases hother : other.resolve.isOk with
  | false =>
      obtain ⟨error, hreload⟩ := reload_of_isOk_eq_false (engine.reload selection).2 hother
      rw [hreload]
  | true => rw [(horder.reload selection).reload_of_picks hother hpicks]

end InOrder

/-- A reload acts on the set of checks that a selection picks, or else it does nothing. -/
structure Heeds (engine : CheckEngine) (selection : Selection) : Prop where
  refused : ∀ error, selection.resolve = .error error →
    engine.reload selection = (.error error, engine)
  idle_iff : (engine.reload selection).1 = .ok false ↔
    selection.resolve.isOk = true ∧ selection.Picks engine.enabled
  idle : (engine.reload selection).1 = .ok false → (engine.reload selection).2 = engine
  effective : selection.resolve.isOk = true → ¬ selection.Picks engine.enabled →
    ∃ enabled, engine.reload selection =
        (.ok true, { enabled, generation := engine.generation + 1, gauge := {} }) ∧
      enabled.Sublist Check.all ∧ selection.Picks enabled

theorem InOrder.heeds (horder : engine.InOrder) (selection : Selection) :
    engine.Heeds selection where
  refused _ := reload_of_resolve_eq_error
  idle_iff := by
    constructor
    · intro hidle
      cases hok : selection.resolve.isOk with
      | false =>
          obtain ⟨error, hreload⟩ := reload_of_isOk_eq_false engine hok
          rw [hreload] at hidle
          cases hidle
      | true =>
          refine ⟨rfl, ?_⟩
          by_contra hother
          rw [horder.reload_of_not_picks hok hother] at hidle
          cases hidle
    · rintro ⟨hok, hpicks⟩
      rw [horder.reload_of_picks hok hpicks]
  idle hidle := by
    rcases reload_cases engine selection with ⟨hsame, -⟩ | ⟨enabled, hreload⟩
    · exact hsame
    · rw [hreload] at hidle
      cases hidle
  effective hok hother :=
    ⟨_, horder.reload_of_not_picks hok hother, List.filter_sublist, selection.picks_filter⟩

/-! ### Generations -/

/-- How often the checks change that are enabled. -/
def turns (engine : CheckEngine) : List Use → Nat
  | [] => 0
  | use :: uses =>
    (if (engine.perform use).enabled = engine.enabled then 0 else 1) +
      turns (engine.perform use) uses

theorem generation_perform (engine : CheckEngine) (use : Use) :
    (engine.perform use).generation = engine.generation +
      if (engine.perform use).enabled = engine.enabled then 0 else 1 := by
  cases use with
  | validate view =>
      rw [perform, if_pos (validate_enabled engine view), validate_generation, UInt64.add_zero]
  | deleteMetrics labels =>
      have hsame : (engine.deleteMetrics labels).enabled = engine.enabled := rfl
      rw [perform, if_pos hsame, UInt64.add_zero]
      rfl
  | reload selection => exact generation_reload engine selection

theorem generation_performAll (engine : CheckEngine) (uses : List Use) :
    (engine.performAll uses).generation = engine.generation + (engine.turns uses).toUInt64 := by
  induction uses generalizing engine with
  | nil => exact (UInt64.add_zero _).symm
  | cons use uses ih =>
      rw [turns, performAll, List.foldl_cons, ← performAll, ih, generation_perform]
      split <;> simp [UInt64.ofNat_add, UInt64.add_assoc]

theorem turns_append (engine : CheckEngine) (uses later : List Use) :
    engine.turns (uses ++ later) = engine.turns uses + (engine.performAll uses).turns later := by
  induction uses generalizing engine with
  | nil => exact (Nat.zero_add _).symm
  | cons use uses ih =>
      rw [List.cons_append, turns, turns, ih, Nat.add_assoc]
      rfl

theorem enabled_perform_of_turns_eq_zero {use : Use} {uses : List Use}
    (hturns : engine.turns (use :: uses) = 0) : (engine.perform use).enabled = engine.enabled := by
  by_contra hother
  rw [turns, if_neg hother] at hturns
  omega

theorem enabled_performAll_of_turns_eq_zero {uses : List Use} (hturns : engine.turns uses = 0) :
    (engine.performAll uses).enabled = engine.enabled := by
  induction uses generalizing engine with
  | nil => rfl
  | cons use uses ih =>
      have hrest : (engine.perform use).turns uses = 0 := (Nat.add_eq_zero_iff.mp hturns).2
      exact (ih hrest).trans (enabled_perform_of_turns_eq_zero hturns)

theorem turns_eq_zero_of_generation_eq {uses : List Use} (hfew : engine.turns uses < UInt64.size)
    (hgeneration : (engine.performAll uses).generation = engine.generation) :
    engine.turns uses = 0 := by
  rw [generation_performAll] at hgeneration
  have hzero : (engine.turns uses).toUInt64 = 0 := by simpa using hgeneration
  have hnat : (engine.turns uses).toUInt64.toNat = 0 := congrArg UInt64.toNat hzero
  have hsize : (engine.turns uses).toUInt64.toNat = engine.turns uses :=
    UInt64.toNat_ofNat_of_lt hfew
  rw [← hsize, hnat]

/-- Reloads act on sets of checks: from the first engine on, whatever it is used for, a selection that
cannot be resolved or picks the enabled checks changes nothing, and any other one is enabled in the
built-in order with an empty gauge and the next generation. Two moments of one generation have the
same checks, and no reload between them has done anything. -/
theorem reload_heeds {initial : Selection} {gauge : CheckGauge} {first : CheckEngine}
    (hfirst : ofSelection initial gauge = .ok first) (uses : List Use) :
    let used := first.performAll uses
    (∀ selection, used.Heeds selection) ∧
    (∀ selection other, selection.SameNames other ∨
        selection.resolve.isOk = true ∧
          (∀ check, selection.enables check = other.enables check) →
      ((used.reload selection).2.reload other).2 = (used.reload selection).2) ∧
    ∀ between, used.turns between < UInt64.size →
      (used.performAll between).generation = used.generation →
      (used.performAll between).enabled = used.enabled ∧
        ∀ before selection later, between = before ++ .reload selection :: later →
          ((used.performAll before).reload selection).2 = used.performAll before := by
  intro used
  have horder : used.InOrder := (inOrder_of_ofSelection hfirst).performAll uses
  refine ⟨horder.heeds, ?_, ?_⟩
  · rintro selection other (hsame | ⟨hok, hsame⟩)
    · cases hok : selection.resolve.isOk with
      | false =>
          obtain ⟨error, hreload⟩ := reload_of_isOk_eq_false (used.reload selection).2
            (hsame.isOk_resolve_eq.symm.trans hok)
          rw [hreload]
      | true => exact horder.reload_reload hok hsame.enables_eq
    · exact horder.reload_reload hok hsame
  · intro between hfew hgeneration
    have hturns := turns_eq_zero_of_generation_eq hfew hgeneration
    refine ⟨enabled_performAll_of_turns_eq_zero hturns, ?_⟩
    rintro before selection later rfl
    rw [turns_append] at hturns
    exact reload_of_enabled_eq (enabled_perform_of_turns_eq_zero (Nat.add_eq_zero_iff.mp hturns).2)

end CheckEngine

namespace Sample

/-- A check is added; then come faulty selections, one that picks the same checks in more words, and
one that picks all checks there are. -/
theorem reload_heeds_wordy :
    let first : CheckEngine := { enabled := Check.all.filter Check.enabledByDefault }
    let latest : Selection := { added := ["latest-tag"] }
    let wordy : Selection := { added := ["latest-tag", "host-pid", "latest-tag"] }
    let faulty : Selection := { added := ["latest-tag", "no-such-check"] }
    let shuffled : Selection := { added := ["no-such-check", "latest-tag", "no-such-check"] }
    let every : Selection := { allBuiltIn := true }
    let used := first.performAll [.reload latest]
    CheckEngine.ofSelection {} {} = .ok first ∧
      used.reload faulty = (.error (.unknownCheck "no-such-check"), used) ∧
      (used.reload wordy).1 = .ok false ∧
      (∃ enabled, used.reload every =
          (.ok true, { enabled, generation := used.generation + 1, gauge := {} }) ∧
        enabled.Sublist Check.all ∧ every.Picks enabled) ∧
      ((used.reload latest).2.reload wordy).2 = (used.reload latest).2 ∧
      ((used.reload faulty).2.reload shuffled).2 = (used.reload faulty).2 ∧
      (used.performAll [.reload faulty, .reload wordy]).enabled = used.enabled ∧
      ((used.performAll [.reload faulty]).reload wordy).2 = used.performAll [.reload faulty] := by
  intro first latest wordy faulty shuffled every used
  have hfirst : CheckEngine.ofSelection {} {} = .ok first := rfl
  obtain ⟨hheeds, hsame, hmoments⟩ := CheckEngine.reload_heeds hfirst [.reload latest]
  have hwordy : wordy.Picks used.enabled := by
    intro check
    cases check <;> decide +kernel
  have hevery : ¬ every.Picks used.enabled := by
    intro hpicks
    have hunpicked : Check.minimumThreeReplicas ∉ used.enabled := by decide +kernel
    exact hunpicked ((hpicks _).mpr rfl)
  have hagree (check : Check) : latest.enables check = wordy.enables check := by
    cases check <;> decide +kernel
  obtain ⟨hkept, hidle⟩ := hmoments [.reload faulty, .reload wordy] (by decide +kernel)
    (by decide +kernel)
  refine ⟨hfirst, (hheeds faulty).refused _ (by decide +kernel),
    (hheeds wordy).idle_iff.mpr ⟨by decide +kernel, hwordy⟩,
    (hheeds every).effective (by decide +kernel) hevery, ?_, ?_, hkept, ?_⟩
  · exact hsame latest wordy (.inr ⟨by decide +kernel, hagree⟩)
  · exact hsame faulty shuffled
      (.inl ⟨rfl, rfl, by simp [faulty, shuffled, or_comm], fun _ => .rfl⟩)
  · exact hidle [.reload faulty] wordy [] rfl

end Sample

end ComplianceScanner
