import ComplianceScanner.Proofs.Recorded
import ComplianceScanner.Proofs.Tallies

/-!
# Verdicts

Each object that is taken up meets with one verdict: it has no name, it is skipped as unchanged, or the
engine judges it, in vain or not. The tallies of a scan are the numbers of its verdicts, and the
judgements among them are the calls that the engine has on record.
-/

namespace ComplianceScanner

variable {World : Type}

inductive Verdict where
  | nameless
  | skipped
  | validated
  | failed
deriving DecidableEq

def Verdict.tally : Verdict → Tally
  | nameless => ⟨1, 0, 0, 0⟩
  | skipped => ⟨1, 0, 1, 0⟩
  | validated => ⟨1, 1, 0, 0⟩
  | failed => ⟨1, 0, 0, 1⟩

namespace Moment

def verdict (engine : Engine World) (m : Moment World) (view : ObjectView) : Verdict :=
  match view.identity? with
  | none => .nameless
  | some identity =>
    if (m.caches.cacheFor view.resource).isDue identity view.resourceVersion then
      match (engine.validate view m.world).1 with
      | .ok _ => .validated
      | .error _ => .failed
    else .skipped

/-- The objects that meet with this verdict, in the order in which they are taken up. -/
def met (cluster : Cluster World) (engine : Engine World) (verdict : Verdict) :
    Moment World → List Deed → List ObjectView
  | _, [] => []
  | m, deed :: deeds =>
    let later := met cluster engine verdict (m.apply cluster engine deed) deeds
    match deed.view? with
    | some view => if m.verdict engine view = verdict then view :: later else later
    | none => later

variable (cluster : Cluster World) (engine : Engine World) {verdict : Verdict} {m : Moment World}
  {deed : Deed} {view : ObjectView}

@[simp]
theorem met_nil : m.met cluster engine verdict [] = [] := rfl

theorem met_of_view?_eq_none (hview : deed.view? = none) (deeds : List Deed) :
    m.met cluster engine verdict (deed :: deeds) =
      (m.apply cluster engine deed).met cluster engine verdict deeds := by
  simp only [met, hview]

theorem met_take (deeds : List Deed) :
    m.met cluster engine verdict (.take view :: deeds) =
      if m.verdict engine view = verdict
      then view :: (m.apply cluster engine (.take view)).met cluster engine verdict deeds
      else (m.apply cluster engine (.take view)).met cluster engine verdict deeds := rfl

theorem met_append (deeds later : List Deed) :
    m.met cluster engine verdict (deeds ++ later) =
      m.met cluster engine verdict deeds ++
        (m.applyAll cluster engine deeds).met cluster engine verdict later := by
  induction deeds generalizing m with
  | nil => rfl
  | cons deed deeds ih =>
      rw [List.cons_append, applyAll_cons]
      cases hview : deed.view? with
      | none => simp only [met_of_view?_eq_none cluster engine hview, ih]
      | some view =>
          obtain rfl := Deed.eq_take hview
          rw [met_take, met_take, ih]
          split <;> rfl

theorem take_mem_of_mem_met {deeds : List Deed}
    (hview : view ∈ m.met cluster engine verdict deeds) : .take view ∈ deeds := by
  induction deeds generalizing m with
  | nil => simp at hview
  | cons deed deeds ih =>
      cases hdeed : deed.view? with
      | none =>
          rw [met_of_view?_eq_none cluster engine hdeed] at hview
          exact List.mem_cons_of_mem deed (ih hview)
      | some taken =>
          obtain rfl := Deed.eq_take hdeed
          rw [met_take] at hview
          split at hview
          · rcases List.mem_cons.mp hview with rfl | hlater
            · exact List.mem_cons_self
            · exact List.mem_cons_of_mem _ (ih hlater)
          · exact List.mem_cons_of_mem _ (ih hview)

theorem isSome_subject?_eq (m : Moment World) (view : ObjectView) :
    view.subject?.isSome = decide (m.verdict engine view ≠ .nameless) := by
  unfold verdict
  rw [ObjectView.identity?_eq]
  cases view.subject? with
  | none => rfl
  | some subject =>
      simp only [Option.map_some, Option.isSome_some]
      split
      · split <;> rfl
      · rfl

/-! ### Tallies -/

theorem tally_take : m.tally engine (.take view) = (m.verdict engine view).tally := by
  change ((m.page view).take engine view).tally = _
  unfold verdict
  cases hidentity : view.identity? with
  | none =>
      rw [PageScan.take_of_identity?_eq_none engine (m.page view) hidentity]
      rfl
  | some identity =>
      cases hdue : (m.caches.cacheFor view.resource).isDue identity view.resourceVersion with
      | false =>
          rw [PageScan.take_of_isDue_eq_false engine (m.page view) hidentity hdue]
          simp only [hdue, Bool.false_eq_true, if_false]
          rfl
      | true =>
          have hworld : (m.page view).world = m.world := rfl
          rw [PageScan.take_of_isDue engine (m.page view) hidentity hdue, PageScan.validate, hworld]
          simp only [hdue, if_true]
          cases hvalidate : engine.validate view m.world with
          | mk result world => cases result <;> rfl

/-- A tally tells how many objects met with each verdict. -/
theorem tallyAll_eq (deeds : List Deed) :
    m.tallyAll cluster engine deeds =
      { seen := (deeds.filterMap Deed.view?).length
        validated := (m.met cluster engine .validated deeds).length
        hits := (m.met cluster engine .skipped deeds).length
        failures := (m.met cluster engine .failed deeds).length } := by
  induction deeds generalizing m with
  | nil => rfl
  | cons deed deeds ih =>
      cases hview : deed.view? with
      | none =>
          rw [tallyAll, ih, tally_of_view?_eq_none engine m hview, List.filterMap_cons_none hview]
          simp only [met_of_view?_eq_none cluster engine hview, Tally.empty_add]
      | some view =>
          obtain rfl := Deed.eq_take hview
          rw [tallyAll, ih, tally_take, List.filterMap_cons_some hview]
          simp only [met_take]
          cases m.verdict engine view <;> simp [Verdict.tally, Tally.add] <;> omega

/-- Every object with a name is skipped or judged. -/
theorem named_perm_met (deeds : List Deed) :
    ((deeds.filterMap Deed.view?).filter fun view => view.subject?.isSome).Perm
      (m.met cluster engine .skipped deeds ++ (m.met cluster engine .validated deeds ++
        m.met cluster engine .failed deeds)) := by
  induction deeds generalizing m with
  | nil => exact List.Perm.refl _
  | cons deed deeds ih =>
      specialize @ih (m.apply cluster engine deed)
      cases hview : deed.view? with
      | none =>
          rw [List.filterMap_cons_none hview]
          simpa only [met_of_view?_eq_none cluster engine hview] using ih
      | some view =>
          obtain rfl := Deed.eq_take hview
          have hnamed := isSome_subject?_eq engine m view
          rw [List.filterMap_cons_some hview, List.filter_cons, hnamed]
          simp only [met_take]
          cases m.verdict engine view with
          | nameless => exact ih
          | skipped => exact ih.cons view
          | validated => exact (ih.cons view).trans List.perm_middle.symm
          | failed =>
              rw [← List.append_assoc] at ih ⊢
              exact (ih.cons view).trans List.perm_middle.symm

/-! ### Judgements on record -/

variable {m : Moment (Journaled World)}

/-- The engine is called for a judgement, and for none of the other verdicts. -/
theorem calls_apply_take (view : ObjectView) :
    ∃ calls, (m.apply cluster.journaled engine.journaled (.take view)).world.calls =
        m.world.calls ++ calls ∧
      Engine.successes calls =
        (if m.verdict engine.journaled view = .validated then [view] else []) ∧
      Engine.failures calls =
        if m.verdict engine.journaled view = .failed then [view] else [] := by
  change ∃ calls, ((m.page view).take engine.journaled view).world.calls =
    m.world.calls ++ calls ∧ _
  unfold verdict
  cases hidentity : view.identity? with
  | none =>
      rw [PageScan.take_of_identity?_eq_none engine.journaled (m.page view) hidentity]
      exact ⟨[], (List.append_nil _).symm, rfl, rfl⟩
  | some identity =>
      cases hdue : (m.caches.cacheFor view.resource).isDue identity view.resourceVersion with
      | false =>
          rw [PageScan.take_of_isDue_eq_false engine.journaled (m.page view) hidentity hdue]
          simp only [hdue, Bool.false_eq_true, if_false]
          exact ⟨[], (List.append_nil _).symm, rfl, rfl⟩
      | true =>
          have hworld : (m.page view).world = m.world := rfl
          rw [PageScan.take_of_isDue engine.journaled (m.page view) hidentity hdue,
            PageScan.validate, hworld, Engine.validate_journaled]
          simp only [hdue, if_true]
          cases (engine.validate view m.world.world).1 with
          | ok outcome => exact ⟨_, rfl, rfl, rfl⟩
          | error error => exact ⟨_, List.append_assoc _ _ _, rfl, rfl⟩

theorem Records.judgements_eq {deeds : List Deed} {calls : List Engine.Call}
    (hrecords : Records cluster engine m deeds calls) :
    Engine.successes calls = m.met cluster.journaled engine.journaled .validated deeds ∧
      Engine.failures calls = m.met cluster.journaled engine.journaled .failed deeds := by
  induction hrecords with
  | nil => exact ⟨rfl, rfl⟩
  | @cons m deed deeds calls later hfirst hrest ih =>
      rw [Engine.successes_append, Engine.failures_append, ih.1, ih.2]
      cases hview : deed.view? with
      | none =>
          have hcalls := m.calls_apply_of_view?_eq_none cluster engine hview
          rw [hfirst.calls_eq, List.append_cancel_left_eq] at hcalls
          simp [met_of_view?_eq_none cluster.journaled engine.journaled hview, hcalls]
      | some view =>
          obtain rfl := Deed.eq_take hview
          obtain ⟨own, hcalls, hsuccesses, hfailures⟩ :=
            calls_apply_take cluster engine view
          rw [hfirst.calls_eq, List.append_cancel_left_eq] at hcalls
          rw [hcalls, hsuccesses, hfailures, met_take, met_take]
          constructor
          · split <;> rfl
          · split <;> rfl

end Moment

end ComplianceScanner
