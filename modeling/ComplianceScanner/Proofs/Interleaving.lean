import ComplianceScanner.Proofs.Deeds
import ComplianceScanner.Proofs.Series

/-!
# Reloads at any moment

The check engine is shared with those who reload it, and a reload can fall between any two calls of
a scan. Here a world is laid out in which that happens: the reloads that lie ahead are kept in
gaps, one before each call on the cluster or the engine. The world also keeps a record that no
program could look at: every judgement with the engine as it was, and the number of the reloads that
took effect, which unlike the generation never wraps around.
-/

namespace ComplianceScanner

/-- The reloads that fall before one call. -/
structure Gap where
  reloads : List Selection := []
  /-- How many of them come before support for a group and a kind is asked for. -/
  before : String → String → Nat := fun _ _ => 0

/-- One object as it was judged, with the engine of that moment. -/
structure Judgement where
  engine : CheckEngine
  view : ObjectView
  epoch : Nat

def Judgement.outcome (judgement : Judgement) : Except ScanError Outcome :=
  (judgement.engine.validate judgement.view).1

structure Interleaved (Outside : Type) where
  outside : Outside
  engine : CheckEngine
  due : List Gap := []
  /-- All judgements so far, oldest first. -/
  judgements : List Judgement := []
  /-- The number of reloads that have taken effect. -/
  epoch : Nat := 0

variable {Outside : Type}

namespace Interleaved

def reload (w : Interleaved Outside) (selection : Selection) : Interleaved Outside :=
  match w.engine.reload selection with
  | (.ok true, engine) => { w with engine, epoch := w.epoch + 1 }
  | (_, engine) => { w with engine }

/-- The reloads of the next gap happen. -/
def settle (w : Interleaved Outside) : Interleaved Outside :=
  match w.due with
  | [] => w
  | gap :: due => gap.reloads.foldl reload { w with due }

/-- Support is answered when only a part of the next gap has passed. -/
def supports (w : Interleaved Outside) (group kind : String) : Bool :=
  match w.due with
  | [] => w.engine.supports group kind
  | gap :: _ =>
    ((gap.reloads.take (gap.before group kind)).foldl reload w).engine.supports group kind

/-- One object is judged, and that is put on record. -/
def judge (w : Interleaved Outside) (view : ObjectView) : Interleaved Outside :=
  { w with
    engine := (w.engine.validate view).2
    judgements := w.judgements ++ [⟨w.engine, view, w.epoch⟩] }

def deleteMetrics (w : Interleaved Outside) (labels : ObjectLabels) : Interleaved Outside :=
  { w with engine := w.engine.deleteMetrics labels }

/-- The check engine, reloaded between the calls. -/
def asEngine : Engine (Interleaved Outside) where
  supports := supports
  validate view w := ((w.settle.engine.validate view).1, w.settle.judge view)
  deleteMetrics labels w := w.settle.deleteMetrics labels
  generation w := w.engine.generation

/-- A cluster, with reloads of the check engine between the calls. -/
def asCluster (cluster : Cluster Outside) : Cluster (Interleaved Outside) :=
  cluster.within (·.outside) fun outside w => { w.settle with outside }

/-- No series is left of a disabled check, and the generation counts the reloads. -/
structure Sound (w : Interleaved Outside) : Prop where
  orderly : w.engine.Orderly
  generation : w.engine.generation = .ofNat w.epoch

/-- Reloads aside, what is lost between two worlds is the series of certain labels. -/
structure Loses (gone : ObjectLabels → Prop) (w w' : Interleaved Outside) : Prop where
  sound : w.Sound → w'.Sound
  judgements : w'.judgements = w.judgements
  epoch : w.epoch ≤ w'.epoch
  enabled : w'.epoch = w.epoch → w'.engine.enabled = w.engine.enabled
  shrinks : ∀ key value, w'.engine.gauge.get? key = some value →
    w.engine.gauge.get? key = some value
  lost : ∀ key, gone key.labels → w'.engine.gauge.get? key = none
  kept : w'.epoch = w.epoch → ∀ key, ¬ gone key.labels →
    w'.engine.gauge.get? key = w.engine.gauge.get? key
  cleared : w'.epoch ≠ w.epoch → ∀ key, w'.engine.gauge.get? key = none

namespace Loses

variable {gone gone' : ObjectLabels → Prop} {w w' w'' : Interleaved Outside}

theorem of_engine_eq (hengine : w'.engine = w.engine) (hjudgements : w'.judgements = w.judgements)
    (hepoch : w'.epoch = w.epoch) : Loses (fun _ => False) w w' where
  sound hsound := ⟨hengine ▸ hsound.orderly, by rw [hengine, hepoch, hsound.generation]⟩
  judgements := hjudgements
  epoch := Nat.le_of_eq hepoch.symm
  enabled _ := congrArg _ hengine
  shrinks _ _ hvalue := hengine ▸ hvalue
  lost _ hgone := hgone.elim
  kept _ _ _ := by rw [hengine]
  cleared hne := absurd hepoch hne

theorem refl (w : Interleaved Outside) : Loses (fun _ => False) w w :=
  of_engine_eq rfl rfl rfl

theorem trans (h : Loses gone w w') (h' : Loses gone' w' w'') :
    Loses (fun labels => gone labels ∨ gone' labels) w w'' where
  sound hsound := h'.sound (h.sound hsound)
  judgements := h'.judgements.trans h.judgements
  epoch := Nat.le_trans h.epoch h'.epoch
  enabled hepoch := by
    have hmid : w'.epoch = w.epoch := Nat.le_antisymm (hepoch ▸ h'.epoch) h.epoch
    exact (h'.enabled (hepoch.trans hmid.symm)).trans (h.enabled hmid)
  shrinks key value hvalue := h.shrinks key value (h'.shrinks key value hvalue)
  lost key hgone := by
    rcases hgone with hgone | hgone
    · rw [Option.eq_none_iff_forall_ne_some]
      intro value hvalue
      have hmid := h'.shrinks key value hvalue
      rw [h.lost key hgone] at hmid
      exact Option.some_ne_none _ hmid.symm
    · exact h'.lost key hgone
  kept hepoch key hkept := by
    have hmid : w'.epoch = w.epoch := Nat.le_antisymm (hepoch ▸ h'.epoch) h.epoch
    rw [h'.kept (hepoch.trans hmid.symm) key fun hgone => hkept (.inr hgone)]
    exact h.kept hmid key fun hgone => hkept (.inl hgone)
  cleared hne key := by
    by_cases hmid : w'.epoch = w.epoch
    · exact h'.cleared (hmid ▸ hne) key
    · rw [Option.eq_none_iff_forall_ne_some]
      intro value hvalue
      have hbefore := h'.shrinks key value hvalue
      rw [h.cleared hmid key] at hbefore
      cases hbefore

/-- No reload has taken effect where a series is still there. -/
theorem epoch_eq (h : Loses gone w w') {key : SeriesKey} {value : Int64}
    (hvalue : w'.engine.gauge.get? key = some value) : w'.epoch = w.epoch := by
  refine Decidable.byContradiction fun hne => ?_
  rw [h.cleared hne] at hvalue
  cases hvalue

theorem congr (h : Loses gone w w') (hgone : ∀ labels, gone labels ↔ gone' labels) :
    Loses gone' w w' := by
  have heq : gone = gone' := funext fun labels => propext (hgone labels)
  exact heq ▸ h

end Loses

theorem reload_cases (w : Interleaved Outside) (selection : Selection) :
    w.reload selection = w ∨
      ∃ enabled, w.reload selection =
        { w with
          engine := { enabled, generation := w.engine.generation + 1, gauge := {} }
          epoch := w.epoch + 1 } := by
  rcases CheckEngine.reload_cases w.engine selection with ⟨hsame, hresult⟩ | ⟨enabled, hreload⟩
  · refine .inl ?_
    unfold reload
    split
    · rename_i engine hreload
      rw [hreload] at hresult
      exact absurd rfl hresult
    · rename_i result engine _ hreload
      rw [hreload] at hsame
      simp only at hsame
      rw [hsame]
  · refine .inr ⟨enabled, ?_⟩
    unfold reload
    rw [hreload]

theorem Sound.reload {w : Interleaved Outside} (hsound : w.Sound) (selection : Selection) :
    (w.reload selection).Sound := by
  rcases reload_cases w selection with hsame | ⟨enabled, hreload⟩
  · rw [hsame]
    exact hsound
  · rw [hreload]
    refine ⟨CheckEngine.orderly_of_gauge_empty rfl, ?_⟩
    change w.engine.generation + 1 = UInt64.ofNat (w.epoch + 1)
    rw [hsound.generation, UInt64.ofNat_add]
    rfl

theorem reload_loses (w : Interleaved Outside) (selection : Selection) :
    Loses (fun _ => False) w (w.reload selection) := by
  rcases reload_cases w selection with hsame | ⟨enabled, hreload⟩
  · rw [hsame]
    exact .refl w
  · rw [hreload]
    exact
      { sound := fun hsound => hreload ▸ hsound.reload selection
        judgements := rfl
        epoch := Nat.le_succ _
        enabled := fun hepoch => absurd hepoch (Nat.succ_ne_self _)
        shrinks := fun key value hvalue => by simp at hvalue
        lost := fun _ hgone => hgone.elim
        kept := fun hepoch => absurd hepoch (Nat.succ_ne_self _)
        cleared := fun _ key => CheckGauge.get?_empty key }

theorem foldl_reload_loses (w : Interleaved Outside) (selections : List Selection) :
    Loses (fun _ => False) w (selections.foldl reload w) := by
  induction selections generalizing w with
  | nil => exact .refl w
  | cons selection selections ih =>
      refine ((reload_loses w selection).trans (ih _)).congr fun labels => ?_
      simp

theorem settle_loses (w : Interleaved Outside) : Loses (fun _ => False) w w.settle := by
  unfold settle
  split
  · exact .refl w
  · rename_i gap due _
    have hnext : Loses (fun _ => False) w { w with due } := .of_engine_eq rfl rfl rfl
    refine (hnext.trans (foldl_reload_loses _ gap.reloads)).congr fun labels => ?_
    simp

theorem Sound.settle {w : Interleaved Outside} (hsound : w.Sound) : w.settle.Sound :=
  w.settle_loses.sound hsound

@[simp]
theorem settle_of_due_nil {w : Interleaved Outside} (hdue : w.due = []) : w.settle = w := by
  simp only [settle, hdue]

theorem Sound.deleteMetrics {w : Interleaved Outside} (hsound : w.Sound)
    (labels : ObjectLabels) : (w.deleteMetrics labels).Sound :=
  ⟨hsound.orderly.deleteMetrics labels, hsound.generation⟩

theorem deleteMetrics_loses {w : Interleaved Outside} (hsound : w.Sound)
    (labels : ObjectLabels) : Loses (· = labels) w (w.deleteMetrics labels) where
  sound hsound := hsound.deleteMetrics labels
  judgements := rfl
  epoch := Nat.le_refl _
  enabled _ := rfl
  shrinks key value hvalue := by
    rw [deleteMetrics, hsound.orderly.get?_deleteMetrics] at hvalue
    split at hvalue
    · exact absurd hvalue (by simp)
    · exact hvalue
  lost key hgone := by
    rw [deleteMetrics, hsound.orderly.get?_deleteMetrics, if_pos hgone]
  kept _ key hkept := by
    rw [deleteMetrics, hsound.orderly.get?_deleteMetrics, if_neg hkept]
  cleared hne := absurd rfl hne

theorem Sound.judge {w : Interleaved Outside} (hsound : w.Sound) (view : ObjectView) :
    (w.judge view).Sound := by
  refine ⟨hsound.orderly.validate view, ?_⟩
  rw [Interleaved.judge, CheckEngine.validate_generation]
  exact hsound.generation

/-- A judgement without a reload does not touch series of other labels. -/
theorem get?_judge_of_ne {w : Interleaved Outside} (hsound : w.Sound)
    (hepoch : w.settle.epoch = w.epoch) {view : ObjectView} {key : SeriesKey}
    (hlabels : key.labels ≠ view.labels) :
    (w.settle.judge view).engine.gauge.get? key = w.engine.gauge.get? key :=
  (CheckEngine.get?_validate_of_ne hsound.settle.orderly hlabels).trans
    (w.settle_loses.kept hepoch key fun hgone => hgone)

theorem asEngine_deleteMetrics_loses {w : Interleaved Outside} (hsound : w.Sound)
    (labels : ObjectLabels) : Loses (· = labels) w (asEngine.deleteMetrics labels w) := by
  refine (w.settle_loses.trans (deleteMetrics_loses hsound.settle labels)).congr fun other => ?_
  simp

theorem deleteAll_loses {w : Interleaved Outside} (hsound : w.Sound)
    (labels : List ObjectLabels) : Loses (· ∈ labels) w (asEngine.deleteAll labels w) := by
  induction labels generalizing w with
  | nil => exact (Loses.refl w).congr fun other => by simp
  | cons first labels ih =>
      have hnext := ih (hsound.settle.deleteMetrics first)
      refine ((asEngine_deleteMetrics_loses hsound first).trans hnext).congr fun other => ?_
      simp

theorem after_eq (cluster : Cluster Outside) (call : Cluster.Call) (w : Interleaved Outside) :
    (asCluster cluster).after call w =
      { w.settle with outside := cluster.after call w.outside } := by
  cases call <;> rfl

theorem after_loses (cluster : Cluster Outside) (call : Cluster.Call) (w : Interleaved Outside) :
    Loses (fun _ => False) w ((asCluster cluster).after call w) := by
  rw [after_eq]
  have hturn : Loses (fun _ => False) w.settle
      { w.settle with outside := cluster.after call w.outside } := .of_engine_eq rfl rfl rfl
  refine (w.settle_loses.trans hturn).congr fun labels => ?_
  simp

end Interleaved

end ComplianceScanner
