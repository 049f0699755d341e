import ComplianceScanner.Proofs.Alike
import ComplianceScanner.Proofs.Attempts

/-!
# Attempts into which no reload falls

With no reload ahead the checks stay what they are to the end of an attempt, and what the engine is
asked for does not show to the cluster. Two scanners with the same checks that look at the same
cluster are then alike in the sense of `Alike`.
-/

namespace ComplianceScanner

variable {Outside : Type}

namespace Interleaved

/-- No reload has taken effect since, and none lies ahead. -/
structure Calm (start w : Interleaved Outside) : Prop where
  due : w.due = []
  enabled : w.engine.enabled = start.engine.enabled
  epoch : w.epoch = start.epoch

theorem calm_self {w : Interleaved Outside} (hdue : w.due = []) : Calm w w := ⟨hdue, rfl, rfl⟩

namespace Calm

variable {start w : Interleaved Outside}

theorem validate (hcalm : Calm start w) (view : ObjectView) :
    Calm start (asEngine.validate view w).2 := by
  change Calm start (w.settle.judge view)
  rw [settle_of_due_nil hcalm.due]
  exact ⟨hcalm.due, (CheckEngine.validate_enabled w.engine view).trans hcalm.enabled, hcalm.epoch⟩

theorem deleteMetrics (hcalm : Calm start w) (labels : ObjectLabels) :
    Calm start (asEngine.deleteMetrics labels w) := by
  change Calm start (w.settle.deleteMetrics labels)
  rw [settle_of_due_nil hcalm.due]
  exact ⟨hcalm.due, hcalm.enabled, hcalm.epoch⟩

theorem deleteAll (hcalm : Calm start w) (labels : List ObjectLabels) :
    Calm start (asEngine.deleteAll labels w) := by
  induction labels generalizing w with
  | nil => exact hcalm
  | cons first labels ih => exact ih (hcalm.deleteMetrics first)

theorem after (hcalm : Calm start w) (cluster : Cluster Outside) (call : Cluster.Call) :
    Calm start ((asCluster cluster).after call w) := by
  rw [after_eq, settle_of_due_nil hcalm.due]
  exact ⟨hcalm.due, hcalm.enabled, hcalm.epoch⟩

theorem apply (cluster : Cluster Outside) {m : Moment (Interleaved Outside)}
    (hcalm : Calm start m.world) (hkeyed : m.caches.Keyed) (deed : Deed) :
    Calm start (m.apply (asCluster cluster) asEngine deed).world := by
  generalize hnext : m.apply (asCluster cluster) asEngine deed = m'
  cases hnext ▸ Moment.apply_change (asCluster cluster) asEngine hkeyed deed with
  | idle hview hgeneration hworld hentry => exact hworld ▸ hcalm
  | asked hgeneration hworld hentry => exact hworld ▸ hcalm.after cluster _
  | dropped gone hview hgeneration hworld hentry hgone => exact hworld ▸ hcalm.deleteAll gone
  | hit hsubject hheld hversion hgeneration hworld hentry => exact hworld ▸ hcalm
  | @stored view _ subject outcome hsubject hdue hgeneration hworld hentry =>
      have hjudged := hcalm.validate view
      rw [hworld] at hjudged
      exact hjudged
  | @failed view _ subject error world hsubject hdue hgeneration hvalidate hworld hentry =>
      have hjudged := hcalm.validate view
      rw [hvalidate] at hjudged
      exact hworld ▸ hjudged.deleteMetrics view.labels

end Calm

/-- The same cluster with the same checks, and no reload ahead. -/
structure SameSight (w v : Interleaved Outside) : Prop where
  outside : w.outside = v.outside
  enabled : w.engine.enabled = v.engine.enabled
  due_left : w.due = []
  due_right : v.due = []

namespace SameSight

variable {w v : Interleaved Outside}

theorem symm (hsame : SameSight w v) : SameSight v w :=
  ⟨hsame.outside.symm, hsame.enabled.symm, hsame.due_right, hsame.due_left⟩

theorem turn (hsame : SameSight w v) {outside outside' : Outside} (houtside : outside = outside') :
    SameSight { w.settle with outside } { v.settle with outside := outside' } := by
  rw [settle_of_due_nil hsame.due_left, settle_of_due_nil hsame.due_right]
  exact ⟨houtside, hsame.enabled, hsame.due_left, hsame.due_right⟩

theorem of_calm (hsame : SameSight w v) {w' : Interleaved Outside} (hcalm : Calm w w')
    (houtside : w'.outside = w.outside) : SameSight w' v :=
  ⟨houtside.trans hsame.outside, hcalm.enabled.trans hsame.enabled, hcalm.due, hsame.due_right⟩

end SameSight

theorem alike_sameSight (cluster : Cluster Outside) :
    Alike (asCluster cluster) asEngine (@SameSight Outside) where
  symm := SameSight.symm
  discover {w v} hsame := by
    have hanswer : cluster.discover w.outside = cluster.discover v.outside := by
      rw [hsame.outside]
    refine ⟨?_, hsame.turn (congrArg Prod.snd hanswer)⟩
    exact congrArg (fun answer => answer.1) hanswer
  namespaces {w v} hsame := by
    have hanswer : cluster.namespaces w.outside = cluster.namespaces v.outside := by
      rw [hsame.outside]
    refine ⟨?_, hsame.turn (congrArg Prod.snd hanswer)⟩
    exact congrArg (fun answer => answer.1) hanswer
  list {w v} hsame resource namespaceName limit token := by
    have hanswer : cluster.list resource namespaceName limit token w.outside =
        cluster.list resource namespaceName limit token v.outside := by
      rw [hsame.outside]
    refine ⟨?_, hsame.turn (congrArg Prod.snd hanswer)⟩
    exact congrArg (fun answer => answer.1) hanswer
  supports {w v} hsame := by
    funext group kind
    change w.supports group kind = v.supports group kind
    simp only [supports, hsame.due_left, hsame.due_right, CheckEngine.supports, hsame.enabled]
  validate {w v} hsame view := by
    refine hsame.of_calm ((calm_self hsame.due_left).validate view) ?_
    change (w.settle.judge view).outside = w.outside
    rw [settle_of_due_nil hsame.due_left]
    rfl
  deleteMetrics {w v} hsame labels := by
    refine hsame.of_calm ((calm_self hsame.due_left).deleteMetrics labels) ?_
    change (w.settle.deleteMetrics labels).outside = w.outside
    rw [settle_of_due_nil hsame.due_left]
    rfl

end Interleaved

end ComplianceScanner
