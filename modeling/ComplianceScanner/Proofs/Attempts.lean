import ComplianceScanner.Proofs.Grounded
import ComplianceScanner.Proofs.Layout
import ComplianceScanner.Simulation.ScriptedCluster

/-!
# The moments of one attempt

An attempt looks at the generation of the engine once, at its start. From then on the outcomes in the
caches are of that generation or of a later one, at every moment up to the end of the attempt and
whatever reloads fall into it.
-/

namespace ComplianceScanner

variable {World : Type} (cluster : Cluster World) (engine : Engine World)

namespace Moment

theorem apply_renew_generation (m : Moment World) :
    (m.apply cluster engine .renew).generation = engine.generation m.world := by
  simp only [apply]
  split
  · rename_i hsame
    exact hsame.symm
  · rfl

theorem apply_generation (m : Moment World) {deed : Deed} (hdeed : deed ≠ .renew) :
    (m.apply cluster engine deed).generation = m.generation := by
  cases deed with
  | renew => exact absurd rfl hdeed
  | _ => rfl

theorem applyAll_generation (m : Moment World) {deeds : List Deed} (hdeeds : Deed.renew ∉ deeds) :
    (m.applyAll cluster engine deeds).generation = m.generation := by
  induction deeds generalizing m with
  | nil => rfl
  | cons deed deeds ih =>
      rw [List.mem_cons, not_or] at hdeeds
      rw [applyAll_cons, ih _ hdeeds.2, apply_generation cluster engine m (Ne.symm hdeeds.1)]

end Moment

namespace Scanning

variable {Outside : Type} {cluster : Cluster Outside} {s : Scanning (Interleaved Outside)}

/-- The moment of an attempt when these of its deeds are done. -/
def momentAfter (cluster : Cluster Outside) (due : List Gap) (s : Scanning (Interleaved Outside))
    (done : List Deed) : Moment (Interleaved Outside) :=
  (s.beset due).moment.applyAll (Interleaved.asCluster cluster) Interleaved.asEngine done

variable {steps : Nat} {due : List Gap} {done : List Deed}

theorem attempt_moment (cluster : Cluster Outside) (steps : Nat) (due : List Gap)
    (s : Scanning (Interleaved Outside)) :
    (s.attempt cluster steps due).2.moment =
      s.momentAfter cluster due (s.attemptDeeds cluster steps due) :=
  runCycle_moment _ _ _ _

theorem momentAfter_eq_after (cluster : Cluster Outside) (due : List Gap)
    (s : Scanning (Interleaved Outside)) (done : List Deed) :
    s.momentAfter cluster due done =
      s.moment.after cluster (.turn s.world.outside due :: done.map .deed) :=
  (Moment.after_map_deed cluster _ done).symm

theorem momentAfter_append (cluster : Cluster Outside) (due : List Gap)
    (s : Scanning (Interleaved Outside)) (done more : List Deed) :
    s.momentAfter cluster due (done ++ more) =
      (s.momentAfter cluster due done).after cluster (more.map .deed) := by
  rw [Moment.after_map_deed]
  exact Moment.applyAll_append _ _ _ _ _

theorem momentAfter_generation (hdone : done <+: s.attemptDeeds cluster steps due)
    (hne : done ≠ []) :
    (s.momentAfter cluster due done).generation = s.world.engine.generation := by
  obtain ⟨later, hdeeds, hlater⟩ := deeds_eq_renew_cons (Interleaved.asCluster cluster)
    Interleaved.asEngine steps (s.beset due)
  rw [attemptDeeds, hdeeds] at hdone
  obtain ⟨first, rest, rfl⟩ := List.exists_cons_of_ne_nil hne
  obtain ⟨rfl, hrest⟩ := List.cons_prefix_cons.mp hdone
  rw [momentAfter, Moment.applyAll_cons,
    Moment.applyAll_generation _ _ _ fun hmem => hlater (hrest.subset hmem),
    Moment.apply_renew_generation]
  rfl

theorem Lived.epoch_le_momentAfter (hlived : s.Lived cluster) (due : List Gap)
    (done : List Deed) : s.world.epoch ≤ (s.momentAfter cluster due done).world.epoch := by
  obtain ⟨base, hgrounded⟩ := hlived.grounded
  rw [momentAfter_eq_after]
  exact hgrounded.epoch_le_after cluster _

theorem Lived.epoch_momentAfter_le (hlived : s.Lived cluster)
    (hdone : done <+: s.attemptDeeds cluster steps due) :
    (s.momentAfter cluster due done).world.epoch ≤
      (s.attempt cluster steps due).2.world.epoch := by
  obtain ⟨base, hgrounded⟩ := hlived.grounded
  obtain ⟨last, -, hgrounded⟩ :=
    hgrounded.after cluster (.turn s.world.outside due :: done.map .deed)
  rw [← momentAfter_eq_after] at hgrounded
  obtain ⟨more, hmore⟩ := hdone
  change _ ≤ (s.attempt cluster steps due).2.moment.world.epoch
  rw [attempt_moment, ← hmore, momentAfter_append]
  exact hgrounded.epoch_le_after cluster _

/-- Within an attempt every outcome was found after the start of the attempt, or under the engine of
that start. -/
theorem Lived.grounded_momentAfter (hlived : s.Lived cluster)
    (hepoch : (s.attempt cluster steps due).2.world.epoch < UInt64.size)
    (hdone : done <+: s.attemptDeeds cluster steps due) (hne : done ≠ []) :
    (s.momentAfter cluster due done).Grounded s.world.epoch := by
  obtain ⟨base, hgrounded⟩ := hlived.grounded
  obtain ⟨last, -, hlast⟩ :=
    hgrounded.after cluster (.turn s.world.outside due :: done.map .deed)
  rw [← momentAfter_eq_after] at hlast
  have hgeneration : (s.momentAfter cluster due done).generation = .ofNat s.world.epoch :=
    (momentAfter_generation hdone hne).trans hgrounded.sound.generation
  have hnow := Nat.lt_of_le_of_lt (hlived.epoch_momentAfter_le hdone) hepoch
  have hbase := hlast.base_eq_of_generation_eq (Nat.lt_of_le_of_lt hlast.base_le hnow)
    (Nat.lt_of_le_of_lt (hlived.epoch_le_momentAfter due done) hnow) hgeneration
  exact hbase ▸ hlast

theorem take_append_prefix {deeds : List Deed} {i : Nat} {view : ObjectView}
    (hview : deeds[i]?.bind Deed.view? = some view) :
    deeds.take i ++ [.take view] <+: deeds := by
  obtain ⟨deed, hdeed, hview⟩ := Option.bind_eq_some_iff.mp hview
  have hnext : deeds.take (i + 1) = deeds.take i ++ [.take view] := by
    rw [List.take_add_one, hdeed, Deed.eq_take hview]
    rfl
  exact hnext ▸ List.take_prefix (i + 1) deeds

theorem attemptDeeds_ne_nil : s.attemptDeeds cluster steps due ≠ [] :=
  List.cons_ne_nil _ _

theorem Lived.grounded_attempt (hlived : s.Lived cluster)
    (hepoch : (s.attempt cluster steps due).2.world.epoch < UInt64.size) :
    (s.attempt cluster steps due).2.moment.Grounded s.world.epoch := by
  rw [attempt_moment]
  exact hlived.grounded_momentAfter hepoch (List.prefix_refl _) attemptDeeds_ne_nil

end Scanning

/-! ### A small cluster -/

namespace Sample

def deployment (group : String) : ResourceType :=
  ⟨group, "v1", "Deployment", "deployments", true⟩

/-- A workload that shares the process ids of its host. -/
def web (uid resourceVersion : String) : Object where
  name := some "web"
  namespaceName := some "default"
  uid := some uid
  resourceVersion := some resourceVersion
  data := .obj [("spec", .obj [("template", .obj [("spec", .obj [("hostPID", .bool true)])])])]

/-- Serves the same workloads in each of these groups. -/
def serving (groups : List String) (objects : List Object) : ScriptedCluster where
  resources := groups.map deployment
  namespaces := [⟨"default", "ns-1"⟩]
  objects := groups.map fun group =>
    (⟨(deployment group).display, some "default"⟩, objects)

/-- A new scanner, which looks for shared process ids only if nothing else is said. -/
def scanning (cluster : ScriptedCluster) (enabled : List Check := [.hostPid]) :
    Scanning (Interleaved ScriptedCluster) where
  scheduler := { config := {}, namespaces := { ignore := none }, generation := 0 }
  world := { outside := cluster, engine := { enabled } }

theorem fresh_scanning (cluster : ScriptedCluster) {enabled : List Check} :
    (scanning cluster enabled).Fresh where
  scheduler := by
    refine ⟨{}, ?_⟩
    have hfault : ({} : ScannerConfig).fault? = none := by decide
    rw [Scheduler.ofConfig, hfault]
    rfl
  generation := rfl
  gauge := rfl
  judgements := rfl

theorem lived_live (cluster : ScriptedCluster) (events : List (Event ScriptedCluster)) :
    ((scanning cluster).live ScriptedCluster.asCluster events).Lived ScriptedCluster.asCluster :=
  ⟨_, fresh_scanning cluster, events, rfl⟩

end Sample

end ComplianceScanner
