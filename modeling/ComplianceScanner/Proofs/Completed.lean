import ComplianceScanner.Proofs.Layout

/-!
# Attempts that come through

An attempt comes through when all its steps do: the types are discovered, each kind is listed to its end
and finished, and then what is cached of other kinds is dropped. What is proved of such attempts starts
from this, and so need not look at where they could have stopped.
-/

namespace ComplianceScanner

variable {World : Type}

namespace Scanning

/-- What is done for a kind before it is finished. -/
def scanDeeds (cluster : Cluster World) (engine : Engine World) (steps : Nat)
    (resource : ResourceType) (scopes : List (Option String × String))
    (s between : Scanning World) : List Deed :=
  s.scopeDeeds resource ++ KindScan.scopesDeeds cluster engine resource
    between.scheduler.config.pageSize steps scopes
    { caches := between.scheduler.caches, world := between.world }

theorem scans_scanDeeds (cluster : Cluster World) (engine : Engine World) (steps : Nat)
    (resource : ResourceType) (scopes : List (Option String × String))
    (s between : Scanning World) :
    ∀ deed ∈ scanDeeds cluster engine steps resource scopes s between, deed.Scans resource := by
  rw [scanDeeds, List.forall_mem_append]
  constructor
  · intro deed hdeed
    rw [s.scopeDeeds_subset resource deed hdeed]
    trivial
  · exact KindScan.scans_scopesDeeds cluster engine resource _ steps scopes _

/-- A scan of a kind that comes through: the scopes are found, their listings are taken up to the end,
and then the kind is finished. -/
structure CameThrough (cluster : Cluster World) (engine : Engine World) (steps : Nat)
    (resource : ResourceType) (report report' : CycleReport) (s s' : Scanning World)
    (scopes : List (Option String × String)) (count : Option Nat) (between : Scanning World)
    (scan : KindScan World) : Prop where
  scopes_eq : s.scopes cluster resource = (.ok (scopes, count), between)
  take_eq : KindScan.takeScopes cluster engine resource between.scheduler.config.pageSize steps
    scopes { caches := between.scheduler.caches, world := between.world } = (none, scan)
  finish_eq : between.finishKind engine resource scan
    { report with namespaces := count.getD report.namespaces } = (report', s')

section

variable {cluster : Cluster World} {engine : Engine World} {steps : Nat} {resource : ResourceType}
  {report report' : CycleReport} {s s' : Scanning World}

theorem exists_cameThrough
    (hrun : s.scanKind cluster engine steps resource report = (.ok report', s')) :
    ∃ scopes count between scan, CameThrough cluster engine steps resource report report' s s'
      scopes count between scan := by
  rw [scanKind] at hrun
  cases hscopes : s.scopes cluster resource with
  | mk result between =>
      rw [hscopes] at hrun
      cases result with
      | error stop => cases hrun
      | ok listed =>
          obtain ⟨scopes, count⟩ := listed
          simp only at hrun
          split at hrun
          · cases hrun
          · rename_i scan htake
            obtain ⟨hreport, hend⟩ := Prod.mk.inj hrun
            exact ⟨scopes, count, between, scan, hscopes, htake,
              Prod.ext (Except.ok.inj hreport) hend⟩

theorem scopes_frame (cluster : Cluster World) (resource : ResourceType) (s : Scanning World) :
    (s.scopes cluster resource).2.scheduler.metrics = s.scheduler.metrics ∧
      (s.scopes cluster resource).2.scheduler.generation = s.scheduler.generation := by
  unfold scopes
  split
  · split <;> exact ⟨rfl, rfl⟩
  · exact ⟨rfl, rfl⟩

namespace CameThrough

variable {scopes : List (Option String × String)} {count : Option Nat} {between : Scanning World}
  {scan : KindScan World}
  (h : CameThrough cluster engine steps resource report report' s s' scopes count between scan)
include h

theorem kindDeeds_eq : s.kindDeeds cluster engine steps resource =
    scanDeeds cluster engine steps resource scopes s between ++ [.finish resource scan.observed] := by
  rw [kindDeeds, h.scopes_eq]
  simp only
  rw [h.take_eq, scanDeeds, List.append_assoc]

theorem start_eq : KindScan.moment { caches := between.scheduler.caches, world := between.world }
      s.scheduler.generation =
    s.moment.applyAll cluster engine (s.scopeDeeds resource) := by
  have hmoment := s.scopes_moment cluster engine resource
  have hgeneration := (s.scopes_frame cluster resource).2
  rw [h.scopes_eq] at hmoment hgeneration
  rw [← hmoment, ← hgeneration]
  rfl

theorem moment_eq : scan.moment s.scheduler.generation =
    s.moment.applyAll cluster engine
      (scanDeeds cluster engine steps resource scopes s between) := by
  have htaken := KindScan.takeScopes_moment cluster engine resource
    between.scheduler.config.pageSize steps scopes
    { caches := between.scheduler.caches, world := between.world } s.scheduler.generation
  rw [h.take_eq] at htaken
  rw [scanDeeds, Moment.applyAll_append, ← h.start_eq]
  exact htaken

end CameThrough

theorem exists_scanKind_of_scanKinds_cons {rest : List ResourceType}
    (hrun : s.scanKinds cluster engine steps (resource :: rest) report = (.ok report', s')) :
    ∃ between t, s.scanKind cluster engine steps resource report = (.ok between, t) ∧
      t.scanKinds cluster engine steps rest between = (.ok report', s') := by
  rw [scanKinds] at hrun
  cases hfirst : s.scanKind cluster engine steps resource report with
  | mk result t =>
      rw [hfirst] at hrun
      cases result with
      | error stop => cases hrun
      | ok between => exact ⟨between, t, rfl, hrun⟩

theorem kindsDeeds_cons_of_scanKind (rest : List ResourceType) {between : CycleReport}
    {t : Scanning World}
    (hfirst : s.scanKind cluster engine steps resource report = (.ok between, t)) :
    s.kindsDeeds cluster engine steps (resource :: rest) report =
        s.kindDeeds cluster engine steps resource ++
          t.kindsDeeds cluster engine steps rest between ∧
      t.moment = s.moment.applyAll cluster engine (s.kindDeeds cluster engine steps resource) := by
  have hmoment := s.scanKind_moment cluster engine steps resource report
  rw [hfirst] at hmoment
  rw [kindsDeeds, hfirst]
  exact ⟨rfl, hmoment⟩

theorem exists_discovered (hrun : s.runCycle cluster engine steps = (.ok report, s')) :
    ∃ resources world, Discovery.run cluster engine (s.dropStaleCaches engine).world =
      (.ok resources, world) := by
  cases hanswer : Discovery.run cluster engine (s.dropStaleCaches engine).world with
  | mk result world =>
      cases result with
      | error stop =>
          rw [(runCycle_of_run_eq_error steps hanswer).1] at hrun
          cases hrun
      | ok resources => exact ⟨resources, world, rfl⟩

theorem exists_scanKinds_of_runCycle {resources : List ResourceType} {world : World}
    (hdiscovered : Discovery.run cluster engine (s.dropStaleCaches engine).world =
      (.ok resources, world))
    (hrun : s.runCycle cluster engine steps = (.ok report, s')) :
    ∃ between t, ((s.dropStaleCaches engine).begun world).scanKinds cluster engine steps resources
        { resourceTypes := resources.length } = (.ok between, t) ∧
      t.dropVanished engine resources between = (report, s') := by
  rw [runCycle_of_run steps hdiscovered] at hrun
  split at hrun
  · cases hrun
  · rename_i between t hkinds
    obtain ⟨hreport, hend⟩ := Prod.mk.inj hrun
    exact ⟨between, t, hkinds, Prod.ext (Except.ok.inj hreport) hend⟩

/-- All deeds of an attempt that comes through but the look at the generation, and where they lead
from. -/
theorem tail_deeds_of_scanKinds {resources : List ResourceType} {world : World}
    {between : CycleReport} {t : Scanning World}
    (hdiscovered : Discovery.run cluster engine (s.dropStaleCaches engine).world =
      (.ok resources, world))
    (hkinds : ((s.dropStaleCaches engine).begun world).scanKinds cluster engine steps resources
      { resourceTypes := resources.length } = (.ok between, t)) :
    (s.deeds cluster engine steps).tail = .ask .discover ::
        (((s.dropStaleCaches engine).begun world).kindsDeeds cluster engine steps resources
          { resourceTypes := resources.length } ++ [.retire (resources.map (·.key))]) ∧
      ((s.dropStaleCaches engine).begun world).moment =
        (s.dropStaleCaches engine).moment.apply cluster engine (.ask .discover) ∧
      t.moment = ((s.dropStaleCaches engine).begun world).moment.applyAll cluster engine
        (((s.dropStaleCaches engine).begun world).kindsDeeds cluster engine steps resources
          { resourceTypes := resources.length }) := by
  have hbegun := begun_moment cluster engine (s.dropStaleCaches engine)
  have hmoment := scanKinds_moment cluster engine steps resources
    { resourceTypes := resources.length } ((s.dropStaleCaches engine).begun world)
  rw [hdiscovered] at hbegun
  rw [hkinds] at hmoment
  rw [deeds_of_run steps hdiscovered, hkinds]
  exact ⟨rfl, hbegun, hmoment⟩

end

end Scanning

end ComplianceScanner
