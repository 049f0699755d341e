import ComplianceScanner.Proofs.Attempts
import ComplianceScanner.Proofs.Surveyed
import ComplianceScanner.Simulation.StandIn

/-!
# Surveys are oblivious

A cluster that stands beside the engine sees nothing of it but the requests. These follow from what
the cluster answers and from which kinds are supported, and from nothing else: not from the caches,
not from the generation, not from what the engine says of any object, and not from namespaces that an
earlier attempt has asked for.
-/

namespace ComplianceScanner

variable {Client Judge : Type}

/-- A cluster beside an engine. -/
def Cluster.beside (cluster : Cluster Client) : Cluster (Client × Judge) :=
  cluster.within Prod.fst fun client world => (client, world.2)

/-- An engine beside a cluster. -/
def Engine.beside (engine : Engine Judge) : Engine (Client × Judge) :=
  engine.within Prod.snd fun judge world => (world.1, judge)

theorem Cluster.exchange_beside (cluster : Cluster Client) (call : Cluster.Call)
    (world : Client × Judge) :
    cluster.beside.exchange call world = cluster.exchange call world.1 := by
  cases call <;> rfl

theorem Cluster.after_beside (cluster : Cluster Client) (call : Cluster.Call)
    (world : Client × Judge) :
    cluster.beside.after call world = (cluster.after call world.1, world.2) := by
  cases call <;> rfl

theorem Cluster.call_exchange (cluster : Cluster Client) (call : Cluster.Call) (client : Client) :
    (cluster.exchange call client).call = call := by
  cases call <;> rfl

theorem Engine.keeps_client (engine : Engine Judge) :
    engine.beside.journaled.Keeps
      fun j : Journaled (Client × Judge) => (j.exchanges, j.world.1) where
  validate _ _ := rfl
  deleteMetrics _ _ := rfl

variable (cluster : Cluster Client) (engine : Engine Judge)

namespace Moment

variable (m : Moment (Journaled (Client × Judge)))

/-- The exchanges on record are those that the cluster has been through. -/
theorem apply_plays (deed : Deed) :
    let m' := m.apply cluster.beside.journaled engine.beside.journaled deed
    ∃ exchanges, m'.world.exchanges = m.world.exchanges ++ exchanges ∧
      cluster.Plays m.world.world.1 exchanges m'.world.world.1 := by
  intro m'
  by_cases hdeed : ∃ call, deed = .ask call
  · obtain ⟨call, rfl⟩ := hdeed
    have hworld : m'.world = _ := cluster.beside.after_journaled call m.world
    refine ⟨[cluster.exchange call m.world.world.1], ?_, ?_, ?_⟩
    · rw [hworld, Cluster.exchange_beside]
    · rw [Cluster.call_exchange]
    · rw [Cluster.call_exchange, hworld, Cluster.after_beside]
      rfl
  · have hsame := engine.keeps_client.apply cluster.beside.journaled m
      fun call heq => hdeed ⟨call, heq⟩
    obtain ⟨hexchanges, hclient⟩ := Prod.mk.inj hsame
    exact ⟨[], hexchanges.trans (List.append_nil _).symm, hclient.symm⟩

theorem applyAll_plays (deeds : List Deed) :
    let m' := m.applyAll cluster.beside.journaled engine.beside.journaled deeds
    ∃ exchanges, m'.world.exchanges = m.world.exchanges ++ exchanges ∧
      cluster.Plays m.world.world.1 exchanges m'.world.world.1 := by
  induction deeds generalizing m with
  | nil => exact ⟨[], (List.append_nil _).symm, rfl⟩
  | cons deed deeds ih =>
      obtain ⟨first, hfirst, hplays⟩ := m.apply_plays cluster engine deed
      obtain ⟨rest, hrest, hplays'⟩ :=
        ih (m.apply cluster.beside.journaled engine.beside.journaled deed)
      refine ⟨first ++ rest, ?_, Cluster.plays_append.mpr ⟨_, hplays, hplays'⟩⟩
      rw [Moment.applyAll_cons, hrest, hfirst, List.append_assoc]

end Moment

namespace Discovery

/-- The types to scan come in order. -/
theorem pairwise_select (supports : String → String → Bool) (served : List ResourceType) :
    (select supports served).Pairwise fun earlier later => (compare earlier later).isLE = true := by
  refine List.pairwise_mergeSort ?_ ?_ _
  · exact fun _ _ _ => Std.TransCmp.isLE_trans
  · intro a b
    have hswap : compare b a = (compare a b).swap := Std.OrientedCmp.eq_swap
    rw [hswap]
    cases compare a b <;> rfl

end Discovery

namespace Scanning

/-- One attempt, with the engine beside the cluster. -/
def survey (cluster : Cluster Client) (engine : Engine Judge) (steps : Nat)
    (s : Scanning (Journaled (Client × Judge))) :
    Except Stop CycleReport × Scanning (Journaled (Client × Judge)) :=
  s.runCycle cluster.beside.journaled engine.beside.journaled steps

/-- The kinds that the engine supports when an attempt has dropped what is stale. -/
def supported (engine : Engine Judge) (s : Scanning (Journaled (Client × Judge))) :
    String → String → Bool :=
  engine.supports (s.dropStaleCaches engine.beside.journaled).world.world.2

theorem survey_plays (steps : Nat) (s : Scanning (Journaled (Client × Judge))) :
    let run := s.survey cluster engine steps
    ∃ exchanges, run.2.world.exchanges = s.world.exchanges ++ exchanges ∧
      cluster.Plays s.world.world.1 exchanges run.2.world.world.1 := by
  have hmoment := s.runCycle_moment cluster.beside.journaled engine.beside.journaled steps
  have hplays := s.moment.applyAll_plays cluster engine
    (s.deeds cluster.beside.journaled engine.beside.journaled steps)
  rw [← hmoment] at hplays
  exact hplays

theorem survey_whole (steps : Nat) (s : Scanning (Journaled (Client × Judge))) :
    let run := s.survey cluster engine steps
    ∃ exchanges, run.2.world.exchanges = s.world.exchanges ++ exchanges ∧
      cluster.Plays s.world.world.1 exchanges run.2.world.world.1 ∧
      Survey.Whole s.scheduler.config.pageSize steps s.scheduler.namespaces.isIgnored
        (s.supported engine) exchanges (Stop.of? run.1) := by
  obtain ⟨exchanges, hsurvey⟩ :=
    s.runCycle_isSurvey cluster.beside engine.beside steps
  obtain ⟨played, hplayed, hplays⟩ := s.survey_plays cluster engine steps
  have hsame : played = exchanges :=
    List.append_cancel_left (hplayed.symm.trans hsurvey.asks.exchanges_eq)
  exact ⟨exchanges, hsame ▸ hplayed, hsame ▸ hplays, hsurvey.whole⟩

/-- The requests of an attempt run their course and stop at the first that fails. Another scanner
with the same settings, whatever it has cached and whatever its engine says, makes the same requests
of the same cluster and comes to the same end. -/
theorem survey_oblivious (steps : Nat) (s : Scanning (Journaled (Client × Judge))) :
    let run := s.survey cluster engine steps
    ∃ exchanges, run.2.world.exchanges = s.world.exchanges ++ exchanges ∧
      Survey.Whole s.scheduler.config.pageSize steps s.scheduler.namespaces.isIgnored
        (s.supported engine) exchanges (Stop.of? run.1) ∧
      (∀ supports served, (Discovery.select supports served).Pairwise fun earlier later =>
        (compare earlier later).isLE = true) ∧
      (∀ exchange ∈ exchanges.dropLast, exchange.error? = none) ∧
      (∀ error, run.1 = .error (.failed error) ↔
        ∃ exchange ∈ exchanges, exchange.error? = some error) ∧
      ∀ {Judge' : Type} (engine' : Engine Judge') (s' : Scanning (Journaled (Client × Judge'))),
        s'.scheduler.SameSettings s.scheduler → s'.world.world.1 = s.world.world.1 →
        s'.supported engine' = s.supported engine →
          let run' := s'.survey cluster engine' steps
          run'.2.world.exchanges = s'.world.exchanges ++ exchanges ∧
            Stop.of? run'.1 = Stop.of? run.1 := by
  intro run
  obtain ⟨exchanges, hexchanges, hplays, hwhole⟩ := s.survey_whole cluster engine steps
  have hfails := hwhole.failsLast
  refine ⟨exchanges, hexchanges, hwhole, Discovery.pairwise_select, hfails.before, ?_, ?_⟩
  · intro error
    rw [← hfails.error]
    change run.1 = _ ↔ Stop.of? run.1 = _
    cases run.1 <;> simp [Stop.of?]
  · intro Judge' engine' s' hsettings hclient hsupported run'
    obtain ⟨exchanges', hexchanges', hplays', hwhole'⟩ := s'.survey_whole cluster engine' steps
    rw [hclient] at hplays'
    rw [hsettings.config, hsettings.isIgnored_eq, hsupported] at hwhole'
    obtain ⟨rfl, hstop⟩ := hwhole.unique hwhole' hplays hplays'
    exact ⟨hexchanges', hstop.symm⟩

end Scanning

namespace Sample

theorem keeps_standIn :
    StandIn.asEngine.beside.journaled.Keeps
      fun j : Journaled (ScriptedCluster × StandIn) => j.world.2 where
  validate _ _ := rfl
  deleteMetrics _ _ := rfl

/-- A scanner that has yet to begin. -/
def unspoilt : Scanning (Journaled (ScriptedCluster × StandIn)) where
  scheduler := { config := {}, namespaces := { ignore := none }, generation := 0 }
  world := { world := (serving ["apps"] [web "uid-1" "1"], { unsupportedKinds := [] }) }

/-- It remembers a namespace that is gone and an outcome that is stale, and its engine fails. -/
def haunted : Scanning (Journaled (ScriptedCluster × StandIn)) where
  scheduler :=
    { config := {}
      namespaces := { ignore := none, snapshot := some [⟨"gone", "ns-0"⟩] }
      caches := CacheSet.empty.put (deployment "apps").key
        (Cache.empty.store (.ofResource (deployment "apps") "gone" "web")
          ⟨"1", "uid-0", "ns-0", .valid⟩)
      completed := 3
      generation := 7 }
  world :=
    { world := (serving ["apps"] [web "uid-1" "1"],
        { unsupportedKinds := [], failing := ["web"], generation := 8 }) }

theorem survey_oblivious_haunted :
    let run := unspoilt.survey ScriptedCluster.asCluster StandIn.asEngine 2
    let run' := haunted.survey ScriptedCluster.asCluster StandIn.asEngine 2
    run'.2.world.exchanges = run.2.world.exchanges ∧ Stop.of? run'.1 = none ∧
      run'.2.world.exchanges.map Exchange.call =
        [.discover, .namespaces, .list (deployment "apps") (some "default") 5 none] := by
  intro run run'
  obtain ⟨exchanges, hrun, -, -, -, -, hother⟩ :=
    Scanning.survey_oblivious ScriptedCluster.asCluster StandIn.asEngine 2 unspoilt
  have hsupported : haunted.supported StandIn.asEngine = unspoilt.supported StandIn.asEngine := by
    rw [Scanning.supported, Scanning.supported, keeps_standIn.dropStaleCaches haunted,
      keeps_standIn.dropStaleCaches unspoilt]
    rfl
  obtain ⟨hrun', hstop⟩ := hother StandIn.asEngine haunted ⟨rfl, rfl⟩ rfl hsupported
  have hsame : run'.2.world.exchanges = run.2.world.exchanges := hrun'.trans hrun.symm
  refine ⟨hsame, hstop.trans ?_, ?_⟩
  · decide +kernel
  · rw [hsame]
    decide +kernel

end Sample

end ComplianceScanner
