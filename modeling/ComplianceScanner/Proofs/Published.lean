import ComplianceScanner.Proofs.Retries

/-!
# What a run publishes

The loops over cycles and attempts come down to four moves from one published state to the next and
to the ways in which a run may end. The numbers in a state are those of the scheduler at the time,
since each move keeps them in step; which states may follow one another is read off the moves.
-/

namespace ComplianceScanner

variable {World : Type}

/-- A published state and all that there was when it was published. -/
structure Sent (World : Type) where
  scanning : Scanning World
  state : SchedulerState

namespace SchedulerState

/-- The state goes with this many completed cycles, and with an attempt among those allowed. -/
def Numbers (maxAttempts completed : Nat) : SchedulerState → Prop
  | .running cycle attempt => cycle = completed + 1 ∧ 1 ≤ attempt ∧ attempt ≤ maxAttempts
  | .backoff cycle attempt _ => cycle = completed + 1 ∧ 1 ≤ attempt ∧ attempt < maxAttempts
  | .waitingForTick done _ => done = completed
  | .idle => True
  | .stopped => False

end SchedulerState

namespace Sent

variable (cluster : Cluster World) (engine : Engine World) (clock : Clock World) (steps : Nat)

/-- The state of affairs in which it is looked whether another cycle should begin: at the start, and
when the tick that was waited for has come. -/
inductive Ready : Sent World → Scanning World → Prop
  | start {s : Scanning World} : Ready ⟨s, .idle⟩ s
  | due {s : Scanning World} {completed : Nat} {date : Timestamp} {tick : Duration} {world : World}
      (hdue : clock.awaitTick tick s.world = (.due, world)) :
      Ready ⟨s, .waitingForTick completed date⟩ { s with world }

/-- One published state leads to the next. -/
inductive Proceeds : Sent World → Sent World → Prop
  | opens {x : Sent World} {s : Scanning World} (hready : Ready clock x s)
      (hgoes : clock.isCancelled s.world = false) :
      Proceeds x ⟨s, .running (s.scheduler.completed + 1) 1⟩
  | fails {s s' : Scanning World} {cycle attempt : Nat} {error : ScanError}
      (hgoes : clock.isCancelled s.world = false)
      (hrun : s.runCycle cluster engine steps = (.error (.failed error), s'))
      (hretriable : error.isRetriable = true)
      (hattempt : attempt < s'.scheduler.config.backoff.maxAttempts) :
      Proceeds ⟨s, .running cycle attempt⟩
        ⟨s'.countFailure clock (clock.now s.world) error,
          .backoff cycle attempt (s'.scheduler.config.backoff.delay (attempt - 1))⟩
  | retries {s : Scanning World} {cycle attempt : Nat} {delay : Duration} {world : World}
      (hdue : clock.awaitRetry delay s.world = (.due, world)) :
      Proceeds ⟨s, .backoff cycle attempt delay⟩ ⟨{ s with world }, .running cycle (attempt + 1)⟩
  | completes {s s' : Scanning World} {cycle attempt : Nat} {report : CycleReport} {offset : Float}
      {world : World} (hgoes : clock.isCancelled s.world = false)
      (hrun : s.runCycle cluster engine steps = (.ok report, s'))
      (hdrawn : clock.drawOffset s'.world = (offset, world)) :
      Proceeds ⟨s, .running cycle attempt⟩
        ⟨{ s'.countSuccess clock (clock.now s.world) with world },
          .waitingForTick (s'.scheduler.completed + 1) (clock.date world)⟩

/-- The run has been told to stop, and sees it at the next point where it looks. -/
inductive SeesCancellation : Sent World → Prop
  | ready {x : Sent World} {s : Scanning World} (hready : Ready clock x s)
      (htold : clock.isCancelled s.world = true) : SeesCancellation x
  | running {s : Scanning World} {cycle attempt : Nat} (htold : clock.isCancelled s.world = true) :
      SeesCancellation ⟨s, .running cycle attempt⟩
  | scanning {s s' : Scanning World} {cycle attempt : Nat}
      (hgoes : clock.isCancelled s.world = false)
      (hrun : s.runCycle cluster engine steps = (.error .cutOff, s')) :
      SeesCancellation ⟨s, .running cycle attempt⟩
  | backoff {s : Scanning World} {cycle attempt : Nat} {delay : Duration} {world : World}
      (htold : clock.awaitRetry delay s.world = (.cancelled, world)) :
      SeesCancellation ⟨s, .backoff cycle attempt delay⟩
  | waiting {s : Scanning World} {completed : Nat} {date : Timestamp} {tick : Duration}
      {world : World} (htold : clock.awaitTick tick s.world = (.cancelled, world)) :
      SeesCancellation ⟨s, .waitingForTick completed date⟩

/-- How a run ends with this as its last state before it is stopped. -/
inductive Ends : Sent World → Stop → Prop
  | cancelled {x : Sent World} (hcancelled : SeesCancellation cluster engine clock steps x) :
      Ends x .cutOff
  | fatal {s s' : Scanning World} {cycle attempt : Nat} {error : ScanError}
      (hgoes : clock.isCancelled s.world = false)
      (hrun : s.runCycle cluster engine steps = (.error (.failed error), s'))
      (hfatal : error.isRetriable = false) :
      Ends ⟨s, .running cycle attempt⟩ (.failed error)
  | exhausted {s s' : Scanning World} {cycle : Nat} {error : ScanError}
      (hgoes : clock.isCancelled s.world = false)
      (hrun : s.runCycle cluster engine steps = (.error (.failed error), s'))
      (hretriable : error.isRetriable = true) :
      Ends ⟨s, .running cycle s'.scheduler.config.backoff.maxAttempts⟩
        (.failed (.retriesExhausted s'.scheduler.config.backoff.maxAttempts error))
  | unfinished {x : Sent World} : Ends x .outOfSteps

/-- From one state to another by way of these, the last one included. -/
inductive Leads : Sent World → List (Sent World) → Sent World → Prop
  | refl {x : Sent World} : Leads x [] x
  | step {x y z : Sent World} {sent : List (Sent World)}
      (hfirst : Proceeds cluster engine clock steps x y) (hrest : Leads y sent z) :
      Leads x (y :: sent) z

/-- What all attempts of a cycle come to, by way of these states. -/
inductive Concludes : Sent World → Except Stop CycleReport → Scanning World → Prop
  | ok {s s' : Scanning World} {cycle attempt : Nat} {report : CycleReport}
      (hgoes : clock.isCancelled s.world = false)
      (hrun : s.runCycle cluster engine steps = (.ok report, s')) :
      Concludes ⟨s, .running cycle attempt⟩ (.ok report)
        (s'.countSuccess clock (clock.now s.world))
  | error {x : Sent World} {stop : Stop} {s' : Scanning World}
      (hends : Ends cluster engine clock steps x stop) : Concludes x (.error stop) s'

variable {cluster engine clock steps} {x y z : Sent World} {sent later : List (Sent World)}

theorem Concludes.completes {s' : Scanning World} {report : CycleReport} {offset : Float}
    {world : World} (h : Concludes cluster engine clock steps x (.ok report) s')
    (hdrawn : clock.drawOffset s'.world = (offset, world)) :
    Proceeds cluster engine clock steps x
      ⟨{ s' with world }, .waitingForTick s'.scheduler.completed (clock.date world)⟩ := by
  cases h with
  | ok hgoes hrun => exact .completes hgoes hrun hdrawn

theorem Leads.trans (h : Leads cluster engine clock steps x sent y)
    (h' : Leads cluster engine clock steps y later z) :
    Leads cluster engine clock steps x (sent ++ later) z := by
  induction h with
  | refl => exact h'
  | step hfirst hrest ih => exact .step hfirst (ih h')

/-! ### The numbers in a state -/

/-- The state goes with the scheduler, which keeps its settings. -/
structure Numbered (backoff : BackoffConfig) (x : Sent World) : Prop where
  backoff_eq : x.scanning.scheduler.config.backoff = backoff
  numbers : x.state.Numbers backoff.maxAttempts x.scanning.scheduler.completed

variable {backoff : BackoffConfig}

theorem Ready.scheduler_eq {s : Scanning World} (hready : Ready clock x s) :
    s.scheduler = x.scanning.scheduler := by
  cases hready <;> rfl

theorem Proceeds.config_eq (h : Proceeds cluster engine clock steps x y) :
    y.scanning.scheduler.config = x.scanning.scheduler.config := by
  cases h with
  | opens hready hgoes => exact congrArg Scheduler.config hready.scheduler_eq
  | fails hgoes hrun hretriable hattempt => exact (Scanning.runCycle_counts hrun).config
  | retries hdue => rfl
  | completes hgoes hrun hdrawn => exact (Scanning.runCycle_counts hrun).config

theorem Leads.config_eq (h : Leads cluster engine clock steps x sent y) :
    y.scanning.scheduler.config = x.scanning.scheduler.config := by
  induction h with
  | refl => rfl
  | step hfirst hrest ih => exact ih.trans hfirst.config_eq

theorem Proceeds.numbered (hattempts : 1 ≤ backoff.maxAttempts)
    (h : Proceeds cluster engine clock steps x y) (hx : x.Numbered backoff) :
    y.Numbered backoff := by
  obtain ⟨hbackoff, hnumbers⟩ := hx
  refine ⟨h.config_eq ▸ hbackoff, ?_⟩
  cases h with
  | opens hready hgoes => exact ⟨rfl, Nat.le_refl 1, hattempts⟩
  | @fails s s' cycle attempt error hgoes hrun hretriable hattempt =>
      have hran := Scanning.runCycle_counts hrun
      obtain ⟨hcycle, hone, -⟩ := hnumbers
      rw [hran.config, hbackoff] at hattempt
      have hcompleted : (s'.countFailure clock (clock.now s.world) error).scheduler.completed =
          s.scheduler.completed := hran.completed
      exact ⟨hcompleted ▸ hcycle, hone, hattempt⟩
  | retries hdue =>
      obtain ⟨hcycle, hone, hless⟩ := hnumbers
      exact ⟨hcycle, Nat.le_add_left 1 _, hless⟩
  | completes hgoes hrun hdrawn => exact rfl

theorem Leads.numbered (hattempts : 1 ≤ backoff.maxAttempts)
    (h : Leads cluster engine clock steps x sent y) (hx : x.Numbered backoff) :
    (∀ z ∈ sent, z.Numbered backoff) ∧ y.Numbered backoff := by
  induction h with
  | refl => exact ⟨fun _ hmem => (List.not_mem_nil hmem).elim, hx⟩
  | step hfirst hrest ih =>
      have hnext := hfirst.numbered hattempts hx
      obtain ⟨hall, hlast⟩ := ih hnext
      exact ⟨List.forall_mem_cons.mpr ⟨hnext, hall⟩, hlast⟩

end Sent

/-! ### The moves of a run -/

namespace Run

open Sent

variable (cluster : Cluster World) (engine : Engine World) (clock : Clock World) (steps : Nat)

def states (run : Run World) : List SchedulerState := run.published.map (·.state)

theorem states_publish (clock : Clock World) (state : SchedulerState) (run : Run World) :
    (run.publish clock state).states = run.states ++ [state] := by
  simp [states, publish]

/-- The attempts of a cycle, seen from the state that announces the first of them. -/
theorem tryCycle_leads (left attempt : Nat) (run : Run World)
    (hleft : attempt + left = run.scanning.scheduler.config.backoff.maxAttempts) :
    let tried := run.tryCycle cluster engine clock steps left attempt
    let begun := SchedulerState.running (run.scanning.scheduler.completed + 1) attempt
    ∃ sent last, Leads cluster engine clock steps ⟨run.scanning, begun⟩ sent last ∧
      Concludes cluster engine clock steps last tried.1 tried.2.scanning ∧
      tried.2.states = run.states ++ begun :: sent.map (·.state) := by
  fun_induction tryCycle cluster engine clock steps left attempt run with
  | case1 left attempt run cycle begun hcancelled =>
      exact ⟨[], _, .refl, .error (.cancelled (.running hcancelled)), states_publish ..⟩
  | case2 left attempt run cycle begun hgoes s hrun =>
      exact ⟨[], _, .refl, .error (.cancelled (.scanning (Bool.eq_false_iff.mpr hgoes) hrun)),
        states_publish ..⟩
  | case3 left attempt run cycle begun hgoes s hrun =>
      exact ⟨[], _, .refl, .error .unfinished, states_publish ..⟩
  | case4 left attempt run cycle begun hgoes started report s hrun =>
      exact ⟨[], _, .refl, .ok (Bool.eq_false_iff.mpr hgoes) hrun, states_publish ..⟩
  | case5 left attempt run cycle begun hgoes started error s hrun failed hfatal =>
      have hfatal : error.isRetriable = false := by simpa using hfatal
      exact ⟨[], _, .refl, .error (.fatal (Bool.eq_false_iff.mpr hgoes) hrun hfatal),
        states_publish ..⟩
  | case6 attempt run cycle begun hgoes started error s hrun failed hretried =>
      have hretriable : error.isRetriable = true := by simpa using hretried
      have hlast : attempt = s.scheduler.config.backoff.maxAttempts := by
        rw [(Scanning.runCycle_counts hrun).config]
        exact hleft
      have hends : Ends cluster engine clock steps ⟨run.scanning, .running cycle attempt⟩
          (.failed (.retriesExhausted attempt error)) := by
        rw [hlast]
        exact .exhausted (Bool.eq_false_iff.mpr hgoes) hrun hretriable
      exact ⟨[], _, .refl, .error hends, states_publish ..⟩
  | case7 attempt run cycle begun hgoes started error s hrun failed hretried left delay waiting
      world hcancelled =>
      have hretriable : error.isRetriable = true := by simpa using hretried
      have hattempt : attempt < s.scheduler.config.backoff.maxAttempts := by
        rw [(Scanning.runCycle_counts hrun).config]
        exact hleft ▸ Nat.lt_add_of_pos_right (Nat.succ_pos left)
      have hfails : Proceeds cluster engine clock steps ⟨run.scanning, .running cycle attempt⟩
          ⟨waiting.scanning, .backoff cycle attempt delay⟩ :=
        .fails (Bool.eq_false_iff.mpr hgoes) hrun hretriable hattempt
      refine ⟨[⟨waiting.scanning, .backoff cycle attempt delay⟩], _,
        .step hfails .refl,
        .error (.cancelled (.backoff hcancelled)), ?_⟩
      change waiting.states = _
      rw [states_publish, show failed.states = run.states ++ [.running cycle attempt] from
        states_publish .., List.append_assoc]
      rfl
  | case8 attempt run cycle begun hgoes started error s hrun failed hretried left delay waiting
      world hdue ih =>
      have hran := Scanning.runCycle_counts hrun
      have hretriable : error.isRetriable = true := by simpa using hretried
      have hcompleted : (waiting.withWorld world).scanning.scheduler.completed + 1 = cycle :=
        congrArg (· + 1) hran.completed
      have hattempt : attempt < s.scheduler.config.backoff.maxAttempts := by
        rw [hran.config]
        exact hleft ▸ Nat.lt_add_of_pos_right (Nat.succ_pos left)
      obtain ⟨sent, last, hleads, hconcludes, hstates⟩ := ih (by
        change attempt + 1 + left = s.scheduler.config.backoff.maxAttempts
        rw [hran.config, Nat.add_right_comm]
        exact hleft)
      rw [hcompleted] at hleads hstates
      have hfails : Proceeds cluster engine clock steps ⟨run.scanning, .running cycle attempt⟩
          ⟨waiting.scanning, .backoff cycle attempt delay⟩ :=
        .fails (Bool.eq_false_iff.mpr hgoes) hrun hretriable hattempt
      refine ⟨⟨waiting.scanning, .backoff cycle attempt delay⟩ ::
          ⟨(waiting.withWorld world).scanning, .running cycle (attempt + 1)⟩ :: sent, last,
        .step hfails (.step (.retries hdue) hleads),
        hconcludes, ?_⟩
      rw [hstates, show (waiting.withWorld world).states = waiting.states from rfl, states_publish,
        show failed.states = run.states ++ [.running cycle attempt] from states_publish ..,
        List.append_assoc, List.append_assoc]
      rfl

variable {cluster engine clock steps} in
/-- A whole cycle, seen from the state in which it may begin. -/
theorem cycle_leads {run run' : Run World} {result : Except Stop CycleReport} {x : Sent World}
    (hready : Ready clock x run.scanning) (hgoes : clock.isCancelled run.scanning.world = false)
    (hattempts : 1 ≤ run.scanning.scheduler.config.backoff.maxAttempts)
    (hrun : run.tryCycle cluster engine clock steps
      (run.scanning.scheduler.config.backoff.maxAttempts - 1) 1 = (result, run')) :
    ∃ sent last, Leads cluster engine clock steps x sent last ∧
      Concludes cluster engine clock steps last result run'.scanning ∧
      run'.states = run.states ++ sent.map (·.state) := by
  obtain ⟨sent, last, hleads, hconcludes, hstates⟩ := tryCycle_leads cluster engine clock steps
    (run.scanning.scheduler.config.backoff.maxAttempts - 1) 1 run (Nat.add_sub_cancel' hattempts)
  rw [hrun] at hconcludes hstates
  exact ⟨_ :: sent, last, .step (.opens hready hgoes) hleads, hconcludes, hstates⟩

/-- All cycles of a run, seen from the state in which the first of them may begin. -/
theorem cycleUntilStopped_leads (cycles : Nat) (run : Run World)
    (hattempts : 1 ≤ run.scanning.scheduler.config.backoff.maxAttempts) :
    let ended := cycleUntilStopped cluster engine clock steps cycles run
    ∀ x, Ready clock x run.scanning →
      ∃ sent last, Leads cluster engine clock steps x sent last ∧
        Ends cluster engine clock steps last ended.1 ∧
        ended.2.states = run.states ++ sent.map (·.state) := by
  fun_induction cycleUntilStopped cluster engine clock steps cycles run with
  | case1 run =>
      intro ended x hready
      exact ⟨[], x, .refl, .unfinished, (List.append_nil _).symm⟩
  | case2 run cycles hcancelled =>
      intro ended x hready
      exact ⟨[], x, .refl, .cancelled (.ready hready hcancelled), (List.append_nil _).symm⟩
  | case3 cycles run hgoes config stop run' hrun =>
      intro ended x hready
      obtain ⟨sent, last, hleads, hconcludes, hstates⟩ :=
        cycle_leads hready (Bool.eq_false_iff.mpr hgoes) hattempts hrun
      cases hconcludes with
      | error hends => exact ⟨sent, last, hleads, hends, hstates⟩
  | case4 cycles run hgoes config started report run' hrun offset drawn hdrawn length waiting world
      hcancelled =>
      intro ended x hready
      obtain ⟨sent, last, hleads, hconcludes, hstates⟩ :=
        cycle_leads hready (Bool.eq_false_iff.mpr hgoes) hattempts hrun
      have hcompletes := hconcludes.completes hdrawn
      refine ⟨sent ++ [⟨waiting.scanning, _⟩], _, hleads.trans (.step hcompletes .refl),
        .cancelled (.waiting hcancelled), ?_⟩
      change waiting.states = _
      rw [states_publish, show (run'.withWorld drawn).states = run'.states from rfl, hstates,
        List.map_append, List.append_assoc]
      rfl
  | case5 cycles run hgoes config started report run' hrun offset drawn hdrawn length waiting world
      hdue ih =>
      intro ended x hready
      obtain ⟨sent, last, hleads, hconcludes, hstates⟩ :=
        cycle_leads hready (Bool.eq_false_iff.mpr hgoes) hattempts hrun
      have hleads' := hleads.trans (.step (hconcludes.completes hdrawn) .refl)
      have hconfig : waiting.scanning.scheduler.config = config :=
        hleads'.config_eq.trans (congrArg Scheduler.config hready.scheduler_eq.symm)
      obtain ⟨later, last', hlater, hends, hstates'⟩ := ih (hconfig ▸ hattempts) _ (.due hdue)
      refine ⟨_, last', hleads'.trans hlater, hends, ?_⟩
      rw [hstates', show (waiting.withWorld world).states = waiting.states from rfl,
        states_publish, show (run'.withWorld drawn).states = run'.states from rfl, hstates,
        List.map_append, List.map_append, List.append_assoc, List.append_assoc, List.append_assoc]
      rfl

theorem states_toEnd (cycles : Nat) (s : Scanning World) :
    let ended := cycleUntilStopped cluster engine clock steps cycles { scanning := s }
    let stopped := toEnd cluster engine clock steps cycles s
    stopped.1 = ended.1 ∧
      stopped.2.states = ended.2.states ++ if ended.1 = .outOfSteps then [] else [.stopped] := by
  intro ended stopped
  unfold ended stopped toEnd
  split
  · rename_i run hended
    simp [hended]
  · rename_i stop run hstop hended
    simp only [hended, if_neg hstop]
    exact ⟨trivial, states_publish clock _ run⟩

end Run

namespace Sample

/-- Is told to stop while it waits for a retry, as soon as the script has few answers left. -/
def brief : Clock (List (Option ClusterError)) where
  now _ := .zero
  date _ := ⟨0, 0⟩
  isCancelled _ := false
  drawOffset script := (0, script)
  awaitTick _ script := (.due, script)
  awaitRetry _ script := (if script.length ≤ 3 then .cancelled else .due, script)

end Sample

end ComplianceScanner
