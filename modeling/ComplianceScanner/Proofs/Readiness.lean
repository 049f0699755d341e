import ComplianceScanner.Probe.Server
import ComplianceScanner.Proofs.Published

/-!
# The count in a published state

The readiness probe knows the completed cycles from the state that was published last, and each kind of
state keeps their number in its own way. As long as a run goes on the number is that of the scheduler,
so that readiness is not lost. A run that is stopped publishes no number, and with it readiness goes,
however many cycles have been completed.
-/

namespace ComplianceScanner

variable {World : Type}

namespace SchedulerState

/-- Announces that one more cycle has been completed. -/
def isWaiting : SchedulerState → Bool
  | .waitingForTick _ _ => true
  | _ => false

/-- The probe once says that the scanner is ready and never takes it back. -/
def StaysReady (states : List SchedulerState) : Prop :=
  states.Pairwise fun earlier later =>
    (ProbeServer.readiness earlier).status = 200 → (ProbeServer.readiness later).status = 200

/-- The number of completed cycles never becomes smaller. -/
def NeverFalls (states : List SchedulerState) : Prop :=
  states.Pairwise fun earlier later => earlier.completedCycles ≤ later.completedCycles

theorem status_readiness {state : SchedulerState} :
    (ProbeServer.readiness state).status = 200 ↔ 0 < state.completedCycles := by
  unfold ProbeServer.readiness isReady
  by_cases hready : 0 < state.completedCycles <;> simp [hready]

theorem NeverFalls.staysReady {states : List SchedulerState} (hnever : NeverFalls states) :
    StaysReady states := by
  refine hnever.imp fun hle hready => ?_
  exact status_readiness.mpr ((status_readiness.mp hready).trans_le hle)

theorem neverFalls_append_stopped {states : List SchedulerState} :
    NeverFalls (states ++ [.stopped]) ↔
      NeverFalls states ∧ ∀ state ∈ states, state.completedCycles = 0 := by
  simp [NeverFalls, List.pairwise_append, completedCycles]

theorem staysReady_append_stopped {states : List SchedulerState} :
    StaysReady (states ++ [.stopped]) ↔
      StaysReady states ∧ ∀ state ∈ states, state.completedCycles = 0 := by
  simp [StaysReady, List.pairwise_append, status_readiness, completedCycles]

end SchedulerState

namespace Sent

variable {cluster : Cluster World} {engine : Engine World} {clock : Clock World} {steps : Nat}
  {x y : Sent World} {sent : List (Sent World)} {backoff : BackoffConfig}

/-- The number in the state is that of the scheduler at the time. -/
def Tells (x : Sent World) : Prop := x.state.completedCycles = x.scanning.scheduler.completed

theorem Numbered.tells (hx : x.Numbered backoff) (hbegun : x.state ≠ .idle) : x.Tells := by
  obtain ⟨s, state⟩ := x
  have hnumbers := hx.numbers
  cases state with
  | idle => exact absurd rfl hbegun
  | running cycle attempt =>
      have hcycle : cycle = s.scheduler.completed + 1 := hnumbers.1
      exact Nat.sub_eq_of_eq_add hcycle
  | backoff cycle attempt delay =>
      have hcycle : cycle = s.scheduler.completed + 1 := hnumbers.1
      exact Nat.sub_eq_of_eq_add hcycle
  | waitingForTick completed date => exact hnumbers
  | stopped => exact hnumbers.elim

theorem Proceeds.state_ne_idle (h : Proceeds cluster engine clock steps x y) :
    y.state ≠ .idle := by
  cases h <;> exact SchedulerState.noConfusion

theorem Proceeds.completed_eq (h : Proceeds cluster engine clock steps x y) :
    y.scanning.scheduler.completed =
      x.scanning.scheduler.completed + if y.state.isWaiting then 1 else 0 := by
  cases h with
  | opens hready hgoes => exact congrArg Scheduler.completed hready.scheduler_eq
  | fails hgoes hrun hretriable hattempt => exact (Scanning.runCycle_counts hrun).completed
  | retries hdue => rfl
  | completes hgoes hrun hdrawn =>
      exact congrArg (· + 1) (Scanning.runCycle_counts hrun).completed

theorem Leads.state_ne_idle (h : Leads cluster engine clock steps x sent y) :
    ∀ z ∈ sent, z.state ≠ .idle := by
  induction h with
  | refl => simp
  | step hfirst hrest ih => exact List.forall_mem_cons.mpr ⟨hfirst.state_ne_idle, ih⟩

theorem Leads.completed_eq (h : Leads cluster engine clock steps x sent y) :
    y.scanning.scheduler.completed =
      x.scanning.scheduler.completed + (sent.map (·.state)).countP (·.isWaiting) := by
  induction h with
  | refl => rfl
  | step hfirst hrest ih =>
      rw [ih, hfirst.completed_eq, List.map_cons, List.countP_cons]
      omega

theorem Leads.pairwise_completed_le (h : Leads cluster engine clock steps x sent y) :
    (x :: sent).Pairwise fun earlier later =>
      earlier.scanning.scheduler.completed ≤ later.scanning.scheduler.completed := by
  induction h with
  | refl => exact List.pairwise_singleton _ _
  | step hfirst hrest ih =>
      have hle := hfirst.completed_eq ▸ Nat.le_add_right _ _
      refine List.pairwise_cons.mpr ⟨?_, ih⟩
      exact List.forall_mem_cons.mpr ⟨hle, fun z hz => hle.trans (List.rel_of_pairwise_cons ih hz)⟩

theorem Leads.completed_le (h : Leads cluster engine clock steps x sent y) :
    x.scanning.scheduler.completed ≤ y.scanning.scheduler.completed ∧
      ∀ z ∈ sent, z.scanning.scheduler.completed ≤ y.scanning.scheduler.completed := by
  induction h with
  | refl => simp
  | step hfirst hrest ih =>
      have hle := hfirst.completed_eq ▸ Nat.le_add_right _ _
      exact ⟨hle.trans ih.1, List.forall_mem_cons.mpr ih⟩

theorem Leads.last_mem (h : Leads cluster engine clock steps x sent y) (hsent : sent ≠ []) :
    y ∈ sent := by
  induction h with
  | refl => exact absurd rfl hsent
  | step hfirst hrest ih =>
      cases hrest with
      | refl => exact List.mem_singleton_self _
      | step hsecond hrest => exact List.mem_cons_of_mem _ (ih (List.cons_ne_nil _ _))

theorem Leads.neverFalls (h : Leads cluster engine clock steps x sent y)
    (htells : ∀ z ∈ sent, z.Tells) : SchedulerState.NeverFalls (sent.map (·.state)) := by
  refine List.pairwise_map.mpr ?_
  refine (List.pairwise_cons.mp h.pairwise_completed_le).2.imp_of_mem fun hz hw hle => ?_
  rw [htells _ hz, htells _ hw]
  exact hle

/-- No number is told but 0 exactly if there is no cycle to tell of at the end. -/
theorem Leads.forall_completedCycles_eq_zero (h : Leads cluster engine clock steps x sent y)
    (htells : ∀ z ∈ sent, z.Tells) :
    (∀ state ∈ sent.map (·.state), state.completedCycles = 0) ↔
      sent = [] ∨ y.scanning.scheduler.completed = 0 := by
  constructor
  · intro hzero
    by_cases hsent : sent = []
    · exact .inl hsent
    · have hlast := h.last_mem hsent
      exact .inr ((htells y hlast).symm.trans (hzero _ (List.mem_map_of_mem hlast)))
  · rintro (rfl | hzero)
    · simp
    · rintro state hstate
      obtain ⟨z, hz, rfl⟩ := List.mem_map.mp hstate
      have hle := h.completed_le.2 z hz
      rw [htells z hz]
      omega

end Sent

namespace Run

open Sent

variable (cluster : Cluster World) (engine : Engine World) (clock : Clock World) (steps : Nat)

theorem countP_states_publish (state : SchedulerState) (run : Run World)
    (hstate : state.isWaiting = false) :
    (run.publish clock state).states.countP (·.isWaiting) =
      run.states.countP (·.isWaiting) := by
  rw [states_publish, List.countP_append, List.countP_singleton, hstate]
  rfl

theorem tryCycle_completed (left attempt : Nat) (run : Run World) :
    let tried := run.tryCycle cluster engine clock steps left attempt
    tried.2.scanning.scheduler.completed =
        run.scanning.scheduler.completed + Scanning.completions tried.1 ∧
      tried.2.states.countP (·.isWaiting) = run.states.countP (·.isWaiting) := by
  fun_induction tryCycle cluster engine clock steps left attempt run with
  | case1 left attempt run cycle begun hcancelled =>
      exact ⟨rfl, countP_states_publish clock _ run rfl⟩
  | case2 left attempt run cycle begun hgoes s hrun =>
      exact ⟨(Scanning.runCycle_counts hrun).completed, countP_states_publish clock _ run rfl⟩
  | case3 left attempt run cycle begun hgoes s hrun =>
      exact ⟨(Scanning.runCycle_counts hrun).completed, countP_states_publish clock _ run rfl⟩
  | case4 left attempt run cycle begun hgoes started report s hrun =>
      exact ⟨congrArg (· + 1) (Scanning.runCycle_counts hrun).completed,
        countP_states_publish clock _ run rfl⟩
  | case5 left attempt run cycle begun hgoes started error s hrun failed hfatal =>
      exact ⟨(Scanning.runCycle_counts hrun).completed, countP_states_publish clock _ run rfl⟩
  | case6 attempt run cycle begun hgoes started error s hrun failed hretried =>
      exact ⟨(Scanning.runCycle_counts hrun).completed, countP_states_publish clock _ run rfl⟩
  | case7 attempt run cycle begun hgoes started error s hrun failed hretried left delay waiting
      world hcancelled =>
      have hfailed := countP_states_publish clock (.running cycle attempt) run rfl
      exact ⟨(Scanning.runCycle_counts hrun).completed,
        (countP_states_publish clock _ failed rfl).trans hfailed⟩
  | case8 attempt run cycle begun hgoes started error s hrun failed hretried left delay waiting
      world hdue ih =>
      have hfailed := countP_states_publish clock (.running cycle attempt) run rfl
      obtain ⟨hcompleted, hstates⟩ := ih
      refine ⟨?_, ?_⟩
      · rw [hcompleted]
        exact congrArg (· + _) (Scanning.runCycle_counts hrun).completed
      · rw [hstates]
        exact (countP_states_publish clock _ failed rfl).trans hfailed

variable {cluster engine clock steps} in
theorem completed_of_tryCycle {run run' : Run World} {result : Except Stop CycleReport}
    {left attempt : Nat}
    (hrun : run.tryCycle cluster engine clock steps left attempt = (result, run')) :
    run'.scanning.scheduler.completed =
        run.scanning.scheduler.completed + Scanning.completions result ∧
      run'.states.countP (·.isWaiting) = run.states.countP (·.isWaiting) := by
  have htried := tryCycle_completed cluster engine clock steps left attempt run
  rw [hrun] at htried
  exact htried

theorem countP_states_publish_waiting (clock : Clock World) (run : Run World) (completed : Nat)
    (date : Timestamp) :
    (run.publish clock (.waitingForTick completed date)).states.countP (·.isWaiting) =
      run.states.countP (·.isWaiting) + 1 := by
  rw [states_publish, List.countP_append]
  rfl

/-- A run publishes one state of waiting for each cycle that it completes. -/
theorem cycleUntilStopped_completed_eq (cycles : Nat) (run : Run World) :
    let ended := cycleUntilStopped cluster engine clock steps cycles run
    ended.2.scanning.scheduler.completed + run.states.countP (·.isWaiting) =
      run.scanning.scheduler.completed + ended.2.states.countP (·.isWaiting) := by
  fun_induction cycleUntilStopped cluster engine clock steps cycles run with
  | case1 run => rfl
  | case2 run cycles hcancelled => rfl
  | case3 cycles run hgoes config stop run' hrun =>
      obtain ⟨hcompleted, hstates⟩ := completed_of_tryCycle hrun
      change run'.scanning.scheduler.completed + _ = _ + run'.states.countP (·.isWaiting)
      rw [hcompleted, hstates]
      rfl
  | case4 cycles run hgoes config started report run' hrun offset drawn hdrawn length waiting world
      hcancelled =>
      obtain ⟨hcompleted, hstates⟩ := completed_of_tryCycle hrun
      have hwaiting : waiting.states.countP (·.isWaiting) = run'.states.countP (·.isWaiting) + 1 :=
        countP_states_publish_waiting clock (run'.withWorld drawn) _ _
      change run'.scanning.scheduler.completed + _ = _ + waiting.states.countP (·.isWaiting)
      rw [hcompleted, hwaiting, hstates]
      simp only [Scanning.completions]
      omega
  | case5 cycles run hgoes config started report run' hrun offset drawn hdrawn length waiting world
      hdue ih =>
      obtain ⟨hcompleted, hstates⟩ := completed_of_tryCycle hrun
      have hwaiting : waiting.states.countP (·.isWaiting) = run'.states.countP (·.isWaiting) + 1 :=
        countP_states_publish_waiting clock (run'.withWorld drawn) _ _
      intro ended
      have hrest : ended.2.scanning.scheduler.completed + waiting.states.countP (·.isWaiting) =
          run'.scanning.scheduler.completed + ended.2.states.countP (·.isWaiting) := ih
      rw [hcompleted, hwaiting, hstates] at hrest
      simp only [Scanning.completions] at hrest
      omega

theorem scanning_toEnd (cycles : Nat) (s : Scanning World) :
    (toEnd cluster engine clock steps cycles s).2.scanning =
      (cycleUntilStopped cluster engine clock steps cycles { scanning := s }).2.scanning := by
  unfold toEnd
  split
  · rename_i run hended
    rw [hended]
  · rename_i stop run hended
    rw [hended]
    rfl

/-- The moves of a whole run end with what the scheduler has completed at its end. -/
theorem toEnd_leads (cycles : Nat) (s : Scanning World)
    (hattempts : 1 ≤ s.scheduler.config.backoff.maxAttempts) :
    let ended := toEnd cluster engine clock steps cycles s
    ∃ sent last, Leads cluster engine clock steps ⟨s, .idle⟩ sent last ∧
      last.scanning.scheduler.completed = ended.2.scanning.scheduler.completed ∧
      ended.2.states =
        sent.map (·.state) ++ (if ended.1 = .outOfSteps then [] else [.stopped]) := by
  intro ended
  obtain ⟨sent, last, hleads, -, hstates⟩ :=
    cycleUntilStopped_leads cluster engine clock steps cycles { scanning := s } hattempts
      ⟨s, .idle⟩ .start
  have hsent := hstates.trans (List.nil_append _)
  -- How a run ends does not tell its last state: both counts are read off the states of waiting.
  obtain ⟨hstop, hstopped⟩ := states_toEnd cluster engine clock steps cycles s
  have hcount := cycleUntilStopped_completed_eq cluster engine clock steps cycles { scanning := s }
  refine ⟨sent, last, hleads, ?_, ?_⟩
  · calc last.scanning.scheduler.completed
        = s.scheduler.completed + (sent.map (·.state)).countP (·.isWaiting) := hleads.completed_eq
      _ = (cycleUntilStopped cluster engine clock steps cycles
            { scanning := s }).2.scanning.scheduler.completed := by rw [← hsent]; exact hcount.symm
      _ = ended.2.scanning.scheduler.completed := by rw [← scanning_toEnd]
  · rw [hstopped, hsent, hstop]

/-- In every run each state before the stop tells the number of cycles that the scheduler has completed
by then, so that the numbers never fall and readiness stays. The stop tells none: it takes readiness
back, unless the run has published nothing before or no cycle has ever been completed. -/
theorem toEnd_tells_iff (cycles : Nat) (s : Scanning World)
    (hattempts : 1 ≤ s.scheduler.config.backoff.maxAttempts) :
    let ended := toEnd cluster engine clock steps cycles s
    let completed := ended.2.scanning.scheduler.completed
    ∃ sent last, Leads cluster engine clock steps ⟨s, .idle⟩ sent last ∧
      last.scanning.scheduler.completed = completed ∧
      (∀ x ∈ sent, x.Tells) ∧
      SchedulerState.NeverFalls (sent.map (·.state)) ∧
      SchedulerState.StaysReady (sent.map (·.state)) ∧
      let all := sent ++ if ended.1 = .outOfSteps then [] else [⟨ended.2.scanning, .stopped⟩]
      ended.2.states = all.map (·.state) ∧
      ((∀ x ∈ all, x.Tells) ↔ ended.1 = .outOfSteps ∨ completed = 0) ∧
      (SchedulerState.NeverFalls ended.2.states ↔
        ended.1 = .outOfSteps ∨ sent = [] ∨ completed = 0) ∧
      (SchedulerState.StaysReady ended.2.states ↔
        ended.1 = .outOfSteps ∨ sent = [] ∨ completed = 0) := by
  intro ended completed
  obtain ⟨sent, last, hleads, hcompleted, hstates⟩ :=
    toEnd_leads cluster engine clock steps cycles s hattempts
  have htells : ∀ x ∈ sent, x.Tells := fun x hx =>
    ((hleads.numbered hattempts ⟨rfl, trivial⟩).1 x hx).tells (hleads.state_ne_idle x hx)
  have hnever : SchedulerState.NeverFalls (sent.map (·.state)) := hleads.neverFalls htells
  have hzero := hleads.forall_completedCycles_eq_zero htells
  rw [hcompleted] at hzero
  refine ⟨sent, last, hleads, hcompleted, htells, hnever, hnever.staysReady, ?_⟩
  intro all
  change ended.2.states = sent.map (·.state) ++ (if ended.1 = .outOfSteps then [] else _) at hstates
  by_cases hout : ended.1 = .outOfSteps
  · have hall : all = sent := by simp [all, hout]
    rw [if_pos hout, List.append_nil] at hstates
    rw [hall, hstates]
    exact ⟨rfl, iff_of_true htells (.inl hout), iff_of_true hnever (.inl hout),
      iff_of_true hnever.staysReady (.inl hout)⟩
  · have hall : all = sent ++ [⟨ended.2.scanning, .stopped⟩] := by simp [all, hout]
    rw [if_neg hout] at hstates
    rw [hall, hstates, SchedulerState.neverFalls_append_stopped,
      SchedulerState.staysReady_append_stopped, hzero, or_iff_right hout, or_iff_right hout]
    refine ⟨by simp, ?_, and_iff_right hnever, and_iff_right hnever.staysReady⟩
    rw [List.forall_mem_append, List.forall_mem_singleton, and_iff_right htells]
    exact eq_comm

end Run

namespace Sample

/-- One cycle is completed, and the next one is given up. -/
theorem toEnd_tells_iff_brief :
    let ended := Run.toEnd faltering unable brief 2 5 troubled
    1 ≤ troubled.scheduler.config.backoff.maxAttempts ∧ ended.1 = .cutOff ∧
      ended.2.states.map (·.completedCycles) = [0, 0, 0, 1, 1, 1, 0] ∧
      ended.2.scanning.scheduler.completed = 1 ∧
      ¬ SchedulerState.StaysReady ended.2.states := by
  intro ended
  have hstop : ended.1 = .cutOff := by decide +kernel
  have hcompleted : ended.2.scanning.scheduler.completed = 1 := by decide +kernel
  have hcounts : ended.2.states.map (·.completedCycles) = [0, 0, 0, 1, 1, 1, 0] := by
    decide +kernel
  obtain ⟨sent, last, -, -, -, -, -, hstates, -, -, hready⟩ :=
    Run.toEnd_tells_iff faltering unable brief 2 5 troubled (by decide)
  refine ⟨by decide, hstop, hcounts, hcompleted, fun hstays => ?_⟩
  rcases hready.mp hstays with hout | rfl | hzero
  · exact absurd (hstop.symm.trans hout) (by simp)
  · change ended.2.states = _ at hstates
    rw [hstates, List.nil_append] at hcounts
    split at hcounts <;> simp at hcounts
  · exact absurd (hcompleted.symm.trans hzero) (by decide)

end Sample

end ComplianceScanner
