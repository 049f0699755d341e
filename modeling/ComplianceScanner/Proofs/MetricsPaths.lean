import ComplianceScanner.Probe.Server
import ComplianceScanner.Proofs.Routes

/-!
# Metrics paths

A metrics path should either be refused with an error or lead to a server that shows the metrics there
beside the probes. Only a path that does not begin with a slash is refused. One that clashes with a
probe, or cannot be read as a route, takes down the server and lets the scan go on without it. And some
paths are routes that a request for the path itself does not come to: what follows a question mark is not
looked at, and a doubled brace stands for one brace.
-/

namespace ComplianceScanner

open Route

/-- Whether the scan is told of the fault and stops. One that breaks off ends the server alone. -/
def RouteFault.stopsScan : RouteFault → Bool
  | .config _ => true
  | .brokenOff => false

namespace ProbeServer

/-- The part of a request's target that is compared with the routes. -/
def address (target : String) : List Char := target.toList.takeWhile fun c => c ≠ '?' && c ≠ '#'

/-- Both probes are answered, whatever the state and the metrics are. -/
def AnswersProbes (server : ProbeServer) : Prop :=
  ∀ state gauge metrics,
    server.respond state gauge metrics "GET" healthPath = health ∧
      server.respond state gauge metrics "GET" readinessPath = readiness state

/-- The target shows the metrics, whatever the state and the metrics are. It may be any text, also one
that no request can carry as it stands. -/
def ShowsMetrics (server : ProbeServer) (target : String) : Prop :=
  ∀ state gauge metrics,
    server.respond state gauge metrics "GET" target = exposition gauge metrics

/-- The path is refused with an error, or it shows the metrics beside the probes. -/
def Handles (path : String) : Prop :=
  (∃ error, ofMetricsPath path = .error (.config error)) ∨
    ∃ server, ofMetricsPath path = .ok server ∧ server.AnswersProbes ∧ server.ShowsMetrics path

/-- The path takes down the server, and the scan goes on without it. -/
def Abandons (path : String) : Prop :=
  ∃ fault, ofMetricsPath path = .error fault ∧ fault.stopsScan = false

/-! ### Answers -/

theorem respond_get (server : ProbeServer) (state : SchedulerState) (gauge : CheckGauge)
    (metrics : Metrics) (target : String) :
    server.respond state gauge metrics "GET" target =
      match server.endpoint? target with
      | none => { status := 404 }
      | some .health => health
      | some .readiness => readiness state
      | some .metrics => exposition gauge metrics := by
  unfold respond
  cases server.endpoint? target with
  | none => rfl
  | some endpoint => cases endpoint <;> rfl

theorem endpoint?_eq (server : ProbeServer) (target : String) :
    server.endpoint? target =
      if address target = healthPath.toList then some .health
      else if address target = readinessPath.toList then some .readiness
      else if server.metricsRoute.covers (address target) then some .metrics
      else none :=
  rfl

theorem endpoint?_eq_some_metrics_iff (server : ProbeServer) (target : String) :
    server.endpoint? target = some .metrics ↔
      address target ≠ healthPath.toList ∧ address target ≠ readinessPath.toList ∧
        Matches server.metricsRoute (address target) := by
  rw [endpoint?_eq, ← covers_iff]
  split
  · simp [*]
  · split <;> simp [*]

theorem answersProbes (server : ProbeServer) : server.AnswersProbes := by
  intro state gauge metrics
  rw [respond_get, respond_get]
  exact ⟨rfl, rfl⟩

/-- The status and the kind of the content tell the metrics from all other answers. -/
theorem showsMetrics_iff (server : ProbeServer) (target : String) :
    server.ShowsMetrics target ↔ server.endpoint? target = some .metrics := by
  constructor
  · intro hshows
    have hkind := congrArg Response.contentType (hshows .idle .empty .empty)
    rw [respond_get] at hkind
    cases hendpoint : server.endpoint? target with
    | none => simp [hendpoint, exposition] at hkind
    | some endpoint =>
        cases endpoint with
        | metrics => rfl
        | health | readiness =>
            simp [hendpoint, exposition, health, readiness, jsonType, metricsType] at hkind
  · intro hendpoint state gauge metrics
    rw [respond_get, hendpoint]

/-! ### The server of a path -/

/-- What can come of a metrics path. -/
inductive Outcome (path : String) : Except RouteFault ProbeServer → Prop
  | relative (hslash : path.toList.head? ≠ some '/') :
      Outcome path (.error (.config (.relativeMetricsPath path)))
  | clash (hslash : path.toList.head? = some '/')
      (hprobe : path = healthPath ∨ path = readinessPath) : Outcome path (.error .brokenOff)
  | unreadable (hslash : path.toList.head? = some '/')
      (hwrites : ∀ route, ¬ Writes path.toList route) : Outcome path (.error .brokenOff)
  | served (hslash : path.toList.head? = some '/')
      (hprobe : ¬ (path = healthPath ∨ path = readinessPath)) {route : Route}
      (hwrites : Writes path.toList route) : Outcome path (.ok ⟨route⟩)

theorem outcome (path : String) : Outcome path (ofMetricsPath path) := by
  unfold ofMetricsPath
  split
  · next hslash => exact .relative hslash
  · next hslash =>
      rw [not_not] at hslash
      split
      · next hprobe => exact .clash hslash hprobe
      · next hprobe =>
          split
          · next route hroute => exact .served hslash hprobe (ofText?_eq_some_iff.mp hroute)
          · next hroute =>
              refine .unreadable hslash fun route hwrites => ?_
              rw [ofText?_eq_some_iff.mpr hwrites] at hroute
              cases hroute

theorem handles_iff_matches (path : String) :
    Handles path ↔
      path.toList.head? ≠ some '/' ∨
        address path ≠ healthPath.toList ∧ address path ≠ readinessPath.toList ∧
          ∃ route, Writes path.toList route ∧ Matches route (address path) := by
  have houtcome := outcome path
  unfold Handles
  generalize ofMetricsPath path = result at houtcome ⊢
  cases houtcome with
  | relative hslash => simp [hslash]
  | clash hslash hprobe =>
      rcases hprobe with rfl | rfl
      · simp [show address healthPath = healthPath.toList from rfl, hslash]
      · simp [show address readinessPath = readinessPath.toList from rfl, hslash]
  | unreadable hslash hwrites => simp [hslash, hwrites]
  | @served hslash hprobe route hwrites =>
      have hroute : ∀ other, Writes path.toList other ↔ other = route := fun other =>
        ⟨fun hother => hother.unique hwrites, fun heq => heq ▸ hwrites⟩
      simp [hslash, hroute, answersProbes, showsMetrics_iff, endpoint?_eq_some_metrics_iff]

theorem abandons_iff (path : String) :
    Abandons path ↔
      path.toList.head? = some '/' ∧
        (path = healthPath ∨ path = readinessPath ∨ ∀ route, ¬ Writes path.toList route) := by
  have houtcome := outcome path
  unfold Abandons
  generalize ofMetricsPath path = result at houtcome ⊢
  cases houtcome with
  | relative hslash => simp [hslash, RouteFault.stopsScan]
  | clash hslash hprobe => rcases hprobe with rfl | rfl <;> simp [hslash, RouteFault.stopsScan]
  | unreadable hslash hwrites => simp [hslash, hwrites, RouteFault.stopsScan]
  | served hslash hprobe hwrites => simpa [hslash, ← or_assoc, hprobe] using ⟨_, hwrites⟩

/-! ### Ordinary characters -/

/-- Neither a brace nor a character that ends the address of a request. Whether a request can carry the
character is not asked: blanks, control characters, `<`, `>` and the backquote are ordinary as well, and
a path that holds one counts as shown though nobody can ask for it as it stands. -/
def IsOrdinary (c : Char) : Prop := c ≠ '\x7b' ∧ c ≠ '\x7d' ∧ c ≠ '?' ∧ c ≠ '#'

theorem address_eq {path : String} (hordinary : ∀ c ∈ path.toList, IsOrdinary c) :
    address path = path.toList := by
  refine List.takeWhile_eq_self_iff.mpr fun c hc => ?_
  obtain ⟨-, -, hquery, hfragment⟩ := hordinary c hc
  simp [hquery, hfragment]

theorem handles_iff_noOldMark {path : String} (hslash : path.toList.head? = some '/')
    (hordinary : ∀ c ∈ path.toList, IsOrdinary c) :
    Handles path ↔ path ≠ healthPath ∧ path ≠ readinessPath ∧ NoOldMark path.toList := by
  have hopen : '\x7b' ∉ path.toList := fun hmem => (hordinary _ hmem).1 rfl
  have hclose : '\x7d' ∉ path.toList := fun hmem => (hordinary _ hmem).2.1 rfl
  have hroute : (∃ route, Writes path.toList route ∧ Matches route path.toList) ↔
      NoOldMark path.toList := by
    constructor
    · rintro ⟨route, hwrites, -⟩
      exact hwrites.1
    · intro hmark
      exact ⟨_, (writes_iff hopen hclose).mpr ⟨hmark, rfl⟩, matches_map_iff.mpr rfl⟩
  rw [handles_iff_matches, address_eq hordinary, hroute]
  simp [hslash, String.toList_inj]

/-- **Metrics paths.** A path that begins with a slash is handled if it is a route that its own request
comes to, and is not taken for a probe. It is abandoned if it is a probe itself or no route at all. So
of the paths of ordinary characters, those are not handled that are probes or bear an old mark. -/
theorem handled_iff (path : String) :
    (Handles path ↔
      path.toList.head? ≠ some '/' ∨
        address path ≠ healthPath.toList ∧ address path ≠ readinessPath.toList ∧
          ∃ route, Writes path.toList route ∧ Matches route (address path)) ∧
    (Abandons path ↔
      path.toList.head? = some '/' ∧
        (path = healthPath ∨ path = readinessPath ∨ ∀ route, ¬ Writes path.toList route)) ∧
    (path.toList.head? = some '/' → (∀ c ∈ path.toList, IsOrdinary c) →
      (Handles path ↔ path ≠ healthPath ∧ path ≠ readinessPath ∧ NoOldMark path.toList)) :=
  ⟨handles_iff_matches path, abandons_iff path, handles_iff_noOldMark⟩

end ProbeServer

namespace Sample

open ProbeServer

/-- The path of a probe is neither refused nor shown. -/
theorem handled_iff_clash : Abandons "/healthz" ∧ ¬ Handles "/healthz" ∧ Handles "/metrics" := by
  refine ⟨(handled_iff "/healthz").2.1.mpr ⟨rfl, .inl rfl⟩, fun hhandles => ?_, ?_⟩
  · rcases (handled_iff "/healthz").1.mp hhandles with hslash | ⟨hhealth, -⟩
    · exact hslash rfl
    · exact hhealth rfl
  · refine ((handled_iff "/metrics").2.2 rfl ?_).mpr ⟨by decide, by decide, ?_⟩
    · simp [IsOrdinary]
    · exact hasOldMark_eq_false_iff.mp rfl

end Sample

end ComplianceScanner
