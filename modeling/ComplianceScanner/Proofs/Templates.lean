import ComplianceScanner.Check.BuiltIn

/-!
# What checks see of a workload

A check of a workload looks at the pod spec and at nothing else, so it makes no difference what kind
the spec is embedded in. A check of containers looks at them one by one, regular or init, each together
with what the pod says for all of them, and reports the first that fails.
-/

namespace ComplianceScanner

namespace PodTemplate

/-- An object of this kind and body has this pod spec at the place where its kind keeps it. -/
inductive Carries : String → Json → Json → Prop
  | pod {body spec : Json} (hspec : body.path? ["spec"] = some spec) : Carries "Pod" body spec
  | cronJob {body spec : Json}
      (hspec : body.path? ["spec", "jobTemplate", "spec", "template", "spec"] = some spec) :
      Carries "CronJob" body spec
  | workload {kind : String} {body spec : Json} (hpod : kind ≠ "Pod") (hcronJob : kind ≠ "CronJob")
      (hspec : body.path? ["spec", "template", "spec"] = some spec) : Carries kind body spec

variable {kind : String} {data spec : Json}

theorem spec?_pod (data : Json) : spec? "Pod" data = data.path? ["spec"] := rfl

theorem spec?_cronJob (data : Json) :
    spec? "CronJob" data = data.path? ["spec", "jobTemplate", "spec", "template", "spec"] := rfl

theorem spec?_workload (hpod : kind ≠ "Pod") (hcronJob : kind ≠ "CronJob") (data : Json) :
    spec? kind data = data.path? ["spec", "template", "spec"] := by
  simp [spec?, hpod, hcronJob, Json.path?]

theorem carries_iff : Carries kind data spec ↔ spec? kind data = some spec := by
  constructor
  · intro hcarries
    cases hcarries with
    | pod hspec => exact hspec
    | cronJob hspec => exact hspec
    | workload hpod hcronJob hspec => rwa [spec?_workload hpod hcronJob]
  · intro hspec
    by_cases hpod : kind = "Pod"
    · subst hpod
      exact .pod hspec
    · by_cases hcronJob : kind = "CronJob"
      · subst hcronJob
        exact .cronJob hspec
      · rw [spec?_workload hpod hcronJob] at hspec
        exact .workload hpod hcronJob hspec

end PodTemplate

namespace Check

open Evaluation PodTemplate

/-- The checks that look at the pod spec of a workload. -/
def ofTemplate : List Check :=
  [hostIpc, hostNetwork, hostPid, privilegedContainer, privilegeEscalationContainer, runAsNonRoot,
    unsafeSysctls, unsetCpuRequirements, unsetMemoryRequirements, latestTag]

/-- The kind has a say in where the pod spec is, and in nothing else. -/
theorem exists_verdict {check : Check} (hcheck : check ∈ ofTemplate) :
    ∃ verdict : Json → Option String,
      ∀ kind data, check.evaluate kind data = (spec? kind data).bind verdict := by
  cases check with
  | pdbMaxUnavailable => simp [ofTemplate] at hcheck
  | minimumThreeReplicas => simp [ofTemplate] at hcheck
  | _ => exact ⟨_, fun _ _ => rfl⟩

/-- Two objects with one pod spec come off alike, whatever their kinds and whatever else is in their
bodies. An object without a pod spec passes. -/
theorem template_judged {check : Check} (hcheck : check ∈ ofTemplate) :
    (∀ spec kind data kind' data', Carries kind data spec → Carries kind' data' spec →
      check.evaluate kind data = check.evaluate kind' data') ∧
    ∀ kind data, (∀ spec, ¬ Carries kind data spec) → check.evaluate kind data = none := by
  obtain ⟨verdict, hverdict⟩ := exists_verdict hcheck
  refine ⟨?_, ?_⟩
  · intro spec kind data kind' data' hcarries hcarries'
    rw [hverdict, hverdict, carries_iff.mp hcarries, carries_iff.mp hcarries']
  · intro kind data hnone
    have hspec : spec? kind data = none := by
      rw [Option.eq_none_iff_forall_ne_some]
      intro spec heq
      exact hnone spec (carries_iff.mpr heq)
    rw [hverdict, hspec, Option.bind_none]

end Check

namespace Sample

/-- An image without a tag in a pod, in a cron job that has a template besides where other kinds have
theirs, and in a job. The job body is not that of a cron job, and passes as one. -/
theorem template_judged_untagged :
    let spec : Json := .obj [("containers", .arr [.obj [("image", .str "web")]])]
    let pod : Json := .obj [("spec", spec)]
    let job : Json := .obj [("spec", .obj [("template", pod)])]
    let cronJob : Json :=
      .obj [("spec", .obj [("jobTemplate", job), ("template", .obj [("spec", .obj [])])])]
    Check.latestTag ∈ Check.ofTemplate ∧
      PodTemplate.Carries "Pod" pod spec ∧ PodTemplate.Carries "CronJob" cronJob spec ∧
      PodTemplate.Carries "Job" job spec ∧
      Check.latestTag.evaluate "CronJob" cronJob = Check.latestTag.evaluate "Pod" pod ∧
      Check.latestTag.evaluate "Job" job = Check.latestTag.evaluate "Pod" pod ∧
      Check.latestTag.evaluate "Pod" pod = some "container \"<unnamed>\" uses a floating image tag" ∧
      Check.latestTag.evaluate "CronJob" job = none := by
  intro spec pod job cronJob
  have hcheck : Check.latestTag ∈ Check.ofTemplate := by decide
  have hpod : PodTemplate.Carries "Pod" pod spec := .pod rfl
  have hcronJob : PodTemplate.Carries "CronJob" cronJob spec := .cronJob rfl
  have hjob : PodTemplate.Carries "Job" job spec := .workload (by decide) (by decide) rfl
  have hnone : ∀ spec, ¬ PodTemplate.Carries "CronJob" job spec := by
    intro spec hcarries
    have hspec : PodTemplate.spec? "CronJob" job = none := rfl
    cases hspec.symm.trans (PodTemplate.carries_iff.mp hcarries)
  obtain ⟨hsame, hpasses⟩ := Check.template_judged hcheck
  exact ⟨hcheck, hpod, hcronJob, hjob, hsame spec _ _ _ _ hcronJob hpod,
    hsame spec _ _ _ _ hjob hpod, by decide +kernel, hpasses _ job hnone⟩

end Sample

namespace PodTemplate

/-! ### Containers -/

/-- The member is an array of these items. One that is missing or of another form counts as empty. -/
def Lists (spec : Json) (name : String) (listed : List Json) : Prop :=
  spec.get? name = some (.arr listed) ∨ listed = [] ∧ ∀ items, spec.get? name ≠ some (.arr items)

theorem lists_iff {spec : Json} {name : String} {listed : List Json} :
    Lists spec name listed ↔ items spec name = listed := by
  unfold Lists items
  cases hmember : spec.get? name with
  | none => simp [eq_comm]
  | some json => cases json <;> simp [Json.arr?, eq_comm]

/-- The pod specs have the same members besides the containers. -/
def SameBesides (spec other : Json) : Prop :=
  ∀ name, name ≠ "containers" → name ≠ "initContainers" → spec.get? name = other.get? name

/-- An object of this kind and body has these regular and init containers in its pod spec, whose other
members are those of `rest`. -/
def Runs (kind : String) (data rest : Json) (regular init : List Json) : Prop :=
  ∃ spec, Carries kind data spec ∧ Lists spec "containers" regular ∧
    Lists spec "initContainers" init ∧ SameBesides spec rest

/-- These containers, regular or init, and no others. -/
def RunsOnly (kind : String) (data rest : Json) (listed : List Json) : Prop :=
  Runs kind data rest listed [] ∨ Runs kind data rest [] listed

end PodTemplate

namespace Check

open Evaluation PodTemplate

/-- The checks that look at one container after the other. -/
def ofContainers : List Check :=
  [privilegedContainer, privilegeEscalationContainer, runAsNonRoot, unsetCpuRequirements,
    unsetMemoryRequirements, latestTag]

theorem mayRunAsRoot_congr {pod pod' : Json} (hsame : SameBesides pod pod') :
    mayRunAsRoot pod = mayRunAsRoot pod' := by
  have hcontext := hsame "securityContext" (by decide) (by decide)
  funext container
  simp only [mayRunAsRoot, securityContext?, Json.path?, hcontext]

/-- Whether a container fails hangs on the container and on members of the pod spec besides the
containers. -/
theorem exists_rule {check : Check} (hcheck : check ∈ ofContainers) :
    ∃ fails complaint,
      (∀ kind data, check.evaluate kind data = firstContainer kind data fails complaint) ∧
      ∀ pod pod', SameBesides pod pod' → fails pod = fails pod' := by
  cases check with
  | runAsNonRoot => exact ⟨_, _, fun _ _ => rfl, fun _ _ hsame => mayRunAsRoot_congr hsame⟩
  | privilegedContainer => exact ⟨_, _, fun _ _ => rfl, fun _ _ _ => rfl⟩
  | privilegeEscalationContainer => exact ⟨_, _, fun _ _ => rfl, fun _ _ _ => rfl⟩
  | unsetCpuRequirements => exact ⟨_, _, fun _ _ => rfl, fun _ _ _ => rfl⟩
  | unsetMemoryRequirements => exact ⟨_, _, fun _ _ => rfl, fun _ _ _ => rfl⟩
  | latestTag => exact ⟨_, _, fun _ _ => rfl, fun _ _ _ => rfl⟩
  | _ => simp [ofContainers] at hcheck

/-- What is said of a container that fails. -/
def reason (complaint : String) (container : Json) : String :=
  "container \"" ++ containerName container ++ "\" " ++ complaint

section

variable {fails : Json → Json → Bool} {complaint kind : String} {data rest : Json}

theorem firstContainer_of_runs
    (hfails : ∀ pod pod', SameBesides pod pod' → fails pod = fails pod')
    {regular init : List Json} (hruns : Runs kind data rest regular init) :
    firstContainer kind data fails complaint =
      ((regular ++ init).find? (fails rest)).map (reason complaint) := by
  obtain ⟨spec, hcarries, hregular, hinit, hrest⟩ := hruns
  rw [firstContainer, carries_iff.mp hcarries, Option.bind_some, containers,
    lists_iff.mp hregular, lists_iff.mp hinit, hfails spec rest hrest]
  rfl

theorem firstContainer_of_runsOnly
    (hfails : ∀ pod pod', SameBesides pod pod' → fails pod = fails pod')
    {listed : List Json} (hruns : RunsOnly kind data rest listed) :
    firstContainer kind data fails complaint =
      (listed.find? (fails rest)).map (reason complaint) := by
  rcases hruns with hregular | hinit
  · rw [firstContainer_of_runs hfails hregular, List.append_nil]
  · rw [firstContainer_of_runs hfails hinit, List.nil_append]

theorem firstContainer_singleton {fails : Json → Bool} {container : Json}
    (hruns : RunsOnly kind data rest [container]) :
    firstContainer kind data (fun _ container => fails container) complaint =
      if fails container then some (reason complaint container) else none := by
  rw [firstContainer_of_runsOnly (fun _ _ _ => rfl) hruns]
  cases hfails : fails container <;> simp [hfails]

end

/-- A list of containers comes off as the first part of it that does not pass, if the parts are judged
by themselves, and passes iff all of them do. The reason names the first container that fails by
itself. Regular containers come before init containers and are judged in the same way. -/
theorem containers_judged {check : Check} (hcheck : check ∈ ofContainers) :
    ∃ complaint, ∀ kind data rest xs ys zs, Runs kind data rest (xs ++ ys) zs →
      (∀ first second third, RunsOnly kind first rest xs → RunsOnly kind second rest ys →
        RunsOnly kind third rest zs →
        check.evaluate kind data = ((check.evaluate kind first).or (check.evaluate kind second)).or
          (check.evaluate kind third) ∧
        (check.evaluate kind data = none ↔ check.evaluate kind first = none ∧
          check.evaluate kind second = none ∧ check.evaluate kind third = none)) ∧
      ∀ said, check.evaluate kind data = some said →
        ∃ before container after, xs ++ ys ++ zs = before ++ container :: after ∧
          said = "container \"" ++ containerName container ++ "\" " ++ complaint ∧
          (∀ alone, RunsOnly kind alone rest before → check.evaluate kind alone = none) ∧
          ∀ alone, RunsOnly kind alone rest [container] → check.evaluate kind alone = some said := by
  obtain ⟨fails, complaint, hevaluate, hfails⟩ := exists_rule hcheck
  refine ⟨complaint, ?_⟩
  intro kind data rest xs ys zs hruns
  simp only [hevaluate, firstContainer_of_runs hfails hruns]
  refine ⟨?_, ?_⟩
  · intro first second third hfirst hsecond hthird
    rw [firstContainer_of_runsOnly hfails hfirst, firstContainer_of_runsOnly hfails hsecond,
      firstContainer_of_runsOnly hfails hthird]
    constructor
    · rw [List.find?_append, List.find?_append, Option.map_or, Option.map_or]
    · simp only [Option.map_eq_none_iff, List.find?_eq_none, List.mem_append]
      constructor
      · intro hall
        exact ⟨fun c hc => hall c (.inl (.inl hc)), fun c hc => hall c (.inl (.inr hc)),
          fun c hc => hall c (.inr hc)⟩
      · rintro ⟨hxs, hys, hzs⟩ c ((hc | hc) | hc)
        · exact hxs c hc
        · exact hys c hc
        · exact hzs c hc
  · intro said hsaid
    obtain ⟨container, hfound, rfl⟩ := Option.map_eq_some_iff.mp hsaid
    obtain ⟨hcontainer, before, after, hsplit, hbefore⟩ := List.find?_eq_some_iff_append.mp hfound
    refine ⟨before, container, after, hsplit, rfl, ?_, ?_⟩
    · intro alone halone
      rw [firstContainer_of_runsOnly hfails halone, Option.map_eq_none_iff, List.find?_eq_none]
      intro c hc
      simpa using hbefore c hc
    · intro alone halone
      rw [firstContainer_of_runsOnly hfails halone, List.find?_cons_of_pos hcontainer]
      rfl

end Check

namespace Sample

/-- What the pod says for all its containers: they run as a user that is not root. -/
def unprivileged : String × Json :=
  ("securityContext", .obj [("runAsNonRoot", .bool false), ("runAsUser", .int 1000)])

def podOf (regular init : List Json) : Json :=
  .obj [("spec", .obj [("containers", .arr regular), ("initContainers", .arr init), unprivileged])]

theorem runs_podOf (regular init : List Json) :
    PodTemplate.Runs "Pod" (podOf regular init) (.obj [unprivileged]) regular init := by
  refine ⟨_, .pod rfl, .inl rfl, .inl rfl, ?_⟩
  intro name hregular hinit
  simp [Json.get?, List.lookup_cons, beq_eq_false_iff_ne.mpr hregular, beq_eq_false_iff_ne.mpr hinit]

/-- One container asks for root, and an init container does as well. The one that is named is the
first, and it would be named as an init container too. -/
theorem containers_judged_root :
    let asking (name : String) (user : Int) : Json :=
      .obj [("name", .str name), ("securityContext", .obj [("runAsUser", .int user)])]
    let plain : Json := .obj [("name", .str "app")]
    let judge (regular init : List Json) := Check.runAsNonRoot.evaluate "Pod" (podOf regular init)
    Check.runAsNonRoot ∈ Check.ofContainers ∧
      judge [plain, asking "web" 0] [asking "set-up" 0] =
        ((judge [plain] []).or (judge [] [asking "web" 0])).or (judge [] [asking "set-up" 0]) ∧
      judge [plain] [] = none ∧
      judge [plain, asking "web" 0] [asking "set-up" 0] =
        some "container \"web\" is not set to runAsNonRoot" ∧
      judge [] [asking "web" 0] = some "container \"web\" is not set to runAsNonRoot" := by
  intro asking plain judge
  have hcheck : Check.runAsNonRoot ∈ Check.ofContainers := by decide
  obtain ⟨complaint, hjudged⟩ := Check.containers_judged hcheck
  obtain ⟨hparts, -⟩ := hjudged "Pod" _ _ [plain] [asking "web" 0] [asking "set-up" 0]
    (runs_podOf _ _)
  refine ⟨hcheck, ?_, by decide +kernel, by decide +kernel, by decide +kernel⟩
  exact (hparts _ _ _ (.inl (runs_podOf _ _)) (.inr (runs_podOf _ _)) (.inr (runs_podOf _ _))).1

end Sample

end ComplianceScanner
