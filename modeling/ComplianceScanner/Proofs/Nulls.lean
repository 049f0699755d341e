import ComplianceScanner.Proofs.Templates

/-!
# Nulls

A member that is null should be as good as none. For the checks it is, but for one: whether a container
may run as root is settled by the container if it says anything about it, and by the pod if it does
not, and a null counts as something said. So a null hides what the pod says.
-/

namespace ComplianceScanner

namespace Json

mutual

/-- The document without the members that are null, at all depths. A null goes with its name, so that
no other member comes up in its place. -/
def withoutNulls : Json → Json
  | arr items => arr (itemsWithoutNulls items)
  | obj members => obj (membersWithoutNulls members)
  | other => other

def itemsWithoutNulls : List Json → List Json
  | [] => []
  | item :: items => item.withoutNulls :: itemsWithoutNulls items

def membersWithoutNulls : List (String × Json) → List (String × Json)
  | [] => []
  | (name, value) :: members =>
    if value.isNull then (membersWithoutNulls members).filter (·.1 ≠ name)
    else (name, value.withoutNulls) :: membersWithoutNulls members

end

/-- What is left of a member. -/
def remaining : Option Json → Option Json
  | none => none
  | some value => if value.isNull then none else some value.withoutNulls

theorem isNull_iff {json : Json} : json.isNull = true ↔ json = .null := by
  cases json <;> simp [isNull]

theorem remaining_cases (member : Option Json) :
    (member = none ∨ member = some .null) ∧ remaining member = none ∨
      ∃ value, member = some value ∧ value.isNull = false ∧
        remaining member = some value.withoutNulls := by
  cases member with
  | none => exact .inl ⟨.inl rfl, rfl⟩
  | some value =>
      cases hvalue : value.isNull with
      | true => exact .inl ⟨.inr (congrArg some (isNull_iff.mp hvalue)), if_pos hvalue⟩
      | false => exact .inr ⟨value, rfl, hvalue, if_neg (by simp [hvalue])⟩

theorem itemsWithoutNulls_eq_map (items : List Json) :
    itemsWithoutNulls items = items.map withoutNulls := by
  induction items with
  | nil => rfl
  | cons item items ih => rw [itemsWithoutNulls, ih, List.map_cons]

theorem lookup_cons_eq_ite {α : Type} (member : String × α) (members : List (String × α))
    (name : String) :
    (member :: members).lookup name =
      if name = member.1 then some member.2 else members.lookup name := by
  obtain ⟨other, value⟩ := member
  rw [List.lookup_cons]
  by_cases hname : name = other
  · simp [hname]
  · simp [hname, beq_eq_false_iff_ne.mpr hname]

theorem lookup_filter_ne {α : Type} (members : List (String × α)) (gone name : String) :
    (members.filter (·.1 ≠ gone)).lookup name =
      if name = gone then none else members.lookup name := by
  induction members with
  | nil => simp
  | cons member members ih =>
      by_cases hgone : member.1 = gone
      · rw [List.filter_cons_of_neg (by simp [hgone]), ih, lookup_cons_eq_ite, hgone]
        split <;> rfl
      · rw [List.filter_cons_of_pos (by simp [hgone]), lookup_cons_eq_ite, lookup_cons_eq_ite, ih]
        by_cases hname : name = member.1
        · simp [hname, hgone]
        · simp [hname]

theorem lookup_membersWithoutNulls (members : List (String × Json)) (name : String) :
    (membersWithoutNulls members).lookup name = remaining (members.lookup name) := by
  induction members with
  | nil => rfl
  | cons member members ih =>
      obtain ⟨other, value⟩ := member
      rw [membersWithoutNulls, lookup_cons_eq_ite]
      by_cases hnull : value.isNull = true
      · -- The first of a name decides, so its namesakes have to go with it.
        rw [if_pos hnull, lookup_filter_ne, ih]
        split
        · exact (if_pos hnull).symm
        · rfl
      · rw [if_neg hnull, lookup_cons_eq_ite, ih]
        split
        · exact (if_neg hnull).symm
        · rfl

theorem get?_withoutNulls (json : Json) (name : String) :
    json.withoutNulls.get? name = remaining (json.get? name) := by
  cases json with
  | obj members => exact lookup_membersWithoutNulls members name
  | _ => rfl

theorem path?_withoutNulls (json : Json) (name : String) (rest : List String) :
    json.withoutNulls.path? (name :: rest) = remaining (json.path? (name :: rest)) := by
  induction rest generalizing json name with
  | nil => simp [path?, get?_withoutNulls]
  | cons next rest ih =>
      rw [path?, path?, get?_withoutNulls]
      generalize json.get? name = member
      rcases remaining_cases member with ⟨rfl | rfl, hnone⟩ | ⟨value, rfl, -, hsome⟩
      · rfl
      · rfl
      · rw [hsome, Option.bind_some, Option.bind_some, ih]

/-! ### What can be read -/

theorem bool?_withoutNulls (json : Json) : json.withoutNulls.bool? = json.bool? := by
  cases json <;> rfl

theorem str?_withoutNulls (json : Json) : json.withoutNulls.str? = json.str? := by
  cases json <;> rfl

theorem int64?_withoutNulls (json : Json) : json.withoutNulls.int64? = json.int64? := by
  cases json <;> rfl

theorem arr?_withoutNulls (json : Json) :
    json.withoutNulls.arr? = json.arr?.map (·.map withoutNulls) := by
  cases json with
  | arr items => exact congrArg some (itemsWithoutNulls_eq_map items)
  | _ => rfl

/-- A reading that makes nothing of a null comes to the same on a member as another one on what is left
of it. -/
theorem bind_remaining {α : Type} {read read' : Json → Option α} (hnull : read' .null = none)
    (hsame : ∀ json, read json.withoutNulls = read' json) (member : Option Json) :
    (remaining member).bind read = member.bind read' := by
  rcases remaining_cases member with ⟨rfl | rfl, hnone⟩ | ⟨value, rfl, -, hsome⟩
  · rfl
  · rw [hnone, Option.bind_some, hnull, Option.bind_none]
  · rw [hsome, Option.bind_some, Option.bind_some, hsame]

theorem bind_bool?_remaining (member : Option Json) :
    (remaining member).bind bool? = member.bind bool? :=
  bind_remaining rfl bool?_withoutNulls member

theorem bind_str?_remaining (member : Option Json) :
    (remaining member).bind str? = member.bind str? :=
  bind_remaining rfl str?_withoutNulls member

theorem bind_int64?_remaining (member : Option Json) :
    (remaining member).bind int64? = member.bind int64? :=
  bind_remaining rfl int64?_withoutNulls member

theorem bind_arr?_remaining (member : Option Json) :
    (remaining member).bind arr? = (member.bind arr?).map (·.map withoutNulls) := by
  rcases remaining_cases member with ⟨rfl | rfl, hnone⟩ | ⟨value, rfl, -, hsome⟩
  · rfl
  · rfl
  · rw [hsome, Option.bind_some, Option.bind_some, arr?_withoutNulls]

end Json

namespace PodTemplate

open Json (remaining withoutNulls)

theorem spec?_withoutNulls (kind : String) (data : Json) :
    spec? kind data.withoutNulls = remaining (spec? kind data) := by
  by_cases hpod : kind = "Pod"
  · rw [hpod, spec?_pod, spec?_pod, Json.path?_withoutNulls]
  · by_cases hcronJob : kind = "CronJob"
    · rw [hcronJob, spec?_cronJob, spec?_cronJob, Json.path?_withoutNulls]
    · rw [spec?_workload hpod hcronJob, spec?_workload hpod hcronJob, Json.path?_withoutNulls]

theorem items_withoutNulls (json : Json) (name : String) :
    items json.withoutNulls name = (items json name).map withoutNulls := by
  rw [items, items, Json.get?_withoutNulls, Json.bind_arr?_remaining]
  cases (json.get? name).bind Json.arr? <;> rfl

theorem containers_withoutNulls (spec : Json) :
    containers spec.withoutNulls = (containers spec).map withoutNulls := by
  rw [containers, containers, items_withoutNulls, items_withoutNulls, List.map_append]

theorem containerName_withoutNulls (container : Json) :
    containerName container.withoutNulls = containerName container := by
  rw [containerName, containerName, Json.get?_withoutNulls, Json.bind_str?_remaining]

theorem flag_withoutNulls (json : Json) (name : String) (rest : List String) :
    flag json.withoutNulls (name :: rest) = flag json (name :: rest) := by
  rw [flag, flag, Json.path?_withoutNulls, Json.bind_bool?_remaining]

/-- A check of containers takes its look through the nulls. -/
theorem firstContainer_withoutNulls (kind : String) (data : Json) (fails : Json → Json → Bool)
    (message : String) :
    firstContainer kind data.withoutNulls fails message =
      firstContainer kind data
        (fun pod container => fails pod.withoutNulls container.withoutNulls) message := by
  rw [firstContainer, firstContainer, spec?_withoutNulls]
  refine Json.bind_remaining rfl (fun spec => ?_) _
  rw [containers_withoutNulls, List.find?_map, Option.map_map]
  congr 1
  funext container
  simp only [Function.comp_apply, containerName_withoutNulls]

end PodTemplate

namespace Evaluation

open Json (remaining withoutNulls)
open PodTemplate

theorem isPrivileged_withoutNulls (container : Json) :
    isPrivileged container.withoutNulls = isPrivileged container :=
  flag_withoutNulls container _ _

theorem addsSysAdmin_withoutNulls (container : Json) :
    addsSysAdmin container.withoutNulls = addsSysAdmin container := by
  rw [addsSysAdmin, addsSysAdmin, Json.path?_withoutNulls, Json.bind_arr?_remaining]
  cases (container.path? ["securityContext", "capabilities", "add"]).bind Json.arr? with
  | none => rfl
  | some capabilities =>
      simp only [Option.map_some, Option.getD_some, List.any_map, Function.comp_def,
        Json.str?_withoutNulls]

theorem escalatesPrivileges_withoutNulls (container : Json) :
    escalatesPrivileges container.withoutNulls = escalatesPrivileges container := by
  rw [escalatesPrivileges, escalatesPrivileges, isPrivileged_withoutNulls,
    addsSysAdmin_withoutNulls, flag_withoutNulls]

theorem isUnset_remaining (member : Option Json) :
    Quantity.isUnset (remaining member) = Quantity.isUnset member := by
  cases member with
  | none => rfl
  | some value => cases value <;> rfl

theorem unsafeSysctls_withoutNulls (kind : String) (data : Json) :
    unsafeSysctls kind data.withoutNulls = unsafeSysctls kind data := by
  rw [unsafeSysctls, unsafeSysctls, spec?_withoutNulls]
  refine Json.bind_remaining rfl (fun spec => ?_) _
  rw [Json.path?_withoutNulls, Json.bind_arr?_remaining]
  cases (spec.path? ["securityContext", "sysctls"]).bind Json.arr? with
  | none => rfl
  | some listed =>
      simp only [Option.map_some, Option.getD_some, List.filterMap_map, Function.comp_def,
        Json.get?_withoutNulls, Json.bind_str?_remaining]

theorem pdbMaxUnavailable_withoutNulls (data : Json) :
    pdbMaxUnavailable data.withoutNulls = pdbMaxUnavailable data := by
  rw [pdbMaxUnavailable, pdbMaxUnavailable, Json.path?_withoutNulls]
  refine Json.bind_remaining rfl (fun limit => ?_) _
  cases limit <;> rfl

theorem minimumThreeReplicas_withoutNulls (kind : String) (data : Json) :
    minimumThreeReplicas kind data.withoutNulls = minimumThreeReplicas kind data := by
  have hreplicas : replicas? data.withoutNulls = replicas? data := by
    rw [replicas?, replicas?, Json.path?_withoutNulls, Json.bind_int64?_remaining]
  rw [minimumThreeReplicas, minimumThreeReplicas, hreplicas]

/-! ### Who may run as root -/

/-- Containers with this value of `runAsNonRoot` do not run as root. -/
def forbidsRoot (value : Json) : Bool := value.bool?.getD false

/-- Containers with this value of `runAsUser` do not run as root. -/
def namesOther (value : Json) : Bool := value.int64?.any (0 < ·)

theorem mayRunAsRoot_eq (pod container : Json) :
    mayRunAsRoot pod container =
      !((securityContext? pod container "runAsNonRoot").any forbidsRoot ||
        (securityContext? pod container "runAsUser").any namesOther) := by
  have hbool (member : Option Json) : (member.bind Json.bool?).getD false = member.any forbidsRoot := by
    cases member <;> rfl
  rw [mayRunAsRoot, hbool, Option.any_bind]
  rfl

/-- The container has a null where the pod has such a value. -/
def hides (pod container : Json) (name : String) (such : Json → Bool) : Bool :=
  (container.path? ["securityContext", name]).any Json.isNull &&
    (pod.path? ["securityContext", name]).any such

/-- What the pod says would keep the container from running as root, but for a null. -/
def hidesByNull (pod container : Json) : Bool :=
  hides pod container "runAsNonRoot" forbidsRoot || hides pod container "runAsUser" namesOther

theorem any_securityContext?_withoutNulls {such : Json → Bool} (hnull : such .null = false)
    (hsame : ∀ json, such json.withoutNulls = such json) (pod container : Json) (name : String) :
    (securityContext? pod.withoutNulls container.withoutNulls name).any such =
      ((securityContext? pod container name).any such || hides pod container name such) := by
  have hany (member : Option Json) : (remaining member).any such = member.any such := by
    rcases Json.remaining_cases member with ⟨rfl | rfl, hnone⟩ | ⟨value, rfl, -, hsome⟩
    · rfl
    · simp [hnone, hnull]
    · simp [hsome, hsame]
  rw [securityContext?, securityContext?, hides, Json.path?_withoutNulls, Json.path?_withoutNulls]
  generalize container.path? ["securityContext", name] = member
  rcases Json.remaining_cases member with ⟨rfl | rfl, hnone⟩ | ⟨value, rfl, hvalue, hsome⟩
  · simp [hnone, hany]
  · simp [hnone, hany, hnull, Json.isNull]
  · simp [hsome, hsame, hvalue]

theorem mayRunAsRoot_withoutNulls (pod container : Json) :
    mayRunAsRoot pod.withoutNulls container.withoutNulls =
      (mayRunAsRoot pod container && !hidesByNull pod container) := by
  have hforbids : ∀ json : Json, forbidsRoot json.withoutNulls = forbidsRoot json := by
    intro json
    rw [forbidsRoot, forbidsRoot, Json.bool?_withoutNulls]
  have hnames : ∀ json : Json, namesOther json.withoutNulls = namesOther json := by
    intro json
    rw [namesOther, namesOther, Json.int64?_withoutNulls]
  rw [mayRunAsRoot_eq, mayRunAsRoot_eq, any_securityContext?_withoutNulls rfl hforbids,
    any_securityContext?_withoutNulls rfl hnames, hidesByNull]
  -- What is said and what a null hides, for the one member and for the other.
  grind

/-- The container that is reported has a null that hides what the pod says, and without nulls no other
one of its name is reported in its place. -/
def NullDecides (kind : String) (data : Json) : Prop :=
  ∃ pod first, Carries kind data pod ∧ (containers pod).find? (mayRunAsRoot pod) = some first ∧
    hidesByNull pod first = true ∧
    ∀ next, (containers pod).find? (fun container =>
        mayRunAsRoot pod container && !hidesByNull pod container) = some next →
      containerName next ≠ containerName first

theorem find?_and_of_find? {α : Type} {p q : α → Bool} {xs : List α} {first : α}
    (hfound : xs.find? p = some first) (hfirst : q first = true) :
    xs.find? (fun x => p x && q x) = some first := by
  obtain ⟨hp, before, after, rfl, hbefore⟩ := List.find?_eq_some_iff_append.mp hfound
  refine List.find?_eq_some_iff_append.mpr ⟨by simp [hp, hfirst], before, after, rfl, ?_⟩
  intro x hx
  have hnot : p x = false := by simpa using hbefore x hx
  simp [hnot]

/-- Taking some out of a search makes a difference iff the first that is found is among them and
nothing that looks the same is found instead. -/
theorem map_find?_and_not_eq_iff {α β : Type} (p q : α → Bool) (f : α → β) (xs : List α) :
    (xs.find? fun x => p x && !q x).map f = (xs.find? p).map f ↔
      ¬ ∃ first, xs.find? p = some first ∧ q first = true ∧
        ∀ next, xs.find? (fun x => p x && !q x) = some next → f next ≠ f first := by
  cases hfirst : xs.find? p with
  | none =>
      have hnone : xs.find? (fun x => p x && !q x) = none := by
        rw [List.find?_eq_none] at hfirst ⊢
        intro x hx
        simp [hfirst x hx]
      simp [hnone]
  | some first =>
      cases hq : q first with
      | false =>
          have hsame := find?_and_of_find? (q := fun x => !q x) hfirst (by simp [hq])
          simp [hsame, hq]
      | true =>
          cases hnext : xs.find? fun x => p x && !q x with
          | none => simp [hq]
          | some next => simp [hq]

theorem runAsNonRoot_withoutNulls (kind : String) (data : Json) :
    runAsNonRoot kind data.withoutNulls =
      firstContainer kind data
        (fun pod container => mayRunAsRoot pod container && !hidesByNull pod container)
        "is not set to runAsNonRoot" := by
  rw [runAsNonRoot, firstContainer_withoutNulls]
  simp only [mayRunAsRoot_withoutNulls]

theorem runAsNonRoot_withoutNulls_iff {kind : String} {data : Json} :
    runAsNonRoot kind data.withoutNulls = runAsNonRoot kind data ↔ ¬ NullDecides kind data := by
  rw [runAsNonRoot_withoutNulls, runAsNonRoot, firstContainer, firstContainer]
  cases hspec : spec? kind data with
  | none =>
      refine iff_of_true rfl ?_
      rintro ⟨pod, first, hcarries, -⟩
      simp [hspec, carries_iff] at hcarries
  | some pod =>
      have hcarried (other : Json) : Carries kind data other ↔ other = pod := by
        rw [carries_iff, hspec, Option.some_inj, eq_comm]
      rw [Option.bind_some, Option.bind_some, map_find?_and_not_eq_iff]
      -- The reasons are the same iff the names in them are.
      simp [NullDecides, hcarried]

theorem runAsNonRoot_withoutNulls_of_eq_none {kind : String} {data : Json}
    (hpasses : runAsNonRoot kind data = none) : runAsNonRoot kind data.withoutNulls = none := by
  rw [runAsNonRoot_withoutNulls]
  rw [runAsNonRoot] at hpasses
  simp only [firstContainer, Option.bind_eq_none_iff, Option.map_eq_none_iff,
    List.find?_eq_none] at hpasses ⊢
  intro pod hpod container hmem
  simp [hpasses pod hpod container hmem]

end Evaluation

namespace Check

open Evaluation PodTemplate
open Json (withoutNulls)

theorem evaluate_withoutNulls_of_ne {check : Check} (hcheck : check ≠ .runAsNonRoot) (kind : String)
    (data : Json) : check.evaluate kind data.withoutNulls = check.evaluate kind data := by
  have hflag (name text : String) :
      ((spec? kind data.withoutNulls).bind fun spec =>
        if flag spec [name] then some text else none) =
      (spec? kind data).bind fun spec => if flag spec [name] then some text else none := by
    rw [spec?_withoutNulls]
    exact Json.bind_remaining rfl (fun spec => by rw [flag_withoutNulls]) _
  have hcontainers (fails : Json → Bool) (message : String)
      (hfails : ∀ container, fails container.withoutNulls = fails container) :
      firstContainer kind data.withoutNulls (fun _ container => fails container) message =
        firstContainer kind data (fun _ container => fails container) message := by
    rw [firstContainer_withoutNulls]
    simp only [hfails]
  cases check with
  | hostIpc => exact hflag _ _
  | hostNetwork => exact hflag _ _
  | hostPid => exact hflag _ _
  | privilegedContainer => exact hcontainers _ _ isPrivileged_withoutNulls
  | privilegeEscalationContainer => exact hcontainers _ _ escalatesPrivileges_withoutNulls
  | runAsNonRoot => exact absurd rfl hcheck
  | unsafeSysctls => exact unsafeSysctls_withoutNulls kind data
  | unsetCpuRequirements =>
      refine hcontainers (fun container => Quantity.isUnset (container.path? _)) _ fun container => ?_
      rw [Json.path?_withoutNulls, isUnset_remaining]
  | unsetMemoryRequirements =>
      refine hcontainers (fun container => Quantity.isUnset (container.path? _)) _ fun container => ?_
      rw [Json.path?_withoutNulls, isUnset_remaining]
  | pdbMaxUnavailable => exact pdbMaxUnavailable_withoutNulls data
  | latestTag =>
      refine hcontainers
        (fun container => Image.isFloating (((container.get? _).bind Json.str?).getD _)) _
        fun container => ?_
      rw [Json.get?_withoutNulls, Json.bind_str?_remaining]
  | minimumThreeReplicas => exact minimumThreeReplicas_withoutNulls kind data

/-- A null is as good as no member, for every check but the one of who may run as root: there a null
decides where it hides what the pod says of the container that is reported. It can only bring up a
reason. What passes with nulls passes without them. -/
theorem evaluate_withoutNulls_iff (check : Check) (kind : String) (data : Json) :
    (check.evaluate kind data.withoutNulls = check.evaluate kind data ↔
      ¬ (check = .runAsNonRoot ∧ NullDecides kind data)) ∧
    (check.evaluate kind data = none → check.evaluate kind data.withoutNulls = none) := by
  by_cases hcheck : check = .runAsNonRoot
  · subst hcheck
    refine ⟨?_, runAsNonRoot_withoutNulls_of_eq_none⟩
    rw [and_iff_right rfl]
    exact runAsNonRoot_withoutNulls_iff
  · have hsame := evaluate_withoutNulls_of_ne hcheck kind data
    exact ⟨iff_of_true hsame fun h => hcheck h.1, fun hnone => hsame.trans hnone⟩

/-- The pod keeps its containers from running as root, and a null in one of them hides it. -/
example :
    let data : Json := .obj [("spec", .obj [
      ("containers", .arr [.obj [("name", .str "app"),
        ("securityContext", .obj [("runAsNonRoot", .null)])]]),
      ("securityContext", .obj [("runAsNonRoot", .bool true)])])]
    runAsNonRoot.evaluate "Pod" data = some "container \"app\" is not set to runAsNonRoot" ∧
      runAsNonRoot.evaluate "Pod" data.withoutNulls = none := by
  decide +kernel

end Check

end ComplianceScanner
