import ComplianceScanner.Proofs.Attempts
import Mathlib.Data.List.TakeWhile

/-!
# References to owners

An object names the type of its owner as the type shows itself: by its kind, and by its version, which
begins with the group if the group has a name. The group is read back from there, so an object is left
to its owner iff one of its references comes from a type whose objects carry a pod template. The order
of the references does not matter, and one that comes from another type counts for nothing.
-/

namespace ComplianceScanner

theorem groupOfApiVersion_of_notMem {version : String} (hversion : '/' ∉ version.toList) :
    groupOfApiVersion version = "" := by
  have hcontains : ¬ version.toList.contains '/' = true := by simpa using hversion
  rw [groupOfApiVersion, if_neg hcontains]

theorem groupOfApiVersion_append {group : String} (hgroup : '/' ∉ group.toList) (version : String) :
    groupOfApiVersion (group ++ "/" ++ version) = group := by
  have htext : (group ++ "/" ++ version).toList = group.toList ++ '/' :: version.toList := by simp
  have hcontains : (group ++ "/" ++ version).toList.contains '/' = true := by simp
  have hall : ∀ c ∈ group.toList, decide (c ≠ '/') = true := fun c hc =>
    decide_eq_true (ne_of_mem_of_not_mem hc hgroup)
  rw [groupOfApiVersion, if_pos hcontains, htext, List.takeWhile_append_of_pos hall,
    List.takeWhile_cons_of_neg (by simp), List.append_nil, String.ofList_toList]

/-- The group is read back from a version as it is shown. A bare version is one of the core group. -/
theorem groupOfApiVersion_apiVersion {group version : String} (hgroup : '/' ∉ group.toList)
    (hversion : '/' ∉ version.toList) : groupOfApiVersion (apiVersion group version) = group := by
  by_cases hcore : group = ""
  · rw [apiVersion, if_pos hcore, hcore, groupOfApiVersion_of_notMem hversion]
  · rw [apiVersion, if_neg hcore, groupOfApiVersion_append hgroup]

/-- How an object refers to an owner of this type. -/
def ResourceType.reference (resource : ResourceType) : OwnerReference :=
  ⟨resource.apiVersion, resource.kind⟩

namespace ObjectView

/-- The object with these references to owners. -/
def withOwners (view : ObjectView) (owners : List OwnerReference) : ObjectView :=
  { view with object := { view.object with owners } }

variable (view : ObjectView)

theorem isManaged_withOwners_insert {resource : ResourceType} (hgroup : '/' ∉ resource.group.toList)
    (hversion : '/' ∉ resource.version.toList) (before after : List OwnerReference) :
    (view.withOwners (before ++ resource.reference :: after)).isManaged =
      (isDeploymentLike resource.group resource.kind ||
        (view.withOwners (before ++ after)).isManaged) := by
  have hread : groupOfApiVersion resource.reference.apiVersion = resource.group :=
    groupOfApiVersion_apiVersion hgroup hversion
  have hkind : resource.reference.kind = resource.kind := rfl
  simp only [isManaged, withOwners, List.any_append, List.any_cons, hread, hkind]
  exact Bool.or_left_comm _ _ _

end ObjectView

namespace CheckEngine

/-- Of the references only one thing is asked: whether the object is managed. -/
theorem validate_withOwners_congr (engine : CheckEngine) (view : ObjectView)
    {owners owners' : List OwnerReference}
    (hmanaged : (view.withOwners owners).isManaged = (view.withOwners owners').isManaged) :
    engine.validate (view.withOwners owners) = engine.validate (view.withOwners owners') := by
  have hfault : (view.withOwners owners).fault? = (view.withOwners owners').fault? := rfl
  unfold validate
  rw [hfault, hmanaged]
  rfl

theorem fault?_withOwners_eq_none {view : ObjectView} (hname : view.name? ≠ none)
    (hdata : view.data.isObject = true) (owners : List OwnerReference) :
    (view.withOwners owners).fault? = none := by
  obtain ⟨name, hsome⟩ := Option.ne_none_iff_exists'.mp hname
  have hname' : (view.withOwners owners).name? = some name := hsome
  have hdata' : (view.withOwners owners).data.isObject = true := hdata
  rw [ObjectView.fault?, hname']
  exact if_pos hdata'

/-- One more reference, wherever it stands among the others, makes an object with a pod template pass
unjudged if the owner carries a pod template as well, and changes nothing if it does not. -/
theorem validate_reference (engine : CheckEngine) (view : ObjectView) {resource : ResourceType}
    (hgroup : '/' ∉ resource.group.toList) (hversion : '/' ∉ resource.version.toList)
    (before after : List OwnerReference) :
    let judged := engine.validate (view.withOwners (before ++ resource.reference :: after))
    (isDeploymentLike resource.group resource.kind = true →
      isDeploymentLike view.group view.kind = true → view.name? ≠ none →
      view.data.isObject = true → judged = (.ok .ignored, engine)) ∧
    (isDeploymentLike resource.group resource.kind = false →
      judged = engine.validate (view.withOwners (before ++ after))) := by
  intro judged
  have hmanaged := view.isManaged_withOwners_insert hgroup hversion before after
  constructor
  · intro howner hview hname hdata
    have hnone := fault?_withOwners_eq_none hname hdata (before ++ resource.reference :: after)
    have hleft : (view.withOwners (before ++ resource.reference :: after)).isLeftToOwner = true := by
      rw [ObjectView.isLeftToOwner, hmanaged, howner, Bool.true_or, Bool.and_true]
      exact hview
    rcases validate_cases engine (view.withOwners (before ++ resource.reference :: after)) with
      ⟨error, herror, -⟩ | ⟨-, -, hjudged⟩ | ⟨-, hnot, -⟩ | ⟨-, hnot, -⟩
    · exact absurd (hnone.symm.trans herror) (by simp)
    · exact hjudged
    · exact absurd (hleft.symm.trans hnot) (by decide)
    · exact absurd (hleft.symm.trans hnot) (by decide)
  · intro howner
    apply validate_withOwners_congr
    rw [hmanaged, howner, Bool.false_or]

end CheckEngine

namespace Sample

/-- A workload with a custom owner is judged, and a core owner beside it makes it pass unjudged. -/
theorem validate_reference_pod :
    let engine : CheckEngine := { enabled := [.hostPid] }
    let view : ObjectView := ⟨deployment "apps", web "uid-1" "1", "ns-1"⟩
    let pod : ResourceType := ⟨"", "v1", "Pod", "pods", true⟩
    let fleet : ResourceType := ⟨"fleets.example", "v1", "Deployment", "deployments", true⟩
    let judge (owners : List OwnerReference) := engine.validate (view.withOwners owners)
    ('/' ∉ pod.group.toList ∧ '/' ∉ pod.version.toList) ∧
      ('/' ∉ fleet.group.toList ∧ '/' ∉ fleet.version.toList) ∧
      isDeploymentLike pod.group pod.kind = true ∧
      isDeploymentLike fleet.group fleet.kind = false ∧
      isDeploymentLike view.group view.kind = true ∧ view.name? ≠ none ∧
      view.data.isObject = true ∧
      judge [fleet.reference, pod.reference] = (.ok .ignored, engine) ∧
      judge [fleet.reference] = judge [] ∧ (judge []).1 = .ok .needsImprovement := by
  intro engine view pod fleet judge
  have hpod : '/' ∉ pod.group.toList ∧ '/' ∉ pod.version.toList := by decide
  have hfleet : '/' ∉ fleet.group.toList ∧ '/' ∉ fleet.version.toList := by decide +kernel
  have howner : isDeploymentLike pod.group pod.kind = true := by decide +kernel
  have hother : isDeploymentLike fleet.group fleet.kind = false := by decide +kernel
  have hview : isDeploymentLike view.group view.kind = true := by decide +kernel
  have hname : view.name? ≠ none := by decide
  have hignored := (CheckEngine.validate_reference engine view hpod.1 hpod.2 [fleet.reference] []).1
    howner hview hname rfl
  have hsame := (CheckEngine.validate_reference engine view hfleet.1 hfleet.2 [] []).2 hother
  exact ⟨hpod, hfleet, howner, hother, hview, hname, rfl, hignored, hsame, by decide +kernel⟩

end Sample

end ComplianceScanner
