import ComplianceScanner.Proofs.Rearranged
import Mathlib.Data.List.Nodup
import Mathlib.Data.Prod.Lex
import Mathlib.Data.String.Basic

/-!
# What discovery selects

A cluster serves a kind under several versions and next to its parts, and the engine has no checks
for most kinds. What is left of all this is one type for each supported kind: the first that is
served under a name of its own. `Selects` says so without the filters that bring it about, and it
leaves no choice: the order and the key of the selected types determine the list.
-/

namespace ComplianceScanner

namespace ResourceType

/-- What types are sorted by. -/
def rank (resource : ResourceType) : String ×ₗ String ×ₗ String ×ₗ String ×ₗ Bool :=
  toLex (resource.group, toLex (resource.version, toLex (resource.kind,
    toLex (resource.plural, resource.namespaced))))

theorem compare_eq_compare_rank (a b : ResourceType) : compare a b = compare a.rank b.rank := by
  change compareLex (compareOn fields) (compareOn namespaced) a b = _
  simp only [compareLex, compareOn, fields, rank, List.compare_eq_compareLex,
    List.compareLex_cons_cons, List.compareLex_nil_nil, Prod.Lex.compare_def, ofLex_toLex,
    Ordering.then_assoc, Ordering.eq_then]

theorem rank_lt_of_isLE {a b : ResourceType} (hle : (compare a b).isLE = true) (hne : a ≠ b) :
    a.rank < b.rank := by
  rw [← compare_lt_iff_lt, ← compare_eq_compare_rank]
  cases hcompare : compare a b with
  | lt => rfl
  | eq => exact absurd (eq_of_compare hcompare) hne
  | gt =>
      rw [hcompare] at hle
      cases hle

end ResourceType

namespace Discovery

theorem select_filter_isTopLevel (supports : String → String → Bool) (served : List ResourceType) :
    select supports (served.filter isTopLevel) = select supports served := by
  rw [select, select, List.filter_filter]
  congr 3
  funext resource
  rw [Bool.and_right_comm, Bool.and_self]

/-- The types to scan, told by what is served and supported alone. -/
structure Selects (supports : String → String → Bool) (served types : List ResourceType) :
    Prop where
  sorted : types.Pairwise fun earlier later => earlier.rank < later.rank
  nodup : (types.map (·.key)).Nodup
  covers : ∀ key, (∃ type ∈ types, type.key = key) ↔
    supports key.group key.kind = true ∧
      ∃ type ∈ served, type.key = key ∧ '/' ∉ type.plural.toList
  first : ∀ type ∈ types,
    served.find? (fun other => other.key = type.key ∧ '/' ∉ other.plural.toList) = some type

variable {supports : String → String → Bool} {served : List ResourceType}

/-- Whether a type is supported is a matter of its key, so the first one that is left when those
without support are gone is the first one of its kind. -/
theorem mem_select {type : ResourceType} :
    type ∈ select supports served ↔ supports type.group type.kind = true ∧
      served.find? (fun other => other.key = type.key ∧ '/' ∉ other.plural.toList) = some type := by
  have hfind (hsupports : supports type.group type.kind = true) :
      (served.filter fun resource =>
        isTopLevel resource && supports resource.group resource.kind).find?
          (·.key = type.key) =
      served.find? fun other => other.key = type.key ∧ '/' ∉ other.plural.toList := by
    rw [List.find?_filter]
    congr 1
    funext other
    by_cases hkey : other.key = type.key
    · obtain ⟨hgroup, hkind⟩ := ResourceKey.mk.inj hkey
      rw [hgroup, hkind, hsupports]
      simp [hkey, isTopLevel]
    · simp [hkey]
  constructor
  · intro hmem
    have hsupports := supports_of_mem_select hmem
    refine ⟨hsupports, ?_⟩
    rw [← hfind hsupports]
    exact mem_firstOfKind.mp ((List.mergeSort_perm _ _).mem_iff.mp hmem)
  · rintro ⟨hsupports, hfirst⟩
    rw [← hfind hsupports] at hfirst
    exact (List.mergeSort_perm _ _).mem_iff.mpr (mem_firstOfKind.mpr hfirst)

theorem selects_select (supports : String → String → Bool) (served : List ResourceType) :
    Selects supports served (select supports served) where
  sorted := by
    have hne : (select supports served).Pairwise (· ≠ ·) :=
      List.Nodup.of_map _ (nodup_select supports served)
    exact (pairwise_select supports served).imp₂ (fun _ _ => ResourceType.rank_lt_of_isLE) hne
  nodup := nodup_select supports served
  covers key := by
    constructor
    · rintro ⟨type, hmem, rfl⟩
      obtain ⟨hsupports, hfirst⟩ := mem_select.mp hmem
      have htop := List.find?_some hfirst
      exact ⟨hsupports, type, List.mem_of_find?_eq_some hfirst, rfl, by simpa using htop⟩
    · rintro ⟨hsupports, type, hmem, rfl, htop⟩
      have hsome : (served.find? fun other =>
          other.key = type.key ∧ '/' ∉ other.plural.toList).isSome := by
        rw [List.find?_isSome]
        exact ⟨type, hmem, by simpa using htop⟩
      obtain ⟨first, hfirst⟩ := Option.isSome_iff_exists.mp hsome
      have hkey : first.key = type.key := by
        have hfound := List.find?_some hfirst
        simp only [decide_eq_true_eq] at hfound
        exact hfound.1
      refine ⟨first, mem_select.mpr ?_, hkey⟩
      obtain ⟨hgroup, hkind⟩ := ResourceKey.mk.inj hkey
      rw [hgroup, hkind, hkey]
      exact ⟨hsupports, hfirst⟩
  first type hmem := (mem_select.mp hmem).2

theorem select_eq_of_same_candidates {served' : List ResourceType}
    (hsame : (served'.filter fun type => '/' ∉ type.plural.toList ∧
        supports type.group type.kind = true) =
      served.filter fun type => '/' ∉ type.plural.toList ∧
        supports type.group type.kind = true) :
    select supports served' = select supports served := by
  have hcandidates (served : List ResourceType) :
      (served.filter fun resource =>
        isTopLevel resource && supports resource.group resource.kind) =
      served.filter fun type => '/' ∉ type.plural.toList ∧
        supports type.group type.kind = true := by
    congr 1
    funext resource
    simp [isTopLevel]
  rw [select, select, hcandidates, hcandidates, hsame]

theorem select_eq_of_perm {served' : List ResourceType} (hperm : served'.Perm served)
    (hunique : ((served.filter fun type => '/' ∉ type.plural.toList).map (·.key)).Nodup) :
    select supports served' = select supports served := by
  have htop : (served.filter fun type => '/' ∉ type.plural.toList) = served.filter isTopLevel := by
    congr 1
    funext resource
    simp [isTopLevel]
  rw [htop] at hunique
  rw [← select_filter_isTopLevel supports served, ← select_filter_isTopLevel supports served']
  exact (select_perm supports (hperm.symm.filter _) hunique).symm

variable {World : Type}

theorem run_of_discover {cluster : Cluster World} {world asked : World}
    (hserved : cluster.discover world = (.value served, asked)) (engine : Engine World) :
    run cluster engine world = (.ok (select (engine.supports asked) served), asked) := by
  rw [run, hserved]

/-- When the cluster has said what it serves, discovery gives the first type of each supported kind,
sorted. What is served besides plays no part in that, and neither does the order, unless a kind is
served twice. -/
theorem run_selects {cluster : Cluster World} {world asked : World}
    (hserved : cluster.discover world = (.value served, asked)) (engine : Engine World) :
    let supports := engine.supports asked
    ∃ types, run cluster engine world = (.ok types, asked) ∧ Selects supports served types ∧
      (∀ (other : Cluster World) (world' asked' : World) (served' : List ResourceType),
        other.discover world' = (.value served', asked') → engine.supports asked' = supports →
        ((served'.filter fun type => '/' ∉ type.plural.toList ∧
            supports type.group type.kind = true) =
          served.filter fun type => '/' ∉ type.plural.toList ∧
            supports type.group type.kind = true) ∨
        (served'.Perm served ∧
          ((served.filter fun type => '/' ∉ type.plural.toList).map (·.key)).Nodup) →
        run other engine world' = (.ok types, asked')) ∧
      ∀ judge : CheckEngine, judge.supports = supports →
        ∀ type ∈ types, ∃ check ∈ judge.enabled,
          check.scope.covers type.group type.kind = true := by
  intro supports
  refine ⟨select supports served, run_of_discover hserved engine, selects_select supports served,
    ?_, ?_⟩
  · intro other world' asked' served' hserved' hsupports hsame
    rw [run_of_discover hserved' engine, hsupports]
    rcases hsame with hcandidates | ⟨hperm, hunique⟩
    · rw [select_eq_of_same_candidates hcandidates]
    · rw [select_eq_of_perm hperm hunique]
  · intro judge hjudge type hmem
    have hsupports := supports_of_mem_select hmem
    rw [← hjudge] at hsupports
    exact List.any_eq_true.mp hsupports

end Discovery

namespace Sample

/-- An old version behind the preferred one, a part of a type and a kind without checks, which may as
well be left out; and one version of each kind, served in either order. -/
theorem run_selects_mixed :
    let scale : ResourceType := { deployment "apps" with plural := "deployments/scale" }
    let older : ResourceType := { deployment "apps" with version := "v0" }
    let settings : ResourceType := ⟨"", "v1", "ConfigMap", "configmaps", true⟩
    let cron : ResourceType := ⟨"batch", "v1", "CronJob", "cronjobs", true⟩
    let judge : CheckEngine := { enabled := [.hostPid] }
    let discover (served : List ResourceType) :=
      (Discovery.run ScriptedCluster.asCluster.beside CheckEngine.asEngine.beside
        (({ resources := served } : ScriptedCluster), judge)).1
    discover [scale, deployment "apps", cron, settings, older] = .ok [deployment "apps", cron] ∧
      discover [deployment "apps", cron, older] = .ok [deployment "apps", cron] ∧
      discover [cron, deployment "apps", scale] = discover [scale, deployment "apps", cron] ∧
      ∃ check ∈ judge.enabled, check.scope.covers cron.group cron.kind = true := by
  intro scale older settings cron judge discover
  let cluster : Cluster (ScriptedCluster × CheckEngine) := ScriptedCluster.asCluster.beside
  let engine : Engine (ScriptedCluster × CheckEngine) := CheckEngine.asEngine.beside
  have hserved (served : List ResourceType) :
      cluster.discover ({ resources := served }, judge) =
        (.value served, ({ resources := served }, judge)) := rfl
  let served := [scale, deployment "apps", cron, settings, older]
  obtain ⟨types, hrun, -, hsame, hchecks⟩ := Discovery.run_selects (hserved served) engine
  obtain ⟨types', hrun', -, hsame', -⟩ :=
    Discovery.run_selects (hserved [scale, deployment "apps", cron]) engine
  have htypes : [deployment "apps", cron] = types := by
    have hleft : Discovery.firstOfKind (served.filter fun resource =>
        Discovery.isTopLevel resource && judge.supports resource.group resource.kind) =
          [deployment "apps", cron] := by
      decide +kernel
    have hselect : Discovery.select judge.supports served = [deployment "apps", cron] := by
      rw [Discovery.select, hleft]
      exact List.mergeSort_of_pairwise (by decide +kernel)
    rw [Discovery.run_of_discover (hserved served)] at hrun
    rw [← hselect]
    exact Except.ok.inj (congrArg Prod.fst hrun)
  subst htypes
  refine ⟨congrArg Prod.fst hrun, ?_, ?_, hchecks judge rfl cron (by simp)⟩
  · exact congrArg Prod.fst
      (hsame cluster _ _ _ (hserved [deployment "apps", cron, older]) rfl (.inl (by decide +kernel)))
  · have hperm : [cron, deployment "apps", scale].Perm [scale, deployment "apps", cron] :=
      List.reverse_perm [scale, deployment "apps", cron]
    have hrun'' := hsame' cluster _ _ _ (hserved [cron, deployment "apps", scale]) rfl
      (.inr ⟨hperm, by decide +kernel⟩)
    exact (congrArg Prod.fst hrun'').trans (congrArg Prod.fst hrun').symm

end Sample

end ComplianceScanner
