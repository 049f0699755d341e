import ComplianceScanner.Proofs.Calm
import ComplianceScanner.Proofs.Coverage
import ComplianceScanner.Proofs.Listed

/-!
# Entries that are as a full scan would leave them

Where no reload falls into an attempt, and equal resource versions stand for equal objects, each deed
either leaves an entry alone or sets it to a value that does not hang on what was there before. A
successful attempt sets each entry at least once. So what it leaves is the same for all scanners that
do the same deeds.
-/

namespace ComplianceScanner

variable {Outside : Type}

/-! ### Deeds as overwriting -/

/-- What a deed sets the entry of a subject to, if it sets it at all. -/
def Deed.edit (enabled : List Check) (deed : Deed) (subject : Subject) :
    Option (Option CacheEntry) :=
  match deed with
  | .take view =>
    if view.subject? = some subject then some (CheckEngine.entryOf? enabled view) else none
  | .finish resource observed =>
    if subject.key = resource.key ∧ subject.identity resource.version ∉ observed then some none
    else none
  | .retire live => if subject.key ∈ live then none else some none
  | _ => none

/-- What a deed sets the version of a cached kind to, if it sets it at all. -/
def Deed.editVersion (deed : Deed) (key : ResourceKey) : Option (Option String) :=
  match deed with
  | .adopt resource | .finish resource _ =>
    if resource.key = key then some (some resource.version) else none
  | .take view => if view.resource.key = key then some (some view.resource.version) else none
  | .retire live => if key ∈ live then none else some none
  | _ => none

/-- What has been overwritten does not show. -/
theorem foldl_getD_eq_of_exists {α β : Type} (edit : β → Option α) (items : List β)
    (hedited : ∃ item ∈ items, (edit item).isSome = true) (a b : α) :
    items.foldl (fun held item => (edit item).getD held) a =
      items.foldl (fun held item => (edit item).getD held) b := by
  induction items generalizing a b with
  | nil => simp at hedited
  | cons item items ih =>
      rw [List.foldl_cons, List.foldl_cons]
      cases hitem : edit item with
      | some value => rfl
      | none =>
          obtain ⟨later, hmem, hlater⟩ := hedited
          rcases List.mem_cons.mp hmem with rfl | hmem
          · rw [hitem] at hlater
            cases hlater
          · exact ih ⟨later, hmem, hlater⟩ _ _

namespace Moment

/-- No reload has taken effect or lies ahead, and each entry is as a full scan would leave it. -/
structure Settled (start : Interleaved Outside) (views : List ObjectView)
    (m : Moment (Interleaved Outside)) : Prop where
  keyed : m.caches.Keyed
  calm : Interleaved.Calm start m.world
  entries : ∀ subject entry, m.caches.entryFor? subject = some entry →
    ∃ view ∈ views, view.subject? = some subject ∧
      CheckEngine.entryOf? start.engine.enabled view = some entry

variable {start : Interleaved Outside} {views : List ObjectView} {m : Moment (Interleaved Outside)}

theorem Settled.entryFor?_take (hsettled : m.Settled start views) (hconsistent : Consistent views)
    (cluster : Cluster Outside) {view : ObjectView} (hview : view ∈ views) (subject : Subject) :
    (m.apply (Interleaved.asCluster cluster) Interleaved.asEngine (.take view)).caches.entryFor?
        subject =
      if view.subject? = some subject then CheckEngine.entryOf? start.engine.enabled view
      else m.caches.entryFor? subject := by
  have hjudged : (Interleaved.asEngine.validate view m.world).1 =
      CheckEngine.verdict start.engine.enabled view := by
    change (m.world.settle.engine.validate view).1 = _
    rw [Interleaved.settle_of_due_nil hsettled.calm.due, CheckEngine.validate_fst,
      hsettled.calm.enabled]
  generalize hnext :
    m.apply (Interleaved.asCluster cluster) Interleaved.asEngine (.take view) = m'
  cases hnext ▸ apply_change (Interleaved.asCluster cluster) Interleaved.asEngine hsettled.keyed
    (.take view) with
  | idle hnone hgeneration hworld hentry =>
      rw [hentry, hnone view rfl, if_neg (by simp)]
  | dropped gone hnone hgeneration hworld hentry hgone => cases hnone
  | @hit _ _ judged entry hsubject hheld hversion hgeneration hworld hentry =>
      rw [hentry, hsubject]
      split
      · rename_i heq
        cases heq
        obtain ⟨source, hsource, hsourceSubject, hvalue⟩ := hsettled.entries subject entry hheld
        obtain ⟨outcome, -, rfl⟩ := Option.map_eq_some_iff.mp hvalue
        rw [hheld, ← hvalue]
        exact CheckEngine.entryOf?_congr hconsistent _ hsource hview hsourceSubject hsubject hversion
      · rfl
  | @stored _ _ judged outcome hsubject hdue hgeneration hworld hentry =>
      rw [hworld] at hjudged
      rw [hentry, hsubject, CheckEngine.entryOf?, ← hjudged]
      simp only [Option.some.injEq, eq_comm]
      rfl
  | @failed _ _ judged error world hsubject hdue hgeneration hvalidate hworld hentry =>
      rw [hvalidate] at hjudged
      rw [hentry, hsubject, CheckEngine.entryOf?, ← hjudged]
      simp only [Option.some.injEq, eq_comm]
      rfl

theorem Settled.entryFor?_apply (hsettled : m.Settled start views) (hconsistent : Consistent views)
    (cluster : Cluster Outside) {deed : Deed} (hdeed : deed ≠ .renew)
    (hview : ∀ view, deed.view? = some view → view ∈ views) (subject : Subject) :
    (m.apply (Interleaved.asCluster cluster) Interleaved.asEngine deed).caches.entryFor? subject =
      (deed.edit start.engine.enabled subject).getD (m.caches.entryFor? subject) := by
  cases deed with
  | renew => exact absurd rfl hdeed
  | ask call => rfl
  | adopt resource => exact CacheSet.entryFor?_put_cacheFor hsettled.keyed resource subject
  | take view =>
      rw [hsettled.entryFor?_take hconsistent cluster (hview view rfl), Deed.edit]
      split <;> rfl
  | finish resource observed =>
      rw [entryFor?_finish _ _ hsettled.keyed, Deed.edit]
      split <;> rfl
  | retire live =>
      refine (CacheSet.entryFor?_retain m.caches live subject).trans ?_
      rw [Deed.edit]
      split <;> rfl

theorem Settled.apply (hsettled : m.Settled start views) (hconsistent : Consistent views)
    (cluster : Cluster Outside) {deed : Deed} (hdeed : deed ≠ .renew)
    (hview : ∀ view, deed.view? = some view → view ∈ views) :
    (m.apply (Interleaved.asCluster cluster) Interleaved.asEngine deed).Settled start views where
  keyed := apply_keyed _ _ hsettled.keyed deed
  calm := hsettled.calm.apply cluster hsettled.keyed deed
  entries subject entry hentry := by
    rw [hsettled.entryFor?_apply hconsistent cluster hdeed hview] at hentry
    cases hedit : deed.edit start.engine.enabled subject with
    | none =>
        rw [hedit] at hentry
        exact hsettled.entries subject entry hentry
    | some value =>
        rw [hedit, Option.getD_some] at hentry
        subst hentry
        cases deed with
        | take view =>
            rw [Deed.edit] at hedit
            split at hedit
            · rename_i hsubject
              exact ⟨view, hview view rfl, hsubject, Option.some.inj hedit⟩
            · cases hedit
        | finish resource observed =>
            rw [Deed.edit] at hedit
            split at hedit <;> cases hedit
        | retire live =>
            rw [Deed.edit] at hedit
            split at hedit <;> cases hedit
        | _ => cases hedit

theorem Settled.entryFor?_applyAll (hsettled : m.Settled start views)
    (hconsistent : Consistent views) (cluster : Cluster Outside) {deeds : List Deed}
    (hdeeds : Deed.renew ∉ deeds)
    (hview : ∀ deed ∈ deeds, ∀ view, deed.view? = some view → view ∈ views) (subject : Subject) :
    (m.applyAll (Interleaved.asCluster cluster) Interleaved.asEngine deeds).caches.entryFor?
        subject =
      deeds.foldl (fun held deed => (deed.edit start.engine.enabled subject).getD held)
        (m.caches.entryFor? subject) := by
  induction deeds generalizing m with
  | nil => rfl
  | cons deed deeds ih =>
      rw [List.mem_cons, not_or] at hdeeds
      have hfirst := hview deed List.mem_cons_self
      rw [applyAll_cons, List.foldl_cons,
        ih (hsettled.apply hconsistent cluster (Ne.symm hdeeds.1) hfirst) hdeeds.2
          fun later hlater => hview later (List.mem_cons_of_mem _ hlater),
        hsettled.entryFor?_apply hconsistent cluster (Ne.symm hdeeds.1) hfirst]

variable {World : Type} (cluster : Cluster World) (engine : Engine World)

def version? (m : Moment World) (key : ResourceKey) : Option String :=
  (m.caches.get? key).map (·.version)

theorem version?_put (caches : CacheSet) {resource : ResourceType} {cache : Cache}
    (hversion : cache.version = resource.version) (key : ResourceKey) :
    ((caches.put resource.key cache).get? key).map (·.version) =
      (if resource.key = key then some (some resource.version) else none).getD
        ((caches.get? key).map (·.version)) := by
  rw [CacheSet.get?_put]
  split
  · rw [Option.map_some, hversion]
    rfl
  · rfl

theorem version?_apply (m : Moment World) {deed : Deed} (hdeed : deed ≠ .renew)
    (key : ResourceKey) :
    (m.apply cluster engine deed).version? key =
      (deed.editVersion key).getD (m.version? key) := by
  cases deed with
  | renew => exact absurd rfl hdeed
  | ask call => rfl
  | adopt resource => exact version?_put m.caches (CacheSet.version_cacheFor _ _) key
  | take view =>
      have hversion : ((m.page view).take engine view).cache.version = view.resource.version := by
        rw [PageScan.version_take]
        exact CacheSet.version_cacheFor _ _
      simp only [version?, apply, Deed.editVersion]
      exact version?_put m.caches hversion key
  | finish resource observed =>
      have hversion : ((m.caches.cacheFor resource).keepObserved observed).version =
          resource.version := CacheSet.version_cacheFor _ _
      exact version?_put m.caches hversion key
  | retire live =>
      have hretain := CacheSet.get?_retain m.caches live key
      simp only [version?, apply, Deed.editVersion, hretain]
      split <;> rfl

theorem version?_applyAll (m : Moment World) {deeds : List Deed} (hdeeds : Deed.renew ∉ deeds)
    (key : ResourceKey) :
    (m.applyAll cluster engine deeds).version? key =
      deeds.foldl (fun held deed => (deed.editVersion key).getD held) (m.version? key) := by
  induction deeds generalizing m with
  | nil => rfl
  | cons deed deeds ih =>
      rw [List.mem_cons, not_or] at hdeeds
      rw [applyAll_cons, List.foldl_cons, ih _ hdeeds.2,
        version?_apply cluster engine m (Ne.symm hdeeds.1)]

end Moment

/-! ### What a successful attempt leaves -/

theorem Completes.exists_edit {deeds : List Deed} {resources : List ResourceType}
    (hcompletes : Completes deeds resources)
    (hretire : .retire (resources.map (·.key)) ∈ deeds) (enabled : List Check)
    (subject : Subject) : ∃ deed ∈ deeds, (deed.edit enabled subject).isSome = true := by
  by_cases hlive : subject.key ∈ resources.map (·.key)
  · obtain ⟨resource, hresource, hkey⟩ := List.mem_map.mp hlive
    obtain ⟨observed, hfinish, hcovered⟩ := hcompletes resource hresource
    by_cases hobserved : subject.identity resource.version ∈ observed
    · rcases hcovered _ hobserved with hempty | ⟨view, htake, hview⟩
      · simp at hempty
      · rw [ObjectView.identity?_eq, Option.map_eq_some_iff] at hview
        obtain ⟨own, hown, hidentity⟩ := hview
        obtain ⟨rfl, -⟩ := Subject.identity_inj.mp hidentity
        exact ⟨_, htake, by simp [Deed.edit, hown]⟩
    · exact ⟨_, hfinish, by simp [Deed.edit, hkey, hobserved]⟩
  · exact ⟨_, hretire, by simp only [Deed.edit, if_neg hlive, Option.isSome_some]⟩

theorem Completes.exists_editVersion {deeds : List Deed} {resources : List ResourceType}
    (hcompletes : Completes deeds resources)
    (hretire : .retire (resources.map (·.key)) ∈ deeds) (key : ResourceKey) :
    ∃ deed ∈ deeds, (deed.editVersion key).isSome = true := by
  by_cases hlive : key ∈ resources.map (·.key)
  · obtain ⟨resource, hresource, hkey⟩ := List.mem_map.mp hlive
    obtain ⟨observed, hfinish, -⟩ := hcompletes resource hresource
    exact ⟨_, hfinish, by simp [Deed.editVersion, hkey]⟩
  · exact ⟨_, hretire, by simp only [Deed.editVersion, if_neg hlive, Option.isSome_some]⟩

theorem CacheSet.get?_eq_entryFor? {set : CacheSet} (hkeyed : set.Keyed) {key : ResourceKey}
    {cache : Cache} (hcache : set.get? key = some cache) (identity : Identity) :
    cache.get? identity =
      if identity.version = cache.version ∧ identity.subject.key = key
      then set.entryFor? identity.subject else none := by
  split
  · rename_i hown
    rw [entryFor?, hown.2, hcache, Option.bind_some, ← hown.1, Identity.identity_subject]
  · rename_i hforeign
    rw [Option.eq_none_iff_forall_ne_some]
    intro entry hentry
    exact hforeign (hkeyed key cache hcache identity entry hentry)

/-- Keyed caches are told by their versions and by the entries of the subjects. -/
theorem CacheSet.eq_of_forall_entryFor?_eq {set set' : CacheSet} (hkeyed : set.Keyed)
    (hkeyed' : set'.Keyed)
    (hversion : ∀ key, (set.get? key).map (·.version) = (set'.get? key).map (·.version))
    (hentry : ∀ subject, set.entryFor? subject = set'.entryFor? subject) : set = set' := by
  refine eq_of_forall_get?_eq fun key => ?_
  specialize hversion key
  cases hcache : set.get? key with
  | none =>
      rw [hcache, Option.map_none, eq_comm, Option.map_eq_none_iff] at hversion
      exact hversion.symm
  | some cache =>
      rw [hcache, Option.map_some, eq_comm, Option.map_eq_some_iff] at hversion
      obtain ⟨cache', hcache', hversion⟩ := hversion
      rw [hcache', Option.some.injEq]
      refine Cache.eq_of_forall_get?_eq hversion.symm fun identity => ?_
      rw [get?_eq_entryFor? hkeyed hcache, get?_eq_entryFor? hkeyed' hcache', hversion, hentry]

/-- Whatever two settled moments hold, it is the same after the same deeds of a successful
attempt. -/
theorem Moment.Settled.caches_eq {Outside : Type} {start start' : Interleaved Outside}
    {views : List ObjectView} {m m' : Moment (Interleaved Outside)}
    (hsettled : m.Settled start views) (hsettled' : m'.Settled start' views)
    (henabled : start.engine.enabled = start'.engine.enabled) (hconsistent : Consistent views)
    (cluster : Cluster Outside) {deeds : List Deed} (hdeeds : Deed.renew ∉ deeds)
    (hview : ∀ deed ∈ deeds, ∀ view, deed.view? = some view → view ∈ views)
    {resources : List ResourceType} (hcompletes : Completes deeds resources)
    (hretire : .retire (resources.map (·.key)) ∈ deeds) :
    (m.applyAll (Interleaved.asCluster cluster) Interleaved.asEngine deeds).caches =
      (m'.applyAll (Interleaved.asCluster cluster) Interleaved.asEngine deeds).caches := by
  refine CacheSet.eq_of_forall_entryFor?_eq (applyAll_keyed _ _ hsettled.keyed deeds)
    (applyAll_keyed _ _ hsettled'.keyed deeds) ?_ ?_
  · intro key
    have hleft := version?_applyAll (Interleaved.asCluster cluster) Interleaved.asEngine m hdeeds
      key
    have hright := version?_applyAll (Interleaved.asCluster cluster) Interleaved.asEngine m'
      hdeeds key
    rw [version?] at hleft hright
    rw [hleft, hright]
    exact foldl_getD_eq_of_exists _ deeds (hcompletes.exists_editVersion hretire key) _ _
  · intro subject
    rw [hsettled.entryFor?_applyAll hconsistent cluster hdeeds hview,
      hsettled'.entryFor?_applyAll hconsistent cluster hdeeds hview, henabled]
    exact foldl_getD_eq_of_exists _ deeds (hcompletes.exists_edit hretire _ subject) _ _

end ComplianceScanner
