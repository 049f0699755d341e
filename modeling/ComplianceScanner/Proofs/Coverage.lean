import ComplianceScanner.Proofs.Deeds

/-!
# What is observed

What a scan has observed of a type are the identities of the objects that it has taken up. So of each
type that an attempt finishes it leaves nothing in the cache but what it has taken up.
-/

namespace ComplianceScanner

variable {World : Type} (cluster : Cluster World) (engine : Engine World)

/-- The identities of the objects that are taken up. -/
def Deed.identities (deeds : List Deed) : List Identity :=
  (deeds.filterMap Deed.view?).filterMap ObjectView.identity?

@[simp]
theorem Deed.identities_append (deeds deeds' : List Deed) :
    Deed.identities (deeds ++ deeds') = Deed.identities deeds ++ Deed.identities deeds' := by
  simp [Deed.identities]

theorem Deed.mem_views {deeds : List Deed} {view : ObjectView} :
    view ∈ deeds.filterMap Deed.view? ↔ .take view ∈ deeds := by
  rw [List.mem_filterMap]
  constructor
  · rintro ⟨deed, hdeed, hview⟩
    exact Deed.eq_take hview ▸ hdeed
  · intro hdeed
    exact ⟨_, hdeed, rfl⟩

theorem Deed.mem_identities {deeds : List Deed} {identity : Identity} :
    identity ∈ Deed.identities deeds ↔
      ∃ view, .take view ∈ deeds ∧ view.identity? = some identity := by
  simp only [Deed.identities, List.mem_filterMap (l := deeds.filterMap Deed.view?), mem_views]

theorem PageScan.observed_foldl_take (resource : ResourceType) (namespaceUid : String)
    (items : List Object) (scan : PageScan World) :
    (items.foldl (fun page object => page.take engine ⟨resource, object, namespaceUid⟩)
        scan).observed =
      scan.observed.insertMany
        (Deed.identities (items.map fun object => .take ⟨resource, object, namespaceUid⟩)) := by
  induction items generalizing scan with
  | nil => rfl
  | cons object items ih =>
      rw [List.foldl_cons, ih, observed_take]
      cases hidentity : (⟨resource, object, namespaceUid⟩ : ObjectView).identity? <;>
        simp [Deed.identities, Deed.view?, hidentity, Std.ExtTreeSet.insertMany_cons]

namespace KindScan

theorem observed_takePage (resource : ResourceType) (namespaceUid : String) (items : List Object)
    (scan : KindScan World) :
    (scan.takePage engine resource namespaceUid items).observed =
      scan.observed.insertMany (Deed.identities (pageDeeds resource namespaceUid items)) :=
  PageScan.observed_foldl_take engine resource namespaceUid items
    ⟨scan.caches.cacheFor resource, scan.observed, scan.tally, scan.world⟩

theorem observed_takeListing (listing : Listing) (namespaceUid : String) (steps : Nat)
    (paging : Paging) (scan : KindScan World) :
    (takeListing cluster engine listing namespaceUid steps paging scan).2.observed =
      scan.observed.insertMany
        (Deed.identities (listingDeeds cluster engine listing namespaceUid steps paging scan)) := by
  induction steps generalizing paging scan with
  | zero => rfl
  | succ steps ih =>
      cases paging with
      | finished => rfl
      | due token =>
          rw [listingDeeds, takeListing]
          generalize (Paging.due token).pull cluster listing scan.world = pulled
          obtain ⟨pulled, paging, world⟩ := pulled
          cases pulled with
          | page items =>
              refine (ih _ _).trans ?_
              rw [observed_takePage, ← Std.ExtTreeSet.insertMany_append, ← Deed.identities_append]
              rfl
          | _ => rfl

theorem observed_takeScopes (resource : ResourceType) (pageSize steps : Nat)
    (scopes : List (Option String × String)) (scan : KindScan World) :
    (takeScopes cluster engine resource pageSize steps scopes scan).2.observed =
      scan.observed.insertMany
        (Deed.identities (scopesDeeds cluster engine resource pageSize steps scopes scan)) := by
  induction scopes generalizing scan with
  | nil => rfl
  | cons scope scopes ih =>
      obtain ⟨namespaceName, namespaceUid⟩ := scope
      rw [scopesDeeds, takeScopes]
      have hfirst := observed_takeListing cluster engine ⟨resource, namespaceName, pageSize⟩
        namespaceUid steps .start scan
      generalize takeListing cluster engine ⟨resource, namespaceName, pageSize⟩ namespaceUid steps
        .start scan = taken at hfirst ⊢
      obtain ⟨stop, scan'⟩ := taken
      cases stop with
      | some stop => simpa using hfirst
      | none =>
          refine (ih scan').trans ?_
          rw [hfirst, ← Std.ExtTreeSet.insertMany_append, ← Deed.identities_append]

end KindScan

/-- All these identities are observed already or belong to an object that is taken up. -/
def Covered (observed : Identities) (deeds : List Deed) (identities : Identities) : Prop :=
  ∀ identity ∈ identities, identity ∈ observed ∨
    ∃ view, .take view ∈ deeds ∧ view.identity? = some identity

theorem Covered.mono {observed identities : Identities} {deeds deeds' : List Deed}
    (h : Covered observed deeds identities) (hdeeds : deeds ⊆ deeds') :
    Covered observed deeds' identities := by
  intro identity hmem
  exact (h identity hmem).imp_right fun ⟨view, htake, hview⟩ => ⟨view, hdeeds htake, hview⟩

/-- Each of these types is listed to its end, and what is observed of it is taken up. -/
def Completes (deeds : List Deed) (resources : List ResourceType) : Prop :=
  ∀ resource ∈ resources, ∃ observed, .finish resource observed ∈ deeds ∧ Covered ∅ deeds observed

theorem Completes.of_renew_cons {later : List Deed} {resources : List ResourceType}
    (hcompletes : Completes (.renew :: later) resources) : Completes later resources := by
  intro resource hresource
  obtain ⟨observed, hfinish, hcovered⟩ := hcompletes resource hresource
  refine ⟨observed, (List.mem_cons.mp hfinish).resolve_left (by simp), ?_⟩
  intro identity hmem
  exact (hcovered identity hmem).imp_right fun ⟨view, htake, hview⟩ =>
    ⟨view, (List.mem_cons.mp htake).resolve_left (by simp), hview⟩

end ComplianceScanner
