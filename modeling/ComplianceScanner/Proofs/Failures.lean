import ComplianceScanner.Schedule.Run

/-!
# What an attempt fails with

Objects that the engine cannot judge are counted and passed over. So an attempt comes short only over
its requests, and a cycle is tried again after every error that a request can give it.
-/

namespace ComplianceScanner

variable {World : Type}

/-- No request is cut off before its answer comes. -/
structure Cluster.Uninterrupted (cluster : Cluster World) : Prop where
  discover : ∀ world, (cluster.discover world).1 ≠ .cutOff
  namespaces : ∀ world, (cluster.namespaces world).1 ≠ .cutOff
  list : ∀ resource namespaceName limit token world,
    (cluster.list resource namespaceName limit token world).1 ≠ .cutOff

/-- Not told to stop: the attempt has failed in a way that is tried again, or was too long. -/
inductive Stop.Unforced : Stop → Prop
  | failed {error : ScanError} (hretriable : error.isRetriable = true) : Unforced (.failed error)
  | outOfSteps : Unforced .outOfSteps

variable {cluster : Cluster World} (hcluster : cluster.Uninterrupted)
include hcluster

theorem Paging.pull_ne_cutOff (listing : Listing) (paging : Paging) (world : World) :
    (paging.pull cluster listing world).1 ≠ .cutOff := by
  unfold pull
  split
  · simp
  · rename_i token
    have hlist := hcluster.list listing.resource listing.namespaceName listing.limit token world
    split
    · simp
    · simp
    · rename_i hanswer
      rw [hanswer] at hlist
      exact absurd rfl hlist

omit hcluster in
theorem Paging.isRetriable_of_pull {listing : Listing} {paging : Paging} {world : World}
    {error : ScanError} (hfailed : (paging.pull cluster listing world).1 = .failed error) :
    error.isRetriable = true := by
  unfold pull at hfailed
  split at hfailed
  · cases hfailed
  · split at hfailed
    · cases hfailed
    · cases hfailed
      rfl
    · cases hfailed

namespace KindScan

variable (engine : Engine World)

theorem takeListing_unforced (listing : Listing) (namespaceUid : String) (steps : Nat)
    (paging : Paging) (scan : KindScan World) {stop : Stop}
    (hstop : (takeListing cluster engine listing namespaceUid steps paging scan).1 = some stop) :
    stop.Unforced := by
  induction steps generalizing paging scan with
  | zero =>
      cases hstop
      exact .outOfSteps
  | succ steps ih =>
      unfold takeListing at hstop
      split at hstop
      · cases hstop
      · rename_i hpull
        cases hstop
        exact .failed (Paging.isRetriable_of_pull (congrArg Prod.fst hpull))
      · rename_i hpull
        exact absurd (congrArg Prod.fst hpull)
          (Paging.pull_ne_cutOff hcluster listing paging scan.world)
      · exact ih _ _ hstop

theorem takeScopes_unforced (resource : ResourceType) (pageSize steps : Nat)
    (scopes : List (Option String × String)) (scan : KindScan World) {stop : Stop}
    (hstop : (takeScopes cluster engine resource pageSize steps scopes scan).1 = some stop) :
    stop.Unforced := by
  induction scopes generalizing scan with
  | nil => cases hstop
  | cons scope scopes ih =>
      unfold takeScopes at hstop
      split at hstop
      · rename_i hlisted
        cases hstop
        exact takeListing_unforced hcluster engine _ _ _ _ _ (congrArg Prod.fst hlisted)
      · exact ih _ hstop

end KindScan

theorem NamespaceResolver.resolve_unforced (resolver : NamespaceResolver) (world : World)
    {stop : Stop} (hstop : (resolver.resolve cluster world).1 = .error stop) : stop.Unforced := by
  have hnamespaces := hcluster.namespaces world
  unfold resolve at hstop
  split at hstop
  · cases hstop
  · split at hstop
    · cases hstop
    · cases hstop
      exact .failed rfl
    · rename_i hanswer
      rw [hanswer] at hnamespaces
      exact absurd rfl hnamespaces

theorem Discovery.run_unforced (engine : Engine World) (world : World) {stop : Stop}
    (hstop : (run cluster engine world).1 = .error stop) : stop.Unforced := by
  have hdiscover := hcluster.discover world
  unfold run at hstop
  split at hstop
  · cases hstop
  · cases hstop
    exact .failed rfl
  · rename_i hanswer
    rw [hanswer] at hdiscover
    exact absurd rfl hdiscover

namespace Scanning

theorem scopes_unforced (resource : ResourceType) (s : Scanning World) {stop : Stop}
    (hstop : (s.scopes cluster resource).1 = .error stop) : stop.Unforced := by
  unfold scopes at hstop
  split at hstop
  · split at hstop
    · cases hstop
    · rename_i hresolved
      cases hstop
      exact NamespaceResolver.resolve_unforced hcluster _ _ (congrArg Prod.fst hresolved)
  · cases hstop

variable (engine : Engine World) (steps : Nat)

theorem scanKind_unforced (resource : ResourceType) (report : CycleReport) (s : Scanning World)
    {stop : Stop}
    (hstop : (s.scanKind cluster engine steps resource report).1 = .error stop) :
    stop.Unforced := by
  unfold scanKind at hstop
  split at hstop
  · rename_i hscopes
    cases hstop
    exact scopes_unforced hcluster resource s (congrArg Prod.fst hscopes)
  · split at hstop
    · rename_i hscanned
      cases hstop
      exact KindScan.takeScopes_unforced hcluster engine _ _ _ _ _ (congrArg Prod.fst hscanned)
    · cases hstop

theorem scanKinds_unforced (resources : List ResourceType) (report : CycleReport)
    (s : Scanning World) {stop : Stop}
    (hstop : (s.scanKinds cluster engine steps resources report).1 = .error stop) :
    stop.Unforced := by
  induction resources generalizing report s with
  | nil => cases hstop
  | cons resource rest ih =>
      unfold scanKinds at hstop
      split at hstop
      · rename_i hscanned
        cases hstop
        exact scanKind_unforced hcluster engine steps _ _ _ (congrArg Prod.fst hscanned)
      · exact ih _ _ hstop

/-- Every error of an attempt is one after which the cycle is tried again. -/
theorem runCycle_unforced (s : Scanning World) {stop : Stop}
    (hstop : (s.runCycle cluster engine steps).1 = .error stop) : stop.Unforced := by
  unfold runCycle at hstop
  simp only at hstop
  split at hstop
  · rename_i hdiscovered
    cases hstop
    exact Discovery.run_unforced hcluster engine _ (congrArg Prod.fst hdiscovered)
  · split at hstop
    · rename_i hscanned
      cases hstop
      exact scanKinds_unforced hcluster engine steps _ _ _ (congrArg Prod.fst hscanned)
    · cases hstop

theorem isRetriable_of_runCycle {s s' : Scanning World} {error : ScanError}
    (hrun : s.runCycle cluster engine steps = (.error (.failed error), s')) :
    error.isRetriable = true := by
  cases runCycle_unforced hcluster engine steps s (congrArg Prod.fst hrun) with
  | failed hretriable => exact hretriable

end Scanning

end ComplianceScanner
