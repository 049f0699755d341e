import ComplianceScanner.Proofs.Journal

/-!
# Surveys

What an attempt asks of the cluster follows a fixed course: discovery, then type after type, for each
the namespaces if they are needed and not known, and one chain of pages per scope. The course is laid
down here as a grammar of exchanges that knows neither engine nor caches. An attempt keeps to it, as
`runCycle_isSurvey` says, and together with the answers of the cluster it leaves no choice.
-/

namespace ComplianceScanner

namespace Survey

/-! ### The course -/

/-- The requests of one listing that stands here and may take so many steps. Each goes out with the
token of the page before; a page whose token is absent or empty is the last one. -/
inductive Chain (listing : Listing) : Nat → Paging → List Exchange → Option Stop → Prop
  | unfinished {paging : Paging} : Chain listing 0 paging [] (some .outOfSteps)
  | finished {steps : Nat} : Chain listing (steps + 1) .finished [] none
  | last {steps : Nat} {token : Option String} {page : ObjectPage} {exchanges : List Exchange}
      {stop : Option Stop} (hlast : ∀ next, page.next = some next → next = "")
      (hrest : Chain listing steps .finished exchanges stop) :
      Chain listing (steps + 1) (.due token) (.list listing token (.value page) :: exchanges) stop
  | next {steps : Nat} {token : Option String} {page : ObjectPage} {next : String}
      {exchanges : List Exchange} {stop : Option Stop} (hnext : page.next = some next)
      (hne : next ≠ "") (hrest : Chain listing steps (.due (some next)) exchanges stop) :
      Chain listing (steps + 1) (.due token) (.list listing token (.value page) :: exchanges) stop
  | failed {steps : Nat} {token : Option String} {cause : ClusterError} :
      Chain listing (steps + 1) (.due token) [.list listing token (.failed cause)]
        (some (.failed (.list listing.resource.display listing.namespaceName cause)))
  | cutOff {steps : Nat} {token : Option String} :
      Chain listing (steps + 1) (.due token) [.list listing token .cutOff] (some .cutOff)

section

variable (limit steps : Nat)

/-- One chain of pages per scope, in their order, up to the first that stops. -/
inductive Chains (resource : ResourceType) :
    List (Option String) → List Exchange → Option Stop → Prop
  | nil : Chains resource [] [] none
  | stopped {scope : Option String} {scopes : List (Option String)} {first : List Exchange}
      {stop : Stop} (hfirst : Chain ⟨resource, scope, limit⟩ steps .start first (some stop)) :
      Chains resource (scope :: scopes) first (some stop)
  | cons {scope : Option String} {scopes : List (Option String)} {first rest : List Exchange}
      {stop : Option Stop} (hfirst : Chain ⟨resource, scope, limit⟩ steps .start first none)
      (hrest : Chains resource scopes rest stop) :
      Chains resource (scope :: scopes) (first ++ rest) stop

variable (ignored : String → Bool)

/-- The namespaces to list in, among those that the cluster has. -/
def kept (listed : List Namespace) : List Namespace := listed.filter fun ns => !ignored ns.name

/-- The scopes of a type, given the namespaces that the cluster has said it has, if it was asked in
this attempt; and what is known of them afterwards. -/
inductive Resolved (resource : ResourceType) : Option (List Namespace) → List Exchange →
    Except Stop (List (Option String)) → Option (List Namespace) → Prop
  | clusterWide {known : Option (List Namespace)} (hscope : resource.namespaced = false) :
      Resolved resource known [] (.ok [none]) known
  | known {listed : List Namespace} (hscope : resource.namespaced = true) :
      Resolved resource (some listed) [] (.ok ((kept ignored listed).map fun ns => some ns.name))
        (some listed)
  | asked {listed : List Namespace} (hscope : resource.namespaced = true) :
      Resolved resource none [.namespaces (.value listed)]
        (.ok ((kept ignored listed).map fun ns => some ns.name)) (some listed)
  | failed {cause : ClusterError} (hscope : resource.namespaced = true) :
      Resolved resource none [.namespaces (.failed cause)]
        (.error (.failed (.namespaceList cause))) none
  | cutOff (hscope : resource.namespaced = true) :
      Resolved resource none [.namespaces .cutOff] (.error .cutOff) none

inductive OfKind (resource : ResourceType) : Option (List Namespace) → List Exchange →
    Option Stop → Option (List Namespace) → Prop
  | unresolved {known known' : Option (List Namespace)} {asked : List Exchange} {stop : Stop}
      (hasked : Resolved ignored resource known asked (.error stop) known') :
      OfKind resource known asked (some stop) known'
  | listed {known known' : Option (List Namespace)} {asked listed : List Exchange}
      {scopes : List (Option String)} {stop : Option Stop}
      (hasked : Resolved ignored resource known asked (.ok scopes) known')
      (hlisted : Chains limit steps resource scopes listed stop) :
      OfKind resource known (asked ++ listed) stop known'

inductive OfKinds :
    Option (List Namespace) → List ResourceType → List Exchange → Option Stop → Prop
  | nil {known : Option (List Namespace)} : OfKinds known [] [] none
  | stopped {known known' : Option (List Namespace)} {resource : ResourceType}
      {resources : List ResourceType} {first : List Exchange} {stop : Stop}
      (hfirst : OfKind limit steps ignored resource known first (some stop) known') :
      OfKinds known (resource :: resources) first (some stop)
  | cons {known known' : Option (List Namespace)} {resource : ResourceType}
      {resources : List ResourceType} {first rest : List Exchange} {stop : Option Stop}
      (hfirst : OfKind limit steps ignored resource known first none known')
      (hrest : OfKinds known' resources rest stop) :
      OfKinds known (resource :: resources) (first ++ rest) stop

/-- All requests of an attempt: namespaces that an earlier attempt has asked for do not count. -/
inductive Whole (supports : String → String → Bool) : List Exchange → Option Stop → Prop
  | scanned {served : List ResourceType} {exchanges : List Exchange} {stop : Option Stop}
      (hkinds : OfKinds limit steps ignored none (Discovery.select supports served) exchanges
        stop) :
      Whole supports (.discover (.value served) :: exchanges) stop
  | failed {cause : ClusterError} :
      Whole supports [.discover (.failed cause)] (some (.failed (.discovery cause)))
  | cutOff : Whole supports [.discover .cutOff] (some .cutOff)

end

/-! ### The course stops at the first failure -/

/-- No request fails but the last, and the attempt fails for that one and for nothing else. -/
structure FailsLast (exchanges : List Exchange) (stop : Option Stop) : Prop where
  before : ∀ exchange ∈ exchanges.dropLast, exchange.error? = none
  error : ∀ error, stop = some (.failed error) ↔
    ∃ exchange ∈ exchanges, exchange.error? = some error

theorem failsLast_of_forall {exchanges : List Exchange} {stop : Option Stop}
    (hstop : ∀ error, stop ≠ some (.failed error))
    (hnone : ∀ exchange ∈ exchanges, exchange.error? = none) : FailsLast exchanges stop where
  before exchange hmem := hnone exchange (List.dropLast_subset _ hmem)
  error error := by
    constructor
    · intro heq
      exact absurd heq (hstop error)
    · rintro ⟨exchange, hmem, herror⟩
      rw [hnone exchange hmem] at herror
      cases herror

theorem FailsLast.forall_of_none {exchanges : List Exchange} (hfails : FailsLast exchanges none) :
    ∀ exchange ∈ exchanges, exchange.error? = none := by
  intro exchange hmem
  rw [Option.eq_none_iff_forall_ne_some]
  intro error herror
  exact absurd ((hfails.error error).mpr ⟨exchange, hmem, herror⟩) (by simp)

theorem failsLast_singleton {exchange : Exchange} {error : ScanError}
    (herror : exchange.error? = some error) : FailsLast [exchange] (some (.failed error)) where
  before := by simp
  error other := by simp [herror]

theorem FailsLast.append {first rest : List Exchange} {stop : Option Stop}
    (hrest : FailsLast rest stop) (hfirst : ∀ exchange ∈ first, exchange.error? = none) :
    FailsLast (first ++ rest) stop where
  before exchange hmem := by
    by_cases hempty : rest = []
    · rw [hempty, List.append_nil] at hmem
      exact hfirst exchange (List.dropLast_subset _ hmem)
    · rw [List.dropLast_append_of_ne_nil hempty] at hmem
      exact (List.mem_append.mp hmem).elim (hfirst exchange) (hrest.before exchange)
  error error := by
    rw [hrest.error error]
    constructor
    · rintro ⟨exchange, hmem, herror⟩
      exact ⟨exchange, List.mem_append_right first hmem, herror⟩
    · rintro ⟨exchange, hmem, herror⟩
      refine ⟨exchange, (List.mem_append.mp hmem).resolve_left fun hmem => ?_, herror⟩
      rw [hfirst exchange hmem] at herror
      cases herror

theorem FailsLast.cons {exchange : Exchange} {rest : List Exchange} {stop : Option Stop}
    (hexchange : exchange.error? = none) (hrest : FailsLast rest stop) :
    FailsLast (exchange :: rest) stop := by
  refine hrest.append (?_ : ∀ only ∈ [exchange], only.error? = none)
  intro only hmem
  rw [List.mem_singleton.mp hmem]
  exact hexchange

theorem Chain.failsLast {listing : Listing} {steps : Nat} {paging : Paging}
    {exchanges : List Exchange} {stop : Option Stop}
    (hchain : Chain listing steps paging exchanges stop) : FailsLast exchanges stop := by
  induction hchain with
  | unfinished => exact failsLast_of_forall (by simp) (by simp)
  | finished => exact failsLast_of_forall (by simp) (by simp)
  | last hlast hrest ih => exact ih.cons rfl
  | next hnext hne hrest ih => exact ih.cons rfl
  | failed => exact failsLast_singleton rfl
  | cutOff => exact failsLast_of_forall (by simp) (by simp [Exchange.error?])

variable {limit steps : Nat} {ignored : String → Bool}

theorem Chains.failsLast {resource : ResourceType} {scopes : List (Option String)}
    {exchanges : List Exchange} {stop : Option Stop}
    (hchains : Chains limit steps resource scopes exchanges stop) : FailsLast exchanges stop := by
  induction hchains with
  | nil => exact failsLast_of_forall (by simp) (by simp)
  | stopped hfirst => exact hfirst.failsLast
  | cons hfirst hrest ih => exact ih.append hfirst.failsLast.forall_of_none

theorem OfKind.failsLast {resource : ResourceType} {known known' : Option (List Namespace)}
    {exchanges : List Exchange} {stop : Option Stop}
    (hkind : OfKind limit steps ignored resource known exchanges stop known') :
    FailsLast exchanges stop := by
  cases hkind with
  | unresolved hasked =>
      cases hasked with
      | failed hscope => exact failsLast_singleton rfl
      | cutOff hscope => exact failsLast_of_forall (by simp) (by simp [Exchange.error?])
  | listed hasked hlisted =>
      refine hlisted.failsLast.append ?_
      cases hasked <;> simp [Exchange.error?]

theorem OfKinds.failsLast {known : Option (List Namespace)} {resources : List ResourceType}
    {exchanges : List Exchange} {stop : Option Stop}
    (hkinds : OfKinds limit steps ignored known resources exchanges stop) :
    FailsLast exchanges stop := by
  induction hkinds with
  | nil => exact failsLast_of_forall (by simp) (by simp)
  | stopped hfirst => exact hfirst.failsLast
  | cons hfirst hrest ih => exact ih.append hfirst.failsLast.forall_of_none

theorem Whole.failsLast {supports : String → String → Bool} {exchanges : List Exchange}
    {stop : Option Stop} (hwhole : Whole limit steps ignored supports exchanges stop) :
    FailsLast exchanges stop := by
  cases hwhole with
  | scanned hkinds => exact hkinds.failsLast.cons rfl
  | failed => exact failsLast_singleton rfl
  | cutOff => exact failsLast_of_forall (by simp) (by simp [Exchange.error?])

/-! ### With the answers given, the course leaves no choice -/

end Survey

namespace Cluster

variable {World : Type} {cluster : Cluster World}

/-- From this world to that one, these are the answers that the cluster has for these requests. -/
def Plays (cluster : Cluster World) : World → List Exchange → World → Prop
  | w, [], w' => w = w'
  | w, exchange :: exchanges, w' =>
    exchange = cluster.exchange exchange.call w ∧
      cluster.Plays (cluster.after exchange.call w) exchanges w'

theorem Plays.unique {w v v' : World} {exchanges : List Exchange}
    (hplays : cluster.Plays w exchanges v) (hplays' : cluster.Plays w exchanges v') : v = v' := by
  induction exchanges generalizing w with
  | nil => exact hplays.symm.trans hplays'
  | cons exchange exchanges ih => exact ih hplays.2 hplays'.2

theorem plays_append {w w' : World} {first rest : List Exchange} :
    cluster.Plays w (first ++ rest) w' ↔
      ∃ between, cluster.Plays w first between ∧ cluster.Plays between rest w' := by
  induction first generalizing w with
  | nil =>
      constructor
      · intro hrest
        exact ⟨w, rfl, hrest⟩
      · rintro ⟨between, rfl, hrest⟩
        exact hrest
  | cons exchange first ih =>
      simp only [List.cons_append, Plays, ih]
      constructor
      · rintro ⟨hanswer, between, hfirst, hrest⟩
        exact ⟨between, ⟨hanswer, hfirst⟩, hrest⟩
      · rintro ⟨between, ⟨hanswer, hfirst⟩, hrest⟩
        exact ⟨hanswer, between, hfirst, hrest⟩

theorem Plays.head_eq {w v v' : World} {exchange exchange' : Exchange}
    {rest rest' : List Exchange} (hplays : cluster.Plays w (exchange :: rest) v)
    (hplays' : cluster.Plays w (exchange' :: rest') v') (hcall : exchange.call = exchange'.call) :
    exchange = exchange' :=
  hplays.1.trans (hcall ▸ hplays'.1.symm)

end Cluster

namespace Survey

variable {World : Type} {cluster : Cluster World} {w v v' : World} {exchanges exchanges' :
  List Exchange} {stop stop' : Option Stop} {limit steps : Nat} {ignored : String → Bool}

theorem Chain.unique {listing : Listing} {steps : Nat} {paging : Paging}
    (hchain : Chain listing steps paging exchanges stop)
    (hchain' : Chain listing steps paging exchanges' stop')
    (hplays : cluster.Plays w exchanges v) (hplays' : cluster.Plays w exchanges' v') :
    exchanges = exchanges' ∧ stop = stop' := by
  induction hchain generalizing exchanges' stop' w with
  | unfinished =>
      cases hchain'
      exact ⟨rfl, rfl⟩
  | finished =>
      cases hchain'
      exact ⟨rfl, rfl⟩
  | last hlast hrest ih =>
      cases hchain' with
      | last hlast' hrest' =>
          obtain ⟨rfl, rfl⟩ := ih hrest' hplays.2 hplays'.2
          exact ⟨by rw [hplays.head_eq hplays' rfl], rfl⟩
      | next hnext' hne' hrest' =>
          cases hplays.head_eq hplays' rfl
          exact absurd (hlast _ hnext') hne'
      | failed => cases hplays.head_eq hplays' rfl
      | cutOff => cases hplays.head_eq hplays' rfl
  | next hnext hne hrest ih =>
      cases hchain' with
      | last hlast' hrest' =>
          cases hplays.head_eq hplays' rfl
          exact absurd (hlast' _ hnext) hne
      | next hnext' hne' hrest' =>
          cases hplays.head_eq hplays' rfl
          cases hnext.symm.trans hnext'
          obtain ⟨rfl, rfl⟩ := ih hrest' hplays.2 hplays'.2
          exact ⟨rfl, rfl⟩
      | failed => cases hplays.head_eq hplays' rfl
      | cutOff => cases hplays.head_eq hplays' rfl
  | failed =>
      cases hchain' with
      | failed =>
          cases hplays.head_eq hplays' rfl
          exact ⟨rfl, rfl⟩
      | _ => cases hplays.head_eq hplays' rfl
  | cutOff =>
      cases hchain' with
      | cutOff => exact ⟨rfl, rfl⟩
      | _ => cases hplays.head_eq hplays' rfl

theorem Chains.unique {resource : ResourceType} {scopes : List (Option String)}
    (hchains : Chains limit steps resource scopes exchanges stop)
    (hchains' : Chains limit steps resource scopes exchanges' stop')
    (hplays : cluster.Plays w exchanges v) (hplays' : cluster.Plays w exchanges' v') :
    exchanges = exchanges' ∧ stop = stop' := by
  induction hchains generalizing exchanges' stop' w with
  | nil =>
      cases hchains'
      exact ⟨rfl, rfl⟩
  | stopped hfirst =>
      cases hchains' with
      | stopped hfirst' => exact hfirst.unique hfirst' hplays hplays'
      | cons hfirst' hrest' =>
          obtain ⟨between, hplays', -⟩ := Cluster.plays_append.mp hplays'
          cases (hfirst.unique hfirst' hplays hplays').2
  | cons hfirst hrest ih =>
      obtain ⟨between, hplays, hlater⟩ := Cluster.plays_append.mp hplays
      cases hchains' with
      | stopped hfirst' => cases (hfirst.unique hfirst' hplays hplays').2
      | cons hfirst' hrest' =>
          obtain ⟨between', hplays', hlater'⟩ := Cluster.plays_append.mp hplays'
          obtain ⟨rfl, -⟩ := hfirst.unique hfirst' hplays hplays'
          cases hplays.unique hplays'
          obtain ⟨rfl, rfl⟩ := ih hrest' hlater hlater'
          exact ⟨rfl, rfl⟩

theorem Resolved.unique {resource : ResourceType} {known known' known'' : Option (List Namespace)}
    {result result' : Except Stop (List (Option String))}
    (hasked : Resolved ignored resource known exchanges result known')
    (hasked' : Resolved ignored resource known exchanges' result' known'')
    (hplays : cluster.Plays w exchanges v) (hplays' : cluster.Plays w exchanges' v') :
    exchanges = exchanges' ∧ result = result' ∧ known' = known'' := by
  cases hasked with
  | clusterWide hscope =>
      cases hasked' with
      | clusterWide => exact ⟨rfl, rfl, rfl⟩
      | _ hscope' => exact absurd (hscope.symm.trans hscope') (by simp)
  | known hscope =>
      cases hasked' with
      | clusterWide hscope' => exact absurd (hscope.symm.trans hscope') (by simp)
      | known => exact ⟨rfl, rfl, rfl⟩
  | asked hscope =>
      cases hasked' with
      | clusterWide hscope' => exact absurd (hscope.symm.trans hscope') (by simp)
      | asked =>
          cases hplays.head_eq hplays' rfl
          exact ⟨rfl, rfl, rfl⟩
      | _ => cases hplays.head_eq hplays' rfl
  | failed hscope =>
      cases hasked' with
      | clusterWide hscope' => exact absurd (hscope.symm.trans hscope') (by simp)
      | failed =>
          cases hplays.head_eq hplays' rfl
          exact ⟨rfl, rfl, rfl⟩
      | _ => cases hplays.head_eq hplays' rfl
  | cutOff hscope =>
      cases hasked' with
      | clusterWide hscope' => exact absurd (hscope.symm.trans hscope') (by simp)
      | cutOff => exact ⟨rfl, rfl, rfl⟩
      | _ => cases hplays.head_eq hplays' rfl

theorem OfKind.unique {resource : ResourceType} {known known' known'' : Option (List Namespace)}
    (hkind : OfKind limit steps ignored resource known exchanges stop known')
    (hkind' : OfKind limit steps ignored resource known exchanges' stop' known'')
    (hplays : cluster.Plays w exchanges v) (hplays' : cluster.Plays w exchanges' v') :
    exchanges = exchanges' ∧ stop = stop' ∧ known' = known'' := by
  cases hkind with
  | unresolved hasked =>
      cases hkind' with
      | unresolved hasked' =>
          obtain ⟨rfl, hresult, rfl⟩ := hasked.unique hasked' hplays hplays'
          cases hresult
          exact ⟨rfl, rfl, rfl⟩
      | listed hasked' hlisted' =>
          obtain ⟨between, hplays', -⟩ := Cluster.plays_append.mp hplays'
          cases (hasked.unique hasked' hplays hplays').2.1
  | listed hasked hlisted =>
      obtain ⟨between, hplays, hlater⟩ := Cluster.plays_append.mp hplays
      cases hkind' with
      | unresolved hasked' => cases (hasked.unique hasked' hplays hplays').2.1
      | listed hasked' hlisted' =>
          obtain ⟨between', hplays', hlater'⟩ := Cluster.plays_append.mp hplays'
          obtain ⟨rfl, hresult, rfl⟩ := hasked.unique hasked' hplays hplays'
          cases hresult
          cases hplays.unique hplays'
          obtain ⟨rfl, rfl⟩ := hlisted.unique hlisted' hlater hlater'
          exact ⟨rfl, rfl, rfl⟩

theorem OfKinds.unique {known : Option (List Namespace)} {resources : List ResourceType}
    (hkinds : OfKinds limit steps ignored known resources exchanges stop)
    (hkinds' : OfKinds limit steps ignored known resources exchanges' stop')
    (hplays : cluster.Plays w exchanges v) (hplays' : cluster.Plays w exchanges' v') :
    exchanges = exchanges' ∧ stop = stop' := by
  induction hkinds generalizing exchanges' stop' w with
  | nil =>
      cases hkinds'
      exact ⟨rfl, rfl⟩
  | stopped hfirst =>
      cases hkinds' with
      | stopped hfirst' =>
          obtain ⟨rfl, hstop, -⟩ := hfirst.unique hfirst' hplays hplays'
          exact ⟨rfl, hstop⟩
      | cons hfirst' hrest' =>
          obtain ⟨between, hplays', -⟩ := Cluster.plays_append.mp hplays'
          cases (hfirst.unique hfirst' hplays hplays').2.1
  | cons hfirst hrest ih =>
      obtain ⟨between, hplays, hlater⟩ := Cluster.plays_append.mp hplays
      cases hkinds' with
      | stopped hfirst' => cases (hfirst.unique hfirst' hplays hplays').2.1
      | cons hfirst' hrest' =>
          obtain ⟨between', hplays', hlater'⟩ := Cluster.plays_append.mp hplays'
          obtain ⟨rfl, -, rfl⟩ := hfirst.unique hfirst' hplays hplays'
          cases hplays.unique hplays'
          obtain ⟨rfl, rfl⟩ := ih hrest' hlater hlater'
          exact ⟨rfl, rfl⟩

/-- Two attempts that look at the same cluster and that find the same kinds supported make the same
requests, and both come through or stop for the same reason. -/
theorem Whole.unique {supports : String → String → Bool}
    (hwhole : Whole limit steps ignored supports exchanges stop)
    (hwhole' : Whole limit steps ignored supports exchanges' stop')
    (hplays : cluster.Plays w exchanges v) (hplays' : cluster.Plays w exchanges' v') :
    exchanges = exchanges' ∧ stop = stop' := by
  cases hwhole with
  | scanned hkinds =>
      cases hwhole' with
      | scanned hkinds' =>
          cases hplays.head_eq hplays' rfl
          obtain ⟨rfl, rfl⟩ := hkinds.unique hkinds' hplays.2 hplays'.2
          exact ⟨rfl, rfl⟩
      | _ => cases hplays.head_eq hplays' rfl
  | failed =>
      cases hwhole' with
      | failed =>
          cases hplays.head_eq hplays' rfl
          exact ⟨rfl, rfl⟩
      | _ => cases hplays.head_eq hplays' rfl
  | cutOff =>
      cases hwhole' with
      | cutOff => exact ⟨rfl, rfl⟩
      | _ => cases hplays.head_eq hplays' rfl

end Survey

end ComplianceScanner
