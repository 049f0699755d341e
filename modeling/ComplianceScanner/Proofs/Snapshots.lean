import ComplianceScanner.Proofs.Survey
import ComplianceScanner.Simulation.ScriptedCluster
import Mathlib.Data.List.Basic

/-!
# Snapshots of the namespaces

A resolver asks the cluster once, and answers from what it was told until it is reset. What it answers
is read off here from the events before: the latest listing still stands if no reset has come after it,
and while one stands the cluster is not asked. A request that fails leaves nothing standing, so the
next one asks again.
-/

namespace ComplianceScanner

namespace NamespaceResolver

/-- Whether a pattern leaves the namespaces of this name out. -/
def ignores (pattern : Option String) (name : String) : Bool :=
  (pattern.filter (· ≠ "")).any fun text => (Pattern.compile? text).any (·.isMatch name)

theorem isIgnored_of_ofPattern {pattern : Option String} {resolver : NamespaceResolver}
    (hpattern : ofPattern pattern = .ok resolver) : resolver.isIgnored = ignores pattern := by
  funext name
  unfold ofPattern at hpattern
  unfold ignores
  cases htext : pattern.filter (· ≠ "") with
  | none =>
      rw [htext] at hpattern
      cases hpattern
      rfl
  | some text =>
      rw [htext] at hpattern
      cases hexpr : Pattern.compile? text with
      | none => simp [hexpr] at hpattern
      | some expr =>
          simp only [hexpr, Except.ok.injEq] at hpattern
          subst hpattern
          simp [isIgnored, hexpr]

theorem snapshot_of_ofPattern {pattern : Option String} {resolver : NamespaceResolver}
    (hpattern : ofPattern pattern = .ok resolver) : resolver.snapshot = none := by
  unfold ofPattern at hpattern
  split at hpattern
  · cases hpattern
    rfl
  · split at hpattern
    · cases hpattern
      rfl
    · cases hpattern

/-! ### What is asked and what comes of it -/

inductive Request where
  | resolve
  | reset
  | lookUp (name : String)

/-- A request with the calls to the cluster that it took and the answer to it. -/
inductive Event where
  | resolved (exchanges : List Exchange) (result : Except Stop (List Namespace))
  | reset
  | lookedUp (name : String) (uid : Option String)

namespace Event

def request : Event → Request
  | resolved _ _ => .resolve
  | reset => .reset
  | lookedUp name _ => .lookUp name

def exchanges : Event → List Exchange
  | resolved exchanges _ => exchanges
  | _ => []

/-- The namespaces that the cluster has listed on this occasion. -/
def listed? : Event → Option (List Namespace)
  | resolved [.namespaces (.value listed)] _ => some listed
  | _ => none

end Event

/-- The latest listing is this one, and there has been no reset since. -/
def Stands (listed : List Namespace) (past : List Event) : Prop :=
  ∃ before event since, past = before ++ event :: since ∧ event.listed? = some listed ∧
    ∀ later ∈ since, later ≠ .reset ∧ later.listed? = none

theorem not_stands_nil (listed : List Namespace) : ¬ Stands listed [] := by
  rintro ⟨before, event, since, hnil, -⟩
  simp at hnil

/-- An event of some events and one more is the one more, or comes before it. -/
theorem cases_concat_eq {past before since : List Event} {event first : Event}
    (hsplit : past ++ [event] = before ++ first :: since) :
    past = before ∧ event = first ∨
      ∃ earlier, past = before ++ first :: earlier ∧ since = earlier ++ [event] := by
  obtain rfl | ⟨earlier, last, rfl⟩ := since.eq_nil_or_concat'
  · obtain ⟨hpast, hevent⟩ := List.append_inj' hsplit rfl
    exact .inl ⟨hpast, List.head_eq_of_cons_eq hevent⟩
  · rw [← List.cons_append, ← List.append_assoc] at hsplit
    obtain ⟨hpast, hevent⟩ := List.append_inj' hsplit rfl
    exact .inr ⟨earlier, hpast, by rw [hevent]⟩

theorem stands_concat_iff {listed : List Namespace} {past : List Event} {event : Event} :
    Stands listed (past ++ [event]) ↔ event.listed? = some listed ∨
      event ≠ .reset ∧ event.listed? = none ∧ Stands listed past := by
  constructor
  · rintro ⟨before, first, since, hpast, hlisted, hsince⟩
    obtain ⟨rfl, rfl⟩ | ⟨earlier, rfl, rfl⟩ := cases_concat_eq hpast
    · exact .inl hlisted
    · obtain ⟨hreset, hnone⟩ := hsince event (by simp)
      exact .inr ⟨hreset, hnone, before, first, earlier, rfl, hlisted,
        fun later hlater => hsince later (List.mem_append_left _ hlater)⟩
  · rintro (hlisted | ⟨hreset, hnone, before, first, since, rfl, hlisted, hsince⟩)
    · exact ⟨past, event, [], rfl, hlisted, List.forall_mem_nil _⟩
    · refine ⟨before, first, since ++ [event], by simp, hlisted, ?_⟩
      intro later hlater
      obtain hlater | hlater := List.mem_append.mp hlater
      · exact hsince later hlater
      · rw [List.mem_singleton.mp hlater]
        exact ⟨hreset, hnone⟩

/-- What a resolver makes of an answer of the cluster. -/
def resultOf (ignored : String → Bool) : Answer (List Namespace) → Except Stop (List Namespace)
  | .value listed => .ok (listed.filter fun ns => !ignored ns.name)
  | .failed cause => .error (.failed (.namespaceList cause))
  | .cutOff => .error .cutOff

/-! ### What the answers should be -/

/-- The cluster is asked when no listing stands, and only then. -/
structure Resolves (ignored : String → Bool) (past : List Event) (exchanges : List Exchange)
    (result : Except Stop (List Namespace)) : Prop where
  asks : exchanges = [] ↔ ∃ listed, Stands listed past
  once : exchanges = [] ∨ ∃ answer, exchanges = [.namespaces answer]
  ok : ∀ namespaces, result = .ok namespaces →
    ∃ listed, Stands listed (past ++ [.resolved exchanges result]) ∧
      namespaces = listed.filter fun ns => !ignored ns.name
  error : ∀ stop, result = .error stop →
    (∀ listed, ¬ Stands listed (past ++ [.resolved exchanges result])) ∧
    ((∃ cause, exchanges = [.namespaces (.failed cause)] ∧
        stop = .failed (.namespaceList cause)) ∨
      exchanges = [.namespaces .cutOff] ∧ stop = .cutOff)

/-- The uid is that of the first namespace of the name in the listing that stands, if the name is not
ignored. -/
structure LooksUp (ignored : String → Bool) (past : List Event) (name : String)
    (uid : Option String) : Prop where
  known : ∀ listed, Stands listed past →
    uid = ((listed.filter fun ns => !ignored ns.name).find? (·.name = name)).map (·.uid)
  unknown : (∀ listed, ¬ Stands listed past) → uid = none
  kept : ∀ found, uid = some found → ignored name = false ∧
    ∃ listed, Stands listed past ∧ ∃ ns ∈ listed, ns.name = name ∧ ns.uid = found

def Event.Lawful (ignored : String → Bool) (past : List Event) : Event → Prop
  | resolved exchanges result => Resolves ignored past exchanges result
  | reset => True
  | lookedUp name uid => LooksUp ignored past name uid

/-! ### A resolver in use -/

structure InUse (World : Type) where
  resolver : NamespaceResolver
  world : World
  events : List Event := []

namespace InUse

variable {World : Type}

/-- Each request is put to the resolver itself, with a record of the calls that it makes. -/
def perform (cluster : Cluster World) (use : InUse World) : Request → InUse World
  | .resolve =>
    let (result, resolver, journal) :=
      use.resolver.resolve cluster.journaled { world := use.world }
    ⟨resolver, journal.world, use.events ++ [.resolved journal.exchanges result]⟩
  | .reset => { use with resolver := use.resolver.reset, events := use.events ++ [.reset] }
  | .lookUp name =>
    { use with events := use.events ++ [.lookedUp name (use.resolver.uid? name)] }

def performAll (cluster : Cluster World) (use : InUse World) (requests : List Request) :
    InUse World :=
  requests.foldl (perform cluster) use

/-- All events so far are lawful, and the resolver holds what it takes for the next one to be. -/
structure Sound (cluster : Cluster World) (ignored : String → Bool) (start : World)
    (use : InUse World) : Prop where
  isIgnored : use.resolver.isIgnored = ignored
  snapshot : ∀ kept, use.resolver.snapshot = some kept ↔
    ∃ listed, Stands listed use.events ∧ kept = listed.filter fun ns => !ignored ns.name
  plays : cluster.Plays start (use.events.flatMap Event.exchanges) use.world
  lawful : ∀ past event later, use.events = past ++ event :: later → event.Lawful ignored past

variable {cluster : Cluster World} {ignored : String → Bool} {start : World} {use : InUse World}

theorem perform_resolve_of_some {kept : List Namespace}
    (hkept : use.resolver.snapshot = some kept) :
    use.perform cluster .resolve =
      { use with events := use.events ++ [.resolved [] (.ok kept)] } := by
  simp [perform, resolve, hkept]

theorem perform_resolve_of_none (hnone : use.resolver.snapshot = none) :
    use.perform cluster .resolve =
      let answer := (cluster.namespaces use.world).1
      let result := resultOf use.resolver.isIgnored answer
      { resolver := { use.resolver with snapshot := result.toOption }
        world := (cluster.namespaces use.world).2
        events := use.events ++ [.resolved [.namespaces answer] result] } := by
  -- On a failure the resolver is left as it is, which comes to no snapshot since there was none.
  have hresolver : { use.resolver with snapshot := none } = use.resolver := by rw [← hnone]
  simp only [perform, resolve, hnone, Cluster.namespaces_journaled]
  cases (cluster.namespaces use.world).1 with
  | value listed => rfl
  | failed cause => simp [resultOf, Except.toOption, hresolver]
  | cutOff => simp [resultOf, Except.toOption, hresolver]

theorem sound_start {pattern : Option String} {resolver : NamespaceResolver}
    (hpattern : ofPattern pattern = .ok resolver) (cluster : Cluster World) (world : World) :
    Sound cluster (ignores pattern) world { resolver, world } where
  isIgnored := isIgnored_of_ofPattern hpattern
  snapshot kept := by simp [snapshot_of_ofPattern hpattern, not_stands_nil]
  plays := rfl
  lawful past event later hevents := by simp at hevents

namespace Sound

theorem snapshot_eq_none_iff (hsound : Sound cluster ignored start use) :
    use.resolver.snapshot = none ↔ ∀ listed, ¬ Stands listed use.events := by
  rw [Option.eq_none_iff_forall_ne_some]
  simp only [ne_eq, hsound.snapshot, not_exists, not_and]
  constructor
  · intro hnone listed hstands
    exact hnone _ listed hstands rfl
  · intro hnone kept listed hstands
    exact absurd hstands (hnone listed)

theorem lawful_concat (hsound : Sound cluster ignored start use) {event : Event}
    (hevent : event.Lawful ignored use.events) :
    ∀ past event' later, use.events ++ [event] = past ++ event' :: later →
      event'.Lawful ignored past := by
  intro past event' later hsplit
  obtain ⟨rfl, rfl⟩ | ⟨earlier, hearlier, -⟩ := cases_concat_eq hsplit
  · exact hevent
  · exact hsound.lawful past event' earlier hearlier

theorem lookUp (hsound : Sound cluster ignored start use) (name : String) :
    LooksUp ignored use.events name (use.resolver.uid? name) where
  known listed hstands := by
    rw [uid?, (hsound.snapshot _).mpr ⟨listed, hstands, rfl⟩]
    rfl
  unknown hnone := by
    rw [uid?, hsound.snapshot_eq_none_iff.mpr hnone]
    rfl
  kept found hfound := by
    obtain ⟨ns, hns, rfl⟩ := Option.map_eq_some_iff.mp hfound
    obtain ⟨kept, hkept, hfirst⟩ := Option.bind_eq_some_iff.mp hns
    obtain ⟨listed, hstands, rfl⟩ := (hsound.snapshot kept).mp hkept
    have hname : ns.name = name := by simpa using List.find?_some hfirst
    obtain ⟨hlisted, hignored⟩ := List.mem_filter.mp (List.mem_of_find?_eq_some hfirst)
    refine ⟨?_, listed, hstands, ns, hlisted, hname, rfl⟩
    rw [← hname]
    simpa using hignored

/-- What stands is not asked for again. -/
theorem resolve_of_stands (hsound : Sound cluster ignored start use)
    {kept : List Namespace} (hkept : use.resolver.snapshot = some kept) :
    Resolves ignored use.events [] (.ok kept) where
  asks := by
    obtain ⟨listed, hstands, -⟩ := (hsound.snapshot kept).mp hkept
    exact iff_of_true rfl ⟨listed, hstands⟩
  once := .inl rfl
  ok namespaces hok := by
    cases hok
    obtain ⟨listed, hstands, hfilter⟩ := (hsound.snapshot kept).mp hkept
    exact ⟨listed, stands_concat_iff.mpr (.inr ⟨by simp, rfl, hstands⟩), hfilter⟩
  error stop herror := by cases herror

end Sound

theorem stands_concat_resolved_iff {past : List Event} (hnone : ∀ listed, ¬ Stands listed past)
    {answer : Answer (List Namespace)} {result : Except Stop (List Namespace)}
    {listed : List Namespace} :
    Stands listed (past ++ [.resolved [.namespaces answer] result]) ↔ answer = .value listed := by
  rw [stands_concat_iff]
  cases answer with
  | value other => simp [Event.listed?, hnone]
  | failed cause => simp [Event.listed?, hnone]
  | cutOff => simp [Event.listed?, hnone]

/-- What does not stand is asked for, and the answer decides. -/
theorem resolves_resultOf {past : List Event} (hnone : ∀ listed, ¬ Stands listed past)
    (ignored : String → Bool) (answer : Answer (List Namespace)) :
    Resolves ignored past [.namespaces answer] (resultOf ignored answer) where
  asks := by simp [hnone]
  once := .inr ⟨answer, rfl⟩
  ok namespaces hok := by
    cases answer with
    | value listed =>
        cases hok
        exact ⟨listed, (stands_concat_resolved_iff hnone).mpr rfl, rfl⟩
    | failed cause => cases hok
    | cutOff => cases hok
  error stop herror := by
    simp only [stands_concat_resolved_iff hnone]
    cases answer with
    | value listed => cases herror
    | failed cause =>
        cases herror
        exact ⟨by simp, .inl ⟨cause, rfl, rfl⟩⟩
    | cutOff =>
        cases herror
        exact ⟨by simp, .inr ⟨rfl, rfl⟩⟩

namespace Sound

/-- Each request finds the resolver sound and leaves it so. -/
theorem perform (hsound : Sound cluster ignored start use) (request : Request) :
    Sound cluster ignored start (use.perform cluster request) := by
  cases request with
  | resolve =>
      cases hsnapshot : use.resolver.snapshot with
      | some kept =>
          rw [perform_resolve_of_some hsnapshot]
          exact {
            isIgnored := hsound.isIgnored
            snapshot := fun namespaces => by
              simp only [stands_concat_iff, Event.listed?, hsound.snapshot]
              simp
            plays := by simpa [Event.exchanges] using hsound.plays
            lawful := hsound.lawful_concat (hsound.resolve_of_stands hsnapshot) }
      | none =>
          have hnone := hsound.snapshot_eq_none_iff.mp hsnapshot
          rw [perform_resolve_of_none hsnapshot, hsound.isIgnored]
          exact {
            isIgnored := hsound.isIgnored
            snapshot := fun namespaces => by
              simp only [stands_concat_resolved_iff hnone]
              cases (cluster.namespaces use.world).1 <;>
                simp [resultOf, Except.toOption, eq_comm]
            plays := by
              simp only [List.flatMap_append]
              exact Cluster.plays_append.mpr ⟨use.world, hsound.plays, rfl, rfl⟩
            lawful := hsound.lawful_concat (resolves_resultOf hnone ignored _) }
  | reset =>
      exact {
        isIgnored := hsound.isIgnored
        snapshot := fun namespaces => by
          simp [InUse.perform, NamespaceResolver.reset, stands_concat_iff, Event.listed?]
        plays := by simpa [InUse.perform, Event.exchanges] using hsound.plays
        lawful := hsound.lawful_concat trivial }
  | lookUp name =>
      exact {
        isIgnored := hsound.isIgnored
        snapshot := fun namespaces => by
          simp [InUse.perform, stands_concat_iff, Event.listed?, hsound.snapshot]
        plays := by simpa [InUse.perform, Event.exchanges] using hsound.plays
        lawful := hsound.lawful_concat (hsound.lookUp name) }

theorem performAll (hsound : Sound cluster ignored start use) (requests : List Request) :
    Sound cluster ignored start (use.performAll cluster requests) := by
  induction requests generalizing use with
  | nil => exact hsound
  | cons request requests ih => exact ih (hsound.perform request)

end Sound

theorem requests_performAll (cluster : Cluster World) (use : InUse World)
    (requests : List Request) :
    (use.performAll cluster requests).events.map Event.request =
      use.events.map Event.request ++ requests := by
  induction requests generalizing use with
  | nil => exact (List.append_nil _).symm
  | cons request requests ih =>
      have hstep : (use.perform cluster request).events.map Event.request =
          use.events.map Event.request ++ [request] := by
        cases request <;> simp [perform, Event.request]
      change ((use.perform cluster request).performAll cluster requests).events.map _ = _
      rw [ih, hstep, List.append_assoc, List.singleton_append]

end InUse

/-- Whatever a resolver is asked, in whatever order, and whatever the cluster answers: each answer of
the resolver is the one that the events before call for, and the cluster has been asked for that and
for nothing else. Without a pattern, or with an empty one, no namespace is left out. -/
theorem requests_answered {World : Type} {pattern : Option String} {resolver : NamespaceResolver}
    (hpattern : ofPattern pattern = .ok resolver) (cluster : Cluster World) (world : World)
    (requests : List Request) :
    let used := InUse.performAll cluster { resolver, world } requests
    used.events.map Event.request = requests ∧
    cluster.Plays world (used.events.flatMap Event.exchanges) used.world ∧
    (∀ past event later, used.events = past ++ event :: later →
      event.Lawful (ignores pattern) past) ∧
    (pattern = none ∨ pattern = some "" → ∀ name, ignores pattern name = false) := by
  intro used
  have hsound := (InUse.sound_start hpattern cluster world).performAll requests
  refine ⟨InUse.requests_performAll cluster _ requests, hsound.plays, hsound.lawful, ?_⟩
  rintro (rfl | rfl) name
  · rfl
  · rfl

end NamespaceResolver

namespace Sample

open NamespaceResolver

/-- The first request for the namespaces fails. What the second one brings stands until the reset,
without the namespace that the pattern leaves out. -/
theorem requests_answered_faltering :
    let listed : List Namespace :=
      [⟨"default", "ns-1"⟩, ⟨"test-ignore", "ns-2"⟩, ⟨"kube-system", "ns-3"⟩]
    let kept : List Namespace := [⟨"default", "ns-1"⟩, ⟨"kube-system", "ns-3"⟩]
    let failure := ScriptedCluster.injectedFailure 500
    let cluster := ({ namespaces := listed } : ScriptedCluster).plan .namespaces [some 500]
    let events : List NamespaceResolver.Event :=
      [.resolved [.namespaces (.failed failure)] (.error (.failed (.namespaceList failure))),
        .lookedUp "default" none, .resolved [.namespaces (.value listed)] (.ok kept),
        .resolved [] (.ok kept), .lookedUp "default" (some "ns-1"), .lookedUp "test-ignore" none,
        .reset, .lookedUp "default" none]
    ∃ resolver, ofPattern (some "ignore") = .ok resolver ∧
      (InUse.performAll ScriptedCluster.asCluster { resolver, world := cluster }
        (events.map (·.request))).events = events ∧
      (∀ listed, ¬ Stands listed (events.take 1)) ∧ (∃ listed, Stands listed (events.take 3)) ∧
      LooksUp (ignores (some "ignore")) (events.take 5) "test-ignore" none ∧
      LooksUp (ignores (some "ignore")) (events.take 7) "default" none := by
  intro listed kept failure cluster events
  have hpattern : ofPattern (some "ignore") = .ok { ignore := Pattern.compile? "ignore" } := rfl
  have hevents : (InUse.performAll ScriptedCluster.asCluster
      { resolver := { ignore := Pattern.compile? "ignore" }, world := cluster }
      (events.map (·.request))).events = events := rfl
  obtain ⟨-, -, hlawful, -⟩ := requests_answered hpattern ScriptedCluster.asCluster cluster
    (events.map (·.request))
  rw [hevents] at hlawful
  have hfailed := hlawful [] _ (events.drop 1) rfl
  have hkept := hlawful (events.take 3) _ (events.drop 4) rfl
  exact ⟨_, hpattern, hevents, (hfailed.error _ rfl).1, hkept.asks.mp rfl,
    hlawful (events.take 5) _ (events.drop 6) rfl, hlawful (events.take 7) _ [] rfl⟩

end Sample

end ComplianceScanner
