import ComplianceScanner.Proofs.Journal
import ComplianceScanner.Proofs.Removals

/-!
# What is on record

The calls to the engine tell what became of the entries: series are removed for what was dropped and
for what the engine failed at, and whoever is cached was judged last with the outcome that is cached.
-/

namespace ComplianceScanner

variable {World : Type}

namespace Moment

variable (cluster : Cluster World) (engine : Engine World)

theorem apply_world_of_view?_eq_none (m : Moment World) {deed : Deed} (hview : deed.view? = none)
    (hask : ∀ call, deed ≠ .ask call) :
    (m.apply cluster engine deed).world =
      engine.deleteAll (labelsOf (m.dropped engine deed)) m.world := by
  cases deed with
  | renew =>
      by_cases hsame : engine.generation m.world = m.generation
      · simp only [apply, dropped, hsame, if_true]
        rfl
      · simp only [apply, dropped, hsame, if_false, labelsOfAll_eq]
  | ask call => exact absurd rfl (hask call)
  | adopt resource => rfl
  | take view => cases hview
  | finish resource observed => rfl
  | retire live => exact congrArg (engine.deleteAll · m.world) (labelsOfAll_eq _)

/-- What is not about one object asks the engine to remove the series of what is dropped. -/
theorem calls_apply_of_view?_eq_none (m : Moment (Journaled World)) {deed : Deed}
    (hview : deed.view? = none) :
    (m.apply cluster.journaled engine.journaled deed).world.calls =
      m.world.calls ++ (labelsOf (m.dropped engine.journaled deed)).map .deleted := by
  by_cases hask : ∃ call, deed = .ask call
  · obtain ⟨call, rfl⟩ := hask
    have hworld := cluster.after_journaled call m.world
    exact (congrArg Journaled.calls hworld).trans (List.append_nil _).symm
  · have hworld := apply_world_of_view?_eq_none cluster.journaled engine.journaled m hview
      fun call heq => hask ⟨call, heq⟩
    rw [Engine.deleteAll_journaled] at hworld
    exact congrArg Journaled.calls hworld

/-- What becomes of the entry of one subject at a deed, and what the calls say of it. -/
inductive Fate (deed : Deed) (calls : List Engine.Call) (subject : Subject)
    (before after : Option CacheEntry) : Prop
  | kept (hcalls : Engine.lastJudgement? calls subject = none) (hentry : after = before)
  | dropped (hcalls : Engine.lastJudgement? calls subject = none) (hview : deed.view? = none)
      (hentry : after = none)
  | judged {view : ObjectView} {result : Except ScanError Outcome} (hdeed : deed = .take view)
      (hsubject : view.subject? = some subject)
      (hdue : ∀ entry, before = some entry → entry.resourceVersion ≠ view.resourceVersion)
      (hcalls : Engine.lastJudgement? calls subject = some (view, result))
      (hentry : after = result.toOption.map (.ofView view))

theorem Fate.of_judged {view : ObjectView} {subject : Subject}
    {result : Except ScanError Outcome} {calls : List Engine.Call}
    {before after : Subject → Option CacheEntry} (hsubject : view.subject? = some subject)
    (hdue : ∀ entry, before subject = some entry → entry.resourceVersion ≠ view.resourceVersion)
    (hcalls : ∀ other, Engine.lastJudgement? calls other =
      if view.subject? = some other then some (view, result) else none)
    (hafter : ∀ other, after other =
      if other = subject then result.toOption.map (.ofView view) else before other)
    (other : Subject) : Fate (.take view) calls other (before other) (after other) := by
  have hcalls := hcalls other
  by_cases heq : other = subject
  · subst heq
    rw [if_pos hsubject] at hcalls
    exact .judged rfl hsubject hdue hcalls ((hafter other).trans (if_pos rfl))
  · rw [if_neg fun hother => heq (Option.some.inj (hother.symm.trans hsubject))] at hcalls
    exact .kept hcalls ((hafter other).trans (if_neg heq))

/-- These calls account for what the deed dropped and judged, and for nothing else. -/
structure Accounts (engine : Engine World) (m m' : Moment (Journaled World)) (deed : Deed)
    (calls : List Engine.Call) : Prop where
  calls_eq : m'.world.calls = m.world.calls ++ calls
  deletions_perm : (Engine.deletions calls).Perm (labelsOf (m.dropped engine.journaled deed) ++
    (Engine.failures calls).map ObjectView.labels)
  fate : ∀ subject,
    Fate deed calls subject (m.caches.entryFor? subject) (m'.caches.entryFor? subject)

variable {m : Moment (Journaled World)}

theorem accounts_of_view?_eq_none (hkeyed : m.caches.Keyed) {deed : Deed}
    (hview : deed.view? = none) :
    ∃ calls, Accounts engine m (m.apply cluster.journaled engine.journaled deed) deed calls := by
  refine ⟨_, m.calls_apply_of_view?_eq_none cluster engine hview, ?_, fun subject => ?_⟩
  · simp
  · have hnone := Engine.lastJudgement?_map_deleted
      (labelsOf (m.dropped engine.journaled deed)) subject
    rcases entryFor?_apply_of_notMem cluster.journaled engine.journaled hkeyed
      (Deed.subjects_of_view?_eq_none hview ▸ List.not_mem_nil) with ⟨-, hgone⟩ | hsame
    · exact .dropped hnone hview hgone
    · exact .kept hnone hsame

theorem accounts_take (hkeyed : m.caches.Keyed) (view : ObjectView) :
    ∃ calls, Accounts engine m (m.apply cluster.journaled engine.journaled (.take view))
      (.take view) calls := by
  generalize hnext : m.apply cluster.journaled engine.journaled (.take view) = m'
  cases hnext ▸ take_change cluster.journaled engine.journaled hkeyed view with
  | idle hview hgeneration hworld hentry =>
      exact ⟨[], by rw [hworld, List.append_nil], List.Perm.refl _,
        fun subject => .kept rfl (hentry subject)⟩
  | dropped gone hview hgeneration hworld hentry hgone => cases hview
  | hit hsubject hheld hversion hgeneration hworld hentry =>
      exact ⟨[], by rw [hworld, List.append_nil], List.Perm.refl _,
        fun subject => .kept rfl (hentry subject)⟩
  | @stored _ _ judged outcome hsubject hdue hgeneration hworld hentry =>
      rw [Engine.validate_journaled] at hworld
      obtain ⟨hresult, hworld⟩ := Prod.mk.inj hworld
      refine ⟨[.validated view (.ok outcome)], ?_, List.Perm.refl _, ?_⟩
      · rw [← hworld, hresult]
      · exact Fate.of_judged hsubject hdue (Engine.lastJudgement?_validated view _) hentry
  | @failed _ _ judged error world hsubject hdue hgeneration hvalidate hworld hentry =>
      rw [Engine.validate_journaled] at hvalidate
      obtain ⟨hresult, hvalidate⟩ := Prod.mk.inj hvalidate
      let calls : List Engine.Call := [.validated view (.error error)]
      have hcalls : ∀ other, Engine.lastJudgement? (calls ++ [view.labels].map .deleted) other =
          if view.subject? = some other then some (view, .error error) else none := by
        intro other
        rw [Engine.lastJudgement?_append, Engine.lastJudgement?_map_deleted, Option.none_or]
        exact Engine.lastJudgement?_validated view _ other
      refine ⟨_, ?_, List.Perm.refl _, Fate.of_judged hsubject hdue hcalls hentry⟩
      rw [hworld, Engine.deleteMetrics_journaled, ← hvalidate, hresult]
      simp [calls]

theorem apply_accounts (hkeyed : m.caches.Keyed) (deed : Deed) :
    ∃ calls, Accounts engine m (m.apply cluster.journaled engine.journaled deed) deed calls := by
  cases hview : deed.view? with
  | none => exact accounts_of_view?_eq_none cluster engine hkeyed hview
  | some view =>
      obtain rfl := Deed.eq_take hview
      exact accounts_take cluster engine hkeyed view

/-- What becomes of an entry that is not dropped: it is that of the last judgement, and it is lost
only if its object is shown with another resource version. -/
structure Undropped (deeds : List Deed) (calls : List Engine.Call) (subject : Subject)
    (before after : Option CacheEntry) : Prop where
  unjudged : Engine.lastJudgement? calls subject = none → after = before
  judged : ∀ view result, Engine.lastJudgement? calls subject = some (view, result) →
    .take view ∈ deeds ∧ after = result.toOption.map (.ofView view)
  shown : ∀ entry, before = some entry → after ≠ some entry →
    ∃ view, .take view ∈ deeds ∧ view.subject? = some subject ∧
      entry.resourceVersion ≠ view.resourceVersion

namespace Undropped

variable {deeds deeds' : List Deed} {calls calls' : List Engine.Call} {subject : Subject}
  {before between after : Option CacheEntry}

theorem refl (subject : Subject) (before : Option CacheEntry) :
    Undropped [] [] subject before before where
  unjudged _ := rfl
  judged view result hlast := by simp [Engine.lastJudgement?] at hlast
  shown entry hbefore hafter := absurd hbefore hafter

theorem trans (h : Undropped deeds calls subject before between)
    (h' : Undropped deeds' calls' subject between after) :
    Undropped (deeds ++ deeds') (calls ++ calls') subject before after where
  unjudged hlast := by
    rw [Engine.lastJudgement?_append, Option.or_eq_none_iff] at hlast
    exact (h'.unjudged hlast.1).trans (h.unjudged hlast.2)
  judged view result hlast := by
    rw [Engine.lastJudgement?_append, Option.or_eq_some_iff] at hlast
    rcases hlast with hlater | ⟨hnone, hearlier⟩
    · obtain ⟨htake, hafter⟩ := h'.judged view result hlater
      exact ⟨List.mem_append_right _ htake, hafter⟩
    · obtain ⟨htake, hbetween⟩ := h.judged view result hearlier
      exact ⟨List.mem_append_left _ htake, (h'.unjudged hnone).trans hbetween⟩
  shown entry hbefore hafter := by
    by_cases hbetween : between = some entry
    · obtain ⟨view, htake, hview⟩ := h'.shown entry hbetween hafter
      exact ⟨view, List.mem_append_right _ htake, hview⟩
    · obtain ⟨view, htake, hview⟩ := h.shown entry hbefore hbetween
      exact ⟨view, List.mem_append_left _ htake, hview⟩

end Undropped

theorem Fate.undropped {deed : Deed} {calls : List Engine.Call} {subject : Subject}
    {before after : Option CacheEntry} (hfate : Fate deed calls subject before after)
    (hspared : deed.view? = none → after = before) :
    Undropped [deed] calls subject before after := by
  have hkept (hcalls : Engine.lastJudgement? calls subject = none) (hentry : after = before) :
      Undropped [deed] calls subject before after :=
    ⟨fun _ => hentry, by simp [hcalls], fun _ hbefore hne => absurd (hentry.trans hbefore) hne⟩
  cases hfate with
  | kept hcalls hentry => exact hkept hcalls hentry
  | dropped hcalls hview hentry => exact hkept hcalls (hspared hview)
  | @judged view result hdeed hsubject hdue hcalls hentry =>
      refine ⟨by simp [hcalls], fun view' result' hlast => ?_, fun entry hbefore _ => ?_⟩
      · obtain ⟨rfl, rfl⟩ := Prod.mk.inj (Option.some.inj (hcalls.symm.trans hlast))
        exact ⟨hdeed ▸ List.mem_singleton_self _, hentry⟩
      · exact ⟨view, hdeed ▸ List.mem_singleton_self _, hsubject, hdue entry hbefore⟩

/-! ### Runs of deeds -/

/-- These are the calls of these deeds, done one after the other. -/
inductive Records (cluster : Cluster World) (engine : Engine World) :
    Moment (Journaled World) → List Deed → List Engine.Call → Prop
  | nil {m : Moment (Journaled World)} : Records cluster engine m [] []
  | cons {m : Moment (Journaled World)} {deed : Deed} {deeds : List Deed}
      {calls later : List Engine.Call}
      (hfirst : Accounts engine m (m.apply cluster.journaled engine.journaled deed) deed calls)
      (hrest : Records cluster engine (m.apply cluster.journaled engine.journaled deed) deeds later) :
      Records cluster engine m (deed :: deeds) (calls ++ later)

theorem exists_records (hkeyed : m.caches.Keyed) (deeds : List Deed) :
    ∃ calls, Records cluster engine m deeds calls := by
  induction deeds generalizing m with
  | nil => exact ⟨[], .nil⟩
  | cons deed deeds ih =>
      obtain ⟨calls, hfirst⟩ := apply_accounts cluster engine hkeyed deed
      obtain ⟨later, hrest⟩ := ih (apply_keyed cluster.journaled engine.journaled hkeyed deed)
      exact ⟨calls ++ later, .cons hfirst hrest⟩

namespace Records

variable {cluster engine} {deeds : List Deed} {calls : List Engine.Call}

theorem calls_eq (hrecords : Records cluster engine m deeds calls) :
    (m.applyAll cluster.journaled engine.journaled deeds).world.calls = m.world.calls ++ calls := by
  induction hrecords with
  | nil => exact (List.append_nil _).symm
  | cons hfirst hrest ih => rw [applyAll_cons, ih, hfirst.calls_eq, List.append_assoc]

theorem deletions_perm (hrecords : Records cluster engine m deeds calls) :
    (Engine.deletions calls).Perm
      (labelsOf (m.droppedAll cluster.journaled engine.journaled deeds) ++
        (Engine.failures calls).map ObjectView.labels) := by
  induction hrecords with
  | nil => exact List.Perm.refl _
  | cons hfirst hrest ih =>
      rw [droppedAll, labelsOf, List.map_append, Engine.deletions_append, Engine.failures_append,
        List.map_append]
      refine (hfirst.deletions_perm.append ih).trans ?_
      rw [List.append_assoc, List.append_assoc]
      exact (List.perm_append_comm_assoc _ _ _).append_left _

/-- An object that is not shown is not judged. -/
theorem lastJudgement?_eq_none (hrecords : Records cluster engine m deeds calls)
    {subject : Subject} (hsubject : subject ∉ Deed.subjects deeds) :
    Engine.lastJudgement? calls subject = none := by
  induction hrecords with
  | nil => rfl
  | @cons m deed deeds calls later hfirst hrest ih =>
      rw [← List.singleton_append, Deed.subjects_append, List.mem_append, not_or] at hsubject
      rw [Engine.lastJudgement?_append, ih hsubject.2, Option.none_or]
      cases hfirst.fate subject with
      | kept hcalls hentry => exact hcalls
      | dropped hcalls hview hentry => exact hcalls
      | judged hdeed hshown hdue hcalls hentry =>
          exact absurd (Deed.mem_subjects.mpr ⟨_, hdeed ▸ List.mem_singleton_self _, hshown⟩)
            hsubject.1

theorem of_spares (hrecords : Records cluster engine m deeds calls) (hkeyed : m.caches.Keyed)
    {subjects : List Subject} (hspares : ∀ deed ∈ deeds, deed.Spares subjects) {subject : Subject}
    (hsubject : subject ∈ subjects) :
    Undropped deeds calls subject (m.caches.entryFor? subject)
      ((m.applyAll cluster.journaled engine.journaled deeds).caches.entryFor? subject) := by
  induction hrecords with
  | nil => exact .refl subject _
  | @cons m deed deeds calls later hfirst hrest ih =>
      have hstep := (hfirst.fate subject).undropped fun hview =>
        entryFor?_apply_of_spares cluster.journaled engine.journaled hkeyed hview
          (hspares deed List.mem_cons_self) hsubject
      exact hstep.trans (ih (apply_keyed cluster.journaled engine.journaled hkeyed deed)
        fun later hlater => hspares later (List.mem_cons_of_mem _ hlater))

end Records

/-- Every entry comes from the last judgement on record. -/
def Proven (m : Moment (Journaled World)) : Prop :=
  ∀ subject entry, m.caches.entryFor? subject = some entry → ∃ view outcome,
    Engine.lastJudgement? m.world.calls subject = some (view, .ok outcome) ∧
      entry = .ofView view outcome

theorem Proven.apply (hproven : m.Proven) (hkeyed : m.caches.Keyed) (deed : Deed) :
    (m.apply cluster.journaled engine.journaled deed).Proven := by
  obtain ⟨calls, haccounts⟩ := apply_accounts cluster engine hkeyed deed
  intro subject entry hentry
  rw [haccounts.calls_eq, Engine.lastJudgement?_append]
  cases haccounts.fate subject with
  | kept hcalls hsame =>
      rw [hcalls, Option.none_or]
      exact hproven subject entry (hsame.symm.trans hentry)
  | dropped hcalls hview hgone => exact absurd (hentry.symm.trans hgone) (Option.some_ne_none _)
  | @judged view result hdeed hsubject hdue hcalls hafter =>
      rw [hentry] at hafter
      cases result with
      | error error => cases hafter
      | ok outcome => exact ⟨view, outcome, by rw [hcalls, Option.some_or], Option.some.inj hafter⟩

theorem Proven.applyAll (hproven : m.Proven) (hkeyed : m.caches.Keyed) (deeds : List Deed) :
    (m.applyAll cluster.journaled engine.journaled deeds).Proven := by
  induction deeds generalizing m with
  | nil => exact hproven
  | cons deed deeds ih =>
      exact ih (hproven.apply cluster engine hkeyed deed)
        (apply_keyed cluster.journaled engine.journaled hkeyed deed)

end Moment

end ComplianceScanner
