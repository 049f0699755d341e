import ComplianceScanner.Proofs.Attempts

/-!
# Outcomes never outlive their checks

A reload may fall between any two calls of an attempt, and the generation is looked at only once for
each attempt. Still no object is ever passed over on the strength of an outcome from before that
look: what is counted as known was judged under the engine of the start of the attempt, or under a
later one.
-/

namespace ComplianceScanner

variable {Outside : Type}

/-- An object that is taken up now counts as known. -/
def Moment.Hits (m : Moment (Interleaved Outside)) (view : ObjectView) : Prop :=
  ∃ observed tally, (PageScan.take Interleaved.asEngine view
    ⟨m.caches.cacheFor view.resource, observed, tally, m.world⟩).tally.hits = tally.hits + 1

theorem Moment.Hits.exists_entry {m : Moment (Interleaved Outside)} {view : ObjectView}
    (hhits : m.Hits view) :
    ∃ identity entry, view.identity? = some identity ∧
      (m.caches.cacheFor view.resource).get? identity = some entry ∧
        entry.resourceVersion = view.resourceVersion := by
  obtain ⟨observed, tally, hhits⟩ := hhits
  cases hidentity : view.identity? with
  | none =>
      rw [PageScan.take_of_identity?_eq_none _ _ hidentity] at hhits
      exact absurd hhits (Nat.ne_of_lt (Nat.lt_succ_self _))
  | some identity =>
      cases hdue : (m.caches.cacheFor view.resource).isDue identity view.resourceVersion with
      | false =>
          obtain ⟨entry, hentry, hversion⟩ := Cache.isDue_eq_false_iff.mp hdue
          exact ⟨identity, entry, rfl, hentry, hversion⟩
      | true =>
          rw [PageScan.take_of_isDue _ _ hidentity hdue, PageScan.validate] at hhits
          split at hhits <;> exact absurd hhits (Nat.ne_of_lt (Nat.lt_succ_self _))

theorem Moment.Grounded.exists_judgement {m : Moment (Interleaved Outside)} {base : Nat}
    (hgrounded : m.Grounded base) {view : ObjectView} {identity : Identity} {entry : CacheEntry}
    (hidentity : view.identity? = some identity)
    (hentry : (m.caches.cacheFor view.resource).get? identity = some entry) :
    ∃ judgement ∈ m.world.judgements, base ≤ judgement.epoch ∧
      judgement.Yields identity.subject entry := by
  rw [ObjectView.identity?_eq, Option.map_eq_some_iff] at hidentity
  obtain ⟨subject, hsubject, rfl⟩ := hidentity
  rw [CacheSet.get?_cacheFor hgrounded.keyed (ObjectView.key_of_subject? hsubject)] at hentry
  exact hgrounded.grounded subject entry hentry

namespace Scanning

variable {cluster : Cluster Outside} {s : Scanning (Interleaved Outside)}

/-- What an attempt counts as known was judged successfully with the same resource version, under an
engine not older than the one at the start of the attempt. So where no reload takes effect during an
attempt, all outcomes that are cached at its end were found with the checks enabled then. -/
theorem outcomes_current (hlived : s.Lived cluster) (steps : Nat) (due : List Gap)
    (hepoch : (s.attempt cluster steps due).2.world.epoch < UInt64.size) :
    (∀ done view, done ++ [.take view] <+: s.attemptDeeds cluster steps due →
      (s.momentAfter cluster due done).Hits view →
        ∃ identity entry, view.identity? = some identity ∧
          ((s.momentAfter cluster due done).caches.cacheFor view.resource).get? identity =
            some entry ∧
          ∃ judgement ∈ (s.momentAfter cluster due done).world.judgements,
            judgement.Yields identity.subject entry ∧
            judgement.view.resourceVersion = view.resourceVersion ∧
            s.world.engine.generation ≤ judgement.engine.generation) ∧
      ((s.attempt cluster steps due).2.world.epoch = s.world.epoch →
        ∀ identity entry,
          (s.attempt cluster steps due).2.scheduler.caches.Holds identity entry →
          ∃ judgement ∈ (s.attempt cluster steps due).2.world.judgements,
            judgement.Yields identity.subject entry ∧
            judgement.engine.enabled =
              (s.attempt cluster steps due).2.world.engine.enabled) := by
  obtain ⟨base, hstart⟩ := hlived.grounded
  constructor
  · intro done view htake hhits
    have hdone : done <+: s.attemptDeeds cluster steps due :=
      (List.prefix_append done _).trans htake
    have hne : done ≠ [] := by
      rintro rfl
      obtain ⟨later, hdeeds, -⟩ := deeds_eq_renew_cons (Interleaved.asCluster cluster)
        Interleaved.asEngine steps (s.beset due)
      rw [List.nil_append, attemptDeeds, hdeeds] at htake
      exact absurd (List.cons_prefix_cons.mp htake).1 (by simp)
    have hgrounded := hlived.grounded_momentAfter hepoch hdone hne
    obtain ⟨identity, entry, hidentity, hentry, hversion⟩ := hhits.exists_entry
    obtain ⟨judgement, hmem, hbase, hyields⟩ := hgrounded.exists_judgement hidentity hentry
    refine ⟨identity, entry, hidentity, hentry, judgement, hmem, hyields, ?_, ?_⟩
    · obtain ⟨-, outcome, -, rfl⟩ := hyields
      exact hversion
    · have hlast := Nat.lt_of_le_of_lt
        (Nat.le_trans (hgrounded.recorded.epoch_le judgement hmem)
          (hlived.epoch_momentAfter_le hdone)) hepoch
      have hgeneration : s.world.engine.generation = .ofNat s.world.epoch :=
        hstart.sound.generation
      rw [hgeneration, hgrounded.recorded.generation judgement hmem,
        UInt64.le_iff_toNat_le, UInt64.toNat_ofNat_of_lt' (Nat.lt_of_le_of_lt hbase hlast),
        UInt64.toNat_ofNat_of_lt' hlast]
      exact hbase
  · intro hsame identity entry hholds
    have hgrounded := hlived.grounded_attempt hepoch
    obtain ⟨judgement, hmem, hbase, hyields⟩ :=
      hgrounded.grounded identity.subject entry (hholds.entryFor? hgrounded.keyed)
    have hle := hgrounded.recorded.epoch_le judgement hmem
    have hnow : judgement.epoch = (s.attempt cluster steps due).2.world.epoch :=
      Nat.le_antisymm hle (hsame ▸ hbase)
    exact ⟨judgement, hmem, hyields, hgrounded.recorded.enabled judgement hmem hnow⟩

end Scanning

namespace Sample

/-- A reload falls right before the first judgement, so the second attempt judges anew. -/
def reloaded : Scanning (Interleaved ScriptedCluster) :=
  (scanning (serving ["apps"] [web "uid-1" "1"])).live ScriptedCluster.asCluster
    [.attempt 2 [{}, {}, {}, { reloads := [{ added := ["host-pid"] }] }], .attempt 2 []]

theorem outcomes_current_reloaded :
    reloaded.world.epoch = 1 ∧
      (reloaded.attempt ScriptedCluster.asCluster 2 []).1.isOk = true ∧
      (∃ done view, done ++ [.take view] <+: reloaded.attemptDeeds ScriptedCluster.asCluster 2 [] ∧
      (reloaded.momentAfter ScriptedCluster.asCluster [] done).Hits view ∧
      ∃ judgement ∈
        (reloaded.momentAfter ScriptedCluster.asCluster [] done).world.judgements,
        judgement.view.resourceVersion = view.resourceVersion ∧
        reloaded.world.engine.generation ≤ judgement.engine.generation) ∧
      ∀ identity entry,
        (reloaded.attempt ScriptedCluster.asCluster 2 []).2.scheduler.caches.Holds identity entry →
        ∃ judgement ∈ (reloaded.attempt ScriptedCluster.asCluster 2 []).2.world.judgements,
          judgement.Yields identity.subject entry ∧
          judgement.engine.enabled =
            (reloaded.attempt ScriptedCluster.asCluster 2 []).2.world.engine.enabled := by
  have hepoch : (reloaded.attempt ScriptedCluster.asCluster 2 []).2.world.epoch < UInt64.size := by
    decide +kernel
  have hsame : (reloaded.attempt ScriptedCluster.asCluster 2 []).2.world.epoch =
      reloaded.world.epoch := by
    decide +kernel
  obtain ⟨hhits, hcached⟩ := Scanning.outcomes_current (lived_live _ _) 2 [] hepoch
  refine ⟨by decide +kernel, by decide +kernel, ?_, hcached hsame⟩
  let deeds := reloaded.attemptDeeds ScriptedCluster.asCluster 2 []
  let m := reloaded.momentAfter ScriptedCluster.asCluster [] (deeds.take 5)
  have hhit : (deeds[5]?.bind Deed.view?).any (fun view =>
      ((m.page view).take Interleaved.asEngine view).tally.hits = 1) = true := by
    decide +kernel
  obtain ⟨view, hview, hhit⟩ := (Option.any_eq_true _ _).mp hhit
  have hprefix := Scanning.take_append_prefix hview
  have hhit : m.Hits view := ⟨∅, {}, of_decide_eq_true hhit⟩
  obtain ⟨identity, entry, -, -, judgement, hmem, -, hversion, hgeneration⟩ :=
    hhits _ view hprefix hhit
  exact ⟨_, view, hprefix, hhit, judgement, hmem, hversion, hgeneration⟩

end Sample

end ComplianceScanner
