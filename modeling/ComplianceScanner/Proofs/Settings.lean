import ComplianceScanner.Proofs.Deeds

/-!
# Settings of a scheduler

A scheduler is configured once. Whatever an attempt comes to, the configuration stays, and so does the
pattern of the namespaces that are ignored. Nor does an attempt by itself count as a cycle: that is
left to whoever makes it.
-/

namespace ComplianceScanner

variable {World : Type}

/-- The same configuration, and the same namespaces ignored. -/
structure Scheduler.SameSettings (scheduler scheduler' : Scheduler) : Prop where
  config : scheduler.config = scheduler'.config
  ignore : scheduler.namespaces.ignore = scheduler'.namespaces.ignore

namespace Scheduler.SameSettings

variable {a b c : Scheduler}

theorem refl (a : Scheduler) : a.SameSettings a := ⟨rfl, rfl⟩

theorem symm (h : a.SameSettings b) : b.SameSettings a := ⟨h.config.symm, h.ignore.symm⟩

theorem trans (h : a.SameSettings b) (h' : b.SameSettings c) : a.SameSettings c :=
  ⟨h.config.trans h'.config, h.ignore.trans h'.ignore⟩

theorem isIgnored_eq (h : a.SameSettings b) :
    a.namespaces.isIgnored = b.namespaces.isIgnored := by
  funext name
  rw [NamespaceResolver.isIgnored, NamespaceResolver.isIgnored, h.ignore]

end Scheduler.SameSettings

/-- What an attempt at a cycle leaves alone: the settings, and what is counted of whole cycles. -/
structure Scheduler.Untouched (scheduler scheduler' : Scheduler) : Prop where
  settings : scheduler.SameSettings scheduler'
  completed : scheduler.completed = scheduler'.completed
  cycleErrors : scheduler.metrics.cycleErrors = scheduler'.metrics.cycleErrors
  succeeded : scheduler.metrics.succeeded = scheduler'.metrics.succeeded
  failed : scheduler.metrics.failed = scheduler'.metrics.failed

namespace Scheduler.Untouched

variable {a b c : Scheduler}

theorem refl (a : Scheduler) : a.Untouched a := ⟨.refl a, rfl, rfl, rfl, rfl⟩

theorem trans (h : a.Untouched b) (h' : b.Untouched c) : a.Untouched c where
  settings := h.settings.trans h'.settings
  completed := h.completed.trans h'.completed
  cycleErrors := h.cycleErrors.trans h'.cycleErrors
  succeeded := h.succeeded.trans h'.succeeded
  failed := h.failed.trans h'.failed

/-- Caches, the snapshot of the namespaces and the gauges of a cycle may change besides. -/
theorem of_eq (h : a.Untouched b) (config : c.config = a.config)
    (ignore : c.namespaces.ignore = a.namespaces.ignore) (completed : c.completed = a.completed)
    (cycleErrors : c.metrics.cycleErrors = a.metrics.cycleErrors)
    (succeeded : c.metrics.succeeded = a.metrics.succeeded)
    (failed : c.metrics.failed = a.metrics.failed) : c.Untouched b :=
  trans ⟨⟨config, ignore⟩, completed, cycleErrors, succeeded, failed⟩ h

end Scheduler.Untouched

namespace Scanning

variable (cluster : Cluster World) (engine : Engine World)

theorem foldl_removeCached (caches : List (ResourceKey × Cache)) (metrics : Metrics) :
    let removed := caches.foldl (fun metrics (key, _) => metrics.removeCached key.display) metrics
    removed.cycleErrors = metrics.cycleErrors ∧ removed.succeeded = metrics.succeeded ∧
      removed.failed = metrics.failed := by
  induction caches generalizing metrics with
  | nil => exact ⟨rfl, rfl, rfl⟩
  | cons item caches ih => exact ih _

theorem dropStaleCaches_untouched (s : Scanning World) :
    (s.dropStaleCaches engine).scheduler.Untouched s.scheduler := by
  unfold dropStaleCaches
  simp only
  split
  · exact .refl _
  · obtain ⟨herrors, hsucceeded, hfailed⟩ :=
      foldl_removeCached s.scheduler.caches.toList s.scheduler.metrics
    exact ⟨⟨rfl, rfl⟩, rfl, herrors, hsucceeded, hfailed⟩

theorem scopes_untouched (resource : ResourceType) (s : Scanning World) :
    (s.scopes cluster resource).2.scheduler.Untouched s.scheduler := by
  have hresolve : (s.scheduler.namespaces.resolve cluster s.world).2.1.ignore =
      s.scheduler.namespaces.ignore := by
    unfold NamespaceResolver.resolve
    split
    · rfl
    · split <;> rfl
  unfold scopes
  split
  · split
    · rename_i hresolved
      rw [hresolved] at hresolve
      exact ⟨⟨rfl, hresolve⟩, rfl, rfl, rfl, rfl⟩
    · rename_i hresolved
      rw [hresolved] at hresolve
      exact ⟨⟨rfl, hresolve⟩, rfl, rfl, rfl, rfl⟩
  · exact .refl _

theorem scanKind_untouched (steps : Nat) (resource : ResourceType) (report : CycleReport)
    (s : Scanning World) :
    (s.scanKind cluster engine steps resource report).2.scheduler.Untouched s.scheduler := by
  have hscopes := s.scopes_untouched cluster resource
  unfold scanKind
  split
  · rename_i hlisted
    rw [hlisted] at hscopes
    exact hscopes
  · rename_i hlisted
    rw [hlisted] at hscopes
    split
    · exact hscopes.of_eq rfl rfl rfl rfl rfl rfl
    · exact hscopes.of_eq rfl rfl rfl rfl rfl rfl

theorem scanKinds_untouched (steps : Nat) (resources : List ResourceType)
    (report : CycleReport) (s : Scanning World) :
    (s.scanKinds cluster engine steps resources report).2.scheduler.Untouched s.scheduler := by
  induction resources generalizing report s with
  | nil => exact .refl _
  | cons resource rest ih =>
      have hfirst := s.scanKind_untouched cluster engine steps resource report
      unfold scanKinds
      split
      · rename_i hscanned
        rw [hscanned] at hfirst
        exact hfirst
      · rename_i hscanned
        rw [hscanned] at hfirst
        exact (ih _ _).trans hfirst

theorem foldl_dropKind_untouched (caches : List (ResourceKey × Cache))
    (start : CycleReport × Scanning World) :
    (caches.foldl (fun s (key, cache) => dropKind engine key cache s)
      start).2.scheduler.Untouched start.2.scheduler := by
  induction caches generalizing start with
  | nil => exact .refl _
  | cons item caches ih => exact (ih _).trans ⟨⟨rfl, rfl⟩, rfl, rfl, rfl, rfl⟩

theorem dropVanished_untouched (resources : List ResourceType) (report : CycleReport)
    (s : Scanning World) :
    (s.dropVanished engine resources report).2.scheduler.Untouched s.scheduler :=
  (foldl_dropKind_untouched engine _ _).trans ⟨⟨rfl, rfl⟩, rfl, rfl, rfl, rfl⟩

theorem runCycle_untouched (steps : Nat) (s : Scanning World) :
    (s.runCycle cluster engine steps).2.scheduler.Untouched s.scheduler := by
  have hdropped := s.dropStaleCaches_untouched engine
  unfold runCycle
  simp only
  split
  · exact hdropped
  · rename_i resources world _
    have hscanned := ((s.dropStaleCaches engine).begun world).scanKinds_untouched cluster engine
      steps resources { resourceTypes := resources.length }
    have hbegun : ((s.dropStaleCaches engine).begun world).scheduler.Untouched s.scheduler :=
      hdropped.of_eq rfl rfl rfl rfl rfl rfl
    split
    · rename_i hlast
      rw [begun, hlast] at hscanned
      exact hscanned.trans hbegun
    · rename_i report s' hlast
      rw [begun, hlast] at hscanned
      exact ((s'.dropVanished_untouched engine resources report).trans hscanned).trans hbegun

end Scanning

end ComplianceScanner
