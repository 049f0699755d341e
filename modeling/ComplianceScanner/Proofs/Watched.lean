import ComplianceScanner.Engine.Watcher
import ComplianceScanner.Proofs.Series

/-!
# What a watched engine ends up with

The engine should be at the last selection that could be used, of the one it was built with and
those found in its file since. It is, with one exception: the text that the watcher finds first is
remembered without being used. A selection written after the engine was built and before the watcher
started is taken for the one in use, and stays out until the file says something else.
-/

namespace ComplianceScanner

/-- The checks that a text selects, if it can be parsed and resolved. -/
def Selection.checks? (text : String) : Option (List Check) :=
  (parse text).toOption.bind fun selection => selection.resolve.toOption

namespace SelectionFile

def checks? (file : SelectionFile) : Option (List Check) :=
  file.text.toOption.bind Selection.checks?

/-- The last selection among the reads that can be used, or else the initial one. -/
def latest (initial : List Check) (reads : List SelectionFile) : List Check :=
  (reads.filterMap checks?).getLast?.getD initial

/-- Nothing to read in it, or only the text from before. -/
def isStale (last : Option String) (file : SelectionFile) : Bool :=
  file.text.toOption.all (last = some ·)

/-- The reads from the first on that brings a new text. -/
def unseen (last : Option String) (reads : List SelectionFile) : List SelectionFile :=
  reads.dropWhile (isStale last)

@[simp]
theorem latest_nil (initial : List Check) : latest initial [] = initial := rfl

theorem latest_cons (initial : List Check) (file : SelectionFile) (reads : List SelectionFile) :
    latest initial (file :: reads) = latest (file.checks?.getD initial) reads := by
  unfold latest
  cases hchecks : file.checks? with
  | none => simp [hchecks]
  | some checks => simp [hchecks, List.getLast?_cons]

theorem latest_of_unusable {initial : List Check} {reads : List SelectionFile}
    (hreads : ∀ file ∈ reads, file.checks? = none) : latest initial reads = initial := by
  have hnone : reads.filterMap checks? = [] := List.filterMap_eq_nil_iff.mpr hreads
  simp [latest, hnone]

/-- One usable read settles what the last one selects, whatever came first. -/
theorem latest_eq_latest {reads : List SelectionFile}
    (hreads : ¬ ∀ file ∈ reads, file.checks? = none) (initial other : List Check) :
    latest initial reads = latest other reads := by
  have hne : reads.filterMap checks? ≠ [] := by
    intro hnil
    exact hreads (List.filterMap_eq_nil_iff.mp hnil)
  rw [latest, latest, List.getLast?_eq_some_getLast hne, Option.getD_some, Option.getD_some]

theorem getD_checks?_of_isStale {last : Option String} {file : SelectionFile} {initial : List Check}
    (hlast : (last.bind Selection.checks?).getD initial = initial)
    (hstale : file.isStale last = true) : file.checks?.getD initial = initial := by
  unfold isStale at hstale
  unfold checks?
  cases htext : file.text.toOption with
  | none => rfl
  | some text =>
      have heq : last = some text := by simpa [htext] using hstale
      simpa [heq] using hlast

/-- What was remembered need not be looked at again, if the engine is at it. -/
theorem latest_unseen {last : Option String} {initial : List Check}
    (hlast : (last.bind Selection.checks?).getD initial = initial) (reads : List SelectionFile) :
    latest initial (unseen last reads) = latest initial reads := by
  induction reads with
  | nil => rfl
  | cons file reads ih =>
      by_cases hstale : file.isStale last = true
      · have hdrop : unseen last (file :: reads) = unseen last reads :=
          List.dropWhile_cons_of_pos hstale
        rw [hdrop, ih, latest_cons, getD_checks?_of_isStale hlast hstale]
      · rw [unseen, List.dropWhile_cons_of_neg hstale]

end SelectionFile

namespace Watcher

open SelectionFile

def polls (watcher : Watcher) (reads : List SelectionFile) : Watcher := reads.foldl poll watcher

/-- How often a poll changes which checks are enabled. -/
def turns (watcher : Watcher) : List SelectionFile → Nat
  | [] => 0
  | file :: reads =>
    (if (watcher.poll file).engine.enabled = watcher.engine.enabled then 0 else 1) +
      turns (watcher.poll file) reads

theorem enabled_reloaded (engine : CheckEngine) (text : String) :
    (reloaded engine text).enabled = (Selection.checks? text).getD engine.enabled := by
  unfold reloaded Selection.checks?
  cases Selection.parse text with
  | error => rfl
  | ok selection =>
      cases hresolve : selection.resolve with
      | error => simp [CheckEngine.reload, hresolve, Except.toOption]
      | ok enabled =>
          by_cases hsame : enabled = engine.enabled
          · simp [CheckEngine.reload, hresolve, hsame, Except.toOption]
          · simp [CheckEngine.reload, hresolve, hsame, Except.toOption]

theorem generation_reloaded (engine : CheckEngine) (text : String) :
    (reloaded engine text).generation = engine.generation +
      if (reloaded engine text).enabled = engine.enabled then 0 else 1 := by
  unfold reloaded
  cases Selection.parse text with
  | error => rw [if_pos rfl, UInt64.add_zero]
  | ok selection => exact engine.generation_reload selection

variable {watcher : Watcher} {file : SelectionFile}

theorem poll_of_isStale (hstale : file.isStale watcher.last = true) :
    watcher.poll file = watcher := by
  unfold isStale at hstale
  unfold poll see
  cases htext : file.text with
  | error => simp
  | ok text =>
      have hlast : watcher.last = some text := by simpa [htext, Except.toOption] using hstale
      simp [hlast]

theorem poll_of_not_isStale (hgoing : watcher.stopped = false)
    (hstale : file.isStale watcher.last ≠ true) :
    ∃ text, file.text = .ok text ∧
      watcher.poll file =
        { watcher with engine := reloaded watcher.engine text, last := some text } := by
  unfold isStale at hstale
  unfold poll see
  cases htext : file.text with
  | error => simp [htext, Except.toOption] at hstale
  | ok text =>
      have hlast : watcher.last ≠ some text := by simpa [htext, Except.toOption] using hstale
      exact ⟨text, rfl, by simp [hgoing, hlast]⟩

/-- Each poll leaves the watcher with the last usable one of the texts it has not seen before. -/
theorem enabled_polls (hgoing : watcher.stopped = false) (reads : List SelectionFile) :
    (watcher.polls reads).engine.enabled =
      latest watcher.engine.enabled (unseen watcher.last reads) := by
  induction reads generalizing watcher with
  | nil => rfl
  | cons file reads ih =>
      by_cases hstale : file.isStale watcher.last = true
      · have hpolls : watcher.polls (file :: reads) = watcher.polls reads :=
          congrArg (·.polls reads) (poll_of_isStale hstale)
        have hdrop : unseen watcher.last (file :: reads) = unseen watcher.last reads :=
          List.dropWhile_cons_of_pos hstale
        rw [hpolls, hdrop]
        exact ih hgoing
      · obtain ⟨text, htext, hpoll⟩ := poll_of_not_isStale hgoing hstale
        have hchecks : file.checks? = Selection.checks? text := by
          simp [checks?, htext, Except.toOption]
        -- The new text is the one in use from here on, so reading it again changes nothing.
        have hfresh : ((some text).bind Selection.checks?).getD
            (reloaded watcher.engine text).enabled = (reloaded watcher.engine text).enabled := by
          rw [enabled_reloaded]
          cases hsome : Selection.checks? text <;> simp [hsome]
        calc
          (watcher.polls (file :: reads)).engine.enabled =
              latest (watcher.poll file).engine.enabled (unseen (watcher.poll file).last reads) :=
            ih (by rw [hpoll]; exact hgoing)
          _ = latest (reloaded watcher.engine text).enabled reads := by
            rw [hpoll]
            exact latest_unseen hfresh reads
          _ = latest watcher.engine.enabled (file :: reads) := by
            rw [latest_cons, enabled_reloaded, hchecks]
          _ = latest watcher.engine.enabled (unseen watcher.last (file :: reads)) := by
            rw [unseen, List.dropWhile_cons_of_neg hstale]

theorem generation_poll (hgoing : watcher.stopped = false) (file : SelectionFile) :
    (watcher.poll file).engine.generation = watcher.engine.generation +
      if (watcher.poll file).engine.enabled = watcher.engine.enabled then 0 else 1 := by
  by_cases hstale : file.isStale watcher.last = true
  · simp [poll_of_isStale hstale]
  · obtain ⟨text, -, hpoll⟩ := poll_of_not_isStale hgoing hstale
    simp only [hpoll]
    exact generation_reloaded watcher.engine text

theorem stopped_poll (watcher : Watcher) (file : SelectionFile) :
    (watcher.poll file).stopped = watcher.stopped := by
  unfold poll see
  split <;> try rfl
  split <;> try rfl
  split <;> rfl

theorem generation_polls (hgoing : watcher.stopped = false) (reads : List SelectionFile) :
    (watcher.polls reads).engine.generation =
      watcher.engine.generation + (watcher.turns reads).toUInt64 := by
  induction reads generalizing watcher with
  | nil => simp [polls, turns]
  | cons file reads ih =>
      have hgoing' : (watcher.poll file).stopped = false := by rw [stopped_poll, hgoing]
      change ((watcher.poll file).polls reads).engine.generation = _
      rw [ih hgoing', generation_poll hgoing file, turns]
      split <;> simp [UInt64.ofNat_add, UInt64.add_assoc]

/-- A usable selection was there when the watcher started and was not the one in use, and no other
text in the file could be used since. -/
def Overlooked (enabled : List Check) (found : SelectionFile) (reads : List SelectionFile) : Prop :=
  ∃ checks, found.checks? = some checks ∧ checks ≠ enabled ∧
    ∀ file ∈ unseen found.text.toOption reads, file.checks? = none

theorem enabled_polls_start (engine : CheckEngine) (found : SelectionFile)
    (reads : List SelectionFile) :
    ((start engine found).polls reads).engine.enabled =
      latest engine.enabled (unseen found.text.toOption reads) :=
  enabled_polls rfl reads

theorem latest_of_not_overlooked {enabled : List Check} {found : SelectionFile}
    {reads : List SelectionFile} (hseen : ¬ Overlooked enabled found reads) :
    latest enabled (unseen found.text.toOption reads) = latest enabled (found :: reads) := by
  rw [latest_cons]
  have hlast : (found.text.toOption.bind Selection.checks?) = found.checks? := rfl
  by_cases hsame : found.checks?.getD enabled = enabled
  · rw [hsame]
    exact latest_unseen (by rw [hlast]; exact hsame) reads
  · obtain ⟨checks, hchecks⟩ : ∃ checks, found.checks? = some checks := by
      cases hnone : found.checks? with
      | none => simp [hnone] at hsame
      | some checks => exact ⟨checks, rfl⟩
    have hother : checks ≠ enabled := by simpa [hchecks] using hsame
    have husable : ¬ ∀ file ∈ unseen found.text.toOption reads, file.checks? = none := by
      intro hunusable
      exact hseen ⟨checks, hchecks, hother, hunusable⟩
    rw [hchecks, Option.getD_some, ← latest_unseen (by rw [hlast, hchecks]; rfl) reads]
    exact latest_eq_latest husable enabled checks

theorem latest_ne_of_overlooked {enabled : List Check} {found : SelectionFile}
    {reads : List SelectionFile} (hoverlooked : Overlooked enabled found reads) :
    latest enabled (unseen found.text.toOption reads) = enabled ∧
      latest enabled (found :: reads) ≠ enabled := by
  obtain ⟨checks, hchecks, hother, hunusable⟩ := hoverlooked
  refine ⟨latest_of_unusable hunusable, ?_⟩
  have hlast : ((found.text.toOption.bind Selection.checks?)).getD checks = checks := by
    change found.checks?.getD checks = checks
    rw [hchecks]
    rfl
  rw [latest_cons, hchecks, Option.getD_some, ← latest_unseen hlast reads,
    latest_of_unusable hunusable]
  exact hother

/-- After any polls the engine is at the latest selection that could be read, parsed and resolved,
unless that one was there at the start and overlooked; then the engine is where it was. Its
generation has gone up once for each change of its checks. -/
theorem polls_latest_iff (engine : CheckEngine) (found : SelectionFile)
    (reads : List SelectionFile) :
    let watched := (start engine found).polls reads
    (watched.engine.enabled = latest engine.enabled (found :: reads) ↔
      ¬ Overlooked engine.enabled found reads) ∧
    (Overlooked engine.enabled found reads → watched.engine.enabled = engine.enabled) ∧
    watched.engine.generation =
      engine.generation + ((start engine found).turns reads).toUInt64 := by
  intro watched
  have henabled : watched.engine.enabled = latest engine.enabled (unseen found.text.toOption reads) :=
    enabled_polls_start engine found reads
  refine ⟨⟨?_, ?_⟩, ?_, generation_polls rfl reads⟩
  · intro hlatest hoverlooked
    obtain ⟨hkept, hmissed⟩ := latest_ne_of_overlooked hoverlooked
    exact hmissed (by rw [← hlatest, henabled, hkept])
  · intro hseen
    rw [henabled]
    exact latest_of_not_overlooked hseen
  · intro hoverlooked
    rw [henabled]
    exact (latest_ne_of_overlooked hoverlooked).1

end Watcher

end ComplianceScanner
