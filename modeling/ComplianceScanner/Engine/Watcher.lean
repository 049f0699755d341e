import ComplianceScanner.Engine.Checks
import ComplianceScanner.Selection.File

/-!
An engine whose check selection is watched. Its file is looked at from time to time, and each new
text in it is tried once: a selection that cannot be used leaves the engine as it is.
-/

namespace ComplianceScanner

structure Watcher where
  engine : CheckEngine
  /-- The text that was read last, if there was any. -/
  last : Option String
  stopped : Bool := false

namespace Watcher

def start (engine : CheckEngine) (file : SelectionFile) : Watcher :=
  { engine, last := file.text.toOption }

/-- The engine with the selection in a text, if that can be used. -/
def reloaded (engine : CheckEngine) (text : String) : CheckEngine :=
  match Selection.parse text with
  | .ok selection => (engine.reload selection).2
  | .error _ => engine

/-- Takes up a text unless it is the one from the last time. -/
def see (watcher : Watcher) (text : String) : Watcher :=
  if watcher.last = some text then watcher
  else { watcher with engine := reloaded watcher.engine text, last := some text }

/-- Looks at the file once. What cannot be read is passed over, and forgets nothing. -/
def poll (watcher : Watcher) (file : SelectionFile) : Watcher :=
  if watcher.stopped then watcher
  else
    match file.text with
    | .ok text => watcher.see text
    | .error _ => watcher

def stop (watcher : Watcher) : Watcher := { watcher with stopped := true }

end Watcher

end ComplianceScanner
