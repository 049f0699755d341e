import ComplianceScanner.Selection.Basic
import ComplianceScanner.Yaml.Document

/-!
A check selection as a YAML document: a mapping with the member `checks`, itself a mapping. Unknown
members are passed over, a known one may stand only once. Nothing written counts as an empty
collection, and any scalar is a text as it stands; only plain words are truth values.
-/

namespace ComplianceScanner.Selection

open Yaml (Document Node)

/-- A plain scalar without text is what stands where nothing is written. -/
def isUnwritten : Node → Bool
  | .scalar "" .plain _ => true
  | _ => false

def text? (document : Document) (node : Node) : Option String :=
  match document.resolve? node with
  | some (.scalar text _ _) => some text
  | _ => none

def truth? (document : Document) (node : Node) : Option Bool :=
  match document.resolve? node with
  | some (.scalar text style tag) =>
    if style = .plain ∨ (style = .literal ∧ tag = some "tag:yaml.org,2002:bool") then
      if ["true", "True", "TRUE"].contains text then some true
      else if ["false", "False", "FALSE"].contains text then some false
      else none
    else none
  | _ => none

def texts? (document : Document) (node : Node) : Option (List String) :=
  match document.resolve? node with
  | some (.sequence items) => items.mapM (text? document)
  | some other => if isUnwritten other then some [] else none
  | none => none

/-- The members of a mapping, whose keys must all be scalars. -/
def members? (document : Document) (node : Node) : Option (List (String × Node)) :=
  match document.resolve? node with
  | some (.mapping entries) =>
    entries.mapM fun (key, value) => (text? document key).map (·, value)
  | some other => if isUnwritten other then some [] else none
  | none => none

/-- Reads the member of that name, or takes the default where there is none. -/
def member? {α : Type} (members : List (String × Node)) (name : String) (default : α)
    (read : Node → Option α) : Option α :=
  match members.filter (·.1 = name) with
  | [] => some default
  | [(_, value)] => read value
  | _ => none

def ofNode? (document : Document) (node : Node) : Option Selection := do
  let members ← members? document node
  some {
    withoutDefaults := ← member? members "doNotAutoAddDefaults" false (truth? document)
    allBuiltIn := ← member? members "addAllBuiltIn" false (truth? document)
    added := ← member? members "include" [] (texts? document)
    removed := ← member? members "exclude" [] (texts? document) }

def ofDocument? (document : Document) : Option Selection :=
  match document.root with
  | none => some {}
  | some root => do
    let members ← members? document root
    member? members "checks" {} (ofNode? document)

/-- The selection in a text, if that is a well-formed document of this form. -/
def ofText? (text : String) : Option Selection :=
  (Document.parse? text).bind ofDocument?

end ComplianceScanner.Selection
