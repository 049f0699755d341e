import ComplianceScanner.Check.BuiltIn

namespace ComplianceScanner

/-- Which checks are enabled: a base set, the checks added to it, and those taken out. -/
structure Selection where
  withoutDefaults : Bool := false
  allBuiltIn : Bool := false
  added : List String := []
  removed : List String := []
deriving DecidableEq, Repr

inductive SelectionError where
  | unknownCheck (name : String)
  | nothingEnabled
deriving DecidableEq, Repr

def SelectionError.message : SelectionError → String
  | unknownCheck name => "Unknown check \"" ++ name ++ "\""
  | nothingEnabled => "Check configuration enables no checks"

namespace Selection

def inBase (selection : Selection) (check : Check) : Bool :=
  selection.allBuiltIn || (!selection.withoutDefaults && check.enabledByDefault)

def enables (selection : Selection) (check : Check) : Bool :=
  (selection.inBase check || selection.added.contains check.name) &&
    !selection.removed.contains check.name

/-- The first name that is no check, of those to add and then of those to take out. -/
def unknownName? (selection : Selection) : Option String :=
  (selection.added ++ selection.removed).find? fun name => (Check.ofName? name).isNone

/-- The enabled checks in their built-in order, at least one. -/
def resolve (selection : Selection) : Except SelectionError (List Check) :=
  match selection.unknownName? with
  | some name => .error (.unknownCheck name)
  | none =>
    match Check.all.filter selection.enables with
    | [] => .error .nothingEnabled
    | enabled => .ok enabled

end Selection

end ComplianceScanner
