import ComplianceScanner.CommandLine.Setting

/-!
The arguments of one level of the command line. An option has two hyphens and its value, which
follows an equals sign or is the next argument; no argument that begins with a hyphen is taken for
the next one, but for the hyphen alone. Two hyphens end the options, and nothing may come after
them.
-/

namespace ComplianceScanner

inductive Argument where
  | endOfOptions
  | option (name : String) (value : Option String)
  | flags (letters : List Char)
  | plain (text : String)
deriving DecidableEq, Repr

def Argument.ofText (text : String) : Argument :=
  match text.toList with
  | ['-', '-'] => endOfOptions
  | '-' :: '-' :: rest =>
    let name := rest.takeWhile (· ≠ '=')
    match rest.dropWhile (· ≠ '=') with
    | [] => option (String.ofList name) none
    | _ :: value => option (String.ofList name) (some (String.ofList value))
  | '-' :: c :: rest => flags (c :: rest)
  | _ => plain text

/-- What the arguments of a level come to. -/
inductive Level where
  /-- All were options. -/
  | settings (given : Settings)
  /-- A word that is no option comes after some. -/
  | word (given : Settings) (text : String) (rest : List String)
  | help
  | version
  | invalid
deriving DecidableEq, Repr

namespace Level

/-- One more setting, unless it cannot have that value or is given already. -/
def addSetting? (given : Settings) (setting : Setting) (value : String) : Option Settings :=
  if setting.admits value && !given.any (·.1 = setting) then some (given ++ [(setting, value)])
  else none

/-- What asks for no setting: help, and at the top the version. -/
def ofFlag (isTop : Bool) (name : String) : Level :=
  if name = "help" then help else if isTop && name = "version" then version else invalid

def ofLetter (isTop : Bool) : Char → Level
  | 'h' => ofFlag isTop "help"
  | 'V' => ofFlag isTop "version"
  | _ => invalid

def ofArguments (isTop : Bool) (allowed : List Setting) (given : Settings) :
    List String → Level
  | [] => settings given
  | argument :: rest =>
    match Argument.ofText argument with
    | .plain text => word given text rest
    | .endOfOptions => if rest.isEmpty then settings given else invalid
    | .flags letters => (letters.head?.map (ofLetter isTop)).getD invalid
    | .option name value =>
      match allowed.find? (·.name = name), value, rest with
      | none, none, _ => ofFlag isTop name
      | none, some _, _ => invalid
      | some setting, some value, rest =>
        match addSetting? given setting value with
        | some given => ofArguments isTop allowed given rest
        | none => invalid
      | some setting, none, next :: rest =>
        match Argument.ofText next with
        | .plain value =>
          match addSetting? given setting value with
          | some given => ofArguments isTop allowed given rest
          | none => invalid
        | _ => invalid
      | some _, none, [] => invalid

end Level

end ComplianceScanner
