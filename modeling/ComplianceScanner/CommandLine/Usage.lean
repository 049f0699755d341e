import ComplianceScanner.CommandLine.Execution

namespace ComplianceScanner.Usage

/-- What each command does, in its order. -/
def purposes : List (String × String) :=
  [("run", "Run the scanner"),
   ("checks", "List the built-in checks and whether they are enabled"),
   ("discover", "Print the resource types the scanner would validate"),
   ("version", "Show version information")]

def optionLine (setting : Setting) : String :=
  "      --" ++ setting.name ++ " <VALUE> [env: " ++ setting.environmentName ++ "]"

def lines : List String :=
  ["Usage: " ++ Release.program ++ " [OPTIONS] <COMMAND>", "", "Commands:"] ++
    purposes.map (fun (name, purpose) => "  " ++ name ++ ": " ++ purpose) ++
    ["", "Options:"] ++ Setting.all.map optionLine

end ComplianceScanner.Usage

namespace ComplianceScanner

/-- Does what a command line asks for. -/
def Invocation.execute {World : Type} (host : Host World) (steps : Nat) : Invocation → Ending
  | command asked => asked.execute host steps
  | help => .success Usage.lines
  | version => .success [Release.program ++ " " ++ Release.version]

end ComplianceScanner
