import ComplianceScanner.CommandLine.Arguments
import ComplianceScanner.Config.Scanner

namespace ComplianceScanner

/-- How a run of the scanner is set up. -/
structure RunOptions where
  configFile : Option String := none
  ignorePattern : Option String := none
  pageSize : Nat := 5
  intervalSeconds : Nat := 60
  maxAttempts : Nat := 5
  initialDelayMilliseconds : Nat := 1000
  maxDelaySeconds : Nat := 30
  metricsAddress : ListenAddress := ⟨.octets [0, 0, 0, 0], 8383⟩
  metricsPath : String := "/metrics"
  /-- How often the file of the check selection is looked at; never if this is zero. -/
  reloadSeconds : Nat := 30
deriving DecidableEq, Repr

namespace RunOptions

def scannerConfig (options : RunOptions) : ScannerConfig :=
  { interval := .ofSeconds options.intervalSeconds
    pageSize := options.pageSize
    ignorePattern := options.ignorePattern
    backoff :=
      { maxAttempts := options.maxAttempts
        initialDelay := .ofMilliseconds options.initialDelayMilliseconds
        maxDelay := .ofSeconds options.maxDelaySeconds } }

/-- Options from texts that the settings admit. -/
def ofSettings (settings : Settings) : RunOptions :=
  let base : RunOptions := {}
  let long (setting : Setting) (default : Nat) : Nat :=
    ((settings.lookup setting).bind Setting.long?).getD default
  let word (setting : Setting) (default : Nat) : Nat :=
    ((settings.lookup setting).bind Setting.word?).getD default
  { configFile := settings.lookup .configFile
    ignorePattern := settings.lookup .ignorePattern
    pageSize := word .pageSize base.pageSize
    intervalSeconds := long .interval base.intervalSeconds
    maxAttempts := word .maxAttempts base.maxAttempts
    initialDelayMilliseconds := long .initialDelay base.initialDelayMilliseconds
    maxDelaySeconds := long .maxDelay base.maxDelaySeconds
    metricsAddress :=
      ((settings.lookup .metricsAddress).bind ListenAddress.ofText?).getD base.metricsAddress
    metricsPath := (settings.lookup .metricsPath).getD base.metricsPath
    reloadSeconds := long .reloadInterval base.reloadSeconds }

end RunOptions

inductive Command where
  /-- Scan until told to stop. -/
  | run (options : RunOptions)
  /-- List the built-in checks and whether they are enabled. -/
  | checks (configFile : Option String)
  /-- List the resource types that would be scanned. -/
  | discover (configFile : Option String)
  | version
deriving DecidableEq, Repr

/-- What a command line asks for. -/
inductive Invocation where
  | command (command : Command)
  | help
  | version
deriving DecidableEq, Repr

abbrev Environment := List (String × String)

namespace Command

def named : List (String × List Setting) :=
  [("run", Setting.ofRun), ("checks", [.configFile]), ("discover", [.configFile]),
   ("version", [])]

def ofSettings? (name : String) (settings : Settings) : Option Command :=
  match name with
  | "run" => some (run (.ofSettings settings))
  | "checks" => some (checks (settings.lookup .configFile))
  | "discover" => some (discover (settings.lookup .configFile))
  | "version" => some version
  | _ => none

def configFile? : Command → Option String
  | run options => options.configFile
  | checks file | discover file => file
  | version => none

end Command

/-- The settings of a level with those added that only the environment gives, unless it gives one a
value that it cannot have. -/
def Settings.complete? (environment : Environment) (allowed : List Setting) (given : Settings) :
    Option Settings :=
  allowed.foldlM (fun settings setting =>
    match environment.lookup setting.environmentName with
    | none => some settings
    | some value =>
      if given.any (·.1 = setting) then some settings
      else Level.addSetting? settings setting value) given

namespace Invocation

def configFile? : Invocation → Option String
  | command asked => asked.configFile?
  | help | version => none

/-- The command `help` may be followed by the name of one command. -/
def ofHelp? : List String → Option Invocation
  | [] => some help
  | [name] => if name = "help" || Command.named.any (·.1 = name) then some help else none
  | _ => none

/-- Reads what follows the name of a command. The format of the log may be given before the name and
after it, and the environment counts for either place. -/
def ofCommand? (environment : Environment) (given : Settings) (name : String)
    (arguments : List String) : Option Invocation := do
  let own ← Command.named.lookup name
  match Level.ofArguments false (.logFormat :: own) [] arguments with
  | .help => some help
  | .settings settings =>
    let settings ← settings.complete? environment (.logFormat :: own)
    let _ ← given.complete? environment [.logFormat]
    (Command.ofSettings? name settings).map command
  | _ => none

def ofArguments? (environment : Environment) (arguments : List String) : Option Invocation :=
  match Level.ofArguments true [.logFormat] [] arguments with
  | .help => some help
  | .version => some version
  | .word given name rest =>
    if name = "help" then ofHelp? rest else ofCommand? environment given name rest
  | _ => none

end Invocation

end ComplianceScanner
