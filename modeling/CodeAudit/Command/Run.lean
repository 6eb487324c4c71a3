import CodeAudit.Command.Arguments
import CodeAudit.Config.Discovery
import CodeAudit.Engine.Scan
import CodeAudit.File.Walk
import CodeAudit.Report.Basic

/-!
Commands on a system of files. A scan ends with 0, with 1 if it found errors, and with 2 if it could
not be done.
-/

namespace CodeAudit

inductive CommandError where
  | invalidFormat (format : String)
  | inaccessible (path : String) (reason : FileError)
  | config (reason : ConfigFileError)
  | options (reason : ConfigError)
  | scanRules (reason : RegistrationError)
  | listedRules (reason : RegistrationError)
  | exclude (reason : ExcludeError)
deriving DecidableEq, Repr

def CommandError.message : CommandError → String
  | invalidFormat format =>
      "invalid format " ++ Text.quoted format ++ ", must be 'pretty' or 'json'"
  | inaccessible path reason =>
      "cannot access path " ++ Text.quotedPath path ++ ": " ++ reason.message
  | config reason => reason.message
  | options reason => "invalid options: " ++ reason.message
  | scanRules reason => "Failed to register rules: " ++ reason.message
  | listedRules reason => reason.message
  | exclude reason => reason.message

inductive ReportFormat where
  | pretty
  | json
deriving DecidableEq, Repr

def ReportFormat.ofName? : String → Option ReportFormat
  | "pretty" => some .pretty
  | "json" => some .json
  | _ => none

structure CommandResult where
  exitCode : Nat
  output : String
  errors : String
deriving DecidableEq, Repr

namespace CommandResult

def ofError (error : CommandError) : CommandResult :=
  ⟨2, "", "Error: " ++ error.message ++ "\n"⟩

end CommandResult

namespace ScanArguments

def configDirectory (arguments : ScanArguments) (found : FileTree) : String :=
  if found.isDirectory then arguments.path else (Path.parent? arguments.path).getD "."

/-- The configuration with the settings of the command line, valid or not. -/
def changed (arguments : ScanArguments) (config : Config) : Config :=
  let duplication := config.duplication
  let thresholds := { duplication.thresholds with
    unitLines := arguments.minUnitLines.getD duplication.thresholds.unitLines
    blockTokens := arguments.minBlockTokens.getD duplication.thresholds.blockTokens }
  { config with
    duplication := ⟨duplication.isEnabled && !arguments.noDuplication, thresholds⟩
    isParallel := config.isParallel || arguments.parallel }

def override (arguments : ScanArguments) (config : Config) : Except ConfigError Config :=
  match (arguments.changed config).fault? with
  | some reason => .error reason
  | none => .ok (arguments.changed config)

/-- Errors always fail a scan, faults of rules only if asked for. -/
def exitCode (arguments : ScanArguments) (summary : ScanSummary) : Nat :=
  if 0 < summary.errors || (arguments.failOnFault && !summary.faults.isEmpty) then 1 else 0

end ScanArguments

namespace Command

def scannerOf (config : Config) : Except RegistrationError Scanner := do
  return ⟨⟨← config.registry⟩, config.thresholds?, config.isParallel⟩

def render (colors : Bool) (format : ReportFormat) (path : String) (findings : List Finding)
    (summary : ScanSummary) : String :=
  match format with
  | .json => Report.renderJson path findings summary ++ "\n"
  | .pretty => Report.renderText colors path findings summary

structure ScanPlan where
  format : ReportFormat
  scanner : Scanner
  units : List SourceUnit

/-- Prepares a scan; of several faults the first in this order is told: the format, the path, the
configuration, the options, the rules and the excluded paths. -/
def plan (system : FileSystem) (arguments : ScanArguments) : Except CommandError ScanPlan := do
  let some format := ReportFormat.ofName? arguments.format
    | throw (.invalidFormat arguments.format)
  let found ← (system.find arguments.path).mapError (.inaccessible arguments.path)
  let loaded ← (Config.load system arguments.config (arguments.configDirectory found)).mapError
    .config
  let config ← (arguments.override loaded).mapError .options
  let scanner ← (scannerOf config).mapError .scanRules
  let excludes ← (Excludes.ofPatterns config.exclude).mapError .exclude
  return ⟨format, scanner, system.units arguments.path excludes⟩

def runScan (colors : Bool) (system : FileSystem) (arguments : ScanArguments) :
    Except CommandError CommandResult := do
  let plan ← plan system arguments
  let (findings, summary) := plan.scanner.collect plan.units
  return ⟨arguments.exitCode summary, render colors plan.format arguments.path findings summary, ""⟩

def runRules (colors : Bool) (system : FileSystem) (config : Option String) :
    Except CommandError CommandResult := do
  let config ← (Config.load system config ".").mapError .config
  let registry ← config.registry.mapError .listedRules
  return ⟨0, Report.rulesTable colors registry config.thresholds?.isSome, ""⟩

def run (colors : Bool) (system : FileSystem) (command : Command) : CommandResult :=
  let result :=
    match command with
    | .scan arguments => runScan colors system arguments
    | .rules config => runRules colors system config
  match result with
  | .ok result => result
  | .error error => .ofError error

end Command
end CodeAudit
