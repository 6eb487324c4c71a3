import CodeAudit.Engine.Scan
import CodeAudit.Report.Json
import CodeAudit.Report.Style

/-!
Reports on a scan, as a JSON document or as text for a terminal.
-/

namespace CodeAudit
namespace Report

def programName : String := "sourcelint"
def version : String := "0.1.0"

/-! ## JSON -/

def propertiesJson (properties : Properties) : List (String × JsonValue) :=
  if properties.isEmpty then []
  else
    [("properties", .object (properties.entries.map fun (key, value) => (key, .text value)))]

def findingJson (finding : Finding) : JsonValue :=
  .object ([("rule", .text finding.ruleId), ("severity", .text finding.severity.name),
    ("category", .text finding.category), ("file", .text finding.sourcePath),
    ("line", .number finding.line), ("message", .text finding.message)] ++
    propertiesJson finding.properties)

def faultJson (fault : Fault) : JsonValue :=
  .object [("rule", .text fault.ruleId), ("file", .text fault.sourcePath),
    ("kind", .text fault.kind.name), ("message", .text fault.message)]

def totalsJson (summary : ScanSummary) : JsonValue :=
  .object [("findings", .number summary.findings), ("errors", .number summary.errors),
    ("warnings", .number summary.warnings), ("infos", .number summary.infos),
    ("duplicate_groups", .number summary.duplicateGroups),
    ("faults", .number summary.faults.length)]

def document (path : String) (findings : List Finding) (summary : ScanSummary) : JsonValue :=
  .object [("version", .text version), ("path", .text path),
    ("units_analyzed", .number summary.unitsAnalyzed),
    ("findings", .array (findings.map findingJson)),
    ("faults", .array (summary.faults.map faultJson)),
    ("summary", totalsJson summary)]

def renderJson (path : String) (findings : List Finding) (summary : ScanSummary) : String :=
  (document path findings summary).render 0

/-! ## Text -/

def line (text : String) : String :=
  text ++ "\n"

def severityTag (colors : Bool) : Severity → String
  | .error => Style.red.apply colors "ERROR"
  | .warning => Style.yellow.apply colors "WARN "
  | .info => Style.blue.apply colors "INFO "

def header (colors : Bool) (path : String) : String :=
  line "" ++ line ("  " ++ Style.boldCyan.apply colors programName ++ " v" ++ version) ++ line "" ++
    line ("  " ++ Style.dimmed.apply colors "Scanning: " ++ path) ++ line ""

def findingText (colors : Bool) (finding : Finding) : String :=
  line ("    " ++ severityTag colors finding.severity ++ "   " ++
    Style.dimmed.applyPadded colors 22 finding.ruleId ++
    Style.blue.apply colors finding.sourcePath ++
    Style.dimmed.apply colors (":" ++ toString finding.line)) ++
  line ("            " ++ finding.message) ++ line ""

def faultText (colors : Bool) (fault : Fault) : String :=
  line ("    " ++ Style.dimmed.applyPadded colors 22 fault.ruleId ++
    Style.blue.apply colors fault.sourcePath ++ " " ++
    Style.dimmed.apply colors ("[" ++ fault.kind.name ++ "]")) ++
  line ("            " ++ fault.message)

def faultsText (colors : Bool) (faults : List Fault) : String :=
  if faults.isEmpty then ""
  else
    line ("  " ++ Style.boldRed.apply colors "Rule faults" ++ " (" ++ toString faults.length ++
      "):") ++ line "" ++ String.join (faults.map (faultText colors)) ++ line ""

def status (colors : Bool) (summary : ScanSummary) : String :=
  if summary.findings == 0 then Style.green.apply colors "✓ CLEAN"
  else if 0 < summary.errors then Style.red.apply colors "✗ ERRORS"
  else Style.yellow.apply colors "! FINDINGS"

def summaryText (colors : Bool) (summary : ScanSummary) : String :=
  faultsText colors summary.faults ++
  line ("  " ++ status colors summary ++ "  " ++ toString summary.unitsAnalyzed ++ " units  " ++
    toString summary.findings ++ " findings (" ++ toString summary.errors ++ " errors, " ++
    toString summary.warnings ++ " warnings, " ++ toString summary.infos ++ " info)  " ++
    toString summary.duplicateGroups ++ " duplicate groups") ++ line ""

def renderText (colors : Bool) (path : String) (findings : List Finding) (summary : ScanSummary) :
    String :=
  header colors path ++ String.join (findings.map (findingText colors)) ++
    summaryText colors summary

/-! ## The table of rules -/

def ruleLine (colors : Bool) (severity : Severity) (id category description : String) : String :=
  line ("    " ++ severityTag colors severity ++ " " ++ Style.pad 24 id ++
    Style.dimmed.applyPadded colors 14 category ++ description)

def rulesTable (colors : Bool) (registry : Registry) (duplication : Bool) : String :=
  line ("  " ++ Style.bold.apply colors "Registered rules:") ++
  String.join (registry.rules.map fun rule =>
    ruleLine colors rule.info.severity rule.info.id rule.info.category rule.info.description) ++
  if duplication then
    ruleLine colors .warning DuplicateGroup.ruleId DuplicateGroup.category
      DuplicateGroup.description
  else ""

end Report
end CodeAudit
