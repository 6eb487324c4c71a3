import CodeAudit.Proofs.Report.JsonReading
import CodeAudit.Report.Basic

/-!
What a report says can be read back from its JSON text. Members are found by their names, and a
finding without properties has no member for them.
-/

namespace CodeAudit

/-! ## Parts of a document -/

namespace JsonValue

def number? : JsonValue → Option Nat
  | number value => some value
  | _ => none

def text? : JsonValue → Option String
  | text value => some value
  | _ => none

def listOf? {Part : Type} (part? : JsonValue → Option Part) : JsonValue → Option (List Part)
  | array values => values.mapM part?
  | _ => none

def membersOf? {Part : Type} (part? : JsonValue → Option Part) :
    JsonValue → Option (List (String × Part))
  | object members => members.mapM fun (key, value) => (part? value).map fun part => (key, part)
  | _ => none

def member? (name : String) : JsonValue → Option JsonValue
  | object members => members.lookup name
  | _ => none

def field? {Part : Type} (part? : JsonValue → Option Part) (name : String) (value : JsonValue) :
    Option Part :=
  (value.member? name).bind part?

theorem mapm_map_of_recovers {Item Code : Type} {encode : Item → Code}
    {decode : Code → Option Item} (recovers : ∀ item, decode (encode item) = some item)
    (items : List Item) : (items.map encode).mapM decode = some items := by
  induction items with
  | nil => rfl
  | cons item items ih =>
      rw [List.map_cons, List.mapM_cons, recovers, ih]
      rfl

theorem list_of?_map {Item : Type} {json : Item → JsonValue} {part? : JsonValue → Option Item}
    (recovers : ∀ item, part? (json item) = some item) (items : List Item) :
    listOf? part? (.array (items.map json)) = some items :=
  mapm_map_of_recovers recovers items

theorem members_of?_texts (entries : List (String × String)) :
    membersOf? text? (.object (entries.map fun (key, value) => (key, .text value))) =
      some entries := by
  unfold membersOf?
  apply mapm_map_of_recovers
  intro entry
  rfl

end JsonValue

/-! ## What a report says -/

open JsonValue

def FaultKind.ofName? (name : String) : Option FaultKind :=
  [FaultKind.error, .panic, .contract].find? fun kind => kind.name == name

theorem FaultKind.of_name?_name (kind : FaultKind) : ofName? kind.name = some kind := by
  cases kind <;> decide

theorem Properties.eq_empty_of_is_empty {properties : Properties}
    (empty : properties.isEmpty = true) : properties = Properties.empty := by
  obtain ⟨entries, ordered⟩ := properties
  have none : entries = [] := List.isEmpty_iff.mp empty
  subst none
  rfl

namespace Report

/-- The properties under the member of that name, none when there is no such member. -/
def propertiesOf? (value : JsonValue) : Option Properties :=
  match value.member? "properties" with
  | none => some Properties.empty
  | some held => do
      let entries ← membersOf? text? held
      if ordered : entries.Pairwise (fun left right => left.1 < right.1) then
        some ⟨entries, ordered⟩
      else none

def findingOf? (value : JsonValue) : Option Finding := do
  let sourcePath ← value.field? text? "file"
  let ruleId ← value.field? text? "rule"
  let message ← value.field? text? "message"
  let line ← value.field? number? "line"
  let severity ← (value.field? text? "severity").bind Severity.ofName?
  let category ← value.field? text? "category"
  let properties ← propertiesOf? value
  some ⟨sourcePath, ruleId, message, line, severity, category, properties⟩

def faultOf? (value : JsonValue) : Option Fault := do
  let ruleId ← value.field? text? "rule"
  let sourcePath ← value.field? text? "file"
  let kind ← (value.field? text? "kind").bind FaultKind.ofName?
  let message ← value.field? text? "message"
  some ⟨ruleId, sourcePath, kind, message⟩

structure Contents where
  version : String
  path : String
  findings : List Finding
  summary : ScanSummary
  faultTotal : Nat
deriving DecidableEq

def contentsOf? (value : JsonValue) : Option Contents := do
  let version ← value.field? text? "version"
  let path ← value.field? text? "path"
  let unitsAnalyzed ← value.field? number? "units_analyzed"
  let findings ← value.field? (listOf? findingOf?) "findings"
  let faults ← value.field? (listOf? faultOf?) "faults"
  let totals ← value.member? "summary"
  let findingTotal ← totals.field? number? "findings"
  let errors ← totals.field? number? "errors"
  let warnings ← totals.field? number? "warnings"
  let infos ← totals.field? number? "infos"
  let duplicateGroups ← totals.field? number? "duplicate_groups"
  let faultTotal ← totals.field? number? "faults"
  some ⟨version, path, findings,
    ⟨unitsAnalyzed, findingTotal, errors, warnings, infos, duplicateGroups, faults⟩, faultTotal⟩

theorem fault_of?_fault_json (fault : Fault) : faultOf? (faultJson fault) = some fault := by
  simp [faultOf?, faultJson, field?, member?, List.lookup_cons, text?, FaultKind.of_name?_name]

theorem member?_properties (finding : Finding) :
    (findingJson finding).member? "properties" =
      if finding.properties.isEmpty then none
      else
        some (.object (finding.properties.entries.map fun (key, value) => (key, .text value))) := by
  unfold findingJson propertiesJson
  split <;> simp [member?, List.lookup_cons]

theorem properties_of?_finding_json (finding : Finding) :
    propertiesOf? (findingJson finding) = some finding.properties := by
  unfold propertiesOf?
  rw [member?_properties]
  by_cases empty : finding.properties.isEmpty = true
  · rw [if_pos empty, Properties.eq_empty_of_is_empty empty]
  · rw [if_neg empty]
    simp only [members_of?_texts]
    exact dif_pos finding.properties.ordered

theorem finding_of?_finding_json (finding : Finding) :
    findingOf? (findingJson finding) = some finding := by
  unfold findingOf?
  rw [properties_of?_finding_json]
  simp [findingJson, field?, member?, List.lookup_cons, text?, number?, Severity.of_name?_name]

theorem contents_of?_document (path : String) (findings : List Finding) (summary : ScanSummary) :
    contentsOf? (document path findings summary) =
      some ⟨version, path, findings, summary, summary.faults.length⟩ := by
  have allFindings := list_of?_map finding_of?_finding_json findings
  have allFaults := list_of?_map fault_of?_fault_json summary.faults
  simp [contentsOf?, document, totalsJson, field?, member?, List.lookup_cons, text?, number?,
    allFindings, allFaults]

/-! ## What the text says -/

def readJson (text : String) : Option Contents :=
  (JsonText.read text).bind contentsOf?

theorem spells_render_json (path : String) (findings : List Finding) (summary : ScanSummary) :
    JsonText.Spells (.element (document path findings summary))
      (renderJson path findings summary).toList := by
  have spelled := JsonText.spells_render 0 (document path findings summary)
  simpa [renderJson] using
    JsonText.Spells.element JsonText.space_nil spelled JsonText.space_nil

theorem read_json_render_json (path : String) (findings : List Finding) (summary : ScanSummary) :
    readJson (renderJson path findings summary) =
      some ⟨version, path, findings, summary, summary.faults.length⟩ := by
  unfold readJson
  rw [JsonText.read_of_spells (spells_render_json path findings summary)]
  exact contents_of?_document path findings summary

/-- The text of a report is a JSON document and spells no other value than the report's. From it
one reads the path, the findings and the summary, whatever characters are in them. -/
theorem json_loses_nothing :
    (∀ path findings summary,
      JsonText.Spells (.element (document path findings summary))
        (renderJson path findings summary).toList ∧
      (∀ value, JsonText.Spells (.element value) (renderJson path findings summary).toList →
        contentsOf? value = some ⟨version, path, findings, summary, summary.faults.length⟩) ∧
      readJson (renderJson path findings summary) =
        some ⟨version, path, findings, summary, summary.faults.length⟩) ∧
    Function.Injective fun (report : String × List Finding × ScanSummary) =>
      renderJson report.1 report.2.1 report.2.2 := by
  constructor
  · intro path findings summary
    have spelled := spells_render_json path findings summary
    refine ⟨spelled, ?_, read_json_render_json path findings summary⟩
    intro value alsoSpelled
    rw [JsonText.spelled_unique spelled alsoSpelled]
    exact contents_of?_document path findings summary
  · intro report other same
    obtain ⟨path, findings, summary⟩ := report
    dsimp only at same
    have contents := read_json_render_json path findings summary
    rw [same, read_json_render_json] at contents
    simp only [Option.some.injEq, Contents.mk.injEq] at contents
    obtain ⟨_, rfl, rfl, rfl, _⟩ := contents
    rfl

end Report
end CodeAudit
