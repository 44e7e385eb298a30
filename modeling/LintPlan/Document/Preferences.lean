import LintPlan.Preferences
import LintPlan.Document.Configuration
/-!
# Preferences as documents

Reading preferences, and writing all of them. Every field may be left out; a field that preferences do
not have is refused. Preferences are written in two formats, see `Json.Dialect`.
-/

namespace LintPlan

open Json

namespace ReportingPreferences

/-- Reads wishes about reports. -/
def ofJson? (d : Dialect) (j : Json) : Option ReportingPreferences := do
  let r ← toRecord? d true [["preferred_format"], ["output_dir"], ["show_passed"]] j
  let preferredFormat ←
    r.withDefault "preferred_format" ReportFormat.text (toChoice? d ReportFormat.ofName?)
  let outputDir ← r.withDefault "output_dir" none (toOption? toText?)
  let showPassed ← r.withDefault "show_passed" false toBool?
  some ⟨preferredFormat, outputDir, showPassed⟩

/-- The document of wishes about reports. -/
def toJson (p : ReportingPreferences) : Json :=
  .obj [("preferred_format", .str p.preferredFormat.name), ("output_dir", orNull .str p.outputDir),
        ("show_passed", .bool p.showPassed)]

end ReportingPreferences

namespace OrganizationStandards

/-- Reads the standards of an organization. -/
def ofJson? (d : Dialect) (j : Json) : Option OrganizationStandards := do
  let r ← toRecord? d true [["required_linters"], ["custom_rules"]] j
  let requiredLinters ← r.withDefault "required_linters" [] (toList? toText?)
  let customRules ← r.withDefault "custom_rules" [] (toTextMap? (toList? toText?))
  some ⟨requiredLinters, customRules⟩

/-- The document of the standards of an organization. -/
def toJson (s : OrganizationStandards) : Json :=
  .obj [("required_linters", texts s.requiredLinters), ("custom_rules", textLists s.customRules)]

end OrganizationStandards

namespace HistorySignals

/-- Reads what earlier runs showed. -/
def ofJson? (d : Dialect) (j : Json) : Option HistorySignals := do
  let r ← toRecord? d true [["technical_debt"], ["team_size"]] j
  let technicalDebt ← r.withDefault "technical_debt" (Binary64.zero false) toFloat?
  let teamSize ← r.withDefault "team_size" none (toOption? toWord32?)
  some ⟨technicalDebt, teamSize⟩

/-- The document of what earlier runs showed. -/
def toJson (h : HistorySignals) : Json :=
  .obj [("technical_debt", .float h.technicalDebt), ("team_size", orNull nat h.teamSize)]

end HistorySignals

namespace Preferences

/-- The fields of preferences in their order. -/
def fields : List FieldNames :=
  [["severity_threshold"], ["performance_profile"], ["preferred_linters"], ["excluded_linters"],
   ["security"], ["reporting"], ["organization_standards"], ["history"]]

/-- Reads wishes about security scanning. -/
def enhancedScanningOfJson? (d : Dialect) (j : Json) : Option Bool := do
  let r ← toRecord? d true [["enhanced_scanning"]] j
  r.withDefault "enhanced_scanning" false toBool?

/-- Reads preferences. -/
def ofJson? (d : Dialect) (j : Json) : Option Preferences := do
  let r ← toRecord? d true fields j
  let severityThreshold ←
    r.withDefault "severity_threshold" Severity.info (toChoice? d Severity.ofName?)
  let performanceProfile ← r.withDefault "performance_profile" PerformanceProfile.balanced
    (toChoice? d PerformanceProfile.ofName?)
  let preferredLinters ← r.withDefault "preferred_linters" [] (toList? toText?)
  let excludedLinters ← r.withDefault "excluded_linters" [] (toList? toText?)
  let enhancedScanning ← r.withDefault "security" false (enhancedScanningOfJson? d)
  let reporting ← r.withDefault "reporting" ⟨.text, none, false⟩ (ReportingPreferences.ofJson? d)
  let standards ←
    r.withDefault "organization_standards" none (toOption? (OrganizationStandards.ofJson? d))
  let history ← r.withDefault "history" none (toOption? (HistorySignals.ofJson? d))
  some ⟨severityThreshold, performanceProfile, preferredLinters, excludedLinters, enhancedScanning,
    reporting, standards, history⟩

/-- The document of preferences. -/
def toJson (p : Preferences) : Json :=
  .obj [("severity_threshold", .str p.severityThreshold.name),
        ("performance_profile", .str p.performanceProfile.name),
        ("preferred_linters", texts p.preferredLinters),
        ("excluded_linters", texts p.excludedLinters),
        ("security", .obj [("enhanced_scanning", .bool p.enhancedScanning)]),
        ("reporting", p.reporting.toJson),
        ("organization_standards", orNull OrganizationStandards.toJson p.standards),
        ("history", orNull HistorySignals.toJson p.history)]

end Preferences

end LintPlan
