/-!
# Headings of texts for people

A report opens with a banner; its parts may have headings of their own.
-/

namespace LintPlan.Display

/-- A title between two double rules. -/
def banner (title : String) : String :=
  let rule := "═══════════════════════════════════════════\n"
  rule ++ "  " ++ title ++ "\n" ++ rule ++ "\n"

/-- A title between two single rules, after an empty line. -/
def heading (title : String) : String :=
  let rule := "───────────────────────────────────────────\n"
  "\n" ++ rule ++ "  " ++ title ++ "\n" ++ rule

/-- A text if there is something to show. -/
def showIf (shown : Bool) (text : String) : String := if shown then text else ""

end LintPlan.Display
