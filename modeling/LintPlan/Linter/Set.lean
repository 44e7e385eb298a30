import LintPlan.Linter.Basic
/-!
# Sets of linters

The linters that a configuration has switched on, the names of those that it switched off, and rules
that replace a tool's own.
-/

namespace LintPlan

/-- Linters that are on, names of linters that are off, and replaced rules by name. -/
structure LinterSet where
  /-- The linters that are on, in the order in which they run. -/
  enabled : List Linter
  /-- The names of the linters that are off. -/
  disabled : List String
  /-- Rules by the name of the tool, sorted by name. -/
  customRules : List (String × List String)
  deriving DecidableEq, Repr

namespace LinterSet

instance : Inhabited LinterSet := ⟨⟨[], [], []⟩⟩

/-- The set without linters. -/
def empty : LinterSet := ⟨[], [], []⟩

/-- The names of the linters that are on. -/
def enabledNames (s : LinterSet) : List String := s.enabled.map (·.name)

/-- Is a linter of this name on? -/
def isEnabled (s : LinterSet) (name : String) : Bool := s.enabled.any (·.name == name)

/-- Adds a name to those that are off, unless it is there. -/
def addDisabled (disabled : List String) (name : String) : List String :=
  if disabled.contains name then disabled else disabled ++ [name]

/-- Switches off the first linter of this name, and lists the name as off. -/
def disable (s : LinterSet) (name : String) : LinterSet :=
  { s with
    enabled := s.enabled.eraseP (·.name == name)
    disabled := addDisabled s.disabled name }

/-- Switches off linters of all the names, one after the other. -/
def disableAll (s : LinterSet) (names : List String) : LinterSet := names.foldl disable s

/-- Switches on a linter at the end. -/
def add (s : LinterSet) (l : Linter) : LinterSet := { s with enabled := s.enabled ++ [l] }

end LinterSet

end LintPlan
