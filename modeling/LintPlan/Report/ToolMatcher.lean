import LintPlan.Text.Letters
import LintPlan.Text.Folding
import LintPlan.Text.Basic
/-!
# Tools named in progress lines

Which tool a line of output is about: a name in square brackets, or a name as a word of its own after
the word `Linting` or `Running`. Case does not count. The first place in the line decides, then the
longest name.
-/

namespace LintPlan

/-- Names to look for, longer ones first and each once. -/
structure ToolMatcher where
  /-- The names in the order in which they are tried. -/
  names : List (List Char)

namespace ToolMatcher

/-- Is `a` tried before `b`, or are they alike? The longer name in UTF-8 goes first, then the order of
code points decides. -/
def triedBefore (a b : String) : Bool :=
  b.utf8ByteSize < a.utf8ByteSize || (a.utf8ByteSize == b.utf8ByteSize && decide (a ≤ b))

/-- The list without members that equal the one before them. -/
def dropRepeated : List String → List String
  | [] => []
  | [a] => [a]
  | a :: b :: rest => if a = b then dropRepeated (b :: rest) else a :: dropRepeated (b :: rest)

/-- Looks for the given names. -/
def ofNames (names : List String) : ToolMatcher :=
  ⟨(dropRepeated (names.mergeSort triedBefore)).map String.toList⟩

/-- Does a word begin or end between the two characters? -/
def isBoundary (before next : Option Char) : Bool :=
  (before.map Text.isWordChar).getD false != (next.map Text.isWordChar).getD false

/-- The first of the names at the start of a text for which `ends` accepts what follows: the text that
stands there. -/
def nameAt (ends : (last : Option Char) → (rest : List Char) → Bool) (names : List (List Char))
    (cs : List Char) : Option (List Char) :=
  names.findSome? fun name =>
    match Text.afterWord name cs with
    | none => none
    | some rest =>
      let found := cs.take name.length
      if ends found.getLast? rest then some found else none

/-- A name in square brackets at the start of a text. -/
def bracketed (names : List (List Char)) : List Char → Option (List Char)
  | '[' :: cs => nameAt (fun _ rest => rest.head? == some ']') names cs
  | _ => none

/-- The first name that stands as words of its own on the rest of the line. `before` is the character in
front of the text. -/
def wordIn (names : List (List Char)) (before : Option Char) : List Char → Option (List Char)
  | [] => at_ []
  | c :: cs =>
    (at_ (c :: cs)).orElse fun _ => if c == '\n' then none else wordIn names (some c) cs
where
  /-- A name at the start of the text. -/
  at_ (cs : List Char) : Option (List Char) :=
    if isBoundary before cs.head? then
      nameAt (fun last rest => isBoundary (last.orElse fun _ => before) rest.head?) names cs
    else none

/-- The words that announce a tool. -/
def announcements : List (List Char) := ["linting".toList, "running".toList]

/-- A name after an announcement at the start of a text. -/
def announced (names : List (List Char)) (before : Option Char) (cs : List Char) :
    Option (List Char) :=
  if !isBoundary before cs.head? then none
  else announcements.findSome? fun word =>
    match Text.afterWord word cs with
    | none => none
    | some rest =>
      let last := (cs.take word.length).getLast?
      if isBoundary last rest.head? then wordIn names last rest else none

/-- The first name in a text. -/
def find (names : List (List Char)) (before : Option Char) : List Char → Option (List Char)
  | [] => (bracketed names []).orElse fun _ => announced names before []
  | c :: cs =>
    ((bracketed names (c :: cs)).orElse fun _ => announced names before (c :: cs)).orElse fun _ =>
      find names (some c) cs

/-- The tool that a line is about: the text that stands there, with its ASCII letters in lower case. -/
def detect (m : ToolMatcher) (line : String) : Option String :=
  if m.names.isEmpty then none
  else (find m.names none line.toList).map fun cs => String.ofList (cs.map Char.toLower)

end ToolMatcher

end LintPlan
