import LintPlan.Number.Total
import LintPlan.Repository.Profile
/-!
# Languages of a repository

How many files and lines of each language there are, and which languages are the main ones.
-/

namespace LintPlan

namespace Language

/-- Sorts by a first key downwards and by name upwards where the first key is the same. -/
def sortByCount {α : Type} (count : α → Nat) (language : α → Language) (xs : List α) : List α :=
  xs.mergeSort fun a b =>
    count b < count a || (count a == count b && decide ((language a).name ≤ (language b).name))

/-- The number of occurrences of each language that occurs, most frequent first. -/
def tally (ls : List Language) : List (Language × Nat) :=
  sortByCount (·.2) (·.1) ((all.map fun l => (l, ls.count l)).filter fun e => 0 < e.2)

/-- The number of files of each language, most frequent first. -/
def countFiles (paths : List String) : List (Language × Nat) := tally (paths.filterMap ofPath?)

end Language

namespace LanguageStat

/-- The share of a language in files that are given by language and number of lines. -/
def ofFiles (files : List (Language × Nat)) (l : Language) : LanguageStat :=
  let own := files.filter fun f => f.1 == l
  ⟨l, own.length, total (own.map (·.2))⟩

/-- The share of each language that has a file, most files first. -/
def gather (files : List (Language × Nat)) : List LanguageStat :=
  Language.sortByCount (·.files) (·.language)
    ((Language.all.map (ofFiles files)).filter fun s => 0 < s.files)

/-- The number of lines of a file: a last line without a newline counts if there is something in it. -/
def countLines (bytes : List UInt8) : Nat :=
  let newlines := bytes.count 10
  match bytes.getLast? with
  | none => newlines
  | some b => if b = 10 then newlines else newlines + 1

/-! ## Main languages -/

/-- Is `a` ranked before `b` or alike? More lines come first, then more files, then the name counts. -/
def ranksBefore (a b : LanguageStat) : Bool :=
  b.lines < a.lines || (a.lines == b.lines &&
    (b.files < a.files || (a.files == b.files && decide (a.language.name ≤ b.language.name))))

/-- The stats by rank. -/
def ranked (stats : List LanguageStat) : List LanguageStat := stats.mergeSort ranksBefore

/-- How many files make a language count: a share of all of them, or a number. -/
structure Threshold where
  /-- The share of all files. -/
  share : Binary64
  /-- The number that is enough, whatever the share. -/
  files : Nat
  deriving DecidableEq, Repr

/-- A main language has a tenth of the files, or five. -/
def Threshold.main : Threshold := ⟨.ofRatio false 1 10, 5⟩

/-- A language beside them has a fiftieth of the files, or one. -/
def Threshold.beside : Threshold := ⟨.ofRatio false 2 100, 1⟩

/-- The share of a language in all files. -/
def share (totalFiles : Nat) (s : LanguageStat) : Binary64 := (Binary64.ofNat s.files).div (.ofNat totalFiles)

/-- Does the language have enough of the files? -/
def reaches (t : Threshold) (totalFiles : Nat) (s : LanguageStat) : Bool :=
  t.share.le (s.share totalFiles) || t.files ≤ s.files

/-- At most three main languages. -/
def mostMain : Nat := 3

/-- At most five languages beside them. -/
def mostBeside : Nat := 5

/-- The main languages, and the languages beside them. -/
def split (stats : List LanguageStat) : List Language × List Language :=
  let all := total (stats.map (·.files))
  if all = 0 then ([], [])
  else
    let byRank := ranked stats
    let primary := ((byRank.filter (reaches .main all)).take mostMain).map (·.language)
    let beside := byRank.filter fun s => !primary.contains s.language && s.reaches .beside all
    (primary, (beside.take mostBeside).map (·.language))

/-- The main languages and those beside them, unless there are more files than a counter can hold. Files that have been
counted one by one are never that many. -/
def split? (stats : List LanguageStat) : Option (List Language × List Language) :=
  if total (stats.map (·.files)) ≤ Text.maxWord64 then some (split stats) else none

end LanguageStat

end LintPlan
