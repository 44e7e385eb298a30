import LintPlan.Proofs.Repository.Languages
import LintPlan.Proofs.Repository.Visits
import LintPlan.Proofs.Text.ReadingBack

/-!
# Warnings about manifests

A manifest that cannot be used leaves a warning. The table has every file once, and no name in it has a colon, so a warning tells
by its first words which manifest it is about. How often the warning comes depends on the languages: a manifest is visited for
each language that it belongs to, and each visit repeats the warning, while a framework that is found again is passed over.

* **`Manifest.warnings_detect`** — the warnings are those about the manifests of each language, one language after the other.
* **`Manifest.filter_warningsFor`** — a language leaves one warning about each manifest of it that cannot be used.
* **`Manifest.filter_warnings_detect`** — several leave as many as there are languages that the manifest belongs to.
* **`Framework.warnings_exact`** — which files the warnings name, and how often. It is not once whenever the languages are
  distinct (`Framework.warning_repeated`).
-/

namespace LintPlan

namespace Manifest

variable {t : FileTree} {root : Location} {m : Manifest} {fault : ManifestFault} {text file : String} {l : Language}
  {ls : List Language}

/-! ## §1 — the warning about a manifest

A warning starts with the name of the file, so warnings can be counted by file. -/

/-- The warning about a manifest with a fault. -/
def warning (m : Manifest) (fault : ManifestFault) : String := m.file ++ ": " ++ fault.message

/-- The file that a warning names. It ends before the first colon. -/
def fileOf (text : String) : String := String.ofList (text.toList.takeWhile (· != ':'))

/-- The warning about a manifest, if it cannot be used. -/
def warning? (t : FileTree) (root : Location) (m : Manifest) : Option String :=
  match m.read? t root with
  | some (.error fault) => some (m.warning fault)
  | _ => none

/-- There is a warning exactly for a manifest that is there and cannot be used. -/
theorem warning?_eq_some_iff :
    m.warning? t root = some text ↔ ∃ fault, m.IsUnusable t root fault ∧ text = m.warning fault := by
  simp only [isUnusable_iff, warning?]
  split
  · next fault hread => simp [hread, eq_comm]
  · next hother =>
    -- whatever was read is no fault
    constructor
    · intro h
      cases h
    · rintro ⟨fault, hread, -⟩
      exact absurd hread (hother fault)

theorem warning?_of_isUnusable (h : m.IsUnusable t root fault) : m.warning? t root = some (m.warning fault) :=
  warning?_eq_some_iff.mpr ⟨fault, h, rfl⟩

/-- The file of a warning can be told from its text. -/
theorem fileOf_warning (h : ':' ∉ m.file.toList) (fault : ManifestFault) : fileOf (m.warning fault) = m.file := by
  have hname : ∀ c ∈ m.file.toList, (c != ':') = true := by
    intro c hc
    apply bne_iff_ne.mpr
    rintro rfl
    exact h hc
  have htext : (m.warning fault).toList = m.file.toList ++ ':' :: ' ' :: fault.message.toList := by
    rw [warning, String.toList_append, String.toList_append, List.append_assoc]
    rfl
  rw [fileOf, htext, Text.takeWhile_append_cons hname (by decide), String.ofList_toList]

/-- A warning about a manifest names no other file. -/
theorem filter_warning? (h : ':' ∉ m.file.toList) (file : String) :
    (m.warning? t root).filter (fileOf · == file) = if m.file == file then m.warning? t root else none := by
  cases hwarning : m.warning? t root with
  | none => simp
  | some text =>
    obtain ⟨fault, -, rfl⟩ := warning?_eq_some_iff.mp hwarning
    rw [Option.filter_some, fileOf_warning h]

/-! ## §2 — the manifests of a language

A language looks at each of its manifests once. -/

/-- The manifests that belong to a language, in the order of the table. -/
def ofLanguage (l : Language) : List Manifest :=
  (ManifestGroup.known.filter (·.concerns l)).flatMap (·.manifests)

theorem map_manifest_ofLanguage (l : Language) : (Visit.ofLanguage l).map (·.manifest) = ofLanguage l := by
  simp only [ofLanguage, Visit.ofLanguage, List.map_flatMap, List.map_map, Function.comp_def, List.map_id']

theorem colon_not_mem_file (hm : m ∈ ofLanguage l) : ':' ∉ m.file.toList := by
  have htable : ∀ l ∈ Language.all, ∀ m ∈ ofLanguage l, ':' ∉ m.file.toList := by decide +kernel
  exact htable l (Language.mem_all l) m hm

/-- **Of the manifests of a language** one at most has a given file, for the table has every file once. -/
theorem filter_ofLanguage (hm : m ∈ ofLanguage l) (other : Language) :
    (ofLanguage other).filter (·.file == m.file) = if m ∈ ofLanguage other then [m] else [] := by
  have htable : ∀ l ∈ Language.all, ∀ m ∈ ofLanguage l, ∀ other ∈ Language.all,
      (ofLanguage other).filter (·.file == m.file) = if m ∈ ofLanguage other then [m] else [] := by decide +kernel
  exact htable l (Language.mem_all l) m hm other (Language.mem_all other)

/-! ## §3 — the warnings for one language and for several

Warnings add up over the languages. -/

/-- The warnings about the manifests of a language. -/
def warningsFor (t : FileTree) (root : Location) (l : Language) : List String := (ofLanguage l).filterMap (warning? t root)

/-- **The warnings** are those about the manifests of each language, one language after the other. -/
theorem warnings_detect (t : FileTree) (root : Location) (ls : List Language) :
    (Framework.detect t root ls).warnings = ls.flatMap (warningsFor t root) := by
  rw [FrameworkReport.warnings, Visit.unusable_detect, Visit.ofLanguages, List.filterMap_flatMap, List.map_flatMap]
  refine List.flatMap_congr fun l _ => ?_
  rw [warningsFor, ← map_manifest_ofLanguage, List.map_filterMap, List.filterMap_map]
  refine List.filterMap_congr fun v _ => ?_
  rw [Visit.fault?, Function.comp_apply, warning?]
  cases v.manifest.read? t root with
  | none => rfl
  | some read => cases read <;> rfl

/-- **One language**: if a manifest cannot be used, there is one warning about it if it belongs to the language, and none if it
does not. -/
theorem filter_warningsFor (hm : m ∈ ofLanguage l) (h : m.IsUnusable t root fault) (other : Language) :
    (warningsFor t root other).filter (fileOf · == m.file) = if m ∈ ofLanguage other then [m.warning fault] else [] := by
  have hnamed : (warningsFor t root other).filter (fileOf · == m.file) =
      ((ofLanguage other).filter (·.file == m.file)).filterMap (warning? t root) := by
    -- a manifest with another file leaves no warning that names this one
    rw [warningsFor, List.filter_filterMap, List.filterMap_filter]
    exact List.filterMap_congr fun m' hm' => filter_warning? (colon_not_mem_file hm') m.file
  rw [hnamed, filter_ofLanguage hm other]
  split
  · rw [List.filterMap_cons_some (warning?_of_isUnusable h), List.filterMap_nil]
  · rfl

/-- **Several languages**: there are as many warnings about a manifest that cannot be used as languages that it belongs to. -/
theorem filter_warnings_detect (hm : m ∈ ofLanguage l) (h : m.IsUnusable t root fault) (ls : List Language) :
    (Framework.detect t root ls).warnings.filter (fileOf · == m.file) =
      List.replicate (ls.countP fun l => m ∈ ofLanguage l) (m.warning fault) := by
  rw [warnings_detect]
  -- on the languages in the order of the visits: each adds its own warning or none, whatever the others did
  induction ls with
  | nil => rfl
  | cons l' ls ih =>
    rw [List.flatMap_cons, List.filter_append, filter_warningsFor hm h l', ih]
    by_cases hmem : m ∈ ofLanguage l'
    · rw [if_pos hmem, List.countP_cons_of_pos (by simpa using hmem), List.replicate_succ, List.singleton_append]
    · rw [if_neg hmem, List.countP_cons_of_neg (by simpa using hmem), List.nil_append]

theorem exists_warning_iff : (∃ text ∈ (Framework.detect t root ls).warnings, fileOf text = file) ↔
    ∃ l ∈ ls, ∃ m ∈ ofLanguage l, m.file = file ∧ ∃ fault, m.IsUnusable t root fault := by
  simp only [warnings_detect, List.mem_flatMap, warningsFor, List.mem_filterMap, warning?_eq_some_iff]
  constructor
  · rintro ⟨text, ⟨l, hl, m, hm, fault, hunusable, rfl⟩, rfl⟩
    exact ⟨l, hl, m, hm, (fileOf_warning (colon_not_mem_file hm) fault).symm, fault, hunusable⟩
  · rintro ⟨l, hl, m, hm, rfl, fault, hunusable⟩
    exact ⟨m.warning fault, ⟨l, hl, m, hm, fault, hunusable, rfl⟩, fileOf_warning (colon_not_mem_file hm) fault⟩

/-! ## §4 — languages that share manifests

A manifest that two languages look at is warned about twice. -/

/-- Does a manifest belong to both of two languages? -/
def Shared (a b : Language) : Prop := ∃ m ∈ ofLanguage a, m ∈ ofLanguage b

instance (a b : Language) : Decidable (Shared a b) := inferInstanceAs (Decidable (∃ m ∈ ofLanguage a, m ∈ ofLanguage b))

/-- If no two languages share a manifest, it belongs to one of them at most. -/
theorem countP_mem_ofLanguage (hl : l ∈ ls) (hm : m ∈ ofLanguage l) (h : ls.Pairwise fun a b => ¬ Shared a b) :
    (ls.countP fun l => m ∈ ofLanguage l) = 1 := by
  induction ls with
  | nil => cases hl
  | cons l' ls ih =>
    rw [List.pairwise_cons] at h
    rw [List.mem_cons] at hl
    by_cases hfirst : m ∈ ofLanguage l'
    · -- no other language shares the manifest with this one
      have hothers : (ls.countP fun l => m ∈ ofLanguage l) = 0 := by
        apply List.countP_eq_zero.mpr
        intro a ha hother
        exact h.1 a ha ⟨m, hfirst, of_decide_eq_true hother⟩
      rw [List.countP_cons_of_pos (by simpa using hfirst), hothers]
    · have hrest : l ∈ ls := hl.resolve_left fun heq => hfirst (heq ▸ hm)
      rw [List.countP_cons_of_neg (by simpa using hfirst), ih hrest h.2]

end Manifest

/-! ## §5 — the warnings of a detection

How many warnings there are, for any languages. -/

namespace Framework

open Manifest

/-- **Which warnings there are.** The files that warnings name are those of the manifests that belong to one of the languages
and cannot be read or parsed. About each such manifest the same warning comes as often as languages are listed that it belongs
to; so it comes once if no two of them share a manifest. -/
theorem warnings_exact (t : FileTree) (root : Location) (ls : List Language) :
    (∀ file, (∃ text ∈ (detect t root ls).warnings, fileOf text = file) ↔
      ∃ l ∈ ls, ∃ m ∈ ofLanguage l, m.file = file ∧ ∃ fault, m.IsUnusable t root fault) ∧
      (∀ l ∈ ls, ∀ m ∈ ofLanguage l, ∀ fault, m.IsUnusable t root fault →
        (detect t root ls).warnings.filter (fileOf · == m.file) =
          List.replicate (ls.countP fun l => m ∈ ofLanguage l) (m.warning fault)) ∧
      ((ls.Pairwise fun a b => ¬ Shared a b) → ∀ l ∈ ls, ∀ m ∈ ofLanguage l, ∀ fault, m.IsUnusable t root fault →
        (detect t root ls).warnings.filter (fileOf · == m.file) = [m.warning fault]) := by
  refine ⟨fun file => exists_warning_iff, fun l _ m hm fault h => filter_warnings_detect hm h ls, ?once⟩
  case once =>
    intro hls l hl m hm fault h
    rw [filter_warnings_detect hm h ls, countP_mem_ofLanguage hl hm hls, List.replicate_one]

/-- A package manifest that ends too early. -/
def cutOffPackage : FileTree := FileTree.empty.put ["package.json"] (.file [123] false)

/-- The same beside a list of requirements that is no text. -/
def twoUnusable : FileTree := cutOffPackage.put ["requirements.txt"] (.file [255] false)

/-- Two broken manifests for two languages that share none: one warning each. -/
theorem warnings_exact_twoUnusable :
    ([.javaScript, .python].Pairwise fun a b => ¬ Shared a b) ∧
      (⟨"package.json", .package⟩ : Manifest).IsUnusable twoUnusable [] (.badJson ⟨.cutOff .object, ⟨1, 1⟩⟩) ∧
      (⟨"requirements.txt", .lines⟩ : Manifest).IsUnusable twoUnusable [] (.unreadable .notText) ∧
      (detect twoUnusable [] [.javaScript, .python]).warnings.filter (fileOf · == "package.json") =
        ["package.json: invalid JSON (EOF while parsing an object at line 1 column 1)"] ∧
      (detect twoUnusable [] [.javaScript, .python]).warnings.filter (fileOf · == "requirements.txt") =
        ["requirements.txt: unreadable (stream did not contain valid UTF-8)"] := by
  have hapart : [.javaScript, .python].Pairwise fun a b => ¬ Shared a b := by decide +kernel
  have hpackage : (⟨"package.json", .package⟩ : Manifest).IsUnusable twoUnusable []
      (.badJson ⟨.cutOff .object, ⟨1, 1⟩⟩) := Manifest.isUnusable_iff.mpr (by decide +kernel)
  have hrequirements : (⟨"requirements.txt", .lines⟩ : Manifest).IsUnusable twoUnusable [] (.unreadable .notText) :=
    Manifest.isUnusable_iff.mpr (by decide)
  have honce := (warnings_exact twoUnusable [] [.javaScript, .python]).2.2 hapart
  refine ⟨hapart, hpackage, hrequirements, ?package, ?requirements⟩
  case package =>
    apply (honce .javaScript (by decide) _ (by decide) _ hpackage).trans
    decide
  case requirements =>
    apply (honce .python (by decide) _ (by decide) _ hrequirements).trans
    decide

/-- Two distinct languages that share a manifest leave the same warning twice. -/
theorem warning_repeated :
    [Language.typeScript, .javaScript].Nodup ∧
      (⟨"package.json", .package⟩ : Manifest) ∈ ofLanguage .typeScript ∧
      (⟨"package.json", .package⟩ : Manifest).IsUnusable cutOffPackage [] (.badJson ⟨.cutOff .object, ⟨1, 1⟩⟩) ∧
      ((detect cutOffPackage [] [.typeScript, .javaScript]).warnings.filter (fileOf · == "package.json")).length = 2 := by
  refine ⟨?distinct, ?belongs, Manifest.isUnusable_iff.mpr ?unusable, ?twice⟩ <;> decide

end Framework

end LintPlan
