import LintPlan.Proofs.Text.ReadingBack
import LintPlan.Repository.Manifests
import Mathlib.Data.List.Basic

/-!
# Visits to manifests

To detect frameworks, one manifest after the other is visited: for each language those of its groups, in the order of the table.
A visit adds frameworks and reasons for warnings to the report and looks at nothing of it but the names of frameworks. So the
report can be told from the list of the visits.

* **`detect_eq_foldl`** — detection is a pass over the visits.
* **`unusable_detect`** — the reasons for warnings are those of the single visits.
* **`frameworks_detect`** — the frameworks are those that the single visits show, each name once.
* **`Manifest.declares_iff`**, **`Manifest.isUnusable_iff`** — what can be read from a manifest, and why it cannot be used.
-/

namespace LintPlan

/-! ## §1 — manifests

What a manifest declares, as a proposition and as a list. -/

namespace Manifest

variable {t : FileTree} {root : Location} {m : Manifest} {dependency : String} {fault : ManifestFault}

/-- Does a manifest that can be read and parsed declare a dependency, in lower case? -/
def Declares (t : FileTree) (root : Location) (m : Manifest) (dependency : String) : Prop :=
  t.isFile root m.file = true ∧ ∃ text names, t.readText root m.file = .ok text ∧
    dependencies m.format text.toList = .ok names ∧ ∃ name ∈ names, dependency = String.ofList (Text.lower name.toList)

/-- Is a manifest there that cannot be read or parsed? -/
def IsUnusable (t : FileTree) (root : Location) (m : Manifest) (fault : ManifestFault) : Prop :=
  t.isFile root m.file = true ∧
    ((∃ osFault, t.readText root m.file = .error osFault ∧ fault = .unreadable osFault) ∨
      ∃ text, t.readText root m.file = .ok text ∧ dependencies m.format text.toList = .error fault)

/-- The dependencies that a manifest declares. A manifest that is missing or cannot be used declares none. -/
def declared (t : FileTree) (root : Location) (m : Manifest) : List String :=
  match m.read? t root with
  | some (.ok deps) => deps
  | _ => []

theorem declared_of_missing (h : t.isFile root m.file = false) : m.declared t root = [] := by
  rw [declared, read?, h]
  rfl

/-- What a manifest declares is a list. -/
theorem declares_iff : m.Declares t root dependency ↔ dependency ∈ m.declared t root := by
  rw [Declares, declared, read?]
  cases t.isFile root m.file with
  | false => simp
  | true =>
    cases t.readText root m.file with
    | error osFault => simp
    | ok text =>
      cases hnames : dependencies m.format text.toList with
      | error fault => simp [hnames]
      | ok names => simp [hnames, eq_comm]

/-- A manifest is unusable when reading it fails. -/
theorem isUnusable_iff : m.IsUnusable t root fault ↔ m.read? t root = some (.error fault) := by
  rw [IsUnusable, read?]
  cases t.isFile root m.file with
  | false => simp
  | true =>
    cases t.readText root m.file with
    | error osFault => simp [eq_comm]
    | ok text =>
      cases hnames : dependencies m.format text.toList with
      | error fault => simp [hnames]
      | ok names => simp [hnames]

theorem declared_of_isUnusable (h : m.IsUnusable t root fault) : m.declared t root = [] := by
  rw [declared, isUnusable_iff.mp h]

end Manifest

/-! ## §2 — single visits

A visit adds the frameworks it shows, or a fault. These two parts of the report do not touch each other. -/

/-- A visit to a manifest for a language. -/
structure Visit where
  /-- The language. -/
  language : Language
  /-- The manifest. -/
  manifest : Manifest
  /-- What its dependencies may show. -/
  signatures : List (String × String)

/-- Adds a framework unless one of this name is there. -/
def Framework.addNew (frameworks : List Framework) (f : Framework) : List Framework :=
  if frameworks.any (·.name == f.name) then frameworks else frameworks ++ [f]

namespace Visit

variable {t : FileTree} {root : Location} {v : Visit} {ls : List Language}

/-- The report with what a visit adds. -/
def report (t : FileTree) (root : Location) (r : FrameworkReport) (v : Visit) : FrameworkReport :=
  v.manifest.consider t root v.language v.signatures r

/-- The frameworks that a visit shows. -/
def shown (t : FileTree) (root : Location) (v : Visit) : List Framework :=
  (v.signatures.filter fun s => (v.manifest.declared t root).any (Text.occurs s.1)).map fun s =>
    ⟨s.2, v.language, v.manifest.file⟩

/-- Why a visit comes to nothing, although there is a manifest. -/
def fault? (t : FileTree) (root : Location) (v : Visit) : Option (String × ManifestFault) :=
  match v.manifest.read? t root with
  | some (.error fault) => some (v.manifest.file, fault)
  | _ => none

theorem frameworks_add (r : FrameworkReport) (f : Framework) : (r.add f).frameworks = Framework.addNew r.frameworks f := by
  rw [FrameworkReport.add, Framework.addNew]
  split <;> rfl

theorem unusable_add (r : FrameworkReport) (f : Framework) : (r.add f).unusable = r.unusable := by
  rw [FrameworkReport.add]
  split <;> rfl

/-- What signatures show is added in their order. -/
theorem frameworks_addShown (l : Language) (file : String) (signatures : List (String × String)) (deps : List String)
    (r : FrameworkReport) : (r.addShown l file signatures deps).frameworks =
      ((signatures.filter fun s => deps.any (Text.occurs s.1)).map fun s => ⟨s.2, l, file⟩).foldl Framework.addNew
        r.frameworks := by
  rw [FrameworkReport.addShown, List.foldl_map, List.foldl_filter]
  -- signature by signature, both sides add the framework or leave it
  induction signatures generalizing r with
  | nil => rfl
  | cons s signatures ih =>
    rw [List.foldl_cons, List.foldl_cons, ih]
    congr 1
    split
    · exact frameworks_add ..
    · rfl

theorem unusable_addShown (l : Language) (file : String) (signatures : List (String × String)) (deps : List String)
    (r : FrameworkReport) : (r.addShown l file signatures deps).unusable = r.unusable := by
  refine List.foldlRecOn (motive := fun r' : FrameworkReport => r'.unusable = r.unusable) signatures _ rfl ?_
  intro r' hr' s _
  split
  · rw [unusable_add, hr']
  · exact hr'

/-- **What a visit adds**: the frameworks that it shows, as far as they are new. -/
theorem frameworks_report (t : FileTree) (root : Location) (r : FrameworkReport) (v : Visit) :
    (report t root r v).frameworks = (v.shown t root).foldl Framework.addNew r.frameworks := by
  unfold report Manifest.consider shown Manifest.declared
  cases v.manifest.read? t root with
  | none => simp
  | some read =>
    cases read with
    | error fault => simp
    | ok deps => exact frameworks_addShown ..

/-- **What a visit adds**: the reason why its manifest cannot be used, whether or not it was told before. -/
theorem unusable_report (t : FileTree) (root : Location) (r : FrameworkReport) (v : Visit) :
    (report t root r v).unusable = r.unusable ++ (v.fault? t root).toList := by
  unfold report Manifest.consider fault?
  cases v.manifest.read? t root with
  | none => exact (List.append_nil _).symm
  | some read =>
    cases read with
    | error fault => rfl
    | ok deps =>
      dsimp only
      rw [unusable_addShown]
      exact (List.append_nil _).symm

/-! ## §3 — all visits

The detection is a fold over visits, and each part of its report is collected on its own. -/

/-- The visits for a language: its groups and their manifests, in the order of the table. -/
def ofLanguage (l : Language) : List Visit :=
  (ManifestGroup.known.filter (·.concerns l)).flatMap fun g => g.manifests.map fun m => ⟨l, m, g.signatures⟩

/-- The visits for some languages, one language after the other. -/
def ofLanguages (ls : List Language) : List Visit := ls.flatMap ofLanguage

/-- The visits for some languages are those for each. -/
theorem mem_ofLanguages : v ∈ ofLanguages ls ↔ v.language ∈ ls ∧ ∃ g ∈ ManifestGroup.known,
    g.concerns v.language = true ∧ v.manifest ∈ g.manifests ∧ v.signatures = g.signatures := by
  simp only [ofLanguages, ofLanguage, List.mem_flatMap, List.mem_filter, List.mem_map]
  constructor
  · rintro ⟨l, hl, g, ⟨hg, hconcerns⟩, m, hm, rfl⟩
    exact ⟨hl, g, hg, hconcerns, hm, rfl⟩
  · rintro ⟨hl, g, hg, hconcerns, hm, hsignatures⟩
    refine ⟨v.language, hl, g, ⟨hg, hconcerns⟩, v.manifest, hm, ?_⟩
    rw [← hsignatures]

/-- **Detection is a pass over the visits.** -/
theorem detect_eq_foldl (t : FileTree) (root : Location) (ls : List Language) :
    Framework.detect t root ls = (ofLanguages ls).foldl (report t root) ⟨[], []⟩ := by
  simp only [Framework.detect, ofLanguages, ofLanguage, List.foldl_flatMap, List.foldl_map]
  rfl

theorem frameworks_foldl_report (vs : List Visit) (r : FrameworkReport) :
    (vs.foldl (report t root) r).frameworks = (vs.flatMap (shown t root)).foldl Framework.addNew r.frameworks := by
  induction vs generalizing r with
  | nil => rfl
  | cons v vs ih => rw [List.foldl_cons, ih, frameworks_report, List.flatMap_cons, List.foldl_append]

theorem unusable_foldl_report (vs : List Visit) (r : FrameworkReport) :
    (vs.foldl (report t root) r).unusable = r.unusable ++ vs.filterMap (fault? t root) := by
  induction vs generalizing r with
  | nil => exact (List.append_nil _).symm
  | cons v vs ih =>
    rw [List.foldl_cons, ih, unusable_report, List.filterMap_cons, List.append_assoc]
    cases v.fault? t root <;> rfl

/-- **The frameworks** of a report are those that the visits show, each name once. -/
theorem frameworks_detect (t : FileTree) (root : Location) (ls : List Language) :
    (Framework.detect t root ls).frameworks = ((ofLanguages ls).flatMap (shown t root)).foldl Framework.addNew [] := by
  rw [detect_eq_foldl, frameworks_foldl_report]

/-- **The reasons for warnings** are those of the single visits. -/
theorem unusable_detect (t : FileTree) (root : Location) (ls : List Language) :
    (Framework.detect t root ls).unusable = (ofLanguages ls).filterMap (fault? t root) := by
  rw [detect_eq_foldl, unusable_foldl_report, List.nil_append]

end Visit

end LintPlan
