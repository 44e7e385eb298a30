import LintPlan.Planning.Plan
import LintPlan.Proofs.Execution.Preparing
import LintPlan.Proofs.Repository.PassedBy

/-!
# Plans that are not seen

The plan is written into the repository that it is for, into a directory that no walk enters. So the repository is seen as it
was before, and what is planned for it is the same again. Only a link can show the plan: the files with certain names at the
root are looked up through links, and so is the path to the repository.

* **`ofRoot_unseen`** — the profile of a repository after the plan was written.
* **`prepare_unseen`** — after a repository was prepared, the same is shown and planned.
* **`prepare_seen`** — a link to the plan that has the name of a makefile shows a build tool.
-/

namespace LintPlan

open FileTree

variable {files files' : FileTree} {place here root : Location} {path text : String}

/-! ## §1 — the places that change

Preparing changes three places, all in or at the directory of the plan. -/

/-- The places that change when the plan is written into a repository. -/
def planPlaces (files : FileTree) (place : Location) : List Location :=
  files.touched (place ++ [Runner.planDirectory]) Runner.planFile

/-- Is nothing looked up on a path that changes when the plan is written? -/
def LeadsPast (files : FileTree) (place here : Location) (path : String) : Prop :=
  ∀ loc ∈ files.placesOn here path, loc ∉ planPlaces files place

instance (files : FileTree) (place here : Location) (path : String) : Decidable (LeadsPast files place here path) :=
  inferInstanceAs (Decidable (∀ loc ∈ files.placesOn here path, loc ∉ planPlaces files place))

theorem prefix_of_mem_planPlaces {loc : Location} (h : loc ∈ planPlaces files place) : place ++ [Runner.planDirectory] <+: loc :=
  prefix_of_mem_touched h

/-- What lies above the directory of the plan does not change. -/
theorem not_mem_planPlaces_above {loc : Location} (h : loc <+: place) : loc ∉ planPlaces files place :=
  fun hmem => not_concat_above place _ ((prefix_of_mem_planPlaces hmem).trans h)

/-- What the plan has been written to: only the places of the plan have changed, in a directory that is one. -/
structure PlanWritten (files files' : FileTree) (place : Location) : Prop where
  directory : files'.IsPlace (place ++ [Runner.planDirectory])
  before : files.get? (place ++ [Runner.planDirectory]) = none ∨ files.get? (place ++ [Runner.planDirectory]) = some .directory
  elsewhere : ∀ l : List FileName, (∀ loc ∈ planPlaces files place, l ≠ loc.map .ofText) → files'.at? l = files.at? l

theorem planWritten (hplace : files.IsResolved place) (hunlinked : Unlinked files place)
    (h : (replaceFile [] (Runner.planPath (Path.absolute place)) text).on files = (files', .ok ())) :
    PlanWritten files files' place := by
  obtain ⟨hdirectory, hfile, htemporary⟩ := isEntryName_plan
  rw [planPath_absolute hplace.isName] at h
  obtain ⟨hthere, hbefore, helsewhere⟩ :=
    replaceFile_elsewhere hplace hdirectory hfile htemporary hunlinked.directory hunlinked.temporary h
  exact ⟨hthere, hbefore, helsewhere⟩

namespace PlanWritten

/-- Of the places that paths lead to, too, only those of the plan have changed. -/
theorem get?_eq (h : PlanWritten files files' place) {loc : Location} (hloc : loc ∉ planPlaces files place) :
    files'.get? loc = files.get? loc := by
  refine h.elsewhere _ fun other hother heq => hloc ?_
  rwa [FileName.map_ofText_inj.mp heq]

/-- The repository is a place also without the plan. -/
theorem isPlace (h : PlanWritten files files' place) : files.IsPlace place := by
  have hafter := h.directory.mono (List.prefix_append place _)
  refine ⟨hafter.names, fun habove => ?_⟩
  rw [← h.get?_eq (not_mem_planPlaces_above habove)]
  exact hafter.directories habove

/-! ## §2 — what is seen

Neither the walk nor the look-ups at the root come by there. -/

/-- **Past the plan**, a path leads to the same. -/
theorem node_eq (h : PlanWritten files files' place) (hpast : LeadsPast files place here path) :
    files'.node here path = files.node here path :=
  node_congr fun loc hloc => h.get?_eq (hpast loc hloc)

/-- A walk does not enter that directory, as its name starts with a dot. -/
theorem walk_eq (h : PlanWritten files files' place) (depth : Nat) :
    files'.walk (.toDepth depth) place = files.walk (.toDepth depth) place := by
  have hplace : (place ++ [Runner.planDirectory]).map FileName.ofText = place.map .ofText ++ [.ofText Runner.planDirectory] :=
    List.map_append
  have hskip : (WalkOptions.toDepth depth).entersNamed (.ofText Runner.planDirectory) = false := by
    rw [WalkOptions.entersNamed, FileName.text?_ofText]
    rfl
  refine walk_congr hskip ?_ ?_ fun l hl => h.elsewhere l ?_
  · intro there hthere
    rw [← hplace] at hthere
    rcases h.before with hnone | hdirectory
    · cases hnone.symm.trans hthere
    · cases hdirectory.symm.trans hthere
      rfl
  · intro there hthere
    rw [← hplace] at hthere
    cases (h.directory.directories (List.prefix_refl _)).symm.trans hthere
    rfl
  · rintro loc hloc rfl
    exact hl (hplace ▸ (prefix_of_mem_planPlaces hloc).map _)

/-- **The profile does not show the plan**, if no file at the root leads to it. -/
theorem ofRoot_unseen (h : PlanWritten files files' place) (hroot : ∀ file ∈ Profile.rootFiles, LeadsPast files place place file)
    (depths : AnalysisDepths) : Profile.ofRoot files' depths place = Profile.ofRoot files depths place :=
  Profile.ofRoot_congr (h.walk_eq depths.scan) fun file hfile => h.node_eq (hroot file hfile)

end PlanWritten

/-! ## §3 — what is planned

So what is planned afterwards is the same. -/

/-- Are the same profile and the same plans made for the repository at a path, with every depth and all preferences? -/
def SamePlans (files files' : FileTree) (here : Location) (path : String) : Prop :=
  ∀ depths prefs,
    Profile.analyze files' here depths path = Profile.analyze files here depths path ∧
      (Profile.analyze files' here depths path).map (Planning.plan · prefs) =
        (Profile.analyze files here depths path).map (Planning.plan · prefs)

theorem samePlans_of_analyze (h : ∀ depths, Profile.analyze files' here depths path = Profile.analyze files here depths path) :
    SamePlans files files' here path :=
  fun depths prefs => ⟨h depths, by rw [h depths]⟩

/-- Where the path of a place leads, if it leads to a directory. -/
theorem eq_of_repositoryRoot (h : files.IsPlace place) (hroot : files.repositoryRoot [] (Path.absolute place) = .ok root) :
    root = place := by
  obtain rfl | ⟨above, name, rfl⟩ := place.eq_nil_or_concat'
  · cases hroot
    rfl
  · have hthere : files.get? (above ++ [name]) = some .directory := h.directories (List.prefix_refl _)
    unfold repositoryRoot FileTree.node at hroot
    by_cases hfits : Fits (Path.absolute (above ++ [name]))
    · have hfind := find_isPlace true (h.mono (List.prefix_append _ _)) (h.names name (by simp)) hfits (by rw [hthere]; exact nofun)
      rw [hfind, hthere] at hroot
      exact (Except.ok.inj hroot).symm
    · obtain ⟨fault, -, hnowhere⟩ := find_of_not_fits hfits
      rw [hnowhere] at hroot
      cases fault <;> cases hroot

theorem leadsPast_absolute (h : files.IsPlace place) : LeadsPast files place here (Path.absolute place) :=
  fun loc hloc => not_mem_planPlaces_above (h.placesOn_absolute loc hloc)

/-- **What is planned for a repository is planned again** after it was prepared, under the path with all links followed and under
every other path that leads to it. -/
theorem prepare_unseen {r r' : Runner} {id : String} {q : RunRequest} {spec : RunSpec} {node : FileNode}
    (h : r.prepare id q = (r', .ok spec)) (hhere : Path.isAbsolute q.repository = true ∨ r.files.IsPlace r.setup.here)
    (hplace : r.files.resolve r.setup.here q.repository = .ok (place, node)) (hunlinked : Unlinked r.files place)
    (hroot : ∀ file ∈ Profile.rootFiles, LeadsPast r.files place place file) :
    SamePlans r.files r'.files [] (Path.absolute place) ∧
      ∀ here path, r.files.repositoryRoot here path = .ok place → LeadsPast r.files place here path →
        SamePlans r.files r'.files here path := by
  obtain ⟨found, hprepared⟩ := prepare_ok h
  obtain ⟨node', hfound⟩ := hprepared.resolved
  cases hplace.symm.trans hfound
  have hwritten := hprepared.written
  by_cases hwrites : r.setup.writesPlan = true
  · rw [if_pos hwrites] at hwritten
    have hplan := planWritten (resolve_sound hhere hplace) hunlinked hwritten
    -- once for the place itself and once for any other path that leads there
    have hsame : ∀ here path, (∀ root, r.files.repositoryRoot here path = .ok root → root = place) →
        LeadsPast r.files place here path → SamePlans r.files r'.files here path := by
      intro here path hleads hpast
      refine samePlans_of_analyze fun depths => ?_
      have hagain : r'.files.repositoryRoot here path = r.files.repositoryRoot here path := by
        rw [repositoryRoot, repositoryRoot, hplan.node_eq hpast]
      rw [Profile.analyze, Profile.analyze, hagain]
      cases hfind : r.files.repositoryRoot here path with
      | error fault => rfl
      | ok root =>
        cases hleads root hfind
        exact congrArg Except.ok (hplan.ofRoot_unseen hroot depths)
    constructor
    · exact hsame [] _ (fun root => eq_of_repositoryRoot hplan.isPlace) (leadsPast_absolute hplan.isPlace)
    · exact fun here path hleads => hsame here path fun root hfind => (Except.ok.inj (hleads.symm.trans hfind)).symm
  · -- without writing plans the files are as they were
    rw [if_neg hwrites] at hwritten
    have hfiles : r'.files = r.files := (congrArg Prod.fst hwritten).symm
    rw [hfiles]
    exact ⟨samePlans_of_analyze fun _ => rfl, fun _ _ _ _ => samePlans_of_analyze fun _ => rfl⟩

/-- A runner that writes plans. -/
def planWriting (files : FileTree) : Runner := .idle ⟨"docker", "image", true, []⟩ files

/-- A request with nothing to run, for the root directory. -/
def rootRequest : RunRequest := ⟨.standard, "/"⟩

/-- A makefile that is a link into the directory of the plan, to a file beside the plan. -/
def linkedBeside : FileTree :=
  ((FileTree.empty.put [".lintscope"] .directory).put [".lintscope", "rules.mk"] (.file [] false)).put
    ["Makefile"] (.link ".lintscope/rules.mk")

/-- Preparing, when it is known to succeed. -/
theorem prepare_of_isOk {r : Runner} {id : String} {q : RunRequest} (h : (r.prepare id q).2.isOk = true) :
    ∃ spec, r.prepare id q = ((r.prepare id q).1, .ok spec) := by
  cases houtcome : (r.prepare id q).2 with
  | error fault =>
    rw [houtcome] at h
    cases h
  | ok spec => exact ⟨spec, Prod.ext rfl houtcome⟩

/-- A repository with a link that leads past its plan. -/
theorem prepare_unseen_linkedBeside :
    ∃ r' spec, (planWriting linkedBeside).prepare "only" rootRequest = (r', .ok spec) ∧
      r'.files.isFile [] "/.lintscope/lint.env" = true ∧ SamePlans linkedBeside r'.files [] "/" := by
  obtain ⟨spec, hprepare⟩ := prepare_of_isOk (show ((planWriting linkedBeside).prepare "only" rootRequest).2.isOk = true by
    decide +kernel)
  have hdirectory : linkedBeside.get? [".lintscope"] = some .directory := by decide
  have htemporary : linkedBeside.get? [".lintscope", ".lint.env.tmp"] = none := by decide
  have hunlinked : Unlinked linkedBeside [] :=
    ⟨fun _ => ne_of_eq_of_ne hdirectory nofun, fun _ => ne_of_eq_of_ne htemporary nofun⟩
  refine ⟨_, spec, hprepare, by decide +kernel, ?_⟩
  exact (prepare_unseen hprepare (.inl rfl) (show linkedBeside.resolve [] "/" = .ok ([], .directory) by rfl) hunlinked
    (by decide)).1

/-! ## §4 — what may be seen

A link at the root that leads to the plan is looked through. -/

/-- A makefile that is a link to the plan. -/
def linkedToPlan : FileTree := FileTree.empty.put ["Makefile"] (.link ".lintscope/lint.env")

/-- **A link may show the plan:** where the makefile is a link to the plan, there is none before the plan is written. -/
theorem prepare_seen :
    ∃ r' spec p p', (planWriting linkedToPlan).prepare "only" rootRequest = (r', .ok spec) ∧
      linkedToPlan.get? [".lintscope"] = none ∧ Unlinked linkedToPlan [] ∧
      Profile.analyze linkedToPlan [] .standard "/" = .ok p ∧ p.buildTools = [] ∧
      Profile.analyze r'.files [] .standard "/" = .ok p' ∧ p'.buildTools = [⟨"make", "Makefile"⟩] := by
  obtain ⟨spec, hprepare⟩ := prepare_of_isOk (show ((planWriting linkedToPlan).prepare "only" rootRequest).2.isOk = true by
    decide +kernel)
  have hdirectory : linkedToPlan.get? [".lintscope"] = none := by decide
  have htemporary : linkedToPlan.get? [".lintscope", ".lint.env.tmp"] = none := by decide
  refine ⟨_, spec, Profile.ofRoot linkedToPlan .standard [],
    Profile.ofRoot ((planWriting linkedToPlan).prepare "only" rootRequest).1.files .standard [], hprepare, hdirectory, ?_, rfl,
    by decide, rfl, by decide +kernel⟩
  exact ⟨fun _ => ne_of_eq_of_ne hdirectory nofun, fun _ => ne_of_eq_of_ne htemporary nofun⟩

end LintPlan
