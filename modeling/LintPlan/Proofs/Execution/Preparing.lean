import LintPlan.Proofs.Execution.Transitions
import LintPlan.Proofs.FileSystem.Replacing

/-!
# Preparing a repository

Before the container is started, the repository is found and the plan is written into it. When this succeeds, the container
gets the place that was found, and the file of the plan was replaced (**`prepare_ok`**). What the file holds then is the plan,
as long as neither the directory of the plan nor the temporary file is a link.
-/

namespace LintPlan

open FileTree

/-- Neither the directory of the plan nor the temporary file in it is a link, in a repository at a place. -/
structure Unlinked (files : FileTree) (place : Location) : Prop where
  directory : ∀ target, files.get? (place ++ [Runner.planDirectory]) ≠ some (.link target)
  temporary : ∀ target,
    files.get? (place ++ [Runner.planDirectory] ++ [temporaryName Runner.planFile]) ≠ some (.link target)

/-- What a runner has done that prepared the repository of a request: where the repository is, what the engine is to run, and
the files afterwards. -/
structure Preparation (r : Runner) (id : String) (q : RunRequest) (place : Location) (spec : RunSpec) (files : FileTree) :
    Prop where
  /-- The path of the repository leads to the place. -/
  resolved : ∃ node, r.files.resolve r.setup.here q.repository = .ok (place, node)
  /-- The container gets this place, and what else the plan asks for. -/
  spec_eq : spec = .ofConfiguration q.configuration (Path.absolute place) r.setup.image (Runner.containerName id)
  /-- The file of the plan has been replaced, if the runner is set up to write plans; nothing else has been done to files. -/
  written : (if r.setup.writesPlan then
      (replaceFile [] (Runner.planPath (Path.absolute place)) (PlanText.render q.configuration)).on r.files
    else (r.files, .ok ())) = (files, .ok ())
  /-- It holds exactly the plan, unless there is a link in the way. -/
  plan : r.setup.writesPlan = true → Path.isAbsolute q.repository = true ∨ r.files.IsPlace r.setup.here →
    Unlinked r.files place →
      files.readText [] (Runner.planPath (Path.absolute place)) = .ok (PlanText.render q.configuration)

/-! ## §1 — the file of the plan

Its path and its name. -/

/-- The names that a plan adds to the place of its repository. -/
theorem isEntryName_plan :
    IsEntryName Runner.planDirectory ∧ IsEntryName Runner.planFile ∧ IsEntryName (temporaryName Runner.planFile) := by
  refine ⟨⟨⟨?_, ?_, ?_⟩, ?_⟩, ⟨⟨?_, ?_, ?_⟩, ?_⟩, ⟨⟨?_, ?_, ?_⟩, ?_⟩⟩ <;> decide

theorem planPath_absolute {place : Location} (hplace : ∀ name ∈ place, Path.IsName name) :
    Runner.planPath (Path.absolute place) = Path.absolute (place ++ [Runner.planDirectory] ++ [Runner.planFile]) := by
  obtain ⟨hdirectory, hfile, -⟩ := isEntryName_plan
  rw [Runner.planPath, Path.append_absolute hplace hdirectory.toIsName,
    Path.append_absolute (Path.isName_concat hplace hdirectory.toIsName) hfile.toIsName]

/-- **The file holds the plan** after it was replaced, unless there is a link in the way. -/
theorem readText_plan {files files' : FileTree} {place : Location} {text : String} (hplace : files.IsResolved place)
    (hunlinked : Unlinked files place)
    (h : (replaceFile [] (Runner.planPath (Path.absolute place)) text).on files = (files', .ok ())) :
    files'.readText [] (Runner.planPath (Path.absolute place)) = .ok text := by
  obtain ⟨hdirectory, hfile, htemporary⟩ := isEntryName_plan
  rw [planPath_absolute hplace.isName] at h ⊢
  exact (readText_replaceFile hplace hdirectory hfile htemporary hunlinked.directory hunlinked.temporary h).1

/-! ## §2 — preparing

What a preparation that succeeds has done. -/

variable {r r' : Runner} {id : String} {q : RunRequest} {spec : RunSpec}

/-- **Preparing a repository**, when it succeeds. -/
theorem prepare_ok (h : r.prepare id q = (r', .ok spec)) : ∃ place, Preparation r id q place spec r'.files := by
  rcases prepare_cases r id q with ⟨fault, -, hran⟩ | ⟨place, node, files, outcome, hresolve, hwritten, hran⟩
  · rw [h] at hran
    cases hran
  · rw [h] at hran
    cases outcome with
    | error fault => cases hran
    | ok _ =>
      cases hran
      refine ⟨place, ⟨node, hresolve⟩, rfl, hwritten, ?_⟩
      intro hwrites hhere hunlinked
      rw [if_pos hwrites] at hwritten
      exact readText_plan (resolve_sound hhere hresolve) hunlinked hwritten

end LintPlan
