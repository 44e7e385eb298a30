import LintPlan.Proofs.Execution.Unseen

/-!
# Where a preparation writes

The plan is the only thing that a preparation writes, and it is written into a directory of the repository. What is in that
directory already is up to whoever made the repository, and so is how far the preparation gets.

* **`prepare_confined`** — outside of the directory of the plan everything stays as it is, however far the preparation gets, as
  long as neither this directory nor the temporary file in it is a link.
* **`prepare_escapes`** — through a link in either place the plan is written outside of the repository.
-/

namespace LintPlan

open FileTree

/-! ## §1 — inside, however far it gets

Preparing changes nothing but the plan, its temporary file and their directory, also if it fails half-way. -/

theorem replacePlan_at? {files : FileTree} {place : Location} {l : List FileName} {text : String} (hplace : files.IsResolved place)
    (hunlinked : Unlinked files place) (hl : ∀ loc ∈ planPlaces files place, l ≠ loc.map .ofText) :
    ((replaceFile [] (Runner.planPath (Path.absolute place)) text).on files).1.at? l = files.at? l := by
  obtain ⟨hdirectory, hfile, htemporary⟩ := isEntryName_plan
  rw [planPath_absolute hplace.isName]
  exact replaceFile_at? hplace hdirectory hfile htemporary hunlinked.directory hunlinked.temporary hl

/-- **A preparation keeps inside the directory of the plan.** If the repository is not found, nothing changes at all. If it is
found, what changes is in this directory, no matter what the repository holds and whether the preparation succeeds; but
neither the directory nor the temporary file in it may be a link. -/
theorem prepare_confined (r : Runner) (id : String) (q : RunRequest)
    (hhere : Path.isAbsolute q.repository = true ∨ r.files.IsPlace r.setup.here) :
    (∀ fault, r.files.resolve r.setup.here q.repository = .error fault → (r.prepare id q).1 = r) ∧
      ∀ place node, r.files.resolve r.setup.here q.repository = .ok (place, node) → Unlinked r.files place →
        ∀ l : List FileName, ¬ (place ++ [Runner.planDirectory]).map .ofText <+: l →
          (r.prepare id q).1.files.at? l = r.files.at? l := by
  rcases prepare_cases r id q with ⟨fault, hlost, hran⟩ | ⟨place, node, files, outcome, hfound, hwritten, hran⟩
  · rw [hran]
    refine ⟨fun _ _ => rfl, fun place node hfound => ?_⟩
    rw [hlost] at hfound
    cases hfound
  · refine ⟨fun fault hlost => ?_, fun place' node' hfound' hunlinked l hout => ?_⟩
    · rw [hfound] at hlost
      cases hlost
    · rw [hfound] at hfound'
      cases hfound'
      have hfiles : (r.prepare id q).1.files = files := by rw [hran]
      have hl : ∀ loc ∈ planPlaces r.files place, l ≠ loc.map .ofText := by
        rintro loc hloc rfl
        exact hout ((prefix_of_mem_planPlaces hloc).map _)
      rw [hfiles, ← show _ = files from congrArg Prod.fst hwritten]
      split
      · exact replacePlan_at? (resolve_sound hhere hfound) hunlinked hl
      · rfl

/-- A repository with a directory in the place of the plan, and a file beside. -/
def blockedPlan : FileTree :=
  ((FileTree.empty.put [".lintscope"] .directory).put [".lintscope", "lint.env"] .directory).put ["notes"] (.file [7] false)

/-- A preparation that is refused when half of it is done. -/
theorem prepare_confined_blockedPlan :
    ((planWriting blockedPlan).prepare "only" rootRequest).2.isOk = false ∧
      ((planWriting blockedPlan).prepare "only" rootRequest).1.files.get? [".lintscope", ".lint.env.tmp"] ≠
        blockedPlan.get? [".lintscope", ".lint.env.tmp"] ∧
      ((planWriting blockedPlan).prepare "only" rootRequest).1.files.get? ["notes"] = blockedPlan.get? ["notes"] := by
  have hdirectory : blockedPlan.get? [".lintscope"] = some .directory := by decide +kernel
  have htemporary : blockedPlan.get? [".lintscope", ".lint.env.tmp"] = none := by decide
  have hunlinked : Unlinked blockedPlan [] :=
    ⟨fun _ => ne_of_eq_of_ne hdirectory nofun, fun _ => ne_of_eq_of_ne htemporary nofun⟩
  obtain ⟨hrefused, hhalf⟩ : ((planWriting blockedPlan).prepare "only" rootRequest).2.isOk = false ∧
      ((planWriting blockedPlan).prepare "only" rootRequest).1.files.get? [".lintscope", ".lint.env.tmp"] ≠
        blockedPlan.get? [".lintscope", ".lint.env.tmp"] := by decide +kernel
  exact ⟨hrefused, hhalf,
    (prepare_confined (planWriting blockedPlan) "only" rootRequest (.inl rfl)).2 [] .directory rfl hunlinked [.ofText "notes"]
      (by decide)⟩

/-! ## §2 — out through a link

The two conditions are needed: a link in either place leads the plan out of the repository. -/

/-- A repository beside other files, with a link to one of them in the place of the temporary file. -/
def temporaryLinkedOut : FileTree :=
  (((FileTree.empty.put ["repo"] .directory).put ["repo", ".lintscope"] .directory).put
    ["repo", ".lintscope", ".lint.env.tmp"] (.link "../../notes")).put ["notes"] (.file [7] false)

/-- A repository beside another directory, with a link to it in the place of the directory of the plan. -/
def directoryLinkedOut : FileTree :=
  ((FileTree.empty.put ["repo"] .directory).put ["repo", ".lintscope"] (.link "../etc")).put ["etc"] .directory

/-- **Through a link a preparation writes outside:** it overwrites a file beside the repository, or makes one in a directory
beside it, and succeeds. -/
theorem prepare_escapes :
    (∃ node, temporaryLinkedOut.resolve [] "/repo" = .ok (["repo"], node) ∧
      ((planWriting temporaryLinkedOut).prepare "only" ⟨.standard, "/repo"⟩).2.isOk = true ∧
      ¬ ["repo"] ++ [Runner.planDirectory] <+: ["notes"] ∧
      ((planWriting temporaryLinkedOut).prepare "only" ⟨.standard, "/repo"⟩).1.files.get? ["notes"] ≠
        temporaryLinkedOut.get? ["notes"]) ∧
    ∃ node, directoryLinkedOut.resolve [] "/repo" = .ok (["repo"], node) ∧
      ((planWriting directoryLinkedOut).prepare "only" ⟨.standard, "/repo"⟩).2.isOk = true ∧
      ¬ ["repo"] ++ [Runner.planDirectory] <+: ["etc", "lint.env"] ∧
      ((planWriting directoryLinkedOut).prepare "only" ⟨.standard, "/repo"⟩).1.files.get? ["etc", "lint.env"] ≠
        directoryLinkedOut.get? ["etc", "lint.env"] := by
  refine ⟨⟨.directory, ?_⟩, ⟨.directory, ?_⟩⟩ <;> decide +kernel

end LintPlan
