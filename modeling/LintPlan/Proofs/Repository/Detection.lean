import LintPlan.Proofs.Json.SortedEntries
import LintPlan.Repository.ConfigFiles
import LintPlan.Repository.Manifests
import Mathlib.Data.List.Nodup

/-!
# Which build tools and configuration files are found

Build tools and configuration files are collected one after the other. What is collected grows by steps, and each step keeps
what is known of it.

* **`BuildTool.nodup_names_detect`** — no build tool twice.
* **`ConfigFile.exists_of_mem_locate`** — each configuration file is one of the files that were looked at.
-/

namespace LintPlan

/-- Adding something unless one of its name is there. -/
theorem nodup_map_addNew {α : Type} {name : α → String} {xs : List α} (h : (xs.map name).Nodup) (x : α) :
    ((if xs.any fun y => name y == name x then xs else xs ++ [x]).map name).Nodup := by
  split
  · exact h
  · next hnew =>
    have hx : name x ∉ xs.map name := by
      intro hx
      obtain ⟨y, hy, heq⟩ := List.mem_map.mp hx
      exact hnew (List.any_eq_true.mpr ⟨y, hy, beq_iff_eq.mpr heq⟩)
    rw [List.map_append, List.map_singleton]
    exact List.nodup_append.mpr ⟨h, List.nodup_singleton _, fun a ha b hb heq =>
      hx (List.mem_singleton.mp hb ▸ heq ▸ ha)⟩

/-! ## §1 — build tools

A tool may have several markers and is listed once. -/

/-- **Build tools are found once.** -/
theorem BuildTool.nodup_names_detect (t : FileTree) (root : Location) : ((detect t root).map (·.name)).Nodup :=
  List.foldlRecOn (motive := fun tools : List BuildTool => (tools.map BuildTool.name).Nodup) _ _ List.nodup_nil
    fun _ h tool _ => nodup_map_addNew h tool

/-! ## §2 — configuration files

What is found comes from the files that were looked at. -/

namespace ConfigFile

/-- Does a candidate come from one of some files? -/
def IsFrom (files : List PlacedFile) (c : Candidate) : Prop := ∃ file ∈ files, c.2.path = slashed file.path

variable {files : List PlacedFile} {file : PlacedFile} {found : List (String × Candidate)} {e : String × ConfigFile}

/-- The better candidate is one of the two. -/
theorem better_cases (before : Option Candidate) (other : Candidate) :
    better before other = other ∨ before = some (better before other) := by
  cases before with
  | none => exact .inl rfl
  | some old =>
    rw [better]
    split
    · exact .inl rfl
    · exact .inr rfl

/-- Looking at one pattern keeps this. -/
theorem isFrom_consider (h : ∀ e ∈ found, IsFrom files e.2) (hfile : file ∈ files) (p : ConfigPattern) :
    ∀ e ∈ consider file found p, IsFrom files e.2 := by
  have hlookup : ∀ c, found.lookup p.tool = some c → IsFrom files c := by
    intro c hc
    obtain ⟨before, after, rfl, -⟩ := List.lookup_eq_some_iff.mp hc
    exact h _ (List.mem_append_right before List.mem_cons_self)
  unfold consider
  dsimp only
  split
  · intro e he
    rcases Json.mem_of_mem_insertSorted he with rfl | he
    · rcases better_cases (found.lookup p.tool) (file.depth, ⟨slashed file.path, p.kind, p.importance⟩) with hbetter | hbetter
      · exact ⟨file, hfile, by rw [hbetter]⟩
      · exact hlookup _ hbetter
    · exact h e he
  · exact h

/-- **A configuration file** is one of the files that were looked at. -/
theorem exists_of_mem_locate (h : e ∈ locate files) : ∃ file ∈ files, e.2.path = slashed file.path := by
  have hfrom : ∀ e ∈ files.foldl (fun found file => ConfigPattern.known.foldl (consider file) found) [], IsFrom files e.2 := by
    refine List.foldlRecOn (motive := fun found : List (String × Candidate) => ∀ e ∈ found, IsFrom files e.2) files _ nofun ?_
    intro found hfound file hfile
    refine List.foldlRecOn (motive := fun found : List (String × Candidate) => ∀ e ∈ found, IsFrom files e.2) _ _ hfound ?_
    intro found hfound p _
    exact isFrom_consider hfound hfile p
  obtain ⟨c, hc, rfl⟩ := List.mem_map.mp h
  exact hfrom c hc

end ConfigFile

end LintPlan
