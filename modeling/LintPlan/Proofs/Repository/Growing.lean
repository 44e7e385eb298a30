import LintPlan.Proofs.FileSystem.Ways
import LintPlan.Proofs.Repository.Profiles
import Mathlib.Data.List.Perm.Subperm

/-!
# Repositories that grow

A tree that gets new files, directories and links, and loses nothing, is still found under the same path, and a walk lists in it
whatever it listed before. So none of the counts that make up the complexity shrinks.

* **`Includes.repositoryRoot`** — the repository is found where it was.
* **`Includes.walk_subset`** — what a walk listed, it still lists.
* **`complexity_growing`** — the complexity does not sink.
-/

namespace LintPlan

namespace FileTree

variable {t t' : FileTree} {here loc root : Location} {path : String} {there : FileNode} {o : WalkOptions} {names : List FileName}

/-- Does a tree have everything that another one has, at the same places? -/
def Includes (t' t : FileTree) : Prop := ∀ l node, t.at? l = some node → t'.at? l = some node

/-- Something new takes nothing away. -/
theorem Includes.putAt {new : List FileName} (h : t'.Includes t) (hnew : t.at? new = none) (node : FileNode) :
    (t'.putAt new node).Includes t := by
  have hne : new ≠ [] := by
    rintro rfl
    cases hnew
  intro l there hthere
  have hother : l ≠ new := by
    rintro rfl
    cases hnew.symm.trans hthere
  rw [at?_putAt t' new l node hne, if_neg hother]
  exact h l there hthere

/-! ## §1 — finding the repository

What is on the way to the root stays, so the way does. -/

/-- **What is found stays**, also behind links: the places on the way to it are as they were. -/
theorem Includes.node (h : t'.Includes t) (hnode : t.node here path = .ok (loc, there)) :
    t'.node here path = .ok (loc, there) := by
  unfold FileTree.node at hnode
  cases hfound : t.find here path true with
  | error fault =>
    rw [hfound] at hnode
    cases hnode
  | ok found =>
    -- something is there, hence every place on the way was
    have hthere : found.node ≠ none := by
      rw [hfound] at hnode
      obtain ⟨place, _ | there⟩ := found
      · cases hnode
      · exact nofun
    have hsame : ∀ place ∈ t.placesOn here path, t'.get? place = t.get? place := by
      intro place hplace
      obtain ⟨there, hget⟩ := Option.ne_none_iff_exists'.mp (present_of_find hfound hthere place hplace)
      rw [hget]
      exact h _ there hget
    rw [FileTree.node, find_congr hsame]
    exact hnode

/-- So the repository is found at the same place. -/
theorem Includes.repositoryRoot (h : t'.Includes t) (hroot : t.repositoryRoot here path = .ok root) :
    t'.repositoryRoot here path = .ok root := by
  unfold FileTree.repositoryRoot at hroot ⊢
  cases hnode : t.node here path with
  | error fault =>
    rw [hnode] at hroot
    cases fault <;> cases hroot
  | ok found =>
    obtain ⟨loc, node⟩ := found
    rw [hnode] at hroot
    rw [h.node hnode]
    exact hroot

/-! ## §2 — walking through it

A larger tree lists more. -/

theorem Includes.isWay (h : t'.Includes t) (hway : t.IsWay o root names) : t'.IsWay o root names := by
  intro above name habove
  obtain ⟨hdirectory, henters⟩ := hway above name habove
  exact ⟨h _ _ hdirectory, henters⟩

/-- **What is listed stays.** -/
theorem Includes.walk_subset (h : t'.Includes t) (o : WalkOptions) (root : Location) : t.walk o root ⊆ t'.walk o root := by
  rintro ⟨names, node⟩ he
  obtain ⟨hne, hdepth, hthere, hreached⟩ := mem_walk.mp he
  exact mem_walk.mpr ⟨hne, hdepth, h _ _ hthere,
    hreached.imp (And.imp_right h.isWay) (And.imp_right h.isWay)⟩

theorem Includes.walkFiles_subset (h : t'.Includes t) (o : WalkOptions) (root : Location) :
    t.walkFiles o root ⊆ t'.walkFiles o root := List.filter_subset _ (h.walk_subset o root)

theorem Includes.walkDirectories_subset (h : t'.Includes t) (o : WalkOptions) (root : Location) :
    t.walkDirectories o root ⊆ t'.walkDirectories o root := List.filter_subset _ (h.walk_subset o root)

end FileTree

/-! ## §3 — counting

More entries have greater counts, up to the score. -/

theorem foldl_max_le_iff {ns : List Nat} {m most : Nat} : ns.foldl max m ≤ most ↔ m ≤ most ∧ ∀ n ∈ ns, n ≤ most := by
  induction ns generalizing m with
  | nil => simp
  | cons n ns ih =>
    rw [List.foldl_cons, ih, List.forall_mem_cons, Nat.max_le, and_assoc]

theorem foldl_max_mono {ns ms : List Nat} (h : ns ⊆ ms) (m : Nat) : ns.foldl max m ≤ ms.foldl max m := by
  obtain ⟨hm, hms⟩ := foldl_max_le_iff.mp (Nat.le_refl (ms.foldl max m))
  exact foldl_max_le_iff.mpr ⟨hm, fun n hn => hms n (h hn)⟩

namespace Profile

open FileTree

variable {t t' : FileTree} {here root : Location} {path : String} {depths : AnalysisDepths} {p : Profile}

/-- More files have no fewer languages. -/
theorem languages_length_mono (h : t'.Includes t) (depths : AnalysisDepths) (root : Location) :
    (ofRoot t depths root).languages.length ≤ (ofRoot t' depths root).languages.length := by
  have hbefore := ofRoot_sound t depths root
  have hafter := ofRoot_sound t' depths root
  have hsubset : (ofRoot t depths root).languages.map (·.language) ⊆ (ofRoot t' depths root).languages.map (·.language) := by
    intro l hl
    obtain ⟨e, he, hlanguage⟩ := (hbefore.languages_iff l).mp hl
    exact (hafter.languages_iff l).mpr ⟨e, h.walkFiles_subset _ root he, hlanguage⟩
  have hlength := (List.subperm_of_subset hbefore.languages_nodup hsubset).length_le
  rwa [List.length_map, List.length_map] at hlength

theorem maxDepth_mono (h : t'.Includes t) (depths : AnalysisDepths) (root : Location) :
    (ofRoot t depths root).stats.maxDepth ≤ (ofRoot t' depths root).stats.maxDepth := by
  have hlisted : ∀ o : WalkOptions,
      t.walkFiles o root ++ t.walkDirectories o root ⊆ t'.walkFiles o root ++ t'.walkDirectories o root := by
    intro o e he
    rw [List.mem_append] at he ⊢
    exact he.imp (fun hfile => h.walkFiles_subset o root hfile) fun hdirectory => h.walkDirectories_subset o root hdirectory
  exact foldl_max_mono (List.map_subset WalkEntry.depth (hlisted _)) 0

theorem score_growing (h : t'.Includes t) (depths : AnalysisDepths) (root : Location) :
    Complexity.score (ofRoot t depths root).stats (ofRoot t depths root).languages.length ≤
      Complexity.score (ofRoot t' depths root).stats (ofRoot t' depths root).languages.length := by
  refine Complexity.score_mono ?_ ?_ (maxDepth_mono h depths root) (languages_length_mono h depths root)
  · exact (List.subperm_of_subset ((nodup_walk t _ root).filter _) (h.walkFiles_subset _ root)).length_le
  · exact (List.subperm_of_subset ((nodup_walk t _ root).filter _) (h.walkDirectories_subset _ root)).length_le

/-- More points never give a lower class. -/
theorem rank_ofScore_mono {m n : Nat} (h : m ≤ n) : (Complexity.ofScore m).rank ≤ (Complexity.ofScore n).rank := by
  have hrank : ∀ points, (Complexity.ofScore points).rank = if points ≤ 2 then 0 else if points ≤ 5 then 1 else 2 := by
    intro points
    unfold Complexity.ofScore
    split
    · rfl
    · split <;> rfl
  rw [hrank, hrank]
  grind

/-- **A repository that grows does not become simpler.** -/
theorem complexity_growing (h : t'.Includes t) (hanalyze : analyze t here depths path = .ok p) :
    ∃ p', analyze t' here depths path = .ok p' ∧ p.complexity.rank ≤ p'.complexity.rank := by
  unfold analyze at hanalyze ⊢
  cases hroot : t.repositoryRoot here path with
  | error fault =>
    rw [hroot] at hanalyze
    cases hanalyze
  | ok root =>
    rw [hroot] at hanalyze
    cases hanalyze
    rw [h.repositoryRoot hroot]
    refine ⟨ofRoot t' depths root, rfl, ?_⟩
    rw [(ofRoot_sound t depths root).complexity_eq, (ofRoot_sound t' depths root).complexity_eq]
    exact rank_ofScore_mono (score_growing h depths root)

/-- The small repository with eleven directories, one in the other, and a link beside them. -/
def deepenedRepository : FileTree :=
  ((List.range 11).map fun n => List.replicate (n + 1) "deep").foldl (fun t loc => t.put loc .directory)
    (smallRepository.put ["latest"] (.link "src"))

theorem includes_deepenedRepository : deepenedRepository.Includes smallRepository := by
  refine List.foldlRecOn (motive := fun t' : FileTree => t'.Includes smallRepository) _ _ ?_ ?_
  · exact Includes.putAt (fun _ _ h => h) (by decide) _
  · intro t' h loc hloc
    have hnew : ∀ loc ∈ (List.range 11).map fun n => List.replicate (n + 1) "deep", smallRepository.get? loc = none := by
      decide
    exact h.putAt (hnew loc hloc) _

/-- A repository that gets from the lowest class to the next one. -/
theorem complexity_growing_deepened :
    ∃ p p', analyze smallRepository [] .standard "/" = .ok p ∧ p.complexity = .simple ∧
      deepenedRepository.Includes smallRepository ∧ analyze deepenedRepository [] .standard "/" = .ok p' ∧
      p'.complexity = .moderate ∧ p.complexity.rank ≤ p'.complexity.rank := by
  have hanalyze : analyze smallRepository [] .standard "/" = .ok (ofRoot smallRepository .standard []) := rfl
  obtain ⟨p', hgrown, hrank⟩ := complexity_growing includes_deepenedRepository hanalyze
  have hp' : ofRoot deepenedRepository .standard [] = p' := Except.ok.inj hgrown
  -- counting the languages does not need their order
  have hlanguages : ∀ t : FileTree, (ofRoot t .standard []).languages.length = ((Language.all.map (LanguageStat.ofFiles
      ((t.walkFiles (.toDepth 12) []).filterMap WalkEntry.languageLines?))).filter fun s => 0 < s.files).length :=
    fun _ => (LanguageStat.gather_perm _).length_eq
  refine ⟨_, p', hanalyze, ?_, includes_deepenedRepository, hgrown, ?_, hrank⟩
  · rw [(ofRoot_sound ..).complexity_eq, hlanguages]
    decide
  · rw [← hp', (ofRoot_sound ..).complexity_eq, hlanguages]
    decide

end Profile

end LintPlan
