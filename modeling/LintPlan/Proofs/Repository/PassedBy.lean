import LintPlan.Proofs.FileSystem.Ways
import LintPlan.Proofs.Repository.Walking
import LintPlan.Repository.Analysis

/-!
# Directories that are passed by

An analysis of a repository reads what a walk lists, and the files with certain names at the root. A walk does not go into some
directories, so what is in such a directory, and whether it is there at all, cannot be seen in the profile, unless one of the
files at the root is a link that leads there.

* **`walk_congr`** — what is in a directory that is not entered does not change what a walk lists.
* **`rootFiles`** — the names at the root that are looked up.
* **`ofRoot_congr`** — the profile depends on what is listed and on where these names lead.
-/

namespace LintPlan

namespace FileTree

variable {t t' : FileTree} {o : WalkOptions} {root : Location} {name : FileName} {names : List FileName} {x : FileNode}

/-! ## §1 — walking past a directory

What is in a directory that no walk enters is never listed. -/

/-- Nothing is listed in a directory that is not entered, nor is the directory. -/
theorem not_prefix_of_mem_walk (hskip : o.entersNamed name = false)
    (hfile : ∀ there, t.at? (root.map .ofText ++ [name]) = some there → there.isFile = false) (h : ⟨names, x⟩ ∈ t.walk o root) :
    ¬ [name] <+: names := by
  intro hprefix
  have hway : ∀ ns, [name] <+: ns → ¬ t.IsWay o root ns := by
    intro ns hns hway
    have henters := (hway [] name hns).2
    rw [hskip] at henters
    cases henters
  obtain ⟨hne, -, hthere, ⟨hxfile, hxway⟩ | ⟨-, hxway⟩⟩ := mem_walk.mp h
  · rw [← List.dropLast_append_getLast hne, List.prefix_concat_iff, List.dropLast_append_getLast hne] at hprefix
    rcases hprefix with rfl | hprefix
    · -- what has the name of the directory would be a file
      rw [hfile x hthere] at hxfile
      cases hxfile
    · exact hway _ hprefix hxway
  · exact hway _ hprefix hxway

/-- What is listed is listed in every tree that has the same outside of the directory. -/
theorem walk_subset_of_same (hskip : o.entersNamed name = false)
    (hfile : ∀ there, t.at? (root.map .ofText ++ [name]) = some there → there.isFile = false)
    (hsame : ∀ l, ¬ root.map .ofText ++ [name] <+: l → t'.at? l = t.at? l) : t.walk o root ⊆ t'.walk o root := by
  rintro ⟨names, x⟩ h
  have hnames : ∀ ns, ns <+: names → t'.at? (root.map .ofText ++ ns) = t.at? (root.map .ofText ++ ns) := by
    intro ns hns
    refine hsame _ fun hprefix => ?_
    exact not_prefix_of_mem_walk hskip hfile h (((List.prefix_append_right_inj _).mp hprefix).trans hns)
  have hway : ∀ ns, ns <+: names → t.IsWay o root ns → t'.IsWay o root ns := by
    intro ns hns hway above n habove
    obtain ⟨hdirectory, henters⟩ := hway above n habove
    exact ⟨(hnames _ (habove.trans hns)).trans hdirectory, henters⟩
  obtain ⟨hne, hdepth, hthere, hreached⟩ := mem_walk.mp h
  refine mem_walk.mpr ⟨hne, hdepth, (hnames _ (List.prefix_refl _)).trans hthere, ?_⟩
  exact hreached.imp (And.imp_right (hway _ (List.dropLast_prefix _))) (And.imp_right (hway _ (List.prefix_refl _)))

/-- **A walk does not see** what is in a directory that it does not enter. -/
theorem walk_congr (hskip : o.entersNamed name = false)
    (hfile : ∀ there, t.at? (root.map .ofText ++ [name]) = some there → there.isFile = false)
    (hfile' : ∀ there, t'.at? (root.map .ofText ++ [name]) = some there → there.isFile = false)
    (hsame : ∀ l, ¬ root.map .ofText ++ [name] <+: l → t'.at? l = t.at? l) : t'.walk o root = t.walk o root := by
  have hperm : (t'.walk o root).Perm (t.walk o root) := by
    rw [List.perm_ext_iff_of_nodup (nodup_walk t' o root) (nodup_walk t o root)]
    intro e
    constructor
    · exact fun he => walk_subset_of_same hskip hfile' (fun l hl => (hsame l hl).symm) he
    · exact fun he => walk_subset_of_same hskip hfile hsame he
  -- the same entries in the order of their names are the same list
  refine hperm.eq_of_pairwise ?_ (walk_increasing t' o root) (walk_increasing t o root)
  intro a b _ _ hab hba
  exact absurd (List.lt_trans hab hba) (List.lt_irrefl a.names)

end FileTree

/-! ## §2 — the names at the root

Apart from the walk some files are looked for by name. Those names are followed through links, which is why they come in as a
condition. -/

namespace Profile

open FileTree

variable {t t' : FileTree} {root : Location}

/-- The names that are looked up at the root of a repository: those of manifests and those of files that show build tools. -/
def rootFiles : List String :=
  ManifestGroup.known.flatMap (fun g => g.manifests.map (·.file)) ++ BuildTool.markers.map (·.1)

theorem mem_rootFiles_of_manifest {g : ManifestGroup} {m : Manifest} (hg : g ∈ ManifestGroup.known) (hm : m ∈ g.manifests) :
    m.file ∈ rootFiles :=
  List.mem_append_left _ (List.mem_flatMap.mpr ⟨g, hg, List.mem_map_of_mem hm⟩)

theorem mem_rootFiles_of_marker {marker : String × String} (h : marker ∈ BuildTool.markers) : marker.1 ∈ rootFiles :=
  List.mem_append_right _ (List.mem_map_of_mem h)

/-- A manifest is read alike where the same is found under its name. -/
theorem read?_congr {m : Manifest} (hnode : t'.node root m.file = t.node root m.file) : m.read? t' root = m.read? t root := by
  have hfile : t'.isFile root m.file = t.isFile root m.file := by rw [isFile, isFile, hnode]
  have htext : t'.readText root m.file = t.readText root m.file := by rw [readText, readText, readBytes, readBytes, hnode]
  rw [Manifest.read?, Manifest.read?, hfile, htext]

/-- So the same frameworks are found. -/
theorem frameworks_congr (hnode : ∀ file ∈ rootFiles, t'.node root file = t.node root file) (ls : List Language) :
    Framework.detect t' root ls = Framework.detect t root ls := by
  have hconsider : ∀ l, ∀ g ∈ ManifestGroup.known, ∀ r : FrameworkReport,
      g.manifests.foldl (Manifest.consider t' root l g.signatures) r =
        g.manifests.foldl (Manifest.consider t root l g.signatures) r := by
    intro l g hg r
    refine List.foldl_ext _ _ _ fun r m hm => ?_
    rw [Manifest.consider, Manifest.consider, read?_congr (hnode _ (mem_rootFiles_of_manifest hg hm))]
  refine List.foldl_ext _ _ _ fun r l _ => List.foldl_ext _ _ _ fun r g hg => ?_
  exact hconsider l g (List.mem_of_mem_filter hg) r

theorem buildTools_congr (hnode : ∀ file ∈ rootFiles, t'.node root file = t.node root file) :
    BuildTool.detect t' root = BuildTool.detect t root := by
  have hshown : (BuildTool.markers.filter fun m => t'.isFile root m.1) = BuildTool.markers.filter fun m => t.isFile root m.1 := by
    refine List.filter_congr fun m hm => ?_
    rw [isFile, isFile, hnode _ (mem_rootFiles_of_marker hm)]
  rw [BuildTool.detect, BuildTool.detect, hshown]

/-! ## §3 — profiles

Both parts put together: trees that agree outside such a directory have the same profile. -/

/-- **The profile shows nothing else** than what a walk lists and where the names at the root lead. -/
theorem ofRoot_congr {depths : AnalysisDepths} (hwalk : t'.walk (.toDepth depths.scan) root = t.walk (.toDepth depths.scan) root)
    (hnode : ∀ file ∈ rootFiles, t'.node root file = t.node root file) : ofRoot t' depths root = ofRoot t depths root := by
  have hframeworks : Framework.detect t' root = Framework.detect t root := funext (frameworks_congr hnode)
  simp only [ofRoot, walkFiles, walkDirectories, hwalk, hframeworks, buildTools_congr hnode]

end Profile

end LintPlan
