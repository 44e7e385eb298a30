import LintPlan.Proofs.Planning.Rivals
import LintPlan.Proofs.Repository.Detection
import LintPlan.Proofs.Repository.PassedBy
import LintPlan.Proofs.Repository.Visits

/-!
# Which frameworks are found

A framework is found if a visit shows it, and the first such visit says for which language and in which manifest. So the names
do not depend on the order in which the languages are given, and a manifest that cannot be used is as good as none.

* **`Framework.mem_foldl_addNew`** — of several frameworks of one name the first is kept.
* **`Visit.find?_shown`** — what a visit shows under a name.
* **`Visit.nodup_names_detect`** — no framework is found twice.
* **`Visit.mem_frameworks_detect`** — each framework comes from the first visit that shows its name, and so it is found for one of
  the languages that were asked for (`Visit.language_mem_of_mem_detect`).
* **`Visit.frameworks_detect_congr`** — only what manifests declare makes a difference.
* **`Framework.detect_exact`** — all of this for the detection of frameworks.
-/

namespace LintPlan

/-! ## §1 — the first of each name

Frameworks are collected in a list where the first one of a name wins. -/

namespace Framework

variable {f : Framework} {fs : List Framework}

/-- Adding only new names does not change what is found first. -/
theorem find?_addNew (fs : List Framework) (f : Framework) (n : String) :
    (addNew fs f).find? (·.name == n) = (fs ++ [f]).find? (·.name == n) := by
  rw [addNew]
  split
  · next hold =>
    -- a framework of this name was found before, so another one behind it is not
    rw [List.find?_append, List.find?_singleton]
    by_cases hn : f.name = n
    · obtain ⟨g, hg, hname⟩ := List.any_eq_true.mp hold
      have hfound : (fs.find? (·.name == n)).isSome = true := List.find?_isSome.mpr ⟨g, hg, hn ▸ hname⟩
      exact (Option.or_of_isSome hfound).symm
    · rw [if_neg (by simpa using hn), Option.or_none]
  · rfl

theorem find?_foldl_addNew (fs : List Framework) (n : String) :
    (fs.foldl addNew []).find? (·.name == n) = fs.find? (·.name == n) := by
  -- on the frameworks from the last one, which is the last that was added
  induction fs using List.reverseRecOn with
  | nil => rfl
  | append_singleton fs f ih =>
    rw [List.foldl_append, List.foldl_cons, List.foldl_nil, find?_addNew, List.find?_append, List.find?_append, ih]

theorem nodup_names_foldl_addNew (fs : List Framework) : ((fs.foldl addNew []).map (·.name)).Nodup :=
  List.foldlRecOn (motive := fun found : List Framework => (found.map Framework.name).Nodup) fs _ List.nodup_nil
    fun _ h f _ => nodup_map_addNew h f

/-- **Of several frameworks of one name** the first is kept. -/
theorem mem_foldl_addNew : f ∈ fs.foldl addNew [] ↔ fs.find? (·.name == f.name) = some f := by
  rw [← find?_foldl_addNew, find?_key_iff (nodup_names_foldl_addNew fs), and_iff_left rfl]

end Framework

/-! ## §2 — what a visit shows

A visit looks at one manifest for one language. -/

namespace Visit

variable {t t' : FileTree} {root : Location} {v : Visit} {f : Framework} {n : String} {ls : List Language}

/-- Does a visit show a framework? A part that stands for the framework has to occur in a dependency of the manifest. -/
def Shows (t : FileTree) (root : Location) (v : Visit) (name : String) : Prop :=
  ∃ part dependency : String, (part, name) ∈ v.signatures ∧ v.manifest.Declares t root dependency ∧
    part.toList <:+: dependency.toList

theorem mem_shown :
    f ∈ v.shown t root ↔ v.Shows t root f.name ∧ f = ⟨f.name, v.language, v.manifest.file⟩ := by
  simp only [Shows, Manifest.declares_iff, ← Text.occurs_iff_infix, shown, List.mem_map, List.mem_filter, List.any_eq_true]
  constructor
  · rintro ⟨s, ⟨hs, d, hd, hoccurs⟩, rfl⟩
    exact ⟨⟨s.1, d, hs, hd, hoccurs⟩, rfl⟩
  · rintro ⟨⟨part, d, hs, hd, hoccurs⟩, hf⟩
    exact ⟨(part, f.name), ⟨hs, d, hd, hoccurs⟩, hf.symm⟩

/-- Under a name, a visit shows one framework at most. -/
theorem find?_shown_eq_some_iff : (v.shown t root).find? (·.name == n) = some f ↔
    v.Shows t root n ∧ f = ⟨n, v.language, v.manifest.file⟩ := by
  constructor
  · intro hfind
    have hname : f.name = n := by simpa using List.find?_some hfind
    subst hname
    exact mem_shown.mp (List.mem_of_find?_eq_some hfind)
  · rintro ⟨hshows, rfl⟩
    have hmem : Framework.mk n v.language v.manifest.file ∈ v.shown t root := mem_shown.mpr ⟨hshows, rfl⟩
    obtain ⟨g, hg⟩ := Option.isSome_iff_exists.mp
      (List.find?_isSome.mpr ⟨_, hmem, beq_iff_eq.mpr rfl⟩ : ((v.shown t root).find? (·.name == n)).isSome = true)
    have hname : g.name = n := by simpa using List.find?_some hg
    rw [hg, (mem_shown.mp (List.mem_of_find?_eq_some hg)).2, hname]

theorem find?_shown_eq_none_iff : (v.shown t root).find? (·.name == n) = none ↔ ¬ v.Shows t root n := by
  rw [Option.eq_none_iff_forall_ne_some]
  simp only [ne_eq, find?_shown_eq_some_iff]
  exact ⟨fun h hshows => h _ ⟨hshows, rfl⟩, fun h _ hf => h hf.1⟩

/-! ## §3 — what all visits show

Visits put together. -/

/-- **No framework is found twice.** -/
theorem nodup_names_detect (t : FileTree) (root : Location) (ls : List Language) :
    ((Framework.detect t root ls).frameworks.map (·.name)).Nodup := by
  rw [frameworks_detect]
  exact Framework.nodup_names_foldl_addNew _

/-- **Each framework comes from the first visit** that shows its name. -/
theorem mem_frameworks_detect : f ∈ (Framework.detect t root ls).frameworks ↔
    ∃ before v after, ofLanguages ls = before ++ v :: after ∧ v.Shows t root f.name ∧
      f = ⟨f.name, v.language, v.manifest.file⟩ ∧ ∀ u ∈ before, ¬ u.Shows t root f.name := by
  rw [frameworks_detect, Framework.mem_foldl_addNew, List.find?_flatMap, List.findSome?_eq_some_iff]
  simp only [find?_shown_eq_some_iff, find?_shown_eq_none_iff, and_assoc]

/-- A framework is found for one of the languages that were asked for. -/
theorem language_mem_of_mem_detect (h : f ∈ (Framework.detect t root ls).frameworks) : f.language ∈ ls := by
  obtain ⟨before, v, after, hvisits, -, hf, -⟩ := mem_frameworks_detect.mp h
  have hv : v ∈ ofLanguages ls := hvisits ▸ List.mem_append_right before List.mem_cons_self
  rw [hf]
  exact (mem_ofLanguages.mp hv).1

/-- A framework is detected exactly when some visit shows it. -/
theorem mem_names_detect :
    n ∈ (Framework.detect t root ls).frameworks.map (·.name) ↔ ∃ v ∈ ofLanguages ls, v.Shows t root n := by
  constructor
  · intro hn
    obtain ⟨f, hf, rfl⟩ := List.mem_map.mp hn
    obtain ⟨before, v, after, hvisits, hshows, -⟩ := mem_frameworks_detect.mp hf
    exact ⟨v, hvisits ▸ List.mem_append_right before List.mem_cons_self, hshows⟩
  · rintro ⟨v, hv, hshows⟩
    have hfind : (((ofLanguages ls).flatMap (shown t root)).find? (·.name == n)).isSome = true :=
      List.find?_isSome.mpr ⟨⟨n, v.language, v.manifest.file⟩,
        List.mem_flatMap.mpr ⟨v, hv, mem_shown.mpr ⟨hshows, rfl⟩⟩, beq_iff_eq.mpr rfl⟩
    rw [← Framework.find?_foldl_addNew, ← frameworks_detect] at hfind
    obtain ⟨f, hf, hname⟩ := List.find?_isSome.mp hfind
    exact List.mem_map.mpr ⟨f, hf, beq_iff_eq.mp hname⟩

/-- Visits come from the languages, the groups of manifests that concern them, and the manifests of a group. -/
theorem exists_shows_iff : (∃ v ∈ ofLanguages ls, v.Shows t root n) ↔
    ∃ l ∈ ls, ∃ g ∈ ManifestGroup.known, g.concerns l = true ∧
      ∃ m ∈ g.manifests, (Visit.mk l m g.signatures).Shows t root n := by
  constructor
  · rintro ⟨⟨l, m, signatures⟩, hv, hshows⟩
    obtain ⟨hl, g, hg, hconcerns, hm, rfl⟩ := mem_ofLanguages.mp hv
    exact ⟨l, hl, g, hg, hconcerns, m, hm, hshows⟩
  · rintro ⟨l, hl, g, hg, hconcerns, m, hm, hshows⟩
    exact ⟨⟨l, m, g.signatures⟩, mem_ofLanguages.mpr ⟨hl, g, hg, hconcerns, hm, rfl⟩, hshows⟩

/-- **Only what manifests declare makes a difference** to the frameworks. -/
theorem frameworks_detect_congr
    (h : ∀ g ∈ ManifestGroup.known, ∀ m ∈ g.manifests, m.declared t' root = m.declared t root) (ls : List Language) :
    (Framework.detect t' root ls).frameworks = (Framework.detect t root ls).frameworks := by
  rw [frameworks_detect, frameworks_detect]
  congr 1
  refine List.flatMap_congr fun v hv => ?_
  obtain ⟨-, g, hg, -, hm, -⟩ := mem_ofLanguages.mp hv
  rw [shown, shown, h g hg v.manifest hm]

end Visit

/-! ## §4 — the detection of frameworks

The rule as it would be explained. -/

namespace Framework

/-- **Which frameworks are found.** No name is found twice. A name is found exactly if a manifest of one of the languages, which
can be read and parsed, declares a dependency in which a part occurs that stands for it. The first visit that shows the name
says for which language and in which manifest it was found; so the names depend neither on the order of the languages nor on
how often they are given. A manifest that cannot be read or parsed makes no difference to the frameworks, as long as the other
manifests stay as they are. -/
theorem detect_exact (t : FileTree) (root : Location) (ls : List Language) :
    ((detect t root ls).frameworks.map (·.name)).Nodup ∧
      (∀ name, name ∈ (detect t root ls).frameworks.map (·.name) ↔
        ∃ l ∈ ls, ∃ g ∈ ManifestGroup.known, g.concerns l = true ∧ ∃ m ∈ g.manifests, ∃ part dependency : String,
          (part, name) ∈ g.signatures ∧ m.Declares t root dependency ∧ part.toList <:+: dependency.toList) ∧
      (∀ f ∈ (detect t root ls).frameworks, ∃ before v after, Visit.ofLanguages ls = before ++ v :: after ∧
        v.Shows t root f.name ∧ f = ⟨f.name, v.language, v.manifest.file⟩ ∧ ∀ u ∈ before, ¬ u.Shows t root f.name) ∧
      (∀ ls' : List Language, (∀ l, l ∈ ls' ↔ l ∈ ls) → ∀ name,
        name ∈ (detect t root ls').frameworks.map (·.name) ↔ name ∈ (detect t root ls).frameworks.map (·.name)) ∧
      ∀ (t' : FileTree) (m : Manifest) (fault : ManifestFault),
        m.IsUnusable t' root fault → t.isFile root m.file = false →
        (∀ g ∈ ManifestGroup.known, ∀ m' ∈ g.manifests, m' ≠ m → m'.read? t' root = m'.read? t root) →
        (detect t' root ls).frameworks = (detect t root ls).frameworks := by
  refine ⟨Visit.nodup_names_detect t root ls, fun name => ?found, fun f hf => Visit.mem_frameworks_detect.mp hf, ?order, ?spoiled⟩
  case found => exact Visit.mem_names_detect.trans Visit.exists_shows_iff
  case order =>
    intro ls' hsame name
    simp only [Visit.mem_names_detect, Visit.exists_shows_iff, hsame]
  case spoiled =>
    intro t' m fault hunusable hmissing hothers
    -- an unusable manifest declares as much as a missing one, the others declare the same
    apply Visit.frameworks_detect_congr
    intro g hg m' hm'
    by_cases hm : m' = m
    · rw [hm, Manifest.declared_of_isUnusable hunusable, Manifest.declared_of_missing hmissing]
    · rw [Manifest.declared, Manifest.declared, hothers g hg m' hm' hm]

/-- A project with a list of requirements. -/
def pythonProject : FileTree := FileTree.empty.put ["requirements.txt"] (.file [68, 106, 97, 110, 103, 111] false)

/-- The same with a package manifest that ends too early. -/
def spoiledProject : FileTree := pythonProject.put ["package.json"] (.file [123] false)

/-- A manifest that cannot be read is added, and what the other one shows stays. -/
theorem detect_exact_spoiledProject :
    (⟨"package.json", .package⟩ : Manifest).IsUnusable spoiledProject [] (.badJson ⟨.cutOff .object, ⟨1, 1⟩⟩) ∧
      pythonProject.isFile [] "package.json" = false ∧
      (∀ g ∈ ManifestGroup.known, ∀ m ∈ g.manifests, m ≠ ⟨"package.json", .package⟩ →
        m.read? spoiledProject [] = m.read? pythonProject []) ∧
      (detect spoiledProject [] [.javaScript, .python, .typeScript]).frameworks = [⟨"django", .python, "requirements.txt"⟩] := by
  have hunusable : (⟨"package.json", .package⟩ : Manifest).IsUnusable spoiledProject []
      (.badJson ⟨.cutOff .object, ⟨1, 1⟩⟩) := Manifest.isUnusable_iff.mpr (by decide)
  have hmissing : pythonProject.isFile [] "package.json" = false := by decide +kernel
  have hothers : ∀ g ∈ ManifestGroup.known, ∀ m ∈ g.manifests, m ≠ ⟨"package.json", .package⟩ →
      m.read? spoiledProject [] = m.read? pythonProject [] := by decide +kernel
  refine ⟨hunusable, hmissing, hothers, ?_⟩
  obtain ⟨-, -, -, -, hspoiled⟩ := detect_exact pythonProject [] [.javaScript, .python, .typeScript]
  rw [hspoiled spoiledProject _ _ hunusable hmissing hothers]
  decide +kernel

end Framework

end LintPlan
