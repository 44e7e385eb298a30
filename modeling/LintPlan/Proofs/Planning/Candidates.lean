import LintPlan.Proofs.Planning.Omissions
import LintPlan.Proofs.Planning.Rivals

/-!
# Which candidates there are

Four passes over the catalog look for candidates, many tools turn up in several of them, and the first occurrence counts.
What a tool is bound to is therefore decided by the first pass that has it.

* **`find?_languageCandidates`**, **`find?_frameworkCandidates`**, **`find?_categoryCandidates`** — what a pass has for a
  tool, if anything.
* **`find?_candidates`** — what all passes together have for it first.
* **`firstOfEach_candidates_exact`** — so every tool that is called for is a candidate once, and no other one is.
-/

namespace LintPlan.Planning

/-! ## §1 — which tools a profile calls for

The rule as it would be explained, without passes and their order. -/

/-- A profile calls for the tools of its languages, for those of its frameworks, and for those of every repository. -/
def IsCalledFor (p : Profile) (t : Template) : Prop :=
  (∃ l ∈ p.primary ++ p.secondary, t.supportsLanguage l = true) ∨
    (∃ f ∈ p.frameworks, t.supportsFramework f.name = true) ∨ t.isUniversal = true

/-- The language that a profile binds a tool to: the first of its languages that the tool lints, or else the language of
the first framework that calls for the tool. -/
def boundLanguage (p : Profile) (t : Template) : Option Language :=
  match (p.primary ++ p.secondary).find? t.supportsLanguage with
  | some l => some l
  | none => (p.frameworks.find? fun f => t.supportsFramework f.name).map (·.language)

/-! ## §2 — the first linter of a name

Repeats are dropped, so of each name only the first linter counts. -/

/-- Dropping repeats keeps the first linter of a name, unless the name was seen before. -/
theorem find?_firstOfEachFrom {seen : List String} {n : String} (hn : n ∉ seen) (ls : List Linter) :
    (firstOfEachFrom seen ls).find? (·.name == n) = ls.find? (·.name == n) := by
  induction ls generalizing seen with
  | nil => rfl
  | cons l ls ih =>
    rw [firstOfEachFrom, List.find?_cons]
    split
    · next hseen =>
      -- what was seen is not what is searched for
      have hne : (l.name == n) = false := by
        rw [beq_eq_false_iff_ne]
        exact fun he => hn (he ▸ List.contains_iff_mem.1 hseen)
      rw [ih hn, hne]
    · rw [List.find?_cons]
      cases he : l.name == n with
      | true => rfl
      | false =>
        have hn' : n ∉ l.name :: seen := by
          rw [List.mem_cons, not_or]
          exact ⟨fun h => (beq_eq_false_iff_ne.1 he) h.symm, hn⟩
        rw [ih hn']

theorem mem_firstOfEach_iff {ls : List Linter} {l : Linter} :
    l ∈ firstOfEach ls ↔ ls.find? (·.name == l.name) = some l := by
  have hnodup : ((firstOfEach ls).map (·.name)).Nodup := (firstOfEachFrom_nodup [] ls).1
  rw [← find?_firstOfEachFrom (List.not_mem_nil) ls]
  show _ ↔ (firstOfEach ls).find? (·.name == l.name) = some l
  rw [find?_key_iff hnodup, and_iff_left rfl]

/-! ## §3 — what each pass has for a tool

A tool is known by its name, hence each pass is asked for the linter of that name. -/

section
variable {t : Template}

/-- A pass that goes over the catalog has at most one linter of a name, as names in it are distinct. -/
theorem find?_map_bind (ht : t ∈ Catalog.templates) (takes : Template → Bool) (language : Template → Option Language) :
    ((Catalog.templates.filter takes).map fun u => u.bind (language u)).find? (·.name == t.name) =
      if takes t then some (t.bind (language t)) else none := by
  -- names stay distinct when tools are left out
  have hnodup : ((Catalog.templates.filter takes).map (·.name)).Nodup :=
    List.Nodup.sublist (List.filter_sublist.map _) Catalog.names_nodup
  rw [List.find?_map]
  show ((Catalog.templates.filter takes).find? (·.name == t.name)).map _ = _
  by_cases htakes : takes t = true
  · have hfind : (Catalog.templates.filter takes).find? (·.name == t.name) = some t :=
      (find?_key_iff hnodup).2 ⟨List.mem_filter.2 ⟨ht, htakes⟩, rfl⟩
    rw [hfind, if_pos htakes]
    rfl
  · have hfind : (Catalog.templates.filter takes).find? (·.name == t.name) = none := by
      rw [List.find?_eq_none]
      intro u hu hname
      have heq : u = t := Catalog.eq_of_name_eq (List.mem_filter.1 hu).1 ht (by simpa using hname)
      exact htakes (heq ▸ (List.mem_filter.1 hu).2)
    rw [hfind, if_neg htakes]
    rfl

/-- The first value that a test lets through. -/
theorem findSome?_ite {α β : Type} (q : α → Bool) (g : α → β) (xs : List α) :
    (xs.findSome? fun x => if q x then some (g x) else none) = (xs.find? q).map g := by
  induction xs with
  | nil => rfl
  | cons x xs ih =>
    rw [List.findSome?_cons, List.find?_cons]
    cases q x with
    | true => rfl
    | false => exact ih

theorem find?_languageCandidates (ht : t ∈ Catalog.templates) (languages : List Language) :
    (languageCandidates languages).find? (·.name == t.name) =
      (languages.find? t.supportsLanguage).map fun l => t.bind (some l) := by
  rw [languageCandidates, List.find?_flatMap, ← findSome?_ite]
  congr 1
  funext l
  exact find?_map_bind ht _ fun _ => some l

theorem find?_frameworkCandidates (ht : t ∈ Catalog.templates) (frameworks : List Framework) :
    (frameworkCandidates frameworks).find? (·.name == t.name) =
      (frameworks.find? fun f => t.supportsFramework f.name).map fun f => t.bind (some f.language) := by
  rw [frameworkCandidates, List.find?_flatMap, ← findSome?_ite]
  congr 1
  funext f
  exact find?_map_bind ht _ fun _ => some f.language

theorem find?_categoryCandidates (ht : t ∈ Catalog.templates) (categories : List Category)
    (languages : List Language) :
    (categoryCandidates categories languages).find? (·.name == t.name) =
      if categories.contains t.category && isRelevant languages t then some (bindFirst languages t) else none :=
  find?_map_bind ht _ fun u => languages.find? u.supportsLanguage

/-- Tools for every repository are for security or of a category that supports. -/
theorem category_of_isUniversal : ∀ t ∈ Catalog.templates, t.isUniversal = true →
    t.category = .security ∨ t.category ∈ supportCategories := by decide

/-- For a tool of none of the languages the passes that go by category have something only if it is for every repository,
and they bind it to no language. -/
theorem find?_categoryPasses (ht : t ∈ Catalog.templates) {languages : List Language}
    (hlang : languages.find? t.supportsLanguage = none) :
    ((categoryCandidates [.security] languages).find? (·.name == t.name)).or
        ((categoryCandidates supportCategories languages).find? (·.name == t.name)) =
      if t.isUniversal then some (t.bind none) else none := by
  -- no language supports it, so being universal is all that makes it relevant
  have hrelevant : isRelevant languages t = t.isUniversal := by
    have hany : languages.any t.supportsLanguage = false := by
      rw [← Bool.not_eq_true, List.any_eq_true]
      rintro ⟨l, hl, hs⟩
      exact List.find?_eq_none.1 hlang l hl hs
    rw [isRelevant, hany, Bool.or_false]
  have hbind : bindFirst languages t = t.bind none := by rw [bindFirst, hlang]
  rw [find?_categoryCandidates ht, find?_categoryCandidates ht, hrelevant, hbind]
  cases huniv : t.isUniversal with
  | false => simp
  | true =>
    rcases category_of_isUniversal t ht huniv with hcat | hcat
    · simp [hcat]
    · by_cases hsec : t.category = .security
      · simp [hsec]
      · simp [hsec, hcat]

end

/-! ## §4 — what all passes have for it first

The passes one behind the other. The first that has the tool decides how it is bound. -/

section
variable {p : Profile} {t : Template}

theorem some_eq_some_iff_of {α : Type} {P : Prop} {x y : α} (hP : P) : some x = some y ↔ P ∧ y = x := by
  rw [Option.some.injEq, and_iff_right hP, eq_comm]

/-- **What the passes have for a tool first.** The pass for languages comes before that for frameworks. What the passes
for categories add are tools for every repository, since other tools that they have turned up before. -/
theorem find?_candidates (ht : t ∈ Catalog.templates) {l : Linter} :
    (candidates p).find? (·.name == t.name) = some l ↔ IsCalledFor p t ∧ l = t.bind (boundLanguage p t) := by
  have hpasses : (candidates p).find? (·.name == t.name) =
      ((languageCandidates p.detectedLanguages).find? (·.name == t.name)).or
        (((frameworkCandidates p.frameworks).find? (·.name == t.name)).or
          (((categoryCandidates [.security] p.detectedLanguages).find? (·.name == t.name)).or
            ((categoryCandidates supportCategories p.detectedLanguages).find? (·.name == t.name)))) := by
    simp only [candidates, List.find?_append, Option.or_assoc]
  rw [hpasses, find?_languageCandidates ht, find?_frameworkCandidates ht, boundLanguage]
  change _ ↔ _ ∧ l = t.bind (match p.detectedLanguages.find? _ with | some _ => _ | none => _)
  -- the first pass that has the tool decides
  cases hlang : p.detectedLanguages.find? t.supportsLanguage with
  | some language =>
    have hcalled : IsCalledFor p t := .inl ⟨language, List.mem_of_find?_eq_some hlang, List.find?_some hlang⟩
    exact some_eq_some_iff_of hcalled
  | none =>
    rw [find?_categoryPasses ht hlang]
    cases hfw : p.frameworks.find? (fun f => t.supportsFramework f.name) with
    | some f =>
      have hf : t.supportsFramework f.name = true := by simpa using List.find?_some hfw
      have hcalled : IsCalledFor p t := .inr (.inl ⟨f, List.mem_of_find?_eq_some hfw, hf⟩)
      exact some_eq_some_iff_of hcalled
    | none =>
      cases huniv : t.isUniversal with
      | false =>
        have hnot : ¬IsCalledFor p t := by
          rintro (⟨l, hl, hs⟩ | ⟨f, hf, hs⟩ | hs)
          · exact List.find?_eq_none.1 hlang l hl hs
          · exact List.find?_eq_none.1 hfw f hf hs
          · rw [huniv] at hs
            cases hs
        simp [hnot]
      | true => exact some_eq_some_iff_of (.inr (.inr huniv))

/-- What is left is one linter for each tool that is called for, bound as it should be. -/
theorem mem_firstOfEach_candidates_iff {l : Linter} :
    l ∈ firstOfEach (candidates p) ↔ ∃ t ∈ Catalog.templates, IsCalledFor p t ∧ l = t.bind (boundLanguage p t) := by
  rw [mem_firstOfEach_iff]
  constructor
  · intro hfind
    obtain ⟨t, ht, language, hbind⟩ := exists_bind_of_mem_candidates (List.mem_of_find?_eq_some hfind)
    have hname : l.name = t.name := by rw [← hbind]; rfl
    rw [hname] at hfind
    exact ⟨t, ht, (find?_candidates ht).1 hfind⟩
  · rintro ⟨t, ht, hcalled, rfl⟩
    exact (find?_candidates ht).2 ⟨hcalled, rfl⟩

/-- **Selection is exact.** Among the candidates, each kept once, a tool of the catalog stands exactly once iff the
profile calls for it; and the candidates are these tools, each bound to the first of the profile's languages that it
lints, or else to the language of the first framework that calls for it, or else to none. -/
theorem firstOfEach_candidates_exact (p : Profile) :
    (∀ t ∈ Catalog.templates, ((firstOfEach (candidates p)).map (·.name)).count t.name = 1 ↔ IsCalledFor p t) ∧
      ∀ l, l ∈ firstOfEach (candidates p) ↔
        ∃ t ∈ Catalog.templates, IsCalledFor p t ∧ l = t.bind (boundLanguage p t) := by
  refine ⟨fun t ht => ?_, fun l => mem_firstOfEach_candidates_iff⟩
  have hnodup : ((firstOfEach (candidates p)).map (·.name)).Nodup := (firstOfEachFrom_nodup [] _).1
  constructor
  · intro hcount
    have hmem : t.name ∈ (firstOfEach (candidates p)).map (·.name) := by
      rw [← List.count_pos_iff, hcount]
      decide
    obtain ⟨l, hl, hname⟩ := List.mem_map.1 hmem
    obtain ⟨u, hu, hcalled, rfl⟩ := mem_firstOfEach_candidates_iff.1 hl
    rwa [← Catalog.eq_of_name_eq hu ht hname]
  · intro hcalled
    have hmem : t.bind (boundLanguage p t) ∈ firstOfEach (candidates p) :=
      mem_firstOfEach_candidates_iff.2 ⟨t, ht, hcalled, rfl⟩
    exact List.count_eq_one_of_mem hnodup (List.mem_map_of_mem (f := Linter.name) hmem)

-- two frameworks call for one tool: the first of them binds it, although its language is not the profile's main one
example :
    let p := { plainProfile .javaScript with
      frameworks := [⟨"vue", .typeScript, "web/package.json"⟩, ⟨"react", .javaScript, "package.json"⟩] }
    ((firstOfEach (candidates p)).filter (·.name == "lighthouse")).map (·.language) = [some .typeScript] := by
  decide +kernel

end

end LintPlan.Planning
