import LintPlan.Proofs.Planning.Omissions
import LintPlan.Proofs.Planning.Partition

/-!
# The order of the catalog decides

Candidates come language by language, so a tool that stands late in the catalog can be looked at early. Between rivals that
makes no difference: whatever a tool is chosen for, its rival that stands first in the catalog is chosen for too, and it is
looked at first.

* **`leads_candidates`** — no candidate stands before its rival that is listed first.
* **`mem_selected_iff`** — a candidate is chosen iff no rival that is listed first is a candidate. The right hand side has no
  order of candidates in it.
* **`firstWins_withRequired_perm`** — preferences and repair keep what does not depend on the order.
* **`plan_orderFree`** — the two together, for a whole plan.
-/

namespace LintPlan

/-! ## §1 — one name before another

A name leads another in a list if each time the second comes up, the first has come up before. Rivals are decided by this. -/

/-- Does the first of the names `a` and `b` that occurs turn out to be `a`? -/
def Leads (a b : String) : List String → Prop
  | [] => True
  | x :: xs => x = a ∨ x ≠ b ∧ Leads a b xs

section
variable {a b : String} {xs ys : List String}

theorem leads_of_not_mem (h : b ∉ xs) : Leads a b xs := by
  induction xs with
  | nil => trivial
  | cons x xs ih =>
    rw [List.mem_cons, not_or] at h
    exact .inr ⟨Ne.symm h.1, ih h.2⟩

theorem Leads.append (hx : Leads a b xs) (hy : Leads a b ys) : Leads a b (xs ++ ys) := by
  induction xs with
  | nil => exact hy
  | cons x xs ih => exact hx.imp id fun ⟨hne, hrest⟩ => ⟨hne, ih hrest⟩

theorem leads_flatMap {α : Type} {f : α → List String} {zs : List α} (h : ∀ z ∈ zs, Leads a b (f z)) :
    Leads a b (zs.flatMap f) := by
  induction zs with
  | nil => trivial
  | cons z zs ih =>
    rw [List.flatMap_cons]
    exact (h z List.mem_cons_self).append (ih fun y hy => h y (List.mem_cons_of_mem _ hy))

/-- In a list without repeats a name leads one that it stands in front of. -/
theorem leads_of_sublist (hnodup : xs.Nodup) (h : [a, b].Sublist xs) : Leads a b xs := by
  induction xs with
  | nil => cases h
  | cons x xs ih =>
    obtain ⟨hx, hxs⟩ := List.nodup_cons.1 hnodup
    cases h with
    | cons _ h =>
      -- `b` stands behind `x`, and once only
      refine .inr ⟨?_, ih hxs h⟩
      rintro rfl
      exact hx (h.subset (by simp))
    | cons_cons _ h => exact .inl rfl

end

namespace Planning

variable {p q : Profile} {prefs : Preferences} {t u : Template} {a b n : String}

/-- Dropping repeats keeps the lead. -/
theorem leads_firstOfEachFrom {seen : List String} {ls : List Linter} (ha : a ∉ seen) (h : Leads a b (ls.map (·.name))) :
    Leads a b ((firstOfEachFrom seen ls).map (·.name)) := by
  induction ls generalizing seen with
  | nil => trivial
  | cons l ls ih =>
    rw [firstOfEachFrom]
    rcases h with rfl | ⟨hne, hrest⟩
    · rw [if_neg (mt List.contains_iff_mem.1 ha)]
      exact .inl rfl
    · split
      · exact ih ha hrest
      · by_cases hl : l.name = a
        · exact .inl hl
        · have ha' : a ∉ l.name :: seen := by simp [ha, Ne.symm hl]
          exact .inr ⟨hne, ih ha' hrest⟩

/-- **The pass keeps the rival that comes first.** Nothing but `b` could be in the way of `a`, and `b` is not kept yet. -/
theorem mem_firstWinsFrom_of_leads {kept names : List String} (hc : Catalog.conflicts a b = true) (hb : b ∉ kept)
    (h : Leads a b names) (ha : a ∈ names) : a ∈ firstWinsFrom id kept names := by
  induction names generalizing kept with
  | nil => cases ha
  | cons x xs ih =>
    by_cases hx : x = a
    · -- a name has one rival, and that one was not kept
      have hfree : ∀ k ∈ kept, Catalog.conflicts k (id x) = false := by
        intro k hk
        by_contra hk'
        rw [Bool.not_eq_false, id, hx, Catalog.conflicts_comm] at hk'
        exact hb (Catalog.rival_unique hc hk' ▸ hk)
      rw [firstWinsFrom_keep xs hfree, hx]
      exact List.mem_cons_self
    · have hxs : a ∈ xs := (List.mem_cons.1 ha).resolve_left (Ne.symm hx)
      obtain ⟨hne, hrest⟩ := h.resolve_left hx
      rw [firstWinsFrom]
      split
      · exact ih hb hrest hxs
      · -- the rival is still not among those that are kept
        have hb' : b ∉ kept ++ [id x] := by simp [hb, Ne.symm hne]
        exact List.mem_cons_of_mem _ (ih hb' hrest hxs)

/-! ## §2 — candidates

In the candidates a rival that the catalog lists first leads the other, whatever the order of languages: whatever calls for the
second calls for the first, in the same pass. -/

/-- In any part of the catalog that has `t` if it has `u`, `t` comes first. -/
theorem leads_filter {P : Template → Bool} (h : [t, u].Sublist Catalog.templates) (hP : P u = true → P t = true) :
    Leads t.name u.name ((Catalog.templates.filter P).map (·.name)) := by
  by_cases hu : P u = true
  · have hboth : [t, u].filter P = [t, u] := List.filter_eq_self.2 (by simp [hu, hP hu])
    have hsub : [t, u].Sublist (Catalog.templates.filter P) := hboth ▸ h.filter P
    exact leads_of_sublist (Catalog.names_nodup.sublist (List.filter_sublist.map _)) (hsub.map _)
  · apply leads_of_not_mem
    intro hmem
    obtain ⟨v, hv, hname⟩ := List.mem_map.1 hmem
    obtain ⟨hv, hPv⟩ := List.mem_filter.1 hv
    exact hu (Catalog.eq_of_name_eq hv (h.subset (by simp)) hname ▸ hPv)

theorem covers_of_sublist (h : [t, u].Sublist Catalog.templates) (hc : Catalog.conflicts t.name u.name = true) :
    Catalog.Covers t u := List.pairwise_iff_forall_sublist.1 Catalog.covers_of_rival h hc

/-- **No candidate stands before its rival that is listed first.** -/
theorem leads_candidates (h : [t, u].Sublist Catalog.templates) (hc : Catalog.conflicts t.name u.name = true) :
    Leads t.name u.name ((candidates p).map (·.name)) := by
  have hcovers := covers_of_sublist h hc
  have hcategory : ∀ cs : List Category,
      Leads t.name u.name ((categoryCandidates cs p.detectedLanguages).map (·.name)) := by
    intro cs
    rw [categoryCandidates, List.map_map]
    refine leads_filter h fun hu => ?_
    rw [Bool.and_eq_true] at hu ⊢
    refine ⟨hcovers.category ▸ hu.1, ?_⟩
    -- the later rival is bound to languages, so one of them must be there, and the earlier rival supports it too
    have hlocal : u.isUniversal = false := by simp [Template.isUniversal, hcovers.bound]
    have hany : p.detectedLanguages.any u.supportsLanguage = true := by simpa [isRelevant, hlocal] using hu.2
    obtain ⟨l, hl, hul⟩ := List.any_eq_true.1 hany
    have htl : t.supportsLanguage l = true :=
      List.contains_iff_mem.2 (hcovers.languages l (List.contains_iff_mem.1 hul))
    rw [isRelevant, List.any_eq_true.2 ⟨l, hl, htl⟩, Bool.or_true]
  simp only [candidates, List.map_append]
  refine Leads.append (Leads.append (Leads.append ?_ ?_) (hcategory _)) (hcategory _)
  · -- the passes over languages, over frameworks and over categories
    rw [languageCandidates, List.map_flatMap]
    refine leads_flatMap fun l _ => ?_
    rw [List.map_map]
    exact leads_filter h fun hu => List.contains_iff_mem.2 (hcovers.languages l (List.contains_iff_mem.1 hu))
  · rw [frameworkCandidates, List.map_flatMap]
    refine leads_flatMap fun f _ => ?_
    rw [List.map_map]
    refine leads_filter h fun hu => ?_
    rw [Template.supportsFramework, hcovers.frameworks] at hu
    cases hu

/-- More languages and frameworks, more candidates. -/
theorem names_candidates_subset (hl : p.detectedLanguages ⊆ q.detectedLanguages) (hf : p.frameworks ⊆ q.frameworks) :
    (candidates p).map (·.name) ⊆ (candidates q).map (·.name) := by
  have hcategory : ∀ cs : List Category, (categoryCandidates cs p.detectedLanguages).map (·.name) ⊆
      (categoryCandidates cs q.detectedLanguages).map (·.name) := by
    intro cs
    rw [categoryCandidates, categoryCandidates, List.map_map, List.map_map]
    refine List.map_subset _ fun v hv => ?_
    rw [List.mem_filter, Bool.and_eq_true, isRelevant, Bool.or_eq_true, List.any_eq_true] at hv ⊢
    exact ⟨hv.1, hv.2.1, hv.2.2.imp id fun ⟨l, hmem, hsup⟩ => ⟨l, hl hmem, hsup⟩⟩
  intro n hn
  simp only [candidates, List.map_append, List.mem_append] at hn ⊢
  refine hn.imp (Or.imp (Or.imp ?_ ?_) (hcategory _ ·)) (hcategory _ ·)
  · rw [List.mem_map, List.mem_map]
    rintro ⟨m, hm, rfl⟩
    obtain ⟨l, hmem, hm⟩ := List.mem_flatMap.1 hm
    exact ⟨m, List.mem_flatMap.2 ⟨l, hl hmem, hm⟩, rfl⟩
  · rw [List.mem_map, List.mem_map]
    rintro ⟨m, hm, rfl⟩
    obtain ⟨f, hmem, hm⟩ := List.mem_flatMap.1 hm
    exact ⟨m, List.mem_flatMap.2 ⟨f, hf hmem, hm⟩, rfl⟩

/-! ## §3 — the linters that are chosen

A candidate is chosen exactly when no rival of it that is listed before it is a candidate. This does not speak of any order of
the profile. -/

/-- **Of two rivals the one that is listed first is chosen.** -/
theorem mem_selected_of_leads (hc : Catalog.conflicts a b = true) (h : Leads a b ((candidates p).map (·.name)))
    (ha : a ∈ (candidates p).map (·.name)) : a ∈ (selected p).enabledNames := by
  rw [LinterSet.enabledNames, selected, withoutConflicts_enabled, map_firstWinsFrom]
  exact mem_firstWinsFrom_of_leads hc List.not_mem_nil (leads_firstOfEachFrom List.not_mem_nil h)
    (mem_firstOfEachFrom_names.2 ⟨ha, List.not_mem_nil⟩)

theorem not_mem_selected_of_conflicts (hc : Catalog.conflicts a b = true) (ha : a ∈ (selected p).enabledNames) :
    b ∉ (selected p).enabledNames := by
  intro hb
  rw [(selected_conflictFree p).conflicts_eq_false ha hb] at hc
  cases hc

/-- Is the first name listed before the second one? -/
def ListedBefore (a b : String) : Prop := [a, b].Sublist (Catalog.templates.map (·.name))

theorem ListedBefore.exists_templates (h : ListedBefore a b) :
    ∃ t u, [t, u].Sublist Catalog.templates ∧ t.name = a ∧ u.name = b := by
  obtain ⟨ts, hts, hnames⟩ := List.sublist_map_iff.1 h
  match ts, hnames with
  | [t, u], hnames =>
    simp only [List.map_cons, List.map_nil, List.cons.injEq, and_true] at hnames
    exact ⟨t, u, hts, hnames.1.symm, hnames.2.symm⟩

/-- Of two different names one is listed before the other. -/
theorem listedBefore_or (ha : a ∈ Catalog.templates.map (·.name)) (hb : b ∈ Catalog.templates.map (·.name)) (hne : a ≠ b) :
    ListedBefore a b ∨ ListedBefore b a := by
  obtain ⟨front, back, hsplit⟩ := List.append_of_mem ha
  rw [ListedBefore, ListedBefore, hsplit]
  rw [hsplit, List.mem_append, List.mem_cons] at hb
  rcases hb with hb | hb | hb
  · exact .inr ((List.singleton_sublist.2 hb).append ((List.singleton_sublist.2 List.mem_cons_self)))
  · exact absurd hb.symm hne
  · exact .inl (((List.singleton_sublist.2 hb).cons_cons a).trans (List.sublist_append_right _ _))

/-- **Which candidates are chosen**: those without a rival among the candidates that is listed before them. -/
theorem mem_selected_iff :
    n ∈ (selected p).enabledNames ↔ n ∈ (candidates p).map (·.name) ∧
      ∀ r ∈ (candidates p).map (·.name), Catalog.conflicts r n = true → ¬ ListedBefore r n := by
  have hfirst : ∀ r m, Catalog.conflicts r m = true → ListedBefore r m → r ∈ (candidates p).map (·.name) →
      r ∈ (selected p).enabledNames := by
    intro r m hc hbefore hr
    obtain ⟨t, u, hsub, rfl, rfl⟩ := hbefore.exists_templates
    exact mem_selected_of_leads hc (leads_candidates hsub hc) hr
  constructor
  · intro hn
    refine ⟨mem_names_selected.1 (List.mem_append_left _ hn), fun r hr hc hbefore => ?_⟩
    exact not_mem_selected_of_conflicts hc (hfirst r n hc hbefore hr) hn
  · rintro ⟨hn, hfree⟩
    by_contra hoff
    obtain ⟨k, hk, hc⟩ := exists_rival_of_not_mem_selected hn hoff
    have hkon : k.name ∈ (selected p).enabledNames := List.mem_map_of_mem hk
    have hkcand : k.name ∈ (candidates p).map (·.name) := mem_names_selected.1 (List.mem_append_left _ hkon)
    have hc' : Catalog.conflicts n k.name = true := Catalog.conflicts_comm .. ▸ hc
    -- the rival is listed behind `n`, so `n` would have been chosen in its place
    rcases listedBefore_or (Catalog.mem_names_of_conflicts hc) (Catalog.mem_names_of_conflicts hc')
        (Catalog.ne_of_conflicts hc) with hbefore | hbefore
    · exact hfree k.name hkcand hc hbefore
    · exact hoff (hfirst n k.name hc' hbefore hn)

/-! ## §4 — preferences and repair

The later steps take the names that were chosen as a set. -/

/-- The pass over the wanted linters and the required ones keeps the former as they are. -/
theorem firstWins_withRequired {required kept : List String} (hfree : ConflictFree kept) :
    firstWins (withRequired required kept) =
      kept.filter (fun k => required.contains k || !required.any (Catalog.conflicts k)) ++
        firstWinsFrom id (kept.filter fun k => required.contains k || !required.any (Catalog.conflicts k))
          (missing kept required).eraseDups := by
  generalize hstay : kept.filter (fun k => required.contains k || !required.any (Catalog.conflicts k)) = stay
  have hsub : stay.Sublist kept := hstay ▸ List.filter_sublist
  have hself : firstWinsFrom id [] stay = stay :=
    firstWinsFrom_eq_self (by rw [List.map_id]; exact hfree.sublist hsub) (by simp)
  rw [firstWins, withRequired, hstay, firstWinsFrom_append, hself, List.map_id, List.nil_append]

/-- **Preferences and repair do not depend on the order** of the linters that are wanted. These pass unchanged, and what
goes on behind them depends only on which they are. -/
theorem firstWins_withRequired_perm {required kept kept' : List String} (hfree : ConflictFree kept)
    (hfree' : ConflictFree kept') (hperm : kept.Perm kept') :
    (firstWins (withRequired required kept)).Perm (firstWins (withRequired required kept')) := by
  have hmissing : missing kept required = missing kept' required := by
    apply List.filter_congr
    intro r _
    rw [Bool.not_inj_iff, Bool.eq_iff_iff, List.contains_iff_mem, List.contains_iff_mem]
    exact hperm.mem_iff
  rw [firstWins_withRequired hfree, firstWins_withRequired hfree', hmissing]
  have hstay := hperm.filter fun k => required.contains k || !required.any (Catalog.conflicts k)
  rw [firstWinsFrom_perm hstay]
  exact hstay.append_right _

/-! ## §5 — plans

All steps together. -/

/-- More linters that are chosen means more that are wanted, since tools of one name have one severity. -/
theorem wantedNames_subset (h : (selected p).enabledNames ⊆ (selected q).enabledNames) :
    ((selected p).enabled.filter (isWanted prefs)).map (·.name) ⊆
      ((selected q).enabled.filter (isWanted prefs)).map (·.name) := by
  intro n hn
  obtain ⟨k, hk, rfl⟩ := List.mem_map.1 hn
  obtain ⟨hk, hwanted⟩ := List.mem_filter.1 hk
  obtain ⟨m, hm, hname⟩ := List.mem_map.1 (h (List.mem_map_of_mem hk))
  have hsame : isWanted prefs m = isWanted prefs k :=
    isWanted_eq_of_name_eq (mem_candidates_of_mem_selected hm) (mem_candidates_of_mem_selected hk) hname
  exact List.mem_map.2 ⟨m, List.mem_filter.2 ⟨hm, hsame.trans hwanted⟩, hname⟩

theorem wantedNames_nodup (p : Profile) (prefs : Preferences) :
    (((selected p).enabled.filter (isWanted prefs)).map (·.name)).Nodup :=
  LinterSet.nodup_names_filter (selected_enabledNames_nodup p) _

/-- Profiles with the same names of candidates have plans with the same linters on. -/
theorem enabledNames_perm (prefs : Preferences)
    (h : ∀ n, n ∈ (candidates p).map (·.name) ↔ n ∈ (candidates q).map (·.name)) :
    (separatedDraft p prefs).linters.enabledNames.Perm (separatedDraft q prefs).linters.enabledNames := by
  have hselected : ∀ n, n ∈ (selected p).enabledNames ↔ n ∈ (selected q).enabledNames := by
    intro n
    rw [mem_selected_iff, mem_selected_iff, h n]
    exact and_congr_right fun _ => forall_congr' fun r => imp_congr_left (h r)
  have hwanted := (List.perm_ext_iff_of_nodup (wantedNames_nodup p prefs) (wantedNames_nodup q prefs)).2 fun n =>
    ⟨fun hn => wantedNames_subset (fun m => (hselected m).1) hn, fun hn => wantedNames_subset (fun m => (hselected m).2) hn⟩
  rw [enabledNames_separatedDraft, enabledNames_separatedDraft]
  exact firstWins_withRequired_perm (wantedNames_conflictFree p prefs) (wantedNames_conflictFree q prefs) hwanted

theorem mem_disabled_iff :
    n ∈ (separatedDraft p prefs).linters.disabled ↔
      (n ∈ (candidates p).map (·.name) ∨ n ∈ prefs.requiredLinters) ∧
        n ∉ (separatedDraft p prefs).linters.enabledNames := by
  have hnodup := nodup_names_separatedDraft p prefs
  have hnames : n ∈ (separatedDraft p prefs).linters.names ↔
      n ∈ (candidates p).map (·.name) ∨ n ∈ prefs.requiredLinters := mem_names_plan
  rw [← hnames, LinterSet.names, List.mem_append, or_and_right, and_not_self_iff, false_or, iff_self_and]
  exact fun hoff hon => LinterSet.not_mem_disabled_of_nodup hnodup hon hoff

/-- **The order of the catalog decides, and no other order.** Of two rivals among the candidates the one that is listed
first is chosen. The order in which languages and frameworks were found makes no difference: two profiles with the same ones
have plans with the same linters on and the same linters off. -/
theorem plan_orderFree (prefs : Preferences) (hlanguages : (p.primary ++ p.secondary).Perm (q.primary ++ q.secondary))
    (hframeworks : p.frameworks.Perm q.frameworks) :
    (Catalog.templates.Pairwise fun t u => Catalog.conflicts t.name u.name = true →
      t.name ∈ (candidates p).map (·.name) → u.name ∈ (candidates p).map (·.name) →
        t.name ∈ (selected p).enabledNames ∧ u.name ∈ (selected p).disabled) ∧
      ∃ c d, plan p prefs = .ok c ∧ plan q prefs = .ok d ∧
        c.linters.enabledNames.Perm d.linters.enabledNames ∧ c.linters.disabled.Perm d.linters.disabled := by
  refine ⟨?_, _, _, plan_eq_ok p prefs, plan_eq_ok q prefs, ?_⟩
  · rw [List.pairwise_iff_forall_sublist]
    intro t u hsub hc ht hu
    have hton := mem_selected_of_leads hc (leads_candidates hsub hc) ht
    have hu' : u.name ∈ (selected p).names := mem_names_selected.2 hu
    exact ⟨hton, (List.mem_append.1 hu').resolve_left (not_mem_selected_of_conflicts hc hton)⟩
  · show (separatedDraft p prefs).linters.enabledNames.Perm (separatedDraft q prefs).linters.enabledNames ∧
      (separatedDraft p prefs).linters.disabled.Perm (separatedDraft q prefs).linters.disabled
    have hcandidates : ∀ n, n ∈ (candidates p).map (·.name) ↔ n ∈ (candidates q).map (·.name) := fun n =>
      ⟨fun hn => names_candidates_subset hlanguages.subset hframeworks.subset hn,
        fun hn => names_candidates_subset hlanguages.symm.subset hframeworks.symm.subset hn⟩
    have hon := enabledNames_perm prefs hcandidates
    have hnodup : ∀ r : Profile, (separatedDraft r prefs).linters.disabled.Nodup := fun r =>
      (List.nodup_append.1 (nodup_names_separatedDraft r prefs)).2.1
    refine ⟨hon, (List.perm_ext_iff_of_nodup (hnodup p) (hnodup q)).2 fun n => ?_⟩
    rw [mem_disabled_iff, mem_disabled_iff, hcandidates n, hon.mem_iff]

/-- A repository in three languages, with the languages and the frameworks in one order and in another. -/
def mixedProfile (languages : List Language) (frameworks : List Framework) : Profile :=
  { plainProfile .python with
    primary := languages.take 1
    secondary := languages.drop 1
    frameworks := frameworks }

/-- Two orders with which the candidates come in different orders too, and a required linter that displaces another one. -/
theorem plan_orderFree_mixed :
    let react : Framework := ⟨"react", .javaScript, "package.json"⟩
    let django : Framework := ⟨"django", .python, "requirements.txt"⟩
    let p := mixedProfile [.javaScript, .python, .css] [react, django]
    let q := mixedProfile [.css, .python, .javaScript] [django, react]
    (p.primary ++ p.secondary).Perm (q.primary ++ q.secondary) ∧ p.frameworks.Perm q.frameworks ∧
      (candidates p).map (·.name) ≠ (candidates q).map (·.name) ∧
      ∃ c d, plan p strictStyle = .ok c ∧ plan q strictStyle = .ok d ∧
        c.linters.enabledNames.Perm d.linters.enabledNames ∧ c.linters.disabled.Perm d.linters.disabled := by
  intro react django p q
  have hlanguages : (p.primary ++ p.secondary).Perm (q.primary ++ q.secondary) := by decide
  have hframeworks : p.frameworks.Perm q.frameworks := by decide
  exact ⟨hlanguages, hframeworks, by decide, (plan_orderFree strictStyle hlanguages hframeworks).2⟩

end Planning

end LintPlan
