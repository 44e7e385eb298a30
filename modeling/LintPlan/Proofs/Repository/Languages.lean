import LintPlan.Proofs.Number.Total
import LintPlan.Repository.Languages
import Mathlib.Algebra.BigOperators.Group.List.Basic
import Mathlib.Data.List.Basic

/-!
# Languages that are counted and split

Files are counted by their languages, each file once, and the languages are put in order. Of these, a few are picked as the
main ones and a few more as the ones beside them.

* **`Language.sortByCount_increasing`** — the order is strict if no language comes twice.
* **`LanguageStat.mem_languages_gather`** — the languages that are counted are those that have a file.
* **`LanguageStat.total_files_gather`** — every file is counted, for its own language alone.
* **`LanguageStat.split_sound`** — the two parts are distinct languages out of those counted, and within their limits.
-/

namespace LintPlan

/-! ## §1 — the order

Languages are sorted by a count, and by name where counts are equal. Names differ, so the order is strict. -/

namespace Language

theorem name_injective : Function.Injective name := by
  intro l m h
  exact Option.some.inj ((ofName?_name l).symm.trans (h ▸ ofName?_name m))

theorem nodup_all : all.Nodup := by decide

theorem mem_all (l : Language) : l ∈ all := by cases l <;> decide

section
variable {α : Type} {count : α → Nat} {language : α → Language} {xs : List α} {a b c : α}

/-- The order of languages: more of them first, and by name where there are as many. -/
def isBefore (count : α → Nat) (language : α → Language) (a b : α) : Bool :=
  count b < count a || (count a == count b && decide ((language a).name ≤ (language b).name))

theorem isBefore_iff :
    isBefore count language a b = true ↔ count b < count a ∨ count a = count b ∧ (language a).name ≤ (language b).name := by
  rw [isBefore, Bool.or_eq_true, Bool.and_eq_true, decide_eq_true_iff, decide_eq_true_iff, beq_iff_eq]

theorem isBefore_trans (hab : isBefore count language a b = true) (hbc : isBefore count language b c = true) :
    isBefore count language a c = true := by
  rw [isBefore_iff] at hab hbc ⊢
  rcases hab with hab | ⟨hab, hname⟩
  · exact .inl (by omega)
  · rcases hbc with hbc | ⟨hbc, hname'⟩
    · exact .inl (by omega)
    · exact .inr ⟨hab.trans hbc, String.le_trans hname hname'⟩

theorem isBefore_total (count : α → Nat) (language : α → Language) (a b : α) :
    (isBefore count language a b || isBefore count language b a) = true := by
  rw [Bool.or_eq_true, isBefore_iff, isBefore_iff]
  rcases Nat.lt_trichotomy (count a) (count b) with h | h | h
  · exact .inr (.inl h)
  · exact (String.le_total (language a).name (language b).name).imp (fun hle => .inr ⟨h, hle⟩) fun hle => .inr ⟨h.symm, hle⟩
  · exact .inl (.inl h)

theorem sortByCount_perm (count : α → Nat) (language : α → Language) (xs : List α) :
    (sortByCount count language xs).Perm xs := List.mergeSort_perm ..

/-- **The order is strict**, if no language comes twice. -/
theorem sortByCount_increasing (hnodup : (xs.map language).Nodup) :
    (sortByCount count language xs).Pairwise fun a b =>
      count b < count a ∨ count a = count b ∧ (language a).name < (language b).name := by
  have hsorted : (sortByCount count language xs).Pairwise fun a b => isBefore count language a b = true :=
    List.pairwise_mergeSort (fun _ _ _ => isBefore_trans) (isBefore_total count language) xs
  have hdistinct : ((sortByCount count language xs).map language).Nodup :=
    ((sortByCount_perm count language xs).map language).nodup_iff.mpr hnodup
  refine hsorted.imp₂ ?_ (List.pairwise_map.mp hdistinct)
  intro a b hbefore hne
  rcases isBefore_iff.mp hbefore with hmore | ⟨hsame, hname⟩
  · exact .inl hmore
  · exact .inr ⟨hsame, Std.lt_of_le_of_ne hname fun heq => hne (name_injective heq)⟩

end

end Language

namespace LanguageStat

variable {files : List (Language × Nat)} {stats : List LanguageStat} {s : LanguageStat} {ls : List Language}

/-! ## §2 — counting

How many files each language has, and that all files are accounted for. -/

theorem gather_perm (files : List (Language × Nat)) :
    (gather files).Perm ((Language.all.map (ofFiles files)).filter fun s => 0 < s.files) :=
  Language.sortByCount_perm ..

/-- A share of a language is that of the files in it, and there are some. -/
theorem mem_gather : s ∈ gather files ↔ s = ofFiles files s.language ∧ 0 < s.files := by
  rw [(gather_perm files).mem_iff, List.mem_filter, decide_eq_true_iff]
  refine and_congr_left fun _ => ?_
  constructor
  · intro hs
    obtain ⟨l, -, rfl⟩ := List.mem_map.mp hs
    rfl
  · intro hs
    rw [hs]
    exact List.mem_map_of_mem (Language.mem_all s.language)

theorem files_ofFiles_pos_iff {l : Language} : 0 < (ofFiles files l).files ↔ ∃ f ∈ files, f.1 = l := by
  rw [ofFiles, List.length_pos_iff_exists_mem]
  simp only [List.mem_filter, beq_iff_eq]

/-- **The languages that are counted** are those of the files. -/
theorem mem_languages_gather {l : Language} : l ∈ (gather files).map (·.language) ↔ ∃ f ∈ files, f.1 = l := by
  rw [← files_ofFiles_pos_iff, List.mem_map]
  constructor
  · rintro ⟨s, hs, rfl⟩
    obtain ⟨heq, hpos⟩ := mem_gather.mp hs
    rw [heq] at hpos
    exact hpos
  · intro hpos
    exact ⟨ofFiles files l, mem_gather.mpr ⟨rfl, hpos⟩, rfl⟩

theorem map_language_ofFiles (files : List (Language × Nat)) (ls : List Language) :
    (ls.map (ofFiles files)).map (·.language) = ls := by
  rw [List.map_map]
  exact List.map_id ls

theorem nodup_languages_filter (files : List (Language × Nat)) (p : LanguageStat → Bool) :
    (((Language.all.map (ofFiles files)).filter p).map (·.language)).Nodup := by
  have hsublist : ((Language.all.map (ofFiles files)).filter p).Sublist (Language.all.map (ofFiles files)) :=
    List.filter_sublist
  refine (hsublist.map (·.language)).nodup ?_
  rw [map_language_ofFiles]
  exact Language.nodup_all

theorem nodup_languages_gather (files : List (Language × Nat)) : ((gather files).map (·.language)).Nodup :=
  ((gather_perm files).map (·.language)).nodup_iff.mpr (nodup_languages_filter files _)

theorem gather_increasing (files : List (Language × Nat)) :
    (gather files).Pairwise fun a b => b.files < a.files ∨ a.files = b.files ∧ a.language.name < b.language.name :=
  Language.sortByCount_increasing (nodup_languages_filter files _)

/-- No file is of a language and of one of some others. -/
theorem countP_contains_cons {l : Language} (hl : l ∉ ls) (files : List (Language × Nat)) :
    files.countP (fun f => (l :: ls).contains f.1) =
      files.countP (fun f => f.1 == l) + files.countP fun f => ls.contains f.1 := by
  induction files with
  | nil => rfl
  | cons f files ih =>
    rw [List.countP_cons, List.countP_cons, List.countP_cons, ih]
    by_cases hf : f.1 = l
    · simp [hf, hl]
      omega
    · simp [hf]
      omega

/-- Counting for one language after the other counts each file of these languages once. -/
theorem total_files_ofFiles (hnodup : ls.Nodup) :
    total ((ls.map (ofFiles files)).map (·.files)) = files.countP fun f => ls.contains f.1 := by
  induction ls with
  | nil => exact (List.countP_eq_zero.mpr fun _ _ => Bool.false_ne_true).symm
  | cons l ls ih =>
    obtain ⟨hl, hls⟩ := List.nodup_cons.mp hnodup
    have hown : (ofFiles files l).files = files.countP fun f => f.1 == l := List.countP_eq_length_filter.symm
    rw [List.map_cons, List.map_cons, total, List.foldr_cons, ← total, ih hls, countP_contains_cons hl, hown]

/-- Leaving out the languages without a file takes nothing away. -/
theorem total_files_filter (stats : List LanguageStat) :
    total ((stats.filter fun s => 0 < s.files).map (·.files)) = total (stats.map (·.files)) := by
  have hpos : (fun s : LanguageStat => decide (0 < s.files)) = (fun n => n != 0) ∘ (·.files) := by
    funext s
    rw [Function.comp_apply, Bool.eq_iff_iff, decide_eq_true_iff, bne_iff_ne, Nat.pos_iff_ne_zero]
  rw [hpos, ← List.filter_map, total_eq_sum, total_eq_sum, List.sum_filter_bne_zero]

/-- **Every file is counted once.** -/
theorem total_files_gather (files : List (Language × Nat)) : total ((gather files).map (·.files)) = files.length := by
  rw [total, ((gather_perm files).map (·.files)).foldr_eq 0, ← total, total_files_filter, total_files_ofFiles Language.nodup_all,
    List.countP_eq_length]
  intro f _
  exact List.contains_iff_mem.mpr (Language.mem_all f.1)

/-! ## §3 — splitting

Languages are split into main ones and those beside them. -/

/-- What is known of languages that are picked out of some others, once as the main ones and once as the ones beside them. -/
structure IsSplit (ls : List Language) (parts : List Language × List Language) : Prop where
  nodup_main : parts.1.Nodup
  nodup_beside : parts.2.Nodup
  disjoint : parts.1.Disjoint parts.2
  length_main : parts.1.length ≤ mostMain
  length_beside : parts.2.length ≤ mostBeside
  known : ∀ l ∈ parts.1 ++ parts.2, l ∈ ls

/-- **Splitting** picks out of the languages that were counted. -/
theorem split_sound (hnodup : (stats.map (·.language)).Nodup) : IsSplit (stats.map (·.language)) (split stats) := by
  unfold split
  dsimp only
  split
  · exact ⟨List.nodup_nil, List.nodup_nil, List.disjoint_nil_left [], Nat.zero_le _, Nat.zero_le _, nofun⟩
  · have hranked : ((ranked stats).map (·.language)).Perm (stats.map (·.language)) :=
      (List.mergeSort_perm stats ranksBefore).map _
    -- both parts are taken from the ranked languages, in their order
    have hpart : ∀ (p : LanguageStat → Bool) (most : Nat),
        ((((ranked stats).filter p).take most).map (·.language)).Sublist ((ranked stats).map (·.language)) :=
      fun p most => ((List.take_sublist most _).trans List.filter_sublist).map _
    have hlength : ∀ (p : LanguageStat → Bool) (most : Nat),
        ((((ranked stats).filter p).take most).map (·.language)).length ≤ most := by
      intro p most
      rw [List.length_map]
      exact List.length_take_le most _
    have hdistinct : ((ranked stats).map (·.language)).Nodup := hranked.nodup_iff.mpr hnodup
    constructor
    case nodup_main => exact (hpart _ _).nodup hdistinct
    case nodup_beside => exact (hpart _ _).nodup hdistinct
    case length_main => exact hlength _ _
    case length_beside => exact hlength _ _
    case disjoint =>
      intro l hmain hbeside
      obtain ⟨s, hs, rfl⟩ := List.mem_map.mp hbeside
      have hfilter := (List.mem_filter.mp (List.mem_of_mem_take hs)).2
      rw [Bool.and_eq_true, Bool.not_eq_true', List.contains_eq_mem, decide_eq_false_iff_not] at hfilter
      exact hfilter.1 hmain
    case known =>
      intro l hl
      rw [List.mem_append] at hl
      exact hranked.subset (hl.elim (fun h => (hpart _ _).subset h) fun h => (hpart _ _).subset h)

end LanguageStat

end LintPlan
