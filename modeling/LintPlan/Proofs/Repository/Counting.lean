import LintPlan.Proofs.Repository.Languages
import LintPlan.Proofs.Repository.Walking
import LintPlan.Repository.Analysis
import Mathlib.Data.List.Induction
import Mathlib.Data.List.Nodup

/-!
# Two counts of the same files

Languages are counted twice: once the files alone, and once the files with their lines. Both counts are closed formulas, one
language after the other. A pass over the files that keeps a table of totals comes to the same, in whatever order it takes them.

* **`exists_foldl_enter`** — what is in the table after a pass over some files.
* **`sortByCount_foldl_enter`** — so the sorted table is the count, for every order of the files (`gather_eq_of_perm`).
* **`map_gather`** — leaving out the lines gives the count of the files alone.
* **`WalkEntry.counts_agree`** — all of this for what a walk lists.
-/

namespace LintPlan

/-! ## §1 — sorting by counts

Sorted lists with the same members are the same list, so what is sorted in the end may be gathered in any order. -/

namespace Language

section
variable {α β : Type} {count : α → Nat} {language : α → Language} {xs ys : List α}

/-- The order of distinct languages does not depend on the order in which they are given. -/
theorem sortByCount_eq_of_perm (hnodup : (ys.map language).Nodup) (h : xs.Perm ys) :
    sortByCount count language xs = sortByCount count language ys := by
  have hnodup' : (xs.map language).Nodup := (h.map language).nodup_iff.mpr hnodup
  have hperm : (sortByCount count language xs).Perm (sortByCount count language ys) :=
    (sortByCount_perm count language xs).trans (h.trans (sortByCount_perm count language ys).symm)
  apply hperm.eq_of_pairwise _ (sortByCount_increasing hnodup') (sortByCount_increasing hnodup)
  -- the order is strict, so no two elements come before each other
  rintro a b - - (hab | ⟨hab, hname⟩) (hba | ⟨hba, hname'⟩)
  · omega
  · omega
  · omega
  · exact absurd hname' (String.lt_asymm hname)

/-- What is sorted by may be kept while the rest is forgotten. -/
theorem map_sortByCount (count' : β → Nat) (language' : β → Language) {f : α → β}
    (hcount : ∀ a, count' (f a) = count a) (hlanguage : ∀ a, language' (f a) = language a) (xs : List α) :
    (sortByCount count language xs).map f = sortByCount count' language' (xs.map f) := by
  apply List.map_mergeSort
  intro a _ b _
  simp only [hcount, hlanguage]

end

end Language

namespace LanguageStat

variable {files files' : List (Language × Nat)} {f : Language × Nat} {l : Language} {ls : List Language}

/-! ## §2 — one more file

How the counts of a language grow. -/

theorem ofFiles_concat_self (files : List (Language × Nat)) (f : Language × Nat) :
    ofFiles (files ++ [f]) f.1 = ⟨f.1, (ofFiles files f.1).files + 1, (ofFiles files f.1).lines + f.2⟩ := by
  simp [ofFiles, total_eq_sum]

theorem ofFiles_concat_of_ne (h : l ≠ f.1) : ofFiles (files ++ [f]) l = ofFiles files l := by
  have hother : (f.1 == l) = false := by simpa using h.symm
  simp [ofFiles, hother]

theorem ofFiles_of_forall_ne (h : ∀ f ∈ files, f.1 ≠ l) : ofFiles files l = ⟨l, 0, 0⟩ := by
  have hnone : files.filter (fun f => f.1 == l) = [] := by simpa using h
  rw [ofFiles, hnone]
  rfl

theorem ofFiles_eq_of_perm (h : files'.Perm files) (l : Language) : ofFiles files' l = ofFiles files l := by
  have hown : (files'.filter fun f => f.1 == l).Perm (files.filter fun f => f.1 == l) := h.filter _
  rw [ofFiles, ofFiles]
  show LanguageStat.mk l _ _ = LanguageStat.mk l _ _
  rw [hown.length_eq, total, (hown.map (·.2)).foldr_eq 0, ← total]

/-- **Counting does not depend on the order** of the files. -/
theorem gather_eq_of_perm (h : files'.Perm files) : gather files' = gather files := by
  rw [gather, gather, funext (ofFiles_eq_of_perm h)]

/-! ## §3 — a pass over the files

Counting by a pass with one entry for each language met, as against counting language by language. -/

/-- A table of totals with one more file in it. A language gets its place with its first file. -/
def enter : List LanguageStat → Language × Nat → List LanguageStat
  | [], f => [⟨f.1, 1, f.2⟩]
  | s :: table, f =>
    if s.language = f.1 then ⟨s.language, s.files + 1, s.lines + f.2⟩ :: table else s :: enter table f

/-- The first file of a language gets an entry of its own. -/
theorem enter_map_of_not_mem (h : f.1 ∉ ls) (hnew : ∀ g ∈ files, g.1 ≠ f.1) :
    enter (ls.map (ofFiles files)) f = (ls ++ [f.1]).map (ofFiles (files ++ [f])) := by
  induction ls with
  | nil =>
    rw [List.map_nil, enter, List.nil_append, List.map_singleton, ofFiles_concat_self, ofFiles_of_forall_ne hnew, Nat.zero_add,
      Nat.zero_add]
  | cons l ls ih =>
    obtain ⟨hl, hls⟩ := not_or.mp (List.mem_cons.not.mp h)
    rw [List.map_cons, enter, if_neg (show (ofFiles files l).language ≠ f.1 from Ne.symm hl), ih hls, List.cons_append,
      List.map_cons, ofFiles_concat_of_ne (Ne.symm hl)]

/-- A further file is added to the entry of its language. -/
theorem enter_map_of_mem (h : f.1 ∈ ls) (hnodup : ls.Nodup) :
    enter (ls.map (ofFiles files)) f = ls.map (ofFiles (files ++ [f])) := by
  induction ls with
  | nil => exact absurd h List.not_mem_nil
  | cons l ls ih =>
    obtain ⟨hl, hls⟩ := List.nodup_cons.mp hnodup
    rw [List.map_cons, enter, List.map_cons]
    by_cases hself : l = f.1
    · -- the totals of this language change, and those behind it are of other ones
      subst hself
      rw [if_pos (show (ofFiles files f.1).language = f.1 from rfl), ofFiles_concat_self]
      refine congrArg (List.cons _) (List.map_congr_left fun m hm => ?_)
      exact (ofFiles_concat_of_ne fun heq => hl (heq ▸ hm)).symm
    · have hin : f.1 ∈ ls := (List.mem_cons.mp h).resolve_left (Ne.symm hself)
      rw [if_neg (show (ofFiles files l).language ≠ f.1 from hself), ih hin hls, ofFiles_concat_of_ne hself]

/-- **A pass over the files** leaves a table of the languages that have a file, each with its totals. -/
theorem exists_foldl_enter (files : List (Language × Nat)) :
    ∃ ls : List Language, ls.Nodup ∧ (∀ l, l ∈ ls ↔ ∃ f ∈ files, f.1 = l) ∧ files.foldl enter [] = ls.map (ofFiles files) := by
  -- on the files from the last one, which is the one that is entered into the table of the others
  induction files using List.reverseRecOn with
  | nil => exact ⟨[], List.nodup_nil, by simp, rfl⟩
  | append_singleton files f ih =>
    obtain ⟨ls, hnodup, hmem, htable⟩ := ih
    rw [List.foldl_append, List.foldl_cons, List.foldl_nil, htable]
    by_cases hf : f.1 ∈ ls
    · refine ⟨ls, hnodup, fun l => ?_, enter_map_of_mem hf hnodup⟩
      simp only [List.mem_append, List.mem_singleton, or_and_right, exists_or, exists_eq_left, ← hmem l]
      exact ⟨.inl, fun h => h.elim id fun heq => heq ▸ hf⟩
    · have hnew : ∀ g ∈ files, g.1 ≠ f.1 := fun g hg heq => hf ((hmem f.1).mpr ⟨g, hg, heq⟩)
      refine ⟨ls ++ [f.1], ?_, fun l => ?_, enter_map_of_not_mem hf hnew⟩
      · exact List.nodup_append.mpr ⟨hnodup, List.nodup_singleton _, fun a ha b hb heq => hf (List.mem_singleton.mp hb ▸ heq ▸ ha)⟩
      · simp only [List.mem_append, List.mem_singleton, or_and_right, exists_or, exists_eq_left, ← hmem l]
        exact or_congr_right eq_comm

/-- **The sorted table** of a pass over the files is the count. -/
theorem sortByCount_foldl_enter (files : List (Language × Nat)) :
    Language.sortByCount (·.files) (·.language) (files.foldl enter []) = gather files := by
  obtain ⟨ls, hnodup, hmem, htable⟩ := exists_foldl_enter files
  rw [htable, gather]
  apply Language.sortByCount_eq_of_perm (nodup_languages_filter files _)
  have hcounted : ((Language.all.map (ofFiles files)).filter fun s => 0 < s.files) =
      (Language.all.filter fun l => 0 < (ofFiles files l).files).map (ofFiles files) := List.filter_map
  rw [hcounted]
  apply List.Perm.map
  rw [List.perm_ext_iff_of_nodup hnodup (Language.nodup_all.filter _)]
  intro l
  rw [hmem, List.mem_filter, decide_eq_true_iff, files_ofFiles_pos_iff, and_iff_right (Language.mem_all l)]

/-! ## §4 — files alone

Languages counted without lines. -/

theorem count_map_fst (files : List (Language × Nat)) (l : Language) :
    (files.map (·.1)).count l = (ofFiles files l).files := by
  rw [List.count, List.countP_map, List.countP_eq_length_filter]
  rfl

/-- **The count of the files alone** is the other one without its lines. -/
theorem map_gather (files : List (Language × Nat)) :
    (gather files).map (fun s => (s.language, s.files)) = Language.tally (files.map (·.1)) := by
  rw [gather, Language.tally]
  rw [Language.map_sortByCount Prod.snd Prod.fst (fun _ => rfl) fun _ => rfl]
  congr 1
  simp only [count_map_fst]
  rw [List.filter_map, List.filter_map, List.map_map]
  rfl

end LanguageStat

/-! ## §5 — what a walk lists

The two counts of the program, one with lines and one without, over the entries of one walk. -/

namespace WalkEntry

open LanguageStat

variable {entries : List WalkEntry} {s : LanguageStat}

/-- The languages of what a walk lists, with their files and lines. -/
def languages (entries : List WalkEntry) : List LanguageStat := gather (entries.filterMap languageLines?)

/-- The languages of what a walk lists, with their files alone. -/
def fileCounts (entries : List WalkEntry) : List (Language × Nat) := Language.tally (entries.filterMap language?)

theorem languages_assemble (files directories : List WalkEntry) (configDepth : Nat)
    (detect : List Language → FrameworkReport) (buildTools : List BuildTool) :
    (Profile.assemble files directories configDepth detect buildTools).languages = languages files := rfl

theorem map_fst_languageLines? (entries : List WalkEntry) :
    (entries.filterMap languageLines?).map (·.1) = entries.filterMap language? := by
  rw [List.map_filterMap]
  congr 1
  funext e
  rw [languageLines?, Option.map_map]
  exact Option.map_id_apply

/-- The files of a language with the lines of each. -/
theorem filter_languageLines? (entries : List WalkEntry) (l : Language) :
    (entries.filterMap languageLines?).filter (fun f => f.1 == l) =
      (entries.filter fun e => e.language? = some l).map fun e => (l, e.lines) := by
  induction entries with
  | nil => rfl
  | cons e entries ih =>
    rw [List.filterMap_cons, List.filter_cons, languageLines?]
    cases hlanguage : e.language? with
    | none => simpa [hlanguage] using ih
    | some m =>
      by_cases hself : m = l
      · simpa [hself] using ih
      · simpa [hself] using ih

/-- **The share of a language** is that of the entries whose names show it. -/
theorem mem_languages : s ∈ languages entries ↔
    0 < s.files ∧ s.files = (entries.filter fun e => e.language? = some s.language).length ∧
      s.lines = total ((entries.filter fun e => e.language? = some s.language).map lines) := by
  have hshare : ofFiles (entries.filterMap languageLines?) s.language =
      ⟨s.language, (entries.filter fun e => e.language? = some s.language).length,
        total ((entries.filter fun e => e.language? = some s.language).map lines)⟩ := by
    rw [ofFiles, filter_languageLines?, List.length_map, List.map_map]
    rfl
  rw [languages, mem_gather, hshare, and_comm]
  apply and_congr_right
  intro _
  obtain ⟨language, files, lines⟩ := s
  simp

/-- **Both counts of what a walk lists agree**, language by language and in the same order. Every entry whose name shows a
language is counted once, for that language and with its lines. Neither count depends on the order of the entries, nor on the
order in which the lines of single files are added up. -/
theorem counts_agree (entries : List WalkEntry) :
    (languages entries).map (fun s => (s.language, s.files)) = fileCounts entries ∧
      total ((fileCounts entries).map (·.2)) = (entries.filter fun e => e.language?.isSome).length ∧
      (∀ s, s ∈ languages entries ↔
        0 < s.files ∧ s.files = (entries.filter fun e => e.language? = some s.language).length ∧
          s.lines = total ((entries.filter fun e => e.language? = some s.language).map lines)) ∧
      (∀ entries' : List WalkEntry, entries'.Perm entries →
        fileCounts entries' = fileCounts entries ∧ languages entries' = languages entries) ∧
      ∀ counted : List (Language × Nat), counted.Perm (entries.filterMap languageLines?) →
        Language.sortByCount (·.files) (·.language) (counted.foldl enter []) = languages entries := by
  have hagree : ∀ entries, (languages entries).map (fun s => (s.language, s.files)) = fileCounts entries := by
    intro entries
    rw [languages, map_gather, map_fst_languageLines?]
    rfl
  refine ⟨hagree entries, ?_, fun s => mem_languages, ?_, ?_⟩
  · have hfiles : (fileCounts entries).map (·.2) = (languages entries).map (·.files) := by
      rw [← hagree, List.map_map]
      rfl
    rw [hfiles, languages, total_files_gather, List.length_filterMap_eq_countP, List.countP_eq_length_filter]
    simp [languageLines?]
  · intro entries' hperm
    have hsame : languages entries' = languages entries := gather_eq_of_perm (hperm.filterMap _)
    exact ⟨by rw [← hagree, ← hagree, hsame], hsame⟩
  · intro counted hperm
    rw [sortByCount_foldl_enter, gather_eq_of_perm hperm, languages]

/-- Where the names on a path are texts, the language can be told from the path as it is shown. -/
theorem language?_of_texts {e : WalkEntry} {ns : List String} (h : e.names = ns.map .ofText) (hns : ∀ n ∈ ns, '/' ∉ n.toList) :
    e.language? = Language.ofPath? e.path := by
  have hidle : ((fun name : FileName => !name.isIdle) ∘ FileName.ofText) = fun n => !Path.isIdle n :=
    funext fun n => congrArg not (FileName.isIdle_ofText n)
  rw [Language.ofPath?, (path_of_texts h).2, Path.fileName, Path.names_ofNames hns, language?, fileName?, h, List.filter_map,
    hidle, List.getLast?_map]
  generalize (ns.filter fun n => !Path.isIdle n).getLast? = last
  cases last with
  | none => rfl
  | some last =>
    by_cases hup : last = ".."
    · subst hup
      rfl
    · have hname : (FileName.ofText last != .ofText "..") = true := bne_iff_ne.mpr (mt FileName.ofText_inj.mp hup)
      rw [Option.map_some, Option.filter_some, if_pos hname, Option.bind_some, FileName.text?_ofText]
      split
      · next heq => exact absurd (Option.some.inj heq) hup
      · rfl

/-- **Counting by paths:** what a walk lists along names that are texts is counted by the texts of the paths. -/
theorem fileCounts_of_texts (h : ∀ e ∈ entries, ∃ ns : List String, e.names = ns.map .ofText ∧ ∀ n ∈ ns, '/' ∉ n.toList) :
    fileCounts entries = Language.countFiles (entries.map path) := by
  rw [fileCounts, Language.countFiles, List.filterMap_map]
  refine congrArg Language.tally (List.filterMap_congr fun e he => ?_)
  obtain ⟨ns, hnames, hns⟩ := h e he
  exact language?_of_texts hnames hns

/-- A file and a link whose names show one language, a file that shows another one, and a file that shows none. -/
def mixed : List WalkEntry :=
  [⟨[.ofText "a.py"], .file [120, 10, 121] false⟩, ⟨[.ofText "lib", .ofText "b.py"], .link "../a.py"⟩,
    ⟨[.ofText "Makefile"], .file [97, 58] false⟩, ⟨[.ofText "README.md"], .file [35] false⟩]

/-- Two Python files, a Makefile, a link and a file of no language. -/
theorem counts_agree_mixed : mixed.reverse.Perm mixed ∧ languages mixed.reverse = [⟨.python, 2, 2⟩, ⟨.makefile, 1, 1⟩] ∧
    fileCounts mixed = [(.python, 2), (.makefile, 1)] := by
  obtain ⟨hagree, -, -, horder, hpass⟩ := counts_agree mixed
  have htable : (mixed.filterMap languageLines?).foldl enter [] = [⟨.python, 2, 2⟩, ⟨.makefile, 1, 1⟩] := by decide
  -- the table of the pass is in order already
  have hlanguages : languages mixed = [⟨.python, 2, 2⟩, ⟨.makefile, 1, 1⟩] := by
    rw [← hpass _ (List.Perm.refl _), htable]
    exact List.mergeSort_of_pairwise (by decide)
  refine ⟨mixed.reverse_perm, ?_, ?_⟩
  · rw [(horder _ mixed.reverse_perm).2, hlanguages]
  · rw [← hagree, hlanguages]
    rfl

end WalkEntry

end LintPlan
