import LintPlan.Proofs.Number.Rounding
import LintPlan.Proofs.Repository.Languages

/-!
# The split of the languages

Which languages are the main ones is decided by rounded shares. In whole numbers it comes to the same, because a language with
five files is a main one anyway, and among fewer files no quotient comes close to a tenth without being one.

* **`ranked_pairwise`**, **`ranked_eq_of_perm`** — the ranking is strict, and there is only one.
* **`reaches_main_iff`**, **`reaches_beside_iff`** — when a language has enough of the files, in whole numbers.
* **`split?_exact`** — so the split is that of the ranking (`splitByRank`), and leaves a language with a file out only for five
  others. More files than a counter can hold bring it down (`crowded_not_split`).
-/

namespace LintPlan.LanguageStat

variable {stats stats' : List LanguageStat} {a b c s : LanguageStat} {all : Nat}

/-! ## §1 — the ranking

A strict order on languages with different names. -/

/-- More lines come first, then more files, then the name counts. -/
def Outranks (a b : LanguageStat) : Prop :=
  b.lines < a.lines ∨ a.lines = b.lines ∧
    (b.files < a.files ∨ a.files = b.files ∧ a.language.name < b.language.name)

instance (a b : LanguageStat) : Decidable (a.Outranks b) := inferInstanceAs (Decidable (_ ∨ _))

/-- The order by lines, then by files, then by name. -/
theorem ranksBefore_iff : ranksBefore a b = true ↔
    b.lines < a.lines ∨ a.lines = b.lines ∧ Language.isBefore (·.files) (·.language) a b = true := by
  rw [ranksBefore, Bool.or_eq_true, Bool.and_eq_true, decide_eq_true_iff, beq_iff_eq]
  rfl

/-- It is transitive. -/
theorem ranksBefore_trans (hab : ranksBefore a b = true) (hbc : ranksBefore b c = true) : ranksBefore a c = true := by
  rw [ranksBefore_iff] at hab hbc ⊢
  rcases hab with hab | ⟨hab, hbefore⟩
  · exact .inl (by omega)
  · rcases hbc with hbc | ⟨hbc, hbefore'⟩
    · exact .inl (by omega)
    · exact .inr ⟨hab.trans hbc, Language.isBefore_trans hbefore hbefore'⟩

/-- It is total. -/
theorem ranksBefore_total (a b : LanguageStat) : (ranksBefore a b || ranksBefore b a) = true := by
  have hbefore := Language.isBefore_total (·.files) (·.language) a b
  rw [Bool.or_eq_true] at hbefore ⊢
  rw [ranksBefore_iff, ranksBefore_iff]
  rcases Nat.lt_trichotomy a.lines b.lines with h | h | h
  · exact .inr (.inl h)
  · exact hbefore.imp (fun hab => .inr ⟨h, hab⟩) fun hba => .inr ⟨h.symm, hba⟩
  · exact .inl (.inl h)

/-- No two languages outrank each other. -/
theorem Outranks.asymm (hab : a.Outranks b) (hba : b.Outranks a) : False := by
  rcases hab with hlines | ⟨hlines, hfiles | ⟨hfiles, hname⟩⟩
  · rcases hba with h | ⟨h, -⟩ <;> omega
  · rcases hba with h | ⟨-, h | ⟨h, -⟩⟩ <;> omega
  · rcases hba with h | ⟨-, h | ⟨-, h⟩⟩
    · omega
    · omega
    · exact String.lt_asymm hname h

theorem ranked_perm (stats : List LanguageStat) : (ranked stats).Perm stats := List.mergeSort_perm ..

/-- **The ranking is strict**, if no language comes twice. -/
theorem ranked_pairwise (hdistinct : (stats.map (·.language)).Nodup) : (ranked stats).Pairwise Outranks := by
  have hsorted : (ranked stats).Pairwise fun a b => ranksBefore a b = true :=
    List.pairwise_mergeSort @ranksBefore_trans ranksBefore_total stats
  have hlanguages : ((ranked stats).map (·.language)).Nodup :=
    ((ranked_perm stats).map (·.language)).nodup_iff.mpr hdistinct
  refine hsorted.imp₂ ?_ (List.pairwise_map.mp hlanguages)
  intro a b hbefore hne
  rcases ranksBefore_iff.mp hbefore with hlines | ⟨hlines, hbefore⟩
  · exact .inl hlines
  · rcases Language.isBefore_iff.mp hbefore with hfiles | ⟨hfiles, hname⟩
    · exact .inr ⟨hlines, .inl hfiles⟩
    · exact .inr ⟨hlines, .inr ⟨hfiles, Std.lt_of_le_of_ne hname fun heq => hne (Language.name_injective heq)⟩⟩

/-- The ranking does not depend on the order in which the languages are given. -/
theorem ranked_eq_of_perm (hdistinct : (stats.map (·.language)).Nodup) (h : stats'.Perm stats) :
    ranked stats' = ranked stats := by
  have hdistinct' : (stats'.map (·.language)).Nodup := (h.map (·.language)).nodup_iff.mpr hdistinct
  exact List.Perm.eq_of_pairwise (fun _ _ _ _ hab hba => (hab.asymm hba).elim) (ranked_pairwise hdistinct')
    (ranked_pairwise hdistinct) ((ranked_perm stats').trans (h.trans (ranked_perm stats).symm))

/-! ## §2 — shares

A share is a quotient of floats that is compared with another one. The comparison is exact all the same: it only decides for four
files or less, and for these the next share below one tenth is further away than any rounding. -/

open Binary64

/-- Of few files, a quotient below a tenth is far enough below it. -/
theorem share_isWithin (hfiles : 0 < s.files) (hfew : s.files ≤ 4) (hmany : 10 * s.files < all) (hall : all ≤ Text.maxWord64) :
    (s.share all).IsWithin (1 / 2 / 10 ^ 20 * (1 - roundoff)) (996 / 10000 * (1 + roundoff)) := by
  have hroundoff : 0 < roundoff ∧ roundoff ≤ 1 / 100 := ⟨roundoff_pos, by rw [roundoff]; norm_num⟩
  have hfiles' : (1 : ℚ) ≤ s.files := by exact_mod_cast hfiles
  have hfew' : (s.files : ℚ) ≤ 4 := by exact_mod_cast hfew
  have hmany' : (10 : ℚ) * s.files + 1 ≤ all := by exact_mod_cast hmany
  have hall' : (all : ℚ) ≤ 18446744073709551615 := by exact_mod_cast hall
  have hnumerator : (ofNat s.files).IsWithin (1 / 2) (s.files * (101 / 100)) := by
    refine (ofNat_isWithin (isNormal_of_le (by linarith) (by linarith))).mono ?_ ?_
    · nlinarith
    · nlinarith
  have hdenominator : (ofNat all).IsWithin (all * (99 / 100)) (10 ^ 20) := by
    refine (ofNat_isWithin (isNormal_of_le (by linarith) (by linarith))).mono ?_ ?_
    · nlinarith
    · nlinarith
  have hpos : (0 : ℚ) < all * (99 / 100) := by linarith
  -- less than one in ten, at most four in forty-one, with one hundredth for the rounding of each number
  have hquotient : (s.files : ℚ) * (101 / 100) / (all * (99 / 100)) ≤ 996 / 10000 := by
    rw [div_le_iff₀ hpos]
    linarith
  have hquotient' : 1 / 10 ^ 30 ≤ (s.files : ℚ) * (101 / 100) / (all * (99 / 100)) := by
    rw [le_div_iff₀ hpos]
    linarith
  refine (div_isWithin hnumerator hdenominator (by norm_num) hpos (isNormal_of_le (by norm_num) (by norm_num))
    (isNormal_of_le hquotient' (by linarith))).mono le_rfl ?_
  exact mul_le_mul_of_nonneg_right hquotient (by linarith)

/-- The share of a language without a file is zero. -/
theorem share_eq_zero (hnone : s.files = 0) (hpos : 0 < all) (hall : all ≤ Text.maxWord64) : s.share all = zero false := by
  have hone : (1 : ℚ) ≤ all := by exact_mod_cast hpos
  have hall' : (all : ℚ) ≤ 18446744073709551615 := by exact_mod_cast hall
  rw [share, hnone]
  exact zero_div (ofNat_isWithin (isNormal_of_le (by linarith) (by linarith)))
    (mul_pos (by linarith) (sub_pos.mpr roundoff_lt_one))

/-- As long as the files are few, a tenth and more of them is not rounded to less. -/
theorem le_share_few : ∀ files < 5, ∀ all < 41, 0 < all → all ≤ 10 * files →
    Threshold.main.share.le ((ofNat files).div (ofNat all)) = true := by
  decide +kernel

/-- **Exactly the languages with a tenth of the files, or five, are main ones**, although shares are rounded. -/
theorem reaches_main_iff (hpos : 0 < all) (hall : all ≤ Text.maxWord64) :
    s.reaches .main all = true ↔ all ≤ 10 * s.files ∨ 5 ≤ s.files := by
  have hfive : Threshold.main.files = 5 := rfl
  rw [reaches, Bool.or_eq_true, decide_eq_true_iff, hfive]
  by_cases hmany : 5 ≤ s.files
  · exact iff_of_true (.inr hmany) (.inr hmany)
  · have hfew : s.files < 5 := Nat.lt_of_not_le hmany
    rw [or_iff_left hmany, or_iff_left hmany]
    by_cases htenth : all ≤ 10 * s.files
    · exact iff_of_true (le_share_few s.files hfew all (by omega) hpos htenth) htenth
    · refine iff_of_false ?_ htenth
      rw [Bool.not_eq_true]
      rcases Nat.eq_zero_or_pos s.files with hnone | hfiles
      · rw [share_eq_zero hnone hpos hall]
        decide +kernel
      · -- one tenth is rounded as well, by far less than the distance
        have hthreshold : Threshold.main.share.IsWithin (1 / 10 * (1 - roundoff)) (1 / 10 * (1 + roundoff)) := by
          have hten : 0 < 10 := by decide
          have h := ofRatio_isWithin 1 hten (isNormal_of_le (by norm_num) (by norm_num))
          exact_mod_cast h
        refine le_eq_false hthreshold (share_isWithin hfiles (by omega) (by omega) hall) ?_
        rw [roundoff]
        norm_num

/-- Any file is enough for a language beside the main ones. -/
theorem reaches_beside_iff (hpos : 0 < all) (hall : all ≤ Text.maxWord64) : s.reaches .beside all = true ↔ 1 ≤ s.files := by
  have hone : Threshold.beside.files = 1 := rfl
  rw [reaches, Bool.or_eq_true, decide_eq_true_iff, hone, or_iff_right_iff_imp]
  intro hshare
  by_contra hnone
  rw [share_eq_zero (by omega) hpos hall] at hshare
  exact absurd hshare (by decide +kernel)

/-! ## §3 — the split

With exact shares the split is a filter of the ranking, cut to its limits. -/

/-- Of an ordered list, what is not among the first few comes behind them, and they are as many as there may be. -/
theorem full_of_not_mem_take {l : List LanguageStat} {n : Nat} (hl : l.Pairwise Outranks) (hs : s ∈ l) (hout : s ∉ l.take n) :
    (l.take n).length = n ∧ ∀ t ∈ l.take n, t.Outranks s := by
  rw [← List.take_append_drop n l] at hl hs
  have hdrop : s ∈ l.drop n := (List.mem_append.mp hs).resolve_left hout
  have hlength : n < l.length := by
    by_contra hle
    rw [List.drop_eq_nil_of_le (not_lt.mp hle)] at hdrop
    exact List.not_mem_nil hdrop
  refine ⟨?_, fun t ht => (List.pairwise_append.mp hl).2.2 t ht s hdrop⟩
  rw [List.length_take]
  omega

/-- The split of languages by their ranks, in whole numbers: the first three with a tenth of all files or with five, and the
first five of the others that have a file. -/
def splitByRank (byRank : List LanguageStat) : List LanguageStat × List LanguageStat :=
  let all := total (byRank.map (·.files))
  if all = 0 then ([], [])
  else
    let primary := (byRank.filter fun s => all ≤ 10 * s.files ∨ 5 ≤ s.files).take 3
    (primary, (byRank.filter fun s => s.language ∉ primary.map (·.language) ∧ 1 ≤ s.files).take 5)

/-- Rounded shares make no difference to the split. -/
theorem split_eq_splitByRank (hfits : total (stats.map (·.files)) ≤ Text.maxWord64) :
    split stats = (splitByRank (ranked stats)).map (List.map (·.language)) (List.map (·.language)) := by
  have htotal : total ((ranked stats).map (·.files)) = total (stats.map (·.files)) :=
    ((ranked_perm stats).map _).foldr_eq 0
  unfold split splitByRank
  rw [htotal]
  dsimp only
  split
  · rfl
  · next hzero =>
    have hpos : 0 < total (stats.map (·.files)) := Nat.pos_of_ne_zero hzero
    have hmain : (ranked stats).filter (reaches .main (total (stats.map (·.files)))) =
        (ranked stats).filter fun s => total (stats.map (·.files)) ≤ 10 * s.files ∨ 5 ≤ s.files := by
      refine List.filter_congr fun s _ => ?_
      rw [Bool.eq_iff_iff, decide_eq_true_iff]
      exact reaches_main_iff hpos hfits
    rw [hmain]
    -- the languages beside are filtered from the ranking too
    refine congrArg _ (congrArg _ (congrArg _ (List.filter_congr fun s _ => ?_)))
    rw [Bool.eq_iff_iff, decide_eq_true_iff, Bool.and_eq_true, reaches_beside_iff hpos hfits, Bool.not_eq_true',
      List.contains_eq_mem, decide_eq_false_iff_not]
    rfl

/-- The two parts have no language in common. -/
theorem disjoint_splitByRank (byRank : List LanguageStat) :
    ((splitByRank byRank).1.map (·.language)).Disjoint ((splitByRank byRank).2.map (·.language)) := by
  unfold splitByRank
  dsimp only
  split
  · exact List.disjoint_nil_left []
  · intro l hmain hbeside
    obtain ⟨s, hs, rfl⟩ := List.mem_map.mp hbeside
    exact (of_decide_eq_true (List.mem_filter.mp (List.mem_of_mem_take hs)).2).1 hmain

/-- A language with a file is left out only for five others. -/
theorem splitByRank_complete {byRank : List LanguageStat} (hrank : byRank.Pairwise Outranks)
    (hdistinct : (byRank.map (·.language)).Nodup) (hs : s ∈ byRank) (hfile : 1 ≤ s.files) :
    s ∈ (splitByRank byRank).1 ∨ s ∈ (splitByRank byRank).2 ∨
      (splitByRank byRank).2.length = 5 ∧ ∀ t ∈ (splitByRank byRank).2, t.Outranks s := by
  have hpos : total (byRank.map (·.files)) ≠ 0 := (total_eq_sum _ ▸ List.sum_pos_iff_exists_pos_nat.mpr ⟨s.files, List.mem_map_of_mem hs, hfile⟩).ne'
  unfold splitByRank
  dsimp only
  rw [if_neg hpos]
  by_cases hmain : s.language ∈
      ((byRank.filter fun s => total (byRank.map (·.files)) ≤ 10 * s.files ∨ 5 ≤ s.files).take 3).map (·.language)
  · obtain ⟨t, ht, hlanguage⟩ := List.mem_map.mp hmain
    have hts : t = s :=
      List.inj_on_of_nodup_map hdistinct (List.mem_filter.mp (List.mem_of_mem_take ht)).1 hs hlanguage
    exact .inl (hts ▸ ht)
  · refine .inr (or_iff_not_imp_left.mpr fun hbeside => ?_)
    refine full_of_not_mem_take (hrank.sublist List.filter_sublist) ?_ hbeside
    exact List.mem_filter.mpr ⟨hs, decide_eq_true ⟨hmain, hfile⟩⟩

/-- **The split of the languages, in whole numbers.** The languages have a strict ranking; by it the split is made, whatever
the order in which the languages are given. The two parts have no language in common, and a language with a file is left
out only if five in the second part outrank it. -/
theorem split?_exact (hdistinct : (stats.map (·.language)).Nodup) (hfits : total (stats.map (·.files)) ≤ Text.maxWord64) :
    ∃ byRank primary secondary : List LanguageStat,
      byRank.Perm stats ∧ byRank.Pairwise Outranks ∧ splitByRank byRank = (primary, secondary) ∧
      split? stats = some (primary.map (·.language), secondary.map (·.language)) ∧
      (primary.map (·.language)).Disjoint (secondary.map (·.language)) ∧
      (∀ s ∈ stats, 1 ≤ s.files →
        s ∈ primary ∨ s ∈ secondary ∨ secondary.length = 5 ∧ ∀ t ∈ secondary, t.Outranks s) ∧
      ∀ stats' : List LanguageStat, stats'.Perm stats → split? stats' = split? stats := by
  have hdistinct' : ((ranked stats).map (·.language)).Nodup :=
    ((ranked_perm stats).map (·.language)).nodup_iff.mpr hdistinct
  refine ⟨ranked stats, (splitByRank (ranked stats)).1, (splitByRank (ranked stats)).2, ranked_perm stats,
    ranked_pairwise hdistinct, rfl, ?law, disjoint_splitByRank _, ?complete, ?order⟩
  case law =>
    rw [split?, if_pos hfits, split_eq_splitByRank hfits]
    rfl
  case complete =>
    intro s hs hfile
    exact splitByRank_complete (ranked_pairwise hdistinct) hdistinct' ((ranked_perm stats).symm.subset hs) hfile
  case order =>
    intro stats' hperm
    have htotal : total (stats'.map (·.files)) = total (stats.map (·.files)) := (hperm.map _).foldr_eq 0
    unfold split? split
    rw [htotal, ranked_eq_of_perm hdistinct hperm]

/-- Languages by their ranks: two with as many lines and files, and one too many. -/
def ninth : List LanguageStat :=
  [⟨.go, 60, 900⟩, ⟨.rust, 20, 900⟩, ⟨.perl, 1, 300⟩, ⟨.r, 3, 40⟩, ⟨.sql, 2, 30⟩, ⟨.c, 1, 20⟩, ⟨.css, 1, 20⟩, ⟨.lua, 5, 10⟩,
    ⟨.shell, 1, 5⟩]

/-- Nine languages, one more than can be shown: the last one in rank is left out. -/
theorem split?_exact_ninth : (ninth.reverse.map (·.language)).Nodup ∧
    total (ninth.reverse.map (·.files)) ≤ Text.maxWord64 ∧
    split? ninth.reverse = some ([.go, .rust, .lua], [.perl, .r, .sql, .c, .css]) := by
  have hdistinct : (ninth.reverse.map (·.language)).Nodup := by decide
  have hfits : total (ninth.reverse.map (·.files)) ≤ Text.maxWord64 := by decide
  have hninth : ninth.Pairwise Outranks := by decide
  obtain ⟨byRank, primary, secondary, hperm, hrank, hparts, hsplit, -⟩ := split?_exact hdistinct hfits
  have hbyRank : byRank = ninth := List.Perm.eq_of_pairwise (fun _ _ _ _ hab hba => (hab.asymm hba).elim) hrank hninth
    (hperm.trans ninth.reverse_perm)
  have hparts' : splitByRank ninth = ([⟨.go, 60, 900⟩, ⟨.rust, 20, 900⟩, ⟨.lua, 5, 10⟩],
      [⟨.perl, 1, 300⟩, ⟨.r, 3, 40⟩, ⟨.sql, 2, 30⟩, ⟨.c, 1, 20⟩, ⟨.css, 1, 20⟩]) := by decide
  obtain ⟨rfl, rfl⟩ := Prod.mk.inj (hparts.symm.trans (hbyRank ▸ hparts'))
  exact ⟨hdistinct, hfits, hsplit⟩

/-- Two languages with more files than a counter can hold. -/
def crowded : List LanguageStat := [⟨.go, 18446744073709551615, 2⟩, ⟨.rust, 1, 1⟩]

/-- **Too many files bring the split down**, although there is a ranking by which it could be made. -/
theorem crowded_not_split : (crowded.map (·.language)).Nodup ∧ crowded.Pairwise Outranks ∧
    splitByRank crowded = ([⟨.go, 18446744073709551615, 2⟩], [⟨.rust, 1, 1⟩]) ∧ split? crowded = none := by
  decide

end LintPlan.LanguageStat
