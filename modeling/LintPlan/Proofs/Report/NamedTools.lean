import LintPlan.Proofs.Text.Cases
import LintPlan.Report.ToolMatcher
import Mathlib.Data.List.Basic

/-!
# Tools that lines name

A line is about the first tool that it names, in brackets or behind an announcement. The names are tried in an order of their
own, and their case does not count.

* **`ofNames_congr`** — the order is that of the names alone, however they were listed.
* **`find_stands`** — what is found stands in the line, and it is one of the names in some case.
* **`reported_of_detect`** — so the tool of a line is one of the names up to the case of its letters; where all names are in
  small letters, it is one of them as it was listed.
* **`bracketed_eq_some`**, **`find_append`** — of names that may begin alike, only the one between brackets is found there, and
  a text without brackets and announcements is passed over.
* **`detect_mem_iff`** — lines name nothing but names as they were listed if and only if each is listed in all its spellings.
* **`detect_bracketed`** — a usual name in brackets is found, whatever the other names are.
-/

namespace LintPlan.ToolMatcher

open Text

/-! ## §1 — the order of the names

Names are sorted before they are tried, so a list of names matters only as a set. -/

section
variable {a b c : String} {names others : List String}

theorem triedBefore_iff :
    triedBefore a b = true ↔ b.utf8ByteSize < a.utf8ByteSize ∨ a.utf8ByteSize = b.utf8ByteSize ∧ a ≤ b := by
  simp [triedBefore]

/-- The order is transitive. -/
theorem triedBefore_trans (hab : triedBefore a b = true) (hbc : triedBefore b c = true) : triedBefore a c = true := by
  rw [triedBefore_iff] at hab hbc ⊢
  obtain hab | ⟨hab, hle⟩ := hab
  · left
    omega
  · obtain hbc | ⟨hbc, hle'⟩ := hbc
    · left
      omega
    · exact .inr ⟨hab.trans hbc, String.le_trans hle hle'⟩

theorem triedBefore_total (a b : String) : (triedBefore a b || triedBefore b a) = true := by
  rw [Bool.or_eq_true, triedBefore_iff, triedBefore_iff]
  obtain hle | hle := String.le_total a b <;> grind

theorem triedBefore_antisymm (hab : triedBefore a b = true) (hba : triedBefore b a = true) : a = b := by
  rw [triedBefore_iff] at hab hba
  obtain ⟨-, hle⟩ : a.utf8ByteSize = b.utf8ByteSize ∧ a ≤ b := hab.resolve_left (by omega)
  obtain ⟨-, hle'⟩ : b.utf8ByteSize = a.utf8ByteSize ∧ b ≤ a := hba.resolve_left (by omega)
  exact String.le_antisymm hle hle'

theorem mem_dropRepeated : a ∈ dropRepeated names ↔ a ∈ names := by
  fun_induction dropRepeated names with
  | case1 => rfl
  | case2 => rfl
  | case3 b rest ih => simp [ih]
  | case4 b c rest hne ih => simp [ih]

theorem dropRepeated_sublist (names : List String) : (dropRepeated names).Sublist names := by
  fun_induction dropRepeated names with
  | case1 => exact List.Sublist.refl _
  | case2 => exact List.Sublist.refl _
  | case3 b rest ih => exact ih.cons b
  | case4 b c rest hne ih => exact ih.cons_cons b

/-- In a sorted list equal names are neighbours, so none is left twice. -/
theorem nodup_dropRepeated (h : names.Pairwise fun a b => triedBefore a b = true) : (dropRepeated names).Nodup := by
  fun_induction dropRepeated names with
  | case1 => exact List.nodup_nil
  | case2 => exact List.nodup_cons.2 ⟨List.not_mem_nil, List.nodup_nil⟩
  | case3 b rest ih => exact ih (List.pairwise_cons.1 h).2
  | case4 b c rest hne ih =>
    obtain ⟨hb, hrest⟩ := List.pairwise_cons.1 h
    refine List.nodup_cons.2 ⟨?_, ih hrest⟩
    intro hmem
    obtain rfl | hmem := List.mem_cons.1 (mem_dropRepeated.1 hmem)
    · exact hne rfl
    · exact hne (triedBefore_antisymm (hb c List.mem_cons_self) ((List.pairwise_cons.1 hrest).1 b hmem))

theorem pairwise_sorted (names : List String) :
    (names.mergeSort triedBefore).Pairwise fun a b => triedBefore a b = true :=
  @List.pairwise_mergeSort _ triedBefore (fun _ _ _ => triedBefore_trans) triedBefore_total names

/-- **The names are tried in an order of their own.** -/
theorem ofNames_congr (h : ∀ n, n ∈ others ↔ n ∈ names) : ofNames others = ofNames names := by
  have hsame : dropRepeated (others.mergeSort triedBefore) = dropRepeated (names.mergeSort triedBefore) := by
    apply List.Perm.eq_of_pairwise (fun _ _ _ _ => triedBefore_antisymm)
      ((pairwise_sorted others).sublist (dropRepeated_sublist _)) ((pairwise_sorted names).sublist (dropRepeated_sublist _))
    rw [List.perm_ext_iff_of_nodup (nodup_dropRepeated (pairwise_sorted others)) (nodup_dropRepeated (pairwise_sorted names))]
    intro n
    rw [mem_dropRepeated, mem_dropRepeated, List.mem_mergeSort, List.mem_mergeSort, h]
  rw [ofNames, ofNames, hsame]

theorem mem_names_ofNames {cs : List Char} : cs ∈ (ofNames names).names ↔ ∃ n ∈ names, n.toList = cs := by
  simp [ofNames, mem_dropRepeated]

end

/-! ## §2 — what is found

Whatever way a name is found, it stands in the line in some spelling. -/

section
variable {names : List (List Char)} {name cs found rest : List Char} {before : Option Char} {c : Char}
  {ends : Option Char → List Char → Bool}

/-- One of the names stands in the text, in some case. -/
def Stands (names : List (List Char)) (cs found : List Char) : Prop :=
  found <:+: cs ∧ ∃ name ∈ names, found.map fold = name.map fold

theorem Stands.mono (h : Stands names rest found) (hrest : rest <:+: cs) : Stands names cs found :=
  ⟨h.1.trans hrest, h.2⟩

/-- A name that is found at the front stands there in some spelling, and what follows lets it end. -/
theorem nameAt_eq_some (h : nameAt ends names cs = some found) :
    ∃ name ∈ names, ∃ rest, cs = found ++ rest ∧ found.map fold = name.map fold ∧ ends found.getLast? rest = true := by
  obtain ⟨name, hname, hfound⟩ := List.exists_of_findSome?_eq_some h
  cases hafter : afterWord name cs with
  | none =>
    rw [hafter] at hfound
    cases hfound
  | some rest =>
    obtain ⟨text, rfl, htext⟩ := afterWord_eq_some_iff.1 hafter
    have hlength : name.length = text.length := by simpa using (congrArg List.length htext).symm
    rw [hafter, hlength, List.take_left] at hfound
    dsimp only at hfound
    split at hfound
    · next hends =>
      cases hfound
      exact ⟨name, hname, rest, rfl, htext, hends⟩
    · cases hfound

theorem nameAt_isSome (hname : name ∈ names) (hfold : found.map fold = name.map fold)
    (hends : ends found.getLast? rest = true) : (nameAt ends names (found ++ rest)).isSome = true := by
  apply List.findSome?_isSome_iff.2
  have hlength : name.length = found.length := by simpa using (congrArg List.length hfold).symm
  refine ⟨name, hname, ?_⟩
  rw [afterWord_append hfold rest, hlength, List.take_left]
  simp [hends]

/-- What is found at the front stands in the text. -/
theorem nameAt_stands (h : nameAt ends names cs = some found) : Stands names cs found := by
  obtain ⟨name, hname, rest, rfl, hfold, -⟩ := nameAt_eq_some h
  exact ⟨(List.prefix_append found rest).isInfix, name, hname, hfold⟩

/-- So does what is found in brackets. -/
theorem bracketed_stands (h : bracketed names cs = some found) : Stands names cs found := by
  unfold bracketed at h
  split at h
  · exact (nameAt_stands h).mono (List.suffix_cons _ _).isInfix
  · cases h

/-- So does what is found as a word, from some place on. -/
theorem wordIn_stands (h : wordIn names before cs = some found) : Stands names cs found := by
  have hhere : ∀ {before cs}, wordIn.at_ names before cs = some found → Stands names cs found := by
    intro before cs h
    unfold wordIn.at_ at h
    split at h
    · exact nameAt_stands h
    · cases h
  induction cs generalizing before with
  | nil => exact hhere h
  | cons c cs ih =>
    rw [wordIn, Option.orElse_eq_or, Option.or_eq_some_iff] at h
    obtain h | ⟨-, h⟩ := h
    · exact hhere h
    · split at h
      · cases h
      · exact (ih h).mono (List.suffix_cons c cs).isInfix

/-- So does what is found behind an announcement. -/
theorem announced_stands (h : announced names before cs = some found) : Stands names cs found := by
  unfold announced at h
  split at h
  · cases h
  · obtain ⟨word, -, hfound⟩ := List.exists_of_findSome?_eq_some h
    cases hafter : afterWord word cs with
    | none =>
      rw [hafter] at hfound
      cases hfound
    | some rest =>
      rw [hafter] at hfound
      dsimp only at hfound
      split at hfound
      · obtain ⟨text, rfl, -⟩ := afterWord_eq_some_iff.1 hafter
        exact (wordIn_stands hfound).mono (List.suffix_append text rest).isInfix
      · cases hfound

/-- **What is found stands in the text, and is one of the names in some case.** -/
theorem find_stands (h : find names before cs = some found) : Stands names cs found := by
  induction cs generalizing before with
  | nil =>
    rw [find, Option.orElse_eq_or, Option.or_eq_some_iff] at h
    obtain h | ⟨-, h⟩ := h
    · exact bracketed_stands h
    · exact announced_stands h
  | cons c cs ih =>
    rw [find, Option.orElse_eq_or, Option.orElse_eq_or, Option.or_eq_some_iff, Option.or_eq_some_iff] at h
    obtain (h | ⟨-, h⟩) | ⟨-, h⟩ := h
    · exact bracketed_stands h
    · exact announced_stands h
    · exact (ih h).mono (List.suffix_cons c cs).isInfix

variable {listed : List String} {line tool : String}

/-- What a line names: one of the names stands in the line in some case of its letters, and the tool is what stands there
with its ASCII letters in lower case. -/
def Names (names : List String) (line tool : String) : Prop :=
  ∃ name ∈ names, ∃ found, found <:+: line.toList ∧ found.map fold = name.toList.map fold ∧
    tool = String.ofList (found.map Char.toLower)

/-- **The tool that a line is about is named by the line.** -/
theorem names_of_detect (h : (ofNames listed).detect line = some tool) : Names listed line tool := by
  unfold detect at h
  split at h
  · cases h
  · obtain ⟨found, hfind, rfl⟩ := Option.map_eq_some_iff.1 h
    obtain ⟨hin, cs, hcs, hfold⟩ := find_stands hfind
    obtain ⟨name, hname, rfl⟩ := mem_names_ofNames.1 hcs
    exact ⟨name, hname, found, hin, hfold, rfl⟩

/-- What is reported is a name from the list, up to case. -/
theorem Names.sameLetters (h : Names listed line tool) : ∃ name ∈ listed, tool.toList.map fold = name.toList.map fold := by
  obtain ⟨name, hname, found, -, hfold, rfl⟩ := h
  refine ⟨name, hname, ?_⟩
  -- lower case is another case, so the letters are still those of the name
  rw [String.toList_ofList, List.map_map, ← hfold]
  apply List.map_congr_left
  intro c _
  exact fold_toLower c

/-- In whatever letters a name is spelled, with its ASCII letters in lower case it is a name again. -/
def ClosedUnderSpelling (names : List String) : Prop :=
  ∀ name ∈ names, ∀ text : List Char, text.map fold = name.toList.map fold → String.ofList (text.map Char.toLower) ∈ names

theorem Names.mem_of_closed (h : Names listed line tool) (hclosed : ClosedUnderSpelling listed) : tool ∈ listed := by
  obtain ⟨name, hname, found, -, hfold, rfl⟩ := h
  exact hclosed name hname found hfold

/-- Names in small letters and a line that has no sign beyond ASCII for one of these. -/
structure SmallLetters (names : List String) (line : String) : Prop where
  small : ∀ name ∈ names, ∀ c ∈ name.toList, c.toNat < 128 ∧ c.isUpper = false
  noLongS : longS ∉ line.toList
  noKelvin : kelvin ∉ line.toList

theorem Names.mem_of_small (h : Names listed line tool) (hsmall : SmallLetters listed line) : tool ∈ listed := by
  obtain ⟨name, hname, found, hin, hfold, rfl⟩ := h
  have hchars := hsmall.small name hname
  have hlower := map_toLower_of_map_fold hfold (fun c hc => (hchars c hc).1) (fun hmem => hsmall.noLongS (hin.subset hmem))
    fun hmem => hsmall.noKelvin (hin.subset hmem)
  rwa [hlower, map_toLower_of_small hchars, String.ofList_toList]

/-- A tool that is reported for a line. -/
structure Reported (names : List String) (line tool : String) : Prop where
  named : Names names line tool
  /-- It is a name up to the case of letters. -/
  sameLetters : ∃ name ∈ names, tool.toList.map fold = name.toList.map fold
  /-- It is a name as it was listed if all are in small letters, or if each is listed in all its spellings. -/
  listed : SmallLetters names line ∨ ClosedUnderSpelling names → tool ∈ names

/-- **What a line is about is reported for it.** -/
theorem reported_of_detect (h : (ofNames listed).detect line = some tool) : Reported listed line tool := by
  have hnamed := names_of_detect h
  refine ⟨hnamed, hnamed.sameLetters, ?_⟩
  rintro (hsmall | hclosed)
  · exact hnamed.mem_of_small hsmall
  · exact hnamed.mem_of_closed hclosed

end

/-! ## §3 — names in brackets

The first bracket of a line decides, if no announcement stands in front. -/

section
variable {names : List (List Char)} {n front found : List Char} {before : Option Char} {c : Char}

/-- No other character folds to a closing bracket. -/
theorem eq_of_fold_closing (h : fold c = fold ']') : c = ']' := by
  have hlow : (fold c).toNat < 128 := by
    rw [h]
    decide
  obtain hc | rfl | rfl := ascii_of_fold hlow
  · rw [fold_of_lt hc, fold_of_lt (by decide)] at h
    exact forall_ascii (P := fun c => c.toLower = Char.toLower ']' → c = ']') (by decide) hc h
  · revert h
    decide
  · revert h
    decide

/-- No spelling of a name without closing brackets has one. -/
theorem closing_not_mem (hfold : found.map fold = n.map fold) (hn : ']' ∉ n) : ']' ∉ found := by
  intro hmem
  have hfolded : fold ']' ∈ n.map fold := by
    rw [← hfold]
    exact List.mem_map_of_mem hmem
  obtain ⟨c, hc, hclosing⟩ := List.mem_map.1 hfolded
  exact hn (eq_of_fold_closing hclosing ▸ hc)

/-- **A name in brackets is found there in the spelling that it has**, as each of the others ends before or behind the
closing bracket. -/
theorem bracketed_eq_some (hclosing : ∀ m ∈ names, ']' ∉ m) (hn : n ∈ names) (hfold : found.map fold = n.map fold)
    (rest : List Char) : bracketed names ('[' :: (found ++ ']' :: rest)) = some found := by
  show nameAt (fun _ rest => rest.head? == some ']') names (found ++ ']' :: rest) = some found
  have hsome : (nameAt (fun _ rest => rest.head? == some ']') names (found ++ ']' :: rest)).isSome = true :=
    nameAt_isSome hn hfold (by simp)
  obtain ⟨other, hother⟩ := Option.isSome_iff_exists.1 hsome
  obtain ⟨m, hm, behind, hsplit, hfold', hends⟩ := nameAt_eq_some hother
  obtain ⟨behind, rfl⟩ := List.head?_eq_some_iff.1 (beq_iff_eq.1 hends)
  -- both are what stands in front of the first closing bracket
  have hcut := cut_append_cons (closing_not_mem hfold (hclosing n hn)) rest
  rw [hsplit, cut_append_cons (closing_not_mem hfold' (hclosing m hm))] at hcut
  obtain ⟨rfl, -⟩ := Prod.mk.inj (Option.some.inj hcut)
  exact hother

theorem bracketed_of_ne (hc : c ≠ '[') (cs : List Char) : bracketed names (c :: cs) = none := by
  unfold bracketed
  split
  · next heq => exact absurd (List.cons.inj heq).1 hc
  · rfl

/-- Announcements are in small letters, none of which has a sign beyond ASCII. -/
theorem announcement_letters {word : List Char} (hword : word ∈ announcements) :
    (∀ w ∈ word, sameLetter w '[' = false ∧ w.toNat < 128 ∧ w.toLower = w) ∧
      fold longS ∉ word.map fold ∧ fold kelvin ∉ word.map fold := by
  have hall : ∀ word ∈ announcements,
      (word.all fun w => decide (sameLetter w '[' = false ∧ w.toNat < 128 ∧ w.toLower = w)) = true ∧
        fold longS ∉ word.map fold ∧ fold kelvin ∉ word.map fold := by decide
  obtain ⟨hletters, hsigns⟩ := hall word hword
  exact ⟨fun w hw => of_decide_eq_true (List.all_eq_true.1 hletters w hw), hsigns⟩

/-- No announcement begins in a text in which none stands and behind which a bracket opens. -/
theorem announced_eq_none (h : ∀ word ∈ announcements, ¬ word <:+: front.map Char.toLower) (cs : List Char) :
    announced names before (front ++ '[' :: cs) = none := by
  have hnone : ∀ word ∈ announcements, afterWord word (front ++ '[' :: cs) = none := by
    intro word hword
    obtain ⟨hletters, hlong, hkelvin⟩ := announcement_letters hword
    rw [← Option.not_isSome_iff_eq_none]
    intro hsome
    -- an announcement that started in front of the bracket would end there, as it has no bracket
    obtain ⟨rest, hrest⟩ := Option.isSome_iff_exists.1 (afterWord_isSome_of_append (fun w hw => (hletters w hw).1) hsome)
    obtain ⟨found, rfl, hfold⟩ := afterWord_eq_some_iff.1 hrest
    have hlower := map_toLower_of_map_fold hfold (fun w hw => (hletters w hw).2.1)
      (fun hmem => hlong (hfold ▸ List.mem_map_of_mem hmem)) fun hmem => hkelvin (hfold ▸ List.mem_map_of_mem hmem)
    have hsame : word.map Char.toLower = word.map id := List.map_congr_left fun w hw => (hletters w hw).2.2
    apply h word hword
    rw [List.map_append, hlower, hsame, List.map_id]
    exact (List.prefix_append _ _).isInfix
  unfold announced
  split
  · rfl
  · apply List.findSome?_eq_none_iff.2
    intro word hword
    rw [hnone word hword]

/-- **A text without brackets and announcements is passed over.** -/
theorem find_append (names : List (List Char)) (hopening : '[' ∉ front)
    (h : ∀ word ∈ announcements, ¬ word <:+: front.map Char.toLower) (before : Option Char) (cs : List Char) :
    ∃ before', find names before (front ++ '[' :: cs) = find names before' ('[' :: cs) := by
  induction front generalizing before with
  | nil => exact ⟨before, rfl⟩
  | cons c front ih =>
    obtain ⟨hc, hfront⟩ : '[' ≠ c ∧ '[' ∉ front := by simpa using hopening
    have hrest : ∀ word ∈ announcements, ¬ word <:+: front.map Char.toLower :=
      fun word hword hin => h word hword (hin.trans (List.suffix_cons _ _).isInfix)
    obtain ⟨before', hfind⟩ := ih hfront hrest (some c)
    refine ⟨before', ?_⟩
    have hannounced : announced names before (c :: (front ++ '[' :: cs)) = none := announced_eq_none h cs
    rw [List.cons_append, find, bracketed_of_ne (Ne.symm hc), hannounced, ← hfind]
    rfl

/-- **What stands in brackets is what a line is about**, if it is a spelling of a name and nothing in front of it could be
meant. -/
theorem detect_spelled {names : List String} {name line : String} {back : List Char}
    (hclosing : ∀ m ∈ names, ']' ∉ m.toList) (hname : name ∈ names) (hfold : found.map fold = name.toList.map fold)
    (hopening : '[' ∉ front) (hquiet : ∀ word ∈ announcements, ¬ word <:+: front.map Char.toLower)
    (hline : line.toList = front ++ '[' :: (found ++ ']' :: back)) :
    (ofNames names).detect line = some (String.ofList (found.map Char.toLower)) := by
  have hmem : name.toList ∈ (ofNames names).names := mem_names_ofNames.2 ⟨name, hname, rfl⟩
  have hclosing' : ∀ m ∈ (ofNames names).names, ']' ∉ m := by
    intro m hm
    obtain ⟨other, hother, rfl⟩ := mem_names_ofNames.1 hm
    exact hclosing other hother
  obtain ⟨before, hpassed⟩ := find_append (ofNames names).names hopening hquiet none (found ++ ']' :: back)
  rw [detect, if_neg (by simpa using List.ne_nil_of_mem hmem), hline, hpassed, find, bracketed_eq_some hclosing' hmem hfold]
  rfl

/-- **When lines name nothing but names as they were listed.** -/
theorem detect_mem_iff {names : List String} (hclosing : ∀ m ∈ names, ']' ∉ m.toList) :
    (∀ line tool, (ofNames names).detect line = some tool → tool ∈ names) ↔ ClosedUnderSpelling names := by
  constructor
  · intro hmem name hname text hfold
    have hquiet : ∀ word ∈ announcements, ¬ word <:+: ([] : List Char).map Char.toLower := by decide
    have hline : (String.ofList ('[' :: (text ++ [']']))).toList = [] ++ '[' :: (text ++ ']' :: []) := String.toList_ofList
    exact hmem _ _ (detect_spelled hclosing hname hfold List.not_mem_nil hquiet hline)
  · intro hclosed line tool h
    exact (reported_of_detect h).listed (.inr hclosed)

/-- Small letters of ASCII without `s` and `k` have no other spellings. -/
theorem closedUnderSpelling_of_small {names : List String}
    (hsmall : ∀ name ∈ names, ∀ c ∈ name.toList, c.toNat < 128 ∧ c.isUpper = false)
    (hletters : ∀ name ∈ names, 's' ∉ name.toList ∧ 'k' ∉ name.toList) : ClosedUnderSpelling names := by
  intro name hname text hfold
  have hchars := hsmall name hname
  have hsame : name.toList.map fold = name.toList := by
    rw [List.map_congr_left fun c hc => fold_of_lt (hchars c hc).1, map_toLower_of_small hchars]
  have hsign : ∀ sign, fold sign ∉ name.toList → sign ∉ text := by
    intro sign hsign hmem
    rw [← hsame, ← hfold] at hsign
    exact hsign (List.mem_map_of_mem hmem)
  have hlong : fold longS = 's' := by decide
  have hkelvin : fold kelvin = 'k' := by decide
  rw [map_toLower_of_map_fold hfold (fun c hc => (hchars c hc).1) (hsign longS (hlong ▸ (hletters name hname).1))
    (hsign kelvin (hkelvin ▸ (hletters name hname).2)), map_toLower_of_small hchars, String.ofList_toList]
  exact hname

end

/-! ## §4 — usual names

For names as linters have them all conditions hold. -/

/-- A character of a usual name: a small letter, a digit or a hyphen. -/
def isUsualChar (c : Char) : Bool := c.isLower || c.isDigit || c == '-'

/-- Usual names have small letters and no bracket. -/
theorem small_of_isUsualChar {c : Char} (h : isUsualChar c = true) : (c.toNat < 128 ∧ c.isUpper = false) ∧ c ≠ ']' := by
  have hlow : c.toNat < 128 := by
    have halnum : c.isAlphanum = (c.isUpper || c.isLower || c.isDigit) := rfl
    by_cases hc : c.isAlphanum = true
    · have := toNat_of_isAlphanum hc
      omega
    · obtain rfl : c = '-' := by grind [isUsualChar]
      decide
  have hsmall := forall_ascii (P := fun c => isUsualChar c = true → c.isUpper = false ∧ c ≠ ']') (by decide) hlow h
  exact ⟨⟨hlow, hsmall.1⟩, hsmall.2⟩

/-- **A name in brackets is found**, whatever the other names are, in whatever order and however often they are listed. -/
theorem detect_bracketed (names : List String) (hnames : ∀ m ∈ names, m ≠ "" ∧ ∀ c ∈ m.toList, isUsualChar c = true) :
    (∀ n ∈ names, ∀ front back : String, '[' ∉ front.toList → occurs "linting" (lowerAscii front) = false →
      occurs "running" (lowerAscii front) = false →
      (ofNames names).detect (front ++ "[" ++ n ++ "]" ++ back) = some n) ∧
    ∀ others : List String, (∀ m, m ∈ others ↔ m ∈ names) →
      ∀ line, (ofNames others).detect line = (ofNames names).detect line := by
  constructor
  · intro n hn front back hopening hlinting hrunning
    have hlower : (lowerAscii front).toList = front.toList.map Char.toLower := String.toList_ofList
    rw [← Bool.not_eq_true, occurs_iff_infix, hlower] at hlinting hrunning
    have hquiet : ∀ word ∈ announcements, ¬ word <:+: front.toList.map Char.toLower :=
      List.forall_mem_cons.2 ⟨hlinting, List.forall_mem_singleton.2 hrunning⟩
    have hclosing : ∀ m ∈ names, ']' ∉ m.toList := fun m hm hmem => (small_of_isUsualChar ((hnames m hm).2 _ hmem)).2 rfl
    have hline : (front ++ "[" ++ n ++ "]" ++ back).toList = front.toList ++ '[' :: (n.toList ++ ']' :: back.toList) := by
      simp
    have hsmall : ∀ c ∈ n.toList, c.toNat < 128 ∧ c.isUpper = false :=
      fun c hc => (small_of_isUsualChar ((hnames n hn).2 c hc)).1
    rw [detect_spelled hclosing hn rfl hopening hquiet hline, map_toLower_of_small hsmall, String.ofList_toList]
  · intro others hsame line
    rw [ofNames_congr hsame]

/-- Names of which each begins like the next, in front of which almost an announcement stands. -/
theorem detect_bracketed_overlapping :
    let names := ["eslint", "eslint-plugin", "eslint-plugin-react"]
    (∀ m ∈ names, m ≠ "" ∧ ∀ c ∈ m.toList, isUsualChar c = true) ∧ "eslint-plugin" ∈ names ∧
      '[' ∉ "Lint-ing, then eslint: ".toList ∧ occurs "linting" (lowerAscii "Lint-ing, then eslint: ") = false ∧
      occurs "running" (lowerAscii "Lint-ing, then eslint: ") = false ∧
      (ofNames names).detect ("Lint-ing, then eslint: " ++ "[" ++ "eslint-plugin" ++ "]" ++ " [eslint]") =
        some "eslint-plugin" ∧
      (∀ m, m ∈ ["eslint-plugin", "eslint-plugin-react", "eslint", "eslint-plugin"] ↔ m ∈ names) ∧
      (ofNames ["eslint-plugin", "eslint-plugin-react", "eslint", "eslint-plugin"]).detect "Running ESLint-plugin-React" =
        (ofNames names).detect "Running ESLint-plugin-React" := by
  intro names
  have hall : ∀ m ∈ names, m ≠ "" ∧ m.toList.all isUsualChar = true := by decide
  have hnames : ∀ m ∈ names, m ≠ "" ∧ ∀ c ∈ m.toList, isUsualChar c = true :=
    fun m hm => ⟨(hall m hm).1, List.all_eq_true.1 (hall m hm).2⟩
  have hmem : "eslint-plugin" ∈ names := by decide
  have hopening : '[' ∉ "Lint-ing, then eslint: ".toList := by decide
  have hlinting : occurs "linting" (lowerAscii "Lint-ing, then eslint: ") = false := by decide
  have hrunning : occurs "running" (lowerAscii "Lint-ing, then eslint: ") = false := by decide
  have hsame : ∀ m, m ∈ ["eslint-plugin", "eslint-plugin-react", "eslint", "eslint-plugin"] ↔ m ∈ names := by
    intro m
    simp [names]
    tauto
  obtain ⟨hfound, hcongr⟩ := detect_bracketed names hnames
  exact ⟨hnames, hmem, hopening, hlinting, hrunning, hfound _ hmem _ _ hopening hlinting hrunning, hsame, hcongr _ hsame _⟩

end LintPlan.ToolMatcher
