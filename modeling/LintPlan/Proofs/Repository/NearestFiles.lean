import LintPlan.Proofs.Json.SortedEntries
import LintPlan.Proofs.FileSystem.Paths
import LintPlan.Repository.ConfigFiles
import Mathlib.Data.List.Basic
import Mathlib.Data.List.Induction

/-!
# The nearest configuration files

Each tool keeps one file while all files are looked at with all patterns. A file takes the place of another one only if it is
nearer to the root, so the first of the nearest ones stays.

* **`ConfigPattern.takes_iff`** — a pattern with a slash takes paths, any other one takes file names.
* **`lookup_pass`** — what one file does to the file of a tool, whichever of its patterns take it.
* **`lookup_foundIn`** — what a tool has depends on its own patterns alone.
* **`has_foundIn`** — what a tool has after some files, by `Has.skip` and `Has.offer` for one file.
* **`locate_exact`** — so each tool has the nearest of the files that configure it, and more files change that only if one
  of them is nearer.
-/

namespace LintPlan

/-! ## §1 — what a pattern takes

Patterns are tried on the whole path and on the last name of it. -/

namespace ConfigPattern

variable {p : ConfigPattern} {path : String}

/-- Is a text the last name on a path? -/
def IsLastName (name path : String) : Prop :=
  '/' ∉ name.toList ∧ (path = name ∨ ∃ above, path = above ++ "/" ++ name)

/-- Does a pattern fit a path? With a slash it has to match the path, else its last name. -/
def Fits (p : ConfigPattern) (path : String) : Prop :=
  ∃ subject, Glob.isMatch true p.pattern subject = true ∧
    if '/' ∈ p.pattern.toList then subject = path else IsLastName subject path

/-- The last piece between slashes is the last name. -/
theorem isLastName_iff {name : String} :
    IsLastName name path ↔ name = String.ofList (((Text.splitOn '/' path.toList).getLast?).getD []) := by
  constructor
  · rintro ⟨hslash, rfl | ⟨above, rfl⟩⟩
    · rw [Text.splitOn_of_not_mem hslash]
      exact String.ofList_toList.symm
    · have hpath : (above ++ "/" ++ name).toList = above.toList ++ '/' :: name.toList := by simp
      rw [hpath, Text.splitOn_append_sep, Text.splitOn_of_not_mem hslash, List.getLast?_concat]
      exact String.ofList_toList.symm
  · rintro rfl
    -- a path is cut into at least one piece, and the last one is the name
    obtain ⟨front, last, hpieces⟩ : ∃ front last, Text.splitOn '/' path.toList = front ++ [last] :=
      (List.eq_nil_or_concat' _).resolve_left (Text.splitOn_ne_nil '/' path.toList)
    have hpath : path.toList = Text.join ['/'] (front ++ [last]) := by rw [← hpieces, Text.join_splitOn]
    rw [hpieces, List.getLast?_concat, Option.getD_some, IsLastName, String.toList_ofList]
    refine ⟨Text.not_mem_of_mem_splitOn (hpieces ▸ List.mem_append_right front List.mem_cons_self), ?_⟩
    by_cases hfront : front = []
    · subst hfront
      exact .inl (String.toList_inj.mp (by rw [hpath, String.toList_ofList]; rfl))
    · refine .inr ⟨String.ofList (Text.join ['/'] front), String.toList_inj.mp ?_⟩
      rw [hpath, Path.join_concat hfront]
      simp

theorem takes_iff : p.takes path = true ↔ p.Fits path := by
  unfold takes Fits
  dsimp only
  by_cases hslash : '/' ∈ p.pattern.toList
  · simp [hslash]
  · simp [hslash, isLastName_iff]

end ConfigPattern

namespace ConfigFile

open ConfigPattern

variable {files more : List PlacedFile} {file f : PlacedFile} {tool : String} {p : ConfigPattern} {c c' : Candidate}
  {before : Option Candidate}

/-! ## §2 — one file and all patterns

Of the patterns of a tool the first that fits counts. Later ones would offer the same file again. -/

/-- The pattern that speaks for a tool: the first of its patterns that takes the file. -/
def patternFor? (ps : List ConfigPattern) (tool : String) (file : PlacedFile) : Option ConfigPattern :=
  ps.find? fun p => p.tool == tool && p.takes (slashed file.path)

/-- A file as the candidate of a pattern. -/
def candidate (file : PlacedFile) (p : ConfigPattern) : Candidate := (file.depth, ⟨slashed file.path, p.kind, p.importance⟩)

theorem better_of_lt (h : c'.1 < c.1) : better (some c) c' = c' := if_pos h

theorem better_of_le (h : c.1 ≤ c'.1) : better (some c) c' = c := if_neg (Nat.not_lt.mpr h)

/-- Of several patterns that take one file the first counts, as they all find it at one depth. -/
theorem better_better (h : c.1 = c'.1) : better (some (better before c)) c' = better before c := by
  apply better_of_le
  cases before with
  | none => exact Nat.le_of_eq h
  | some old =>
    rw [better]
    split <;> omega

/-- One pattern changes what is found for its own tool only. -/
theorem lookup_consider (file : PlacedFile) (found : List (String × Candidate)) (p : ConfigPattern) (tool : String) :
    (consider file found p).lookup tool =
      if (p.tool == tool && p.takes (slashed file.path)) = true then some (better (found.lookup tool) (candidate file p))
      else found.lookup tool := by
  simp only [Bool.and_eq_true, beq_iff_eq, consider]
  by_cases htakes : p.takes (slashed file.path) = true
  · rw [if_pos htakes, Json.lookup_insertSorted]
    by_cases htool : p.tool = tool
    · rw [if_pos htool.symm, if_pos ⟨htool, htakes⟩, htool]
      rfl
    · rw [if_neg (Ne.symm htool), if_neg fun h => htool h.1]
  · rw [if_neg htakes, if_neg fun h => htakes h.2]

/-- **What one file does to the file of a tool**: it is offered once, for the pattern that speaks for the tool. -/
theorem lookup_pass (ps : List ConfigPattern) (file : PlacedFile) (found : List (String × Candidate)) (tool : String) :
    (ps.foldl (consider file) found).lookup tool =
      match patternFor? ps tool file with
      | none => found.lookup tool
      | some p => some (better (found.lookup tool) (candidate file p)) := by
  -- on the patterns, for any candidates so far: the first that takes the file may change the candidate, no later one does
  induction ps generalizing found with
  | nil => rfl
  | cons p ps ih =>
    rw [List.foldl_cons, ih, lookup_consider, patternFor?, patternFor?, List.find?_cons]
    by_cases htakes : (p.tool == tool && p.takes (slashed file.path)) = true
    · rw [if_pos htakes, htakes]
      -- the patterns behind this one offer the same file again
      cases ps.find? fun p => p.tool == tool && p.takes (slashed file.path) with
      | none => rfl
      | some q => exact congrArg some (better_better rfl)
    · rw [if_neg htakes, Bool.eq_false_iff.mpr htakes]

/-! ## §3 — all files

File by file the nearest one so far is kept. -/

/-- The candidates of all tools after some files. -/
def foundIn (files : List PlacedFile) : List (String × Candidate) :=
  files.foldl (fun found file => known.foldl (consider file) found) []

theorem lookup_locate (files : List PlacedFile) (tool : String) :
    (locate files).lookup tool = ((foundIn files).lookup tool).map (·.2) := Json.lookup_map_snd ..

/-- What a tool has after one more file. -/
def offer (tool : String) (before : Option Candidate) (file : PlacedFile) : Option Candidate :=
  match patternFor? known tool file with
  | none => before
  | some p => some (better before (candidate file p))

/-- **Tools do not get in each other's way**: what a tool has depends on its own patterns alone. -/
theorem lookup_foundIn (files : List PlacedFile) (tool : String) : (foundIn files).lookup tool = files.foldl (offer tool) none := by
  induction files using List.reverseRecOn with
  | nil => rfl
  | append_singleton files file ih =>
    rw [foundIn, List.foldl_append, List.foldl_append, List.foldl_cons, List.foldl_nil, lookup_pass, List.foldl_cons,
      List.foldl_nil, ← ih]
    rfl

theorem offer_of_none (hp : patternFor? known tool f = none) : offer tool before f = before := by rw [offer, hp]

theorem offer_of_some (hp : patternFor? known tool f = some p) : offer tool before f = some (better before (candidate f p)) := by
  rw [offer, hp]

/-- A pattern fits a file that configures its tool. -/
def Configures (tool : String) (file : PlacedFile) : Prop := ∃ p ∈ known, p.tool = tool ∧ p.Fits (slashed file.path)

theorem configures_iff : Configures tool file ↔ (patternFor? known tool file).isSome = true := by
  simp only [Configures, patternFor?, List.find?_isSome, Bool.and_eq_true, beq_iff_eq, takes_iff]

/-- The first of the nearest files among those that configure a tool. -/
def IsNearest (tool : String) (files : List PlacedFile) (file : PlacedFile) : Prop :=
  Configures tool file ∧ ∃ front back, files = front ++ file :: back ∧
    (∀ f ∈ front, Configures tool f → file.depth < f.depth) ∧ ∀ f ∈ back, Configures tool f → file.depth ≤ f.depth

/-- A file behind all others is the nearest if the others are farther away. -/
theorem isNearest_concat (hfile : Configures tool file) (h : ∀ f ∈ files, Configures tool f → file.depth < f.depth) :
    IsNearest tool (files ++ [file]) file := ⟨hfile, files, [], rfl, h, nofun⟩

/-- The nearest file stays the nearest as long as no nearer one comes. -/
theorem IsNearest.append (h : IsNearest tool files file) (hmore : ∀ f ∈ more, Configures tool f → file.depth ≤ f.depth) :
    IsNearest tool (files ++ more) file := by
  obtain ⟨hfile, front, back, rfl, hfront, hback⟩ := h
  refine ⟨hfile, front, back ++ more, by simp, hfront, ?_⟩
  exact List.forall_mem_append.mpr ⟨hback, hmore⟩

theorem IsNearest.depth_le (h : IsNearest tool files file) (hf : f ∈ files) (hconfigures : Configures tool f) :
    file.depth ≤ f.depth := by
  obtain ⟨-, front, back, rfl, hfront, hback⟩ := h
  rcases List.mem_append.mp hf with hf | hf
  · exact Nat.le_of_lt (hfront f hf hconfigures)
  · rcases List.mem_cons.mp hf with rfl | hf
    · exact Nat.le_refl _
    · exact hback f hf hconfigures

/-- What a tool has after some files: nothing if none of them configures it, else the nearest. -/
inductive Has (tool : String) (files : List PlacedFile) : Option Candidate → Prop
  | nothing (h : ∀ f ∈ files, ¬ Configures tool f) : Has tool files none
  | nearest (file : PlacedFile) (p : ConfigPattern) (h : IsNearest tool files file)
      (hp : patternFor? known tool file = some p) : Has tool files (some (candidate file p))

/-- A file that does not configure a tool changes nothing. -/
theorem Has.skip (h : Has tool files before) (hf : ¬ Configures tool f) : Has tool (files ++ [f]) before := by
  cases h with
  | nothing h => exact .nothing (List.forall_mem_append.mpr ⟨h, List.forall_mem_singleton.mpr hf⟩)
  | nearest old q h hq => exact .nearest old q (h.append (List.forall_mem_singleton.mpr fun hc => absurd hc hf)) hq

/-- A file that configures a tool is the nearest if there was none before or if it is nearer. -/
theorem Has.offer (h : Has tool files before) (hp : patternFor? known tool f = some p) :
    Has tool (files ++ [f]) (some (better before (candidate f p))) := by
  have hf : Configures tool f := by
    rw [configures_iff, hp]
    rfl
  cases h with
  | nothing h => exact .nearest f p (isNearest_concat hf fun g hg hconfigures => absurd hconfigures (h g hg)) hp
  | nearest old q h hq =>
    by_cases hlt : f.depth < old.depth
    · rw [better_of_lt (show (candidate f p).1 < (candidate old q).1 from hlt)]
      exact .nearest f p (isNearest_concat hf fun g hg hconfigures => Nat.lt_of_lt_of_le hlt (h.depth_le hg hconfigures)) hp
    · rw [better_of_le (show (candidate old q).1 ≤ (candidate f p).1 from Nat.not_lt.mp hlt)]
      exact .nearest old q (h.append (List.forall_mem_singleton.mpr fun _ => Nat.not_lt.mp hlt)) hq

/-- After all files the nearest one is there. Induction over the files from the last one. -/
theorem has_foundIn (tool : String) (files : List PlacedFile) : Has tool files ((foundIn files).lookup tool) := by
  rw [lookup_foundIn]
  -- on the files from the last one: it is skipped, or offered against what the others left
  induction files using List.reverseRecOn with
  | nil => exact .nothing nofun
  | append_singleton files f ih =>
    rw [List.foldl_append, List.foldl_cons, List.foldl_nil]
    cases hp : patternFor? known tool f with
    | none =>
      rw [offer_of_none hp]
      exact ih.skip (by rw [configures_iff, hp]; exact Bool.false_ne_true)
    | some p =>
      rw [offer_of_some hp]
      exact ih.offer hp

/-- Files that are not nearer change nothing for a tool that has one. -/
theorem foldl_offer_of_le (hmore : ∀ f ∈ more, c.1 ≤ f.depth) : more.foldl (offer tool) (some c) = some c := by
  induction more with
  | nil => rfl
  | cons f more ih =>
    obtain ⟨hf, hmore⟩ := List.forall_mem_cons.mp hmore
    rw [List.foldl_cons]
    cases hp : patternFor? known tool f with
    | none =>
      rw [offer_of_none hp]
      exact ih hmore
    | some p =>
      rw [offer_of_some hp, better_of_le (show c.1 ≤ (candidate f p).1 from hf)]
      exact ih hmore

theorem lookup_foundIn_append (hbefore : (foundIn files).lookup tool = some c) (hmore : ∀ f ∈ more, c.1 ≤ f.depth) :
    (foundIn (files ++ more)).lookup tool = some c := by
  rw [lookup_foundIn] at hbefore ⊢
  rw [List.foldl_append, hbefore, foldl_offer_of_le hmore]

/-- Tools are kept in order. -/
theorem inOrder_foundIn (files : List PlacedFile) : Json.InOrder (foundIn files) := by
  refine List.foldlRecOn (motive := Json.InOrder) files _ List.Pairwise.nil ?_
  intro found hfound file _
  -- within one file, pattern by pattern: each inserts in order or does nothing
  refine List.foldlRecOn (motive := Json.InOrder) known _ hfound ?_
  intro found hfound p _
  unfold consider
  dsimp only
  split
  · exact hfound.insertSorted p.tool _
  · exact hfound

/-! ## §4 — the result

The rule for all tools together. -/

/-- The first pattern of a tool that fits a file. -/
def IsFirstFitting (tool : String) (file : PlacedFile) (p : ConfigPattern) : Prop :=
  ∃ front back, known = front ++ p :: back ∧ p.tool = tool ∧ p.Fits (slashed file.path) ∧
    ∀ q ∈ front, q.tool = tool → ¬ q.Fits (slashed file.path)

/-- The pattern that is used is the first one that fits. -/
theorem isFirstFitting_of_patternFor? (h : patternFor? known tool file = some p) : IsFirstFitting tool file p := by
  obtain ⟨hp, front, back, hknown, hfront⟩ := List.find?_eq_some_iff_append.mp h
  rw [Bool.and_eq_true, beq_iff_eq, takes_iff] at hp
  refine ⟨front, back, hknown, hp.1, hp.2, ?_⟩
  intro q hq htool hfits
  have hother := hfront q hq
  rw [Bool.not_eq_true', Bool.and_eq_false_iff] at hother
  rcases hother with hother | hother
  · exact absurd htool (beq_eq_false_iff_ne.mp hother)
  · rw [takes_iff.mpr hfits] at hother
    cases hother

/-- **Each tool has its nearest file.** A tool has a configuration file exactly if a pattern of it fits one of the files.
It is the one with the fewest names on its path, and of several such files the first; the first pattern that fits it says what
it configures. Further files do not change this unless one of them is nearer. -/
theorem locate_exact (files : List PlacedFile) :
    Json.InOrder (locate files) ∧ ∀ tool : String,
      (((locate files).lookup tool).isSome = true ↔
        ∃ file ∈ files, ∃ p ∈ known, p.tool = tool ∧ p.Fits (slashed file.path)) ∧
      ∀ c, (locate files).lookup tool = some c →
        ∃ file p, IsNearest tool files file ∧ IsFirstFitting tool file p ∧ c = ⟨slashed file.path, p.kind, p.importance⟩ ∧
          ∀ more : List PlacedFile, (∀ f ∈ more, file.depth ≤ f.depth) →
            (locate (files ++ more)).lookup tool = some c := by
  refine ⟨(inOrder_foundIn files).map_snd _, fun tool => ?_⟩
  rw [lookup_locate, Option.isSome_map]
  have hhas := has_foundIn tool files
  cases hfound : (foundIn files).lookup tool with
  | none =>
    rw [hfound] at hhas
    cases hhas with
    | nothing h => exact ⟨iff_of_false Bool.false_ne_true fun ⟨f, hf, hconfigures⟩ => h f hf hconfigures, nofun⟩
  | some candidate =>
    rw [hfound] at hhas
    cases hhas with
    | nearest file p h hp =>
      have hfile : file ∈ files := by
        obtain ⟨-, front, back, rfl, -⟩ := h
        exact List.mem_append_right front List.mem_cons_self
      refine ⟨iff_of_true rfl ⟨file, hfile, h.1⟩, ?_⟩
      rintro c hc
      cases hc
      refine ⟨file, p, h, isFirstFitting_of_patternFor? hp, rfl, fun more hmore => ?_⟩
      rw [lookup_locate, lookup_foundIn_append hfound hmore]
      rfl

/-- Files of three depths for one tool, two of them nearest to the root. -/
def compilerSettings : List PlacedFile :=
  [⟨"apps/web/tsconfig.json", 3⟩, ⟨"tsconfig.base.json", 1⟩, ⟨"apps/tsconfig.json", 2⟩, ⟨"tsconfig.json", 1⟩]

/-- Two files at the root: the one that comes first is taken, by a pattern with a wildcard. -/
theorem locate_exact_compilerSettings : (∀ f ∈ compilerSettings, 1 ≤ f.depth) ∧
    (locate compilerSettings).lookup "typescript" = some ⟨"tsconfig.base.json", .typeChecker, .high⟩ ∧
    (locate (compilerSettings ++ compilerSettings)).lookup "typescript" =
      some ⟨"tsconfig.base.json", .typeChecker, .high⟩ := by
  have hlocate : (locate compilerSettings).lookup "typescript" = some ⟨"tsconfig.base.json", .typeChecker, .high⟩ := by
    rw [lookup_locate, lookup_foundIn]
    decide +kernel
  have hdepth : ∀ f ∈ compilerSettings, 1 ≤ f.depth := by decide
  obtain ⟨file, p, hnearest, -, -, hmore⟩ := ((locate_exact compilerSettings).2 "typescript").2 _ hlocate
  have hbase : Configures "typescript" ⟨"tsconfig.base.json", 1⟩ := by
    rw [configures_iff]
    decide
  have hfile : file.depth ≤ 1 := hnearest.depth_le (f := ⟨"tsconfig.base.json", 1⟩) (by decide) hbase
  exact ⟨hdepth, hlocate, hmore _ fun f hf => Nat.le_trans hfile (hdepth f hf)⟩

end ConfigFile

end LintPlan
