import LintPlan.Execution.RunSpec
import LintPlan.Proofs.Json.SortedEntries
import LintPlan.Proofs.PlanText.RoundTrip
import LintPlan.Validation

/-!
# Arguments for the container

The container gets the plan a second time, as environment variables among the arguments for the engine. These are the settings
that are written to disk, in the same order, and one more variable in between. The limits come from the same configuration: there
is at least one processor, and the memory is limited exactly if the limit is a size, so always for a valid configuration.

An engine reads its arguments as options: the value of an option is the argument behind it, whatever it looks like.

* **`valuesOf`**, **`behind`** — the values of an option, as an engine takes them, and all arguments behind a text.
* **`arguments_convey`** — what the arguments say about the plan.
-/

namespace LintPlan

/-! ## §1 — reading arguments

Two ways of reading: option by option, and what stands directly behind a text wherever it comes up. -/

/-- The values of an option. One option stands alone; behind each other option stands its value. -/
def valuesOf (option : String) : List String → List String
  | first :: second :: rest =>
    if first = "--rm" then valuesOf option (second :: rest)
    else if first = option then second :: valuesOf option rest
    else valuesOf option rest
  | _ => []

/-- The arguments that stand behind a text, whatever the text is there for. -/
def behind (text : String) (arguments : List String) : List String :=
  ((arguments.zip arguments.tail).filter fun e => e.1 = text).map Prod.snd

/-- Options with their values as arguments. -/
def paired (options : List (String × String)) : List String := options.flatMap fun o => [o.1, o.2]

variable {option : String} {given : List (String × String)}

/-- Options with values, and the image behind them. -/
theorem valuesOf_paired (hvalued : ∀ o ∈ given, o.1 ≠ "--rm") (last : String) :
    valuesOf option (paired given ++ [last]) = (given.filter fun o => o.1 = option).map Prod.snd := by
  induction given with
  | nil => rfl
  | cons o given ih =>
    obtain ⟨ho, hrest⟩ := List.forall_mem_cons.mp hvalued
    show valuesOf option (o.1 :: o.2 :: (paired given ++ [last])) = _
    rw [valuesOf, if_neg ho, List.filter_cons, ih hrest]
    by_cases hoption : o.1 = option
    · simp [hoption]
    · simp [hoption]

theorem valuesOf_alone (option : String) (rest : List String) : valuesOf option ("--rm" :: rest) = valuesOf option rest := by
  cases rest with
  | nil => rfl
  | cons second rest => rw [valuesOf, if_pos rfl]

theorem behind_cons (text first second : String) (rest : List String) :
    behind text (first :: second :: rest) = (if first = text then [second] else []) ++ behind text (second :: rest) := by
  unfold behind
  by_cases hfirst : first = text
  · simp [hfirst]
  · simp [hfirst]

/-- Where no value looks like the option, its values are what stands behind it. -/
theorem behind_paired (hvalues : ∀ o ∈ given, o.2 ≠ option) {first : String} (hfirst : first ≠ option) (last : String) :
    behind option (first :: (paired given ++ [last])) = (given.filter fun o => o.1 = option).map Prod.snd := by
  induction given generalizing first with
  | nil => simp [paired, behind, hfirst]
  | cons o given ih =>
    obtain ⟨ho, hrest⟩ := List.forall_mem_cons.mp hvalues
    show behind option (first :: o.1 :: o.2 :: (paired given ++ [last])) = _
    rw [behind_cons, behind_cons, ih hrest ho, if_neg hfirst, List.nil_append, List.filter_cons]
    by_cases hoption : o.1 = option
    · simp [hoption]
    · simp [hoption]

/-! ## §2 — the environment

Settings of a plan as variables. -/

/-- A variable with its value as an argument. -/
def assignment (e : String × String) : String := e.1 ++ "=" ++ e.2

theorem key_eq_of_assignment_eq {e e' : String × String} (he : '=' ∉ e.1.toList) (he' : '=' ∉ e'.1.toList)
    (h : assignment e = assignment e') : e.1 = e'.1 := by
  have htext : e.1.toList ++ '=' :: e.2.toList = e'.1.toList ++ '=' :: e'.2.toList := by
    simpa [assignment] using congrArg String.toList h
  have hcut := congrArg (Text.cut '=') htext
  rw [Text.cut_append_cons he, Text.cut_append_cons he'] at hcut
  exact String.toList_inj.mp (congrArg Prod.fst (Option.some.inj hcut))

/-- The environment is the settings of the plan, and a workspace that no plan has. -/
theorem assignment_environmentFor (c : Configuration) :
    ((RunSpec.environmentFor c).map assignment).filter (· ≠ "DEFAULT_WORKSPACE=/tmp/lint") =
      (PlanText.settings c).map assignment := by
  have hworkspace : assignment (RunSpec.workspaceVariable, RunSpec.workspace) = "DEFAULT_WORKSPACE=/tmp/lint" := by decide
  have hnew : RunSpec.workspaceVariable ∉ PlanText.keys := by decide
  have hkey : ∀ e ∈ PlanText.settings c, e.1 ≠ RunSpec.workspaceVariable := by
    rintro e he heq
    exact hnew (heq ▸ PlanText.settings_keys c ▸ List.mem_map_of_mem he)
  rw [← hworkspace, RunSpec.environmentFor]
  refine Json.filter_insertSorted assignment hkey fun e he heq => hkey e he ?_
  exact key_eq_of_assignment_eq (PlanText.isKey_settings he).no_equals (by decide) heq

/-- A plan as text is made of the same settings, one on each line. -/
theorem render_eq_assignments (c : Configuration) :
    PlanText.render c =
      PlanText.heading ++ "\n" ++ String.join (((PlanText.settings c).map assignment).map (· ++ "\n")) := by
  rw [PlanText.render, List.map_map]
  exact String.join_cons

/-! ## §3 — the arguments

The options that are given, in their order. -/

/-- The options of a run with their values, in the order in which they are given. -/
def RunSpec.options (r : RunSpec) : List (String × String) :=
  [("--name", r.containerName), ("-v", r.repository ++ ":" ++ RunSpec.workspace ++ ":rw"), ("-w", RunSpec.workspace)] ++
    r.memory.toList.map (fun limit => ("--memory", limit)) ++ [("--cpus", toString r.cpus)] ++
    r.environment.map fun e => ("-e", assignment e)

/-- Arguments are pairs, apart from the first two and the image. -/
theorem RunSpec.arguments_eq (r : RunSpec) : r.arguments = "run" :: "--rm" :: (paired r.options ++ [r.image]) := by
  have henvironment : (r.environment.flatMap fun e => ["-e", e.1 ++ "=" ++ e.2]) =
      paired (r.environment.map fun e => ("-e", assignment e)) := by
    rw [paired, List.flatMap_map]
    rfl
  unfold RunSpec.arguments RunSpec.options
  rw [henvironment]
  cases r.memory <;> simp [paired]

variable {r : RunSpec}

theorem RunSpec.options_environment : (r.options.filter fun o => o.1 = "-e").map Prod.snd = r.environment.map assignment := by
  simp [RunSpec.options, List.filter_map, Function.comp_def]

theorem RunSpec.options_processors : (r.options.filter fun o => o.1 = "--cpus").map Prod.snd = [toString r.cpus] := by
  simp [RunSpec.options, List.filter_map, Function.comp_def]

theorem RunSpec.options_memory : (r.options.filter fun o => o.1 = "--memory").map Prod.snd = r.memory.toList := by
  simp [RunSpec.options, List.filter_map, Function.comp_def]

theorem RunSpec.options_valued : ∀ o ∈ r.options, o.1 ≠ "--rm" := by
  intro o ho
  simp only [RunSpec.options, List.mem_append, List.mem_cons, List.mem_map, List.not_mem_nil, or_false] at ho
  rcases ho with (((rfl | rfl | rfl) | ⟨_, -, rfl⟩) | rfl) | ⟨_, -, rfl⟩ <;> dsimp only <;> decide

/-! ## §4 — the plan in the arguments

What the options say of the plan. -/

/-- The options that say something about the plan. -/
def planOptions : List String := ["-e", "--cpus", "--memory"]

/-- What the values of options say about a plan: they are the settings that are written to disk, a processor at least, and a
limit for the memory if the plan has one. -/
structure Conveys (c : Configuration) (values : String → List String) : Prop where
  settings : PlanText.render c = PlanText.heading ++ "\n" ++
    String.join (((values "-e").filter (· ≠ "DEFAULT_WORKSPACE=/tmp/lint")).map (· ++ "\n"))
  processors : values "--cpus" = [toString (max 1 c.performance.limits.maxCpus)]
  memory : values "--memory" = (MemorySize.parse? c.performance.limits.maxMemory).toList.map fun n => toString n ++ "m"

variable {c : Configuration} {repository image name : String}

theorem engineLimit?_toList (limit : String) :
    (MemorySize.engineLimit? limit).toList = (MemorySize.parse? limit).toList.map fun n => toString n ++ "m" := by
  have htext : ∀ n : Nat, String.ofList (Text.numeral n ++ ['m']) = toString n ++ "m" := by
    intro n
    rw [String.ofList_append]
    rfl
  rw [MemorySize.engineLimit?, Option.toList_map]
  exact List.map_congr_left fun n _ => htext n

/-- Whatever way values are read, they convey the plan if they are those of the options. -/
theorem conveys_options (repository image name : String) {values : String → List String}
    (h : ∀ option ∈ planOptions,
      values option = ((RunSpec.ofConfiguration c repository image name).options.filter fun o => o.1 = option).map Prod.snd) :
    Conveys c values := by
  refine ⟨?_, ?_, ?_⟩
  · rw [h "-e" (by decide), RunSpec.options_environment, render_eq_assignments, ← assignment_environmentFor]
    rfl
  · rw [h "--cpus" (by decide), RunSpec.options_processors, Nat.max_comm]
    rfl
  · rw [h "--memory" (by decide), RunSpec.options_memory, ← engineLimit?_toList]
    rfl

/-- A text with a character that is in none of these options is none of them. -/
theorem ne_planOption {value option : String} {ch : Char} (hmem : ch ∈ value.toList)
    (hch : ch ∈ [':', '/', '='] ∨ ch.isDigit = true) (hoption : option ∈ planOptions) : value ≠ option := by
  have hoptions : (planOptions.all fun option => option.toList.all fun ch => ch ∉ [':', '/', '='] && !ch.isDigit) = true := by
    decide
  rintro rfl
  have hplain := List.all_eq_true.mp (List.all_eq_true.mp hoptions value hoption) ch hmem
  simp only [Bool.and_eq_true, decide_eq_true_eq, Bool.not_eq_true'] at hplain
  rcases hch with hch | hch
  · exact hplain.1 hch
  · rw [hplain.2] at hch
    cases hch

/-- **No value looks like an option**, but perhaps the name of the container. -/
theorem options_ne_planOption (hname : name ∉ planOptions) {option : String} (hoption : option ∈ planOptions) :
    ∀ o ∈ (RunSpec.ofConfiguration c repository image name).options, o.2 ≠ option := by
  have hnumeral : ∀ n : Nat, ∃ ch ∈ (toString n).toList, ch.isDigit = true := by
    intro n
    obtain ⟨ch, hch⟩ := List.exists_mem_of_ne_nil (Text.numeral n) Nat.toDigits_ne_nil
    exact ⟨ch, by simpa [Text.numeral] using hch, Text.isDigit_of_mem_numeral hch⟩
  intro o ho
  simp only [RunSpec.options, List.mem_append, List.mem_cons, List.mem_map, List.not_mem_nil, or_false] at ho
  rcases ho with (((rfl | rfl | rfl) | ⟨limit, hlimit, rfl⟩) | rfl) | ⟨e, -, rfl⟩
  · rintro rfl
    exact hname hoption
  · exact ne_planOption (show ':' ∈ _ by simp) (.inl (by decide)) hoption
  · exact ne_planOption (show '/' ∈ _ by decide) (.inl (by decide)) hoption
  · rw [RunSpec.ofConfiguration, engineLimit?_toList] at hlimit
    obtain ⟨n, -, rfl⟩ := List.mem_map.mp hlimit
    obtain ⟨ch, hch, hdigit⟩ := hnumeral n
    exact ne_planOption (by rw [String.toList_append]; exact List.mem_append_left _ hch) (.inr hdigit) hoption
  · obtain ⟨ch, hch, hdigit⟩ := hnumeral (max c.performance.limits.maxCpus 1)
    exact ne_planOption hch (.inr hdigit) hoption
  · exact ne_planOption (show '=' ∈ _ by simp [assignment]) (.inl (by decide)) hoption

/-- A valid configuration limits the memory, and not below what a container needs. -/
theorem least_le_memory (h : c.validate.valid = true) :
    ∃ n, MemorySize.parse? c.performance.limits.maxMemory = some n ∧ MemorySize.least ≤ n := by
  have herrors : c.errors = [] := List.isEmpty_iff.mp h
  have hmemory : c.memoryIssue? = none := by
    simp only [Configuration.errors, List.append_eq_nil_iff, Option.toList_eq_nil_iff] at herrors
    exact herrors.1.2
  unfold Configuration.memoryIssue? at hmemory
  dsimp only at hmemory
  cases hparse : MemorySize.parse? c.performance.limits.maxMemory with
  | none =>
    rw [hparse] at hmemory
    cases hmemory
  | some n =>
    rw [hparse] at hmemory
    refine ⟨n, rfl, Nat.le_of_not_lt fun hlow => ?_⟩
    dsimp only at hmemory
    rw [if_pos hlow] at hmemory
    cases hmemory

/-! ## §5 — what the container gets

Both ways of reading find it. -/

/-- Read as an engine reads them, the arguments convey the plan. -/
theorem conveys_valuesOf (c : Configuration) (repository image name : String) :
    Conveys c (valuesOf · (RunSpec.ofConfiguration c repository image name).arguments.tail) := by
  refine conveys_options repository image name fun option _ => ?_
  rw [RunSpec.arguments_eq, List.tail_cons, valuesOf_alone]
  exact valuesOf_paired RunSpec.options_valued image

/-- Read without regard to what is a value, they convey it as well, if the container is not called like an option. -/
theorem conveys_behind (c : Configuration) (repository image : String) (hname : name ∉ planOptions) :
    Conveys c (behind · (RunSpec.ofConfiguration c repository image name).arguments) := by
  refine conveys_options repository image name fun option hoption => ?_
  have hfirst : "run" ≠ option ∧ "--rm" ≠ option := by
    revert option
    decide
  rw [RunSpec.arguments_eq, behind_cons, if_neg hfirst.1, List.nil_append]
  exact behind_paired (options_ne_planOption hname hoption) hfirst.2 image

/-- **The container gets the plan that is written to disk.** Its arguments say as options what the plan says; they do so as well
when only what stands behind an option counts, unless the container is called like one. The image comes last. For a valid
configuration the memory is limited, to 512 megabytes at least. -/
theorem arguments_convey (c : Configuration) (repository image name : String) :
    Conveys c (valuesOf · (RunSpec.ofConfiguration c repository image name).arguments.tail) ∧
      (name ∉ planOptions → Conveys c (behind · (RunSpec.ofConfiguration c repository image name).arguments)) ∧
      (RunSpec.ofConfiguration c repository image name).arguments.getLast? = some image ∧
      (c.validate.valid = true → ∃ n ≥ 512,
        valuesOf "--memory" (RunSpec.ofConfiguration c repository image name).arguments.tail = [toString n ++ "m"]) := by
  refine ⟨conveys_valuesOf c repository image name, conveys_behind c repository image, ?_, ?_⟩
  · rw [RunSpec.arguments_eq, ← List.cons_append, ← List.cons_append]
    exact List.getLast?_concat
  · intro hvalid
    obtain ⟨n, hparse, hleast⟩ := least_le_memory hvalid
    refine ⟨n, hleast, ?_⟩
    rw [(conveys_valuesOf c repository image name).memory, hparse]
    rfl

/-- The arguments for a configuration that nobody changed, which is valid. -/
theorem arguments_convey_standard :
    Configuration.standard.validate.valid = true ∧ "lintscope-1" ∉ planOptions ∧
      (behind "--cpus" (RunSpec.ofConfiguration .standard "/src" "image" "lintscope-1").arguments = ["4"]) ∧
      ∃ n ≥ 512, valuesOf "--memory" (RunSpec.ofConfiguration .standard "/src" "image" "lintscope-1").arguments.tail =
        [toString n ++ "m"] := by
  obtain ⟨-, hbehind, -, hmemory⟩ := arguments_convey .standard "/src" "image" "lintscope-1"
  have hname : "lintscope-1" ∉ planOptions := by decide
  have hvalid : Configuration.standard.validate.valid = true := by decide
  exact ⟨hvalid, hname, (hbehind hname).processors, hmemory hvalid⟩

end LintPlan
