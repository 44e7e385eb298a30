import LintPlan.Proofs.Command.Spellings
import LintPlan.Proofs.Text.ReadingBack
import LintPlan.Proofs.Text.Trimming

/-!
# Time limits in seconds

A time limit is a number with a unit, and its seconds are the number times the unit. Both the number and the seconds have to fit
in 64 bits, but only the number is looked at before it is multiplied.

* **`Duration.parse_eq_some_iff`**, **`Duration.parse_eq_none_iff`** — the seconds of a text, and the texts that overflow.
* **`World.limitsExactly`** — a run has exactly the seconds that a word of its arguments asks for, or the program comes down:
  at an overflow, or where the end of the run is more than a clock can show.
-/

namespace LintPlan

namespace Text

variable {cs : List Char} {limit n : Nat}

/-- The decimal numeral of a number; zeros may stand in front, and before them one plus sign. -/
def IsNumeral (cs : List Char) (n : Nat) : Prop :=
  ∃ sign digits, cs = sign ++ digits ∧ (sign = [] ∨ sign = ['+']) ∧ digits ≠ [] ∧ (∀ c ∈ digits, c.isDigit = true) ∧
    n = digitsValue digits

/-- Digits are read if there are some and nothing else. -/
theorem readDigits_eq_some_iff :
    readDigits cs = some n ↔ cs ≠ [] ∧ (∀ c ∈ cs, c.isDigit = true) ∧ n = digitsValue cs := by
  constructor
  · intro h
    unfold readDigits at h
    split at h
    · cases h
    · next hdigits =>
      simp only [Bool.or_eq_true, List.isEmpty_iff, Bool.not_eq_true', not_or, Bool.not_eq_false, List.all_eq_true] at hdigits
      exact ⟨hdigits.1, hdigits.2, (Option.some.inj h).symm⟩
  · rintro ⟨hne, hdigits, rfl⟩
    exact readDigits_of_isDigit hne hdigits

/-- **A numeral is read exactly if it is within the limit.** -/
theorem readNumeral_eq_some_iff : readNumeral limit cs = some n ↔ IsNumeral cs n ∧ n ≤ limit := by
  unfold readNumeral
  simp only [Option.filter_eq_some_iff, decide_eq_true_eq]
  refine and_congr_left' ?_
  split
  · next rest =>
    rw [readDigits_eq_some_iff]
    constructor
    · rintro ⟨hne, hdigits, hn⟩
      exact ⟨['+'], rest, rfl, .inr rfl, hne, hdigits, hn⟩
    · rintro ⟨sign, digits, hcs, rfl | rfl, hne, hdigits, hn⟩
      · -- a plus sign is no digit
        obtain rfl : '+' :: rest = digits := hcs
        exact absurd (hdigits '+' List.mem_cons_self) (by decide)
      · obtain rfl : rest = digits := (List.cons.inj hcs).2
        exact ⟨hne, hdigits, hn⟩
  · next hplus =>
    rw [readDigits_eq_some_iff]
    constructor
    · rintro ⟨hne, hdigits, hn⟩
      exact ⟨[], cs, rfl, .inl rfl, hne, hdigits, hn⟩
    · rintro ⟨sign, digits, hcs, rfl | rfl, hne, hdigits, hn⟩
      · obtain rfl : cs = digits := hcs
        exact ⟨hne, hdigits, hn⟩
      · exact absurd hcs (hplus digits)

/-- A numeral ends with a digit. -/
theorem IsNumeral.getLast?_isDigit {c : Char} (h : IsNumeral cs n) (hc : cs.getLast? = some c) : c.isDigit = true := by
  obtain ⟨sign, digits, rfl, -, hne, hdigits, -⟩ := h
  rw [List.getLast?_append, List.getLast?_eq_some_getLast hne, Option.some_or] at hc
  obtain rfl := Option.some.inj hc
  exact hdigits _ (List.getLast_mem hne)

end Text

namespace Duration

open Text (maxWord64)

variable {text : String} {cs body suffix : List Char} {number unit n : Nat}

/-- What stands behind a number for a unit, and the seconds of the unit. -/
inductive UnitSuffix : List Char → Nat → Prop where
  | none : UnitSuffix [] 1
  | seconds : UnitSuffix ['s'] 1
  | minutes : UnitSuffix ['m'] 60
  | hours : UnitSuffix ['h'] 3600

/-- The text says a number of units: blanks may stand around it, and between the number and the unit. -/
def Written (text : String) (number unit : Nat) : Prop :=
  ∃ body suffix, Text.trim text.toList = body ++ suffix ∧ UnitSuffix suffix unit ∧ Text.IsNumeral (Text.trim body) number

/-! ## §1 — cutting off the unit

A time limit is a number with or without a unit behind it. -/

/-- What is cut off is a unit. -/
theorem unitSuffix_of_split (h : split cs = (body, unit)) : ∃ suffix, cs = body ++ suffix ∧ UnitSuffix suffix unit := by
  unfold split at h
  split at h
  · cases h
    exact ⟨[], (List.append_nil cs).symm, .none⟩
  · next c hlast =>
    obtain ⟨front, rfl⟩ := List.getLast?_eq_some_iff.mp hlast
    split at h
    · next seconds hunit =>
      cases h
      refine ⟨[c], by rw [List.dropLast_concat], ?_⟩
      unfold unitSeconds at hunit
      split at hunit <;> cases hunit
      · exact .seconds
      · exact .minutes
      · exact .hours
    · cases h
      exact ⟨[], (List.append_nil _).symm, .none⟩

/-- A numeral does not end with the letter of a unit. -/
theorem split_of_isNumeral (h : Text.IsNumeral cs number) : split cs = (cs, 1) := by
  unfold split
  split
  · rfl
  · next c hlast =>
    have hdigit : c.isDigit = true := h.getLast?_isDigit hlast
    split
    · next seconds hunit =>
      unfold unitSeconds at hunit
      split at hunit
      · exact absurd hdigit (by decide)
      · exact absurd hdigit (by decide)
      · exact absurd hdigit (by decide)
      · cases hunit
    · rfl

theorem split_append (h : UnitSuffix suffix unit) (hne : suffix ≠ []) (body : List Char) :
    split (body ++ suffix) = (body, unit) := by
  cases h
  case none => exact absurd rfl hne
  all_goals simp [split, unitSeconds]

/-- **The number and the unit are what the text is cut into.** -/
theorem written_iff : Written text number unit ↔
    (split (Text.trim text.toList)).2 = unit ∧
      Text.IsNumeral (Text.trim (split (Text.trim text.toList)).1) number := by
  constructor
  · rintro ⟨body, suffix, htext, hsuffix, hnumber⟩
    by_cases hne : suffix = []
    · subst hne
      obtain rfl : unit = 1 := by cases hsuffix; rfl
      rw [List.append_nil] at htext
      -- a trimmed text is its own trimmed form
      have hbody : Text.IsNumeral body number := by
        rw [← htext, Text.trim_trim, htext] at hnumber
        exact hnumber
      rw [htext, split_of_isNumeral hbody]
      exact ⟨rfl, by rwa [← htext, Text.trim_trim, htext]⟩
    · rw [htext, split_append hsuffix hne]
      exact ⟨rfl, hnumber⟩
  · rintro ⟨rfl, hnumber⟩
    obtain ⟨suffix, htext, hsuffix⟩ := unitSuffix_of_split (show split (Text.trim text.toList) = (_, _) from rfl)
    exact ⟨_, suffix, htext, hsuffix, hnumber⟩

/-! ## §2 — the seconds

The number times its unit, if that fits. -/

theorem seconds?_eq_some_iff : seconds? number unit = some n ↔ number * unit ≤ maxWord64 ∧ n = number * unit := by
  unfold seconds?
  split
  · next hfits => simp [hfits, eq_comm]
  · next hmany => simp [hmany]

theorem seconds?_eq_none_iff : seconds? number unit = none ↔ maxWord64 < number * unit := by
  unfold seconds?
  split
  · next hfits => simp [hfits]
  · next hmany => simp [Nat.lt_of_not_le hmany]

/-- A limit without a fault is a number within 64 bits, and not zero, times its unit. -/
theorem parse_eq_ok_iff {result : Option Nat} : parse text = .ok result ↔
    ∃ number unit, Written text number unit ∧ 0 < number ∧ number ≤ maxWord64 ∧ seconds? number unit = result := by
  simp only [written_iff, parse]
  constructor
  · intro h
    split at h
    · cases h
    · cases h
    · next number hzero hread =>
      obtain ⟨hnumeral, hle⟩ := Text.readNumeral_eq_some_iff.mp hread
      exact ⟨number, _, ⟨rfl, hnumeral⟩, Nat.pos_of_ne_zero hzero, hle, by simpa using h⟩
  · rintro ⟨number, unit, ⟨rfl, hnumeral⟩, hpos, hle, rfl⟩
    rw [Text.readNumeral_eq_some_iff.mpr ⟨hnumeral, hle⟩]
    split
    · next heq => cases heq
    · next heq => exact absurd (Option.some.inj heq) (by omega)
    · next heq => rw [Option.some.inj heq]

theorem unit_pos (h : Written text number unit) : 0 < unit := by
  obtain ⟨_, _, -, hsuffix, -⟩ := h
  cases hsuffix <;> decide

/-- **The seconds of a text** are those of its number of units, if 64 bits hold them. -/
theorem parse_eq_some_iff : parse text = .ok (some n) ↔
    ∃ number unit, Written text number unit ∧ 0 < number ∧ number * unit ≤ maxWord64 ∧ n = number * unit := by
  rw [parse_eq_ok_iff]
  refine exists_congr fun number => exists_congr fun unit => and_congr_right fun hwritten => and_congr_right fun _ => ?_
  rw [seconds?_eq_some_iff]
  -- a number is no more than the seconds of so many units
  have hunits : number ≤ number * unit := Nat.le_mul_of_pos_right number (unit_pos hwritten)
  exact and_iff_right_of_imp fun h => hunits.trans h.1

/-- **A text overflows** if 64 bits hold its number, but not the seconds of so many units. -/
theorem parse_eq_none_iff : parse text = .ok none ↔
    ∃ number unit, Written text number unit ∧ number ≤ maxWord64 ∧ maxWord64 < number * unit := by
  rw [parse_eq_ok_iff]
  refine exists_congr fun number => exists_congr fun unit => and_congr_right fun _ => ?_
  rw [seconds?_eq_none_iff]
  have hpos : maxWord64 < number * unit → 0 < number := fun h => Nat.pos_of_mul_pos_right (Nat.zero_lt_of_lt h)
  exact ⟨fun h => h.2, fun h => ⟨hpos h.2, h⟩⟩

end Duration

/-! ## §3 — the program

What the command line makes of a limit. -/

open Duration Arguments

/-- A run that is given the time limit `value`. -/
def runWithin (value : String) : List String := ["run", "--timeout=" ++ value]

/-- A limit that is too large stops the reading of the arguments. -/
theorem read_runWithin {value : String} (environment : List (String × String)) (h : parse value = .ok none) :
    Arguments.read environment (runWithin value) = .error (.overflow .timeout) := by
  have hword : ("--timeout=" ++ value).toList = '-' :: '-' :: ("timeout".toList ++ '=' :: value.toList) := by
    rw [String.toList_append]
    rfl
  have hdashes : ("--timeout=" ++ value == "--") = false := by
    refine beq_false_of_ne fun heq => ?_
    have hlist := hword.symm.trans (congrArg String.toList heq)
    simp at hlist
  have hcut : Text.cut '=' ("timeout".toList ++ '=' :: value.toList) = some ("timeout".toList, value.toList) := rfl
  have hadd : Progress.start.add .timeout value = .error (.overflow .timeout) := by
    simp [Progress.add, Progress.start, Setting.refusal?, h]
  -- the word is a long option with its value, and adding that value is the fault
  have hone : readOne (some .run) .start ("--timeout=" ++ value) = .error (.overflow .timeout) := by
    have hoption : ofLong? (some .run) "timeout" = some .timeout := by decide
    rw [readOne, hword]
    simp only [readLong, hcut, String.ofList_toList, hoption]
    exact hadd
  have hbehind : readBehind .run .start ["--timeout=" ++ value] = .error (.overflow .timeout) := by
    rw [readBehind, hdashes, hone]
    rfl
  have hfront : readFront .start (runWithin value) = .ok (.start, some (.run, ["--timeout=" ++ value])) := rfl
  unfold Arguments.read
  rw [hfront]
  show (readBehind .run .start ["--timeout=" ++ value] >>= _) = _
  rw [hbehind]
  rfl

/-- An execution whose end is more than a clock can show has no result. -/
theorem execute_result?_of_outrunsClock {r : Runner} {q : RunRequest} (id : String) (b : EngineBehaviour)
    (h : (Session.start r).outrunsClock q = true) : ((Session.start r).execute id q b).result? 0 = none := by
  rw [Session.execute, if_pos h]
  rfl

theorem runner_busy (o : RunOptions) (s : Surroundings) : (o.runner s).busy = false := by
  unfold RunOptions.runner
  dsimp only
  split <;> rfl

namespace World

variable {w : World} {i : Invocation} {path : String} {n : Nat} {speed : Option PerformanceProfile}
  {preferences : Option String} {events : Bool}

/-- A limit beyond what the clock can hold crashes the run. -/
theorem perform_of_lastSecond_lt {d : Draft} (hrun : i.command = .run path (some n) speed preferences events)
    (hlate : Session.lastSecond < n) (hmake : Draft.make w.surroundings i.maxDepth path preferences speed = .ok d) :
    (w.perform i).reply = .crash := by
  let o : RunOptions := ⟨path, some n, speed, preferences, events, i.maxDepth, i.engine, i.image⟩
  have hlimit : Session.lastSecond < (o.limited d.configuration).performance.maxExecutionTime :=
    Nat.lt_of_lt_of_le hlate (Nat.le_max_left n 1)
  have houtruns : (Session.start (o.runner w.surroundings)).outrunsClock ⟨o.limited d.configuration, o.path⟩ = true := by
    simp [Session.outrunsClock, Session.start, runner_busy, RunRequest.budget, hlimit]
  have hresults : (o.run w.surroundings (w.engines i.engine) w.stamp).results = none := by
    have hnone := execute_result?_of_outrunsClock w.stamp.id (w.engines i.engine) houtruns
    simp only [RunOptions.run]
    rw [show Draft.make w.surroundings o.maxDepth o.path o.preferences o.speed = .ok d from hmake]
    simp only [RunOptions.execute, hnone]
  simp only [perform, hrun]
  rw [show RunOptions.run _ _ _ _ = o.run w.surroundings (w.engines i.engine) w.stamp from rfl, hresults]

theorem reply_runWithin {value : String} (h : parse value = .ok none) : (w.run (runWithin value)).reply = .crash := by
  rw [run, read_runWithin w.environment h]
  rfl

/-- What becomes of the time limits of runs. -/
structure LimitsExactly (w : World) : Prop where
  /-- The seconds of a text are those of its number of units, which 64 bits hold. -/
  seconds : ∀ text n, parse text = .ok (some n) ↔
    ∃ number unit, Written text number unit ∧ 0 < number ∧ number * unit ≤ Text.maxWord64 ∧ n = number * unit
  /-- A text overflows exactly if 64 bits hold its number, but not the seconds. -/
  overflows : ∀ text, parse text = .ok none ↔
    ∃ number unit, Written text number unit ∧ number ≤ Text.maxWord64 ∧ Text.maxWord64 < number * unit
  /-- A run has all the seconds that a word of the arguments asks for. -/
  granted : ∀ args i path n speed preferences events, Arguments.read w.environment args = .ok i →
    i.command = .run path (some n) speed preferences events →
      LimitAsked args (some n) ∧
        ∀ (o : RunOptions) c, o.timeout = some n → (o.limited c).performance.maxExecutionTime = n
  /-- Reading arguments brings the program down only at a word that asks for more seconds than 64 bits hold, -/
  overflowed : ∀ args s, Arguments.read w.environment args = .error (.overflow s) → s = .timeout ∧ LimitAsked args none
  /-- and each such text can bring it down. -/
  crashes : ∀ value, parse value = .ok none → (w.run (runWithin value)).reply = .crash
  /-- So does a limit that is more than a clock can show, once there is a plan to run. -/
  outruns : ∀ i path n speed preferences events d, i.command = .run path (some n) speed preferences events →
    Session.lastSecond < n → Draft.make w.surroundings i.maxDepth path preferences speed = .ok d →
      (w.perform i).reply = .crash

/-- **Limits are exact, or the program comes down.** No limit is ever shortened, but neither an overflow of the seconds nor one
of the clock is reported. -/
theorem limitsExactly (w : World) : w.LimitsExactly where
  seconds text n := parse_eq_some_iff
  overflows text := parse_eq_none_iff
  granted args i path n speed preferences events hread hrun := by
    have hasked : LimitAsked args (some n) :=
      (read_faithful w.environment args).goesOn hread path n speed preferences events hrun
    refine ⟨hasked, fun o c ho => ?_⟩
    -- the second that a run has at least is no more than the limit, which is not zero
    obtain ⟨value, -, hparse⟩ := hasked
    obtain ⟨number, unit, hwritten, hpos, -, rfl⟩ := parse_eq_some_iff.mp hparse
    have hlimit : 0 < number * unit := Nat.mul_pos hpos (unit_pos hwritten)
    simp only [RunOptions.limited, ho]
    omega
  overflowed args s hread := by
    have hfault : Faithful args (fun _ : Invocation => True) (.error (.overflow s)) :=
      (read_faithful w.environment args).stops hread
    obtain ⟨t, value, hspelled, hrefusal⟩ := hfault s rfl
    obtain ⟨rfl, rfl, hparse⟩ := Setting.refusal?_eq_overflow hrefusal
    exact ⟨rfl, value, spelled_timeout hspelled, hparse⟩
  crashes value hparse := reply_runWithin hparse
  outruns i path n speed preferences events d hrun hlate hmake := perform_of_lastSecond_lt hrun hlate hmake

/-- So many hours are a number of 64 bits, but their seconds are not: nothing is refused, and the program comes down. -/
theorem limit_overflows :
    Written "5124095576030432h" 5124095576030432 3600 ∧ 5124095576030432 ≤ Text.maxWord64 ∧
      Text.maxWord64 < 5124095576030432 * 3600 ∧ parse "5124095576030432h" = .ok none ∧
      ∀ w : World, (w.run ["run", "--timeout=5124095576030432h"]).reply = .crash := by
  have hparse : parse "5124095576030432h" = .ok none := by decide
  have htext : Text.trim "5124095576030432h".toList = "5124095576030432".toList ++ ['h'] := by decide
  have hnumber : Text.readNumeral Text.maxWord64 (Text.trim "5124095576030432".toList) = some 5124095576030432 := by decide
  have hargs : runWithin "5124095576030432h" = ["run", "--timeout=5124095576030432h"] := by simp [runWithin]
  refine ⟨?_, by decide, by decide, hparse, fun _ => hargs ▸ reply_runWithin hparse⟩
  exact ⟨_, _, htext, .hours, (Text.readNumeral_eq_some_iff.mp hnumber).1⟩

end World

end LintPlan
