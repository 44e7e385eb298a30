import LintPlan.Command.Program

/-!
# Where the values of options come from

Reading arguments takes values of options from words, looks at each of them once, and stops at the first that is refused. So a
value that was taken stands in the words and was not refused, and so does the value at which the reading stopped.

* **`Spelled`** — how a value of a setting may stand in the words.
* **`Progress.From`** — what has been read so far comes from the words; every step of the reading keeps it.
* **`Faithful`** — a reading that goes on with what is good, or stops; where a value overflows, it stands in the words.
* **`read_faithful`** — the time limit of an invocation.
-/

namespace LintPlan

/-- Only a time limit can overflow. -/
theorem Setting.refusal?_eq_overflow {s t : Setting} {value : String} (h : s.refusal? value = some (.overflow t)) :
    s = .timeout ∧ t = .timeout ∧ Duration.parse value = .ok none := by
  cases s
  case timeout =>
    simp only [Setting.refusal?] at h
    split at h
    · cases h
    · next hparse =>
      cases h
      exact ⟨rfl, rfl, hparse⟩
    · cases h
  all_goals simp [Setting.refusal?] at h

/-- A time limit that is not refused has its seconds. -/
theorem Setting.readTimeout_of_refusal? {value : String} (h : Setting.timeout.refusal? value = none) :
    ∃ n, Duration.parse value = .ok (some n) ∧ Setting.readTimeout value = some n := by
  simp only [Setting.refusal?] at h
  split at h
  · next n hparse =>
    refine ⟨n, hparse, ?_⟩
    rw [Setting.readTimeout, hparse]
    rfl
  · cases h
  · cases h

namespace Arguments

variable {words rest : List String} {word value : String} {p : Progress} {s : Setting} {place : Option CommandName}
  {α β : Type}

/-- The value stands in the words: it is one of them, follows the name of its option with an equals sign, or ends a word with
letters of options. The value of a switch is nobody's word. -/
def Spelled (words : List String) (s : Setting) (value : String) : Prop :=
  s.isSwitch = true ∨ value ∈ words ∨ (∃ name, s.long? = some name ∧ "--" ++ name ++ "=" ++ value ∈ words) ∨
    (s.short?.isSome = true ∧ ∃ word ∈ words, value.toList <:+ word.toList)

theorem spelled_timeout (h : Spelled words .timeout value) : value ∈ words ∨ "--timeout=" ++ value ∈ words := by
  rcases h with hswitch | hword | ⟨name, hname, hword⟩ | ⟨hletter, -⟩
  · cases hswitch
  · exact .inl hword
  · cases hname
    exact .inr hword
  · cases hletter

theorem spelled_long {name cs : List Char} (hoption : ofLong? place (String.ofList name) = some s) (hword : word ∈ words)
    (heq : word.toList = '-' :: '-' :: (name ++ '=' :: cs)) : Spelled words s (String.ofList cs) := by
  have hfound := List.find?_some hoption
  have hspelling : word = "--" ++ String.ofList name ++ "=" ++ String.ofList cs := by
    rw [← String.toList_inj, heq]
    simp
  exact .inr (.inr (.inl ⟨String.ofList name, eq_of_beq hfound, hspelling ▸ hword⟩))

theorem spelled_short {c : Char} {cs : List Char} (hoption : ofShort? place c = some s) (hword : word ∈ words)
    (hend : cs <:+ word.toList) : Spelled words s (String.ofList cs) := by
  have hfound := List.find?_some hoption
  have hletter : s.short? = some c := eq_of_beq hfound
  exact .inr (.inr (.inr ⟨by rw [hletter]; rfl, word, hword, by rwa [String.toList_ofList]⟩))

/-- What has been read comes from the words, and nothing of it that was looked at was refused. -/
structure Progress.From (words : List String) (p : Progress) : Prop where
  given : ∀ {s value}, (s, value) ∈ p.given → Spelled words s value ∧ s.refusal? value = none
  waiting : ∀ {s value}, p.waiting = some (s, some value) → Spelled words s value

/-- A reading of words goes on with something good, or it stops: at an overflow only for a value in the words. -/
def Faithful (words : List String) (good : α → Prop) : Except UsageFault α → Prop
  | .ok a => good a
  | .error fault => ∀ t, fault = .overflow t → ∃ s value, Spelled words s value ∧ s.refusal? value = some fault

/-! ## §1 — one argument

Every reader takes its values from the words. This is one property, with lemmas for how readers are put together. -/

theorem Faithful.goesOn {good : α → Prop} {x : Except UsageFault α} {a : α} (h : Faithful words good x)
    (hx : x = .ok a) : good a := by
  rw [hx] at h
  exact h

theorem Faithful.stops {good : α → Prop} {more : β → Prop} {x : Except UsageFault α} {fault : UsageFault}
    (h : Faithful words good x) (hx : x = .error fault) : Faithful words more (.error fault) := by
  rw [hx] at h
  exact h

theorem Faithful.bind {good : α → Prop} {more : β → Prop} {x : Except UsageFault α} {f : α → Except UsageFault β}
    (h : Faithful words good x) (hf : ∀ a, good a → Faithful words more (f a)) : Faithful words more (x >>= f) := by
  cases x with
  | error fault => exact h
  | ok a => exact hf a h

theorem Faithful.map {good : α → Prop} {more : β → Prop} {x : Except UsageFault α} {f : α → β}
    (h : Faithful words good x) (hf : ∀ a, good a → more (f a)) : Faithful words more (x.map f) := by
  cases x with
  | error fault => exact h
  | ok a => exact hf a h

/-- A fault that is no overflow. -/
theorem faithful_error {good : α → Prop} {fault : UsageFault} (h : ∀ t, fault ≠ .overflow t) :
    Faithful words good (.error fault) :=
  fun t ht => absurd ht (h t)

theorem from_start : Progress.start.From words := ⟨fun h => (List.not_mem_nil h).elim, fun h => nomatch h⟩

/-- A value that is spelled is added, unless it is refused. -/
theorem add_faithful (hp : p.From words) (hvalue : Spelled words s value) :
    Faithful words (Progress.From words) (p.add s value) := by
  unfold Progress.add
  split
  · exact faithful_error (by simp)
  · split
    · next fault hfault =>
      intro t ht
      exact ⟨s, value, hvalue, hfault⟩
    · next hfine =>
      refine ⟨fun hmem => ?_, hp.waiting⟩
      rcases List.mem_append.mp hmem with hold | hnew
      · exact hp.given hold
      · cases List.mem_singleton.mp hnew
        exact ⟨hvalue, hfine⟩

theorem settle_faithful (hp : p.From words) : Faithful words (Progress.From words) p.settle := by
  unfold Progress.settle
  split
  · exact hp
  · exact faithful_error (by simp)
  · next s value hwaiting =>
    exact add_faithful ⟨hp.given, fun h => nomatch h⟩ (hp.waiting hwaiting)

theorem await_faithful {value : Option String} (hp : p.From words)
    (hvalue : ∀ {v}, value = some v → Spelled words s v) :
    Faithful words (Progress.From words) (p.await s value) := by
  refine (settle_faithful hp).map fun q hq => ⟨hq.given, fun hwaiting => ?_⟩
  cases hwaiting
  exact hvalue rfl

theorem make_faithful (hp : p.From words) (hvalue : Spelled words s value) :
    Faithful words (Progress.From words) (p.make s value) := by
  unfold Progress.make
  split
  · next hsettle => exact (settle_faithful hp).stops hsettle
  · next hsettle => exact add_faithful ((settle_faithful hp).goesOn hsettle) hvalue

theorem stopWith_faithful {fault : UsageFault} (hp : p.From words) (hfault : ∀ t, fault ≠ .overflow t) :
    Faithful words (Progress.From words) (p.stopWith fault) := by
  unfold Progress.stopWith
  split
  · next hsettle => exact (settle_faithful hp).stops hsettle
  · exact faithful_error hfault

/-- A word with two dashes: a switch, an option with its value, or one that waits. -/
theorem readLong_faithful {body : List Char} (hp : p.From words) (hword : word ∈ words)
    (hbody : word.toList = '-' :: '-' :: body) : Faithful words (Progress.From words) (readLong place p word body) := by
  unfold readLong
  cases hcut : Text.cut '=' body with
  | none =>
    dsimp only
    split
    · split
      · next hswitch => exact make_faithful hp (.inl hswitch)
      · exact await_faithful hp (fun h => nomatch h)
    · next heq => cases heq
    · split
      · exact stopWith_faithful hp (by simp)
      · split
        · exact stopWith_faithful hp (by simp)
        · exact faithful_error (by simp)
  | some parts =>
    -- the value is what follows the equals sign
    obtain ⟨name, cs⟩ := parts
    obtain ⟨rfl, -⟩ := Text.eq_of_cut hcut
    dsimp only
    split
    · next heq => cases heq
    · next hoption heq =>
      cases heq
      split
      · exact faithful_error (by simp)
      · exact make_faithful hp (spelled_long hoption hword hbody)
    · split
      · exact faithful_error (by simp)
      · split <;> exact faithful_error (by simp)

/-- A word with one dash may hold several switches and then an option. What is left of the word is carried as its end. -/
theorem readShort_faithful {cs : List Char} (hp : p.From words) (hword : word ∈ words) (hcs : cs <:+ word.toList) :
    Faithful words (Progress.From words) (readShort place p word cs) := by
  induction cs generalizing p with
  | nil => exact hp
  | cons c rest ih =>
    have hrest : rest <:+ word.toList := (List.suffix_cons c rest).trans hcs
    unfold readShort
    split
    · next hoption =>
      split
      · next hswitch =>
        have hmake : Faithful words (Progress.From words) (p.make _ "true") := make_faithful hp (.inl hswitch)
        split
        · next hfault => exact hmake.stops hfault
        · next hq => exact ih (hmake.goesOn hq) hrest
      · split
        · exact await_faithful hp (fun h => nomatch h)
        · exact make_faithful hp (spelled_short hoption hword ((List.suffix_cons _ _).trans hrest))
        · exact make_faithful hp (spelled_short hoption hword hrest)
    · split
      · exact stopWith_faithful hp (by simp)
      · split
        · exact stopWith_faithful hp (by simp)
        · exact faithful_error (by simp)

/-- A word without a dash is the path. -/
theorem readPath_faithful {trailing : Bool} (hp : p.From words) (hword : word ∈ words) :
    Faithful words (Progress.From words) (readPath place trailing p word) := by
  unfold readPath
  split
  · split
    · exact faithful_error (by simp)
    · refine await_faithful hp fun h => ?_
      cases h
      exact .inr (.inl hword)
  · split <;> exact faithful_error (by simp)

/-- So one argument is read faithfully, whatever it is. -/
theorem readOne_faithful (hp : p.From words) (hword : word ∈ words) :
    Faithful words (Progress.From words) (readOne place p word) := by
  unfold readOne
  split
  · next body hlong => exact readLong_faithful hp hword hlong
  · next c body hshort => exact readShort_faithful hp hword ⟨['-'], hshort.symm⟩
  · split
    · -- an option that waited for its value gets the word
      refine ⟨hp.given, fun hwaiting => ?_⟩
      cases hwaiting
      exact .inr (.inl hword)
    · exact readPath_faithful hp hword

/-! ## §2 — all arguments

The words in front of the command, the command, and those behind. -/

/-- Behind two dashes all words are paths. -/
theorem readTrailing_faithful (hp : p.From words) (hrest : rest ⊆ words) :
    Faithful words (Progress.From words) (readTrailing place p rest) := by
  induction rest generalizing p with
  | nil => exact hp
  | cons word rest ih =>
    obtain ⟨hword, hrest⟩ := List.cons_subset.mp hrest
    unfold readTrailing
    have hpath : Faithful words (Progress.From words) (readPath place true p word) := readPath_faithful hp hword
    split
    · next hfault => exact hpath.stops hfault
    · next hq => exact ih (hpath.goesOn hq) hrest

/-- The arguments behind a command, by induction on them. -/
theorem readBehind_faithful {command : CommandName} (hp : p.From words) (hrest : rest ⊆ words) :
    Faithful words (Progress.From words) (readBehind command p rest) := by
  induction rest generalizing p with
  | nil => exact hp
  | cons word rest ih =>
    obtain ⟨hword, hrest⟩ := List.cons_subset.mp hrest
    unfold readBehind
    split
    · exact readTrailing_faithful hp hrest
    · have hone : Faithful words (Progress.From words) (readOne (some command) p word) := readOne_faithful hp hword
      split
      · next hfault => exact hone.stops hfault
      · next hq => exact ih (hone.goesOn hq) hrest

theorem readHelp_ne_overflow (rest : List String) (t : Setting) : readHelp rest ≠ .overflow t := by
  unfold readHelp
  split
  · simp
  · split <;> (try split) <;> simp

/-- In front of a command, and the words that are left behind it. -/
theorem readFront_faithful (hp : p.From words) (hrest : rest ⊆ words) :
    Faithful words (fun x => x.1.From words ∧ ∀ {name more}, x.2 = some (name, more) → more ⊆ words)
      (readFront p rest) := by
  induction rest generalizing p with
  | nil => exact ⟨hp, fun h => nomatch h⟩
  | cons word rest ih =>
    obtain ⟨hword, hrest⟩ := List.cons_subset.mp hrest
    unfold readFront
    split
    · exact faithful_error (readHelp_ne_overflow rest)
    · split
      · refine ⟨hp, fun h => ?_⟩
        cases h
        exact hrest
      · split
        · exact (readTrailing_faithful hp hrest).map fun q hq => ⟨hq, fun h => nomatch h⟩
        · have hone : Faithful words (Progress.From words) (readOne none p word) := readOne_faithful hp hword
          split
          · next hfault => exact hone.stops hfault
          · next hq => exact ih (hone.goesOn hq) hrest

/-! ## §3 — what the environment adds

Variables of the environment stand in for some options, not for the time limit. -/

theorem timeout_not_mem_shared : Setting.timeout ∉ Setting.shared := by decide

/-- The environment has nothing to say about time limits. -/
theorem fromEnvironment_faithful {environment : List (String × String)} {given : Given} {settings : List Setting}
    (hsettings : Setting.timeout ∉ settings) :
    Faithful words (fun e => ∀ value, (Setting.timeout, value) ∉ e) (fromEnvironment environment given settings) := by
  induction settings with
  | nil => exact fun value h => List.not_mem_nil h
  | cons s settings ih =>
    obtain ⟨hs, hsettings⟩ := not_or.mp (mt List.mem_cons.mpr hsettings)
    unfold fromEnvironment
    dsimp only
    split
    · exact ih hsettings
    · split
      · next fault hfault =>
        intro t ht
        exact absurd (Setting.refusal?_eq_overflow (ht ▸ hfault)).1.symm hs
      · refine (ih hsettings).map fun e he value hmem => ?_
        rcases List.mem_cons.mp hmem with heq | hmem
        · exact hs (Prod.mk.inj heq).1
        · exact he value hmem

theorem finish_faithful {environment : List (String × String)} (hp : p.From words) :
    Faithful words (fun x => (∀ {s value}, (s, value) ∈ x.1 → Spelled words s value ∧ s.refusal? value = none) ∧
      ∀ value, (Setting.timeout, value) ∉ x.2) (finish environment p) := by
  unfold finish
  split
  · next hfault => exact (settle_faithful hp).stops hfault
  · next hq =>
    have hfrom := (settle_faithful hp).goesOn hq
    exact (fromEnvironment_faithful timeout_not_mem_shared).map fun _ he => ⟨hfrom.given, he⟩

/-! ## §4 — the time limit of a run

From the sources of a setting back to the word. -/

/-- A setting with a value was made somewhere. -/
theorem Sources.mem_of_value? {x : Sources} (h : x.value? s = some value) :
    (s, value) ∈ x.behind ∨ (s, value) ∈ x.front ∨ (s, value) ∈ x.environment := by
  obtain ⟨before, more, hsplit, -⟩ := List.lookup_eq_some_iff.mp h
  have hmem : (s, value) ∈ x.behind ++ x.front ++ x.environment := by simp [hsplit]
  simpa only [List.mem_append, or_assoc] using hmem

/-- A word, or what follows the name of the option in a word, means a limit of so many seconds; none of them if it overflows. -/
def LimitAsked (words : List String) (seconds : Option Nat) : Prop :=
  ∃ value, (value ∈ words ∨ "--timeout=" ++ value ∈ words) ∧ Duration.parse value = .ok seconds

/-- **Only a word limits a run**, and only a word can overflow. -/
theorem read_faithful (environment : List (String × String)) (args : List String) :
    Faithful args (fun i => ∀ path n speed preferences events,
      i.command = .run path (some n) speed preferences events → LimitAsked args (some n)) (read environment args) := by
  unfold read
  refine (readFront_faithful from_start (List.Subset.refl _)).bind fun ⟨front, command?⟩ hfront => ?_
  cases command? with
  | none =>
    refine (finish_faithful hfront.1).bind fun _ _ => ?_
    dsimp only
    split <;> exact faithful_error (by simp)
  | some c =>
    obtain ⟨name, rest⟩ := c
    refine (readBehind_faithful from_start (hfront.2 rfl)).bind fun behind hbehind => ?_
    refine (finish_faithful hbehind).bind fun ⟨behind, _⟩ hgiven => ?_
    refine (finish_faithful hfront.1).bind fun ⟨front, outside⟩ hothers => ?_
    intro path n speed preferences events hrun
    have hlimit : (Sources.value? ⟨behind, front, outside⟩ .timeout).bind Setting.readTimeout = some n := by
      cases name <;> simp [Sources.invocation, Sources.command] at hrun
      exact hrun.2.1
    obtain ⟨value, hvalue, hread⟩ := Option.bind_eq_some_iff.mp hlimit
    -- the limit was given behind the command, in front of it or by the environment
    have hspelled : Spelled args .timeout value ∧ Setting.timeout.refusal? value = none := by
      rcases Sources.mem_of_value? hvalue with hmem | hmem | hmem
      · exact hgiven.1 hmem
      · exact hothers.1 hmem
      · exact absurd hmem (hothers.2 value)
    obtain ⟨m, hparse, hseconds⟩ := Setting.readTimeout_of_refusal? hspelled.2
    obtain rfl : m = n := Option.some.inj (hseconds.symm.trans hread)
    exact ⟨value, spelled_timeout hspelled.1, hparse⟩

end Arguments

end LintPlan
