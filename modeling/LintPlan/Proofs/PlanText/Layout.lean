import LintPlan.PlanText
import LintPlan.Proofs.Text.ReadingBack
import LintPlan.Proofs.Text.Trimming

/-!
# The layout of written plans

What a text says as a plan is the last value of every key, and nothing else about it counts: not the order of lines with
different keys, not blank lines and comments, not the blanks around a key or a value, not how lines end. All of this is about
texts in which every line that is meant to say something has an equals sign; without one, the first such line is what is wrong
with the text, whatever else it says.

* **`readLine_eq`** — what a line says, without trimming it first.
* **`readLines_laidOut`** — the settings of such lines, looked up by key, are the last values.
* **`readLines_bad`** — a line without an equals sign ends the reading with its number.
* **`Relaid`** — lines that were laid out differently; they say the same (`Relaid.says`).
* **`read_layout`** — so texts are read alike if they give every key the same last value.
-/

namespace LintPlan

namespace PlanText

/-! ## §1 — lines

What a line says is put as a function of the line, apart from how the reader goes over it. -/

/-- A line that says nothing: it is blank, or a comment. -/
def IsNote (line : List Char) : Prop := Text.trim line = [] ∨ (Text.trim line).head? = some '#'

/-- A line that is meant to say something and has no equals sign. -/
def IsBad (line : List Char) : Prop := ¬ IsNote line ∧ '=' ∉ line

instance (line : List Char) : Decidable (IsNote line) := inferInstanceAs (Decidable (_ ∨ _))

instance (line : List Char) : Decidable (IsBad line) := inferInstanceAs (Decidable (_ ∧ _))

/-- The key of a line with its value, both trimmed: what stands before and behind the first equals sign. -/
def settingOn? (line : List Char) : Option (String × String) :=
  if IsNote line then none
  else (Text.cut '=' line).map fun sides => (String.ofList (Text.trim sides.1), String.ofList (Text.trim sides.2))

variable {line key value : List Char} {lines front : List (List Char)}

theorem not_isBlank_equals : Text.isBlank '=' = false := by decide

theorem equals_not_mem {cs : List Char} (h : Text.AllBlank cs) : '=' ∉ cs := by
  intro hmem
  have hblank := h _ hmem
  rw [not_isBlank_equals] at hblank
  cases hblank

/-- A line cannot be cut where it has no separator. -/
theorem cut_eq_none_iff {sep : Char} {cs : List Char} : Text.cut sep cs = none ↔ sep ∉ cs := by
  induction cs with
  | nil => simp [Text.cut]
  | cons c cs ih =>
    rw [Text.cut]
    by_cases hc : c = sep
    · simp [hc]
    · simp [hc, ih, Ne.symm hc]

/-- Cutting a line before or after it is trimmed makes no difference once the sides are trimmed. -/
theorem cut_trim (line : List Char) :
    (Text.cut '=' (Text.trim line)).map (fun sides => (Text.trim sides.1, Text.trim sides.2)) =
      (Text.cut '=' line).map fun sides => (Text.trim sides.1, Text.trim sides.2) := by
  obtain ⟨before, behind, hbefore, hbehind, hline⟩ := Text.exists_blanks line
  cases hcut : Text.cut '=' (Text.trim line) with
  | none =>
    have hnone : Text.cut '=' line = none := by
      rw [cut_eq_none_iff] at hcut ⊢
      rw [hline]
      simp [hcut, equals_not_mem hbefore, equals_not_mem hbehind]
    rw [hnone]
  | some sides =>
    obtain ⟨a, b⟩ := sides
    obtain ⟨htrim, ha⟩ := Text.eq_of_cut hcut
    -- the blanks in front of the line are blanks of the key, those behind it blanks of the value
    have hwhole : line = (before ++ a) ++ '=' :: (b ++ behind) := by rw [hline, htrim]; simp
    have hkey : '=' ∉ before ++ a := by simp [ha, equals_not_mem hbefore]
    rw [hwhole, Text.cut_append_cons hkey]
    simp only [Option.map_some, Text.trim_append hbehind]
    rw [← List.append_nil (before ++ a), Text.trim_surround hbefore (by exact nofun)]

/-- **What a line says.** -/
theorem readLine_eq (line : List Char) :
    readLine line = match settingOn? line with
      | some (key, value) => .setting key value
      | none => if IsBad line then .bad else .skipped := by
  have hcond : ((Text.trim line).isEmpty || (Text.trim line).head? == some '#') = decide (IsNote line) := by
    rw [Bool.eq_iff_iff, decide_eq_true_iff]
    simp [IsNote]
  -- the reader cuts the trimmed line; the definition above cuts the line and trims the parts
  have hcut := cut_trim line
  unfold readLine settingOn? IsBad
  simp only [hcond, decide_eq_true_eq]
  by_cases hnote : IsNote line
  · simp [hnote]
  · simp only [hnote, if_false, not_false_eq_true, true_and]
    cases hline : Text.cut '=' line with
    | none =>
      rw [hline, Option.map_none, Option.map_eq_none_iff] at hcut
      simp [hcut, cut_eq_none_iff.mp hline]
    | some sides =>
      rw [hline] at hcut
      obtain ⟨inner, hinner, hsides⟩ := Option.map_eq_some_iff.mp hcut
      rw [hinner]
      simp only [Prod.mk.injEq] at hsides
      simp [hsides.1, hsides.2]

/-- The value that a line gives a key. -/
def valueOn? (key : String) (line : List Char) : Option String :=
  (settingOn? line).bind fun setting => if setting.1 = key then some setting.2 else none

/-- The value of a key on the last line that gives it one. -/
def lastValue? (lines : List (List Char)) (key : String) : Option String := lines.reverse.findSome? (valueOn? key)

theorem lastValue?_append (front back : List (List Char)) (key : String) :
    lastValue? (front ++ back) key = (lastValue? back key).or (lastValue? front key) := by
  rw [lastValue?, List.reverse_append, List.findSome?_append]
  rfl

theorem lastValue?_cons (line : List Char) (lines : List (List Char)) (key : String) :
    lastValue? (line :: lines) key = (lastValue? lines key).or (valueOn? key line) := by
  rw [← List.singleton_append, lastValue?_append, lastValue?, lastValue?]
  cases hvalue : valueOn? key line <;> simp [hvalue]

/-! ## §2 — reading lines

The loop keeps what it has read in reverse, so that the last setting of a key is found first. -/

/-- **The settings of lines that can be read**, looked up by key: the last value, or what was there before. -/
theorem readLines_laidOut (hlines : ∀ line ∈ lines, ¬ IsBad line) (number : Nat) (done : List (String × String)) :
    ∃ entries, readLines number done lines = .ok entries ∧
      ∀ key, entries.lookup key = (lastValue? lines key).or (done.lookup key) := by
  induction lines generalizing number done with
  | nil => exact ⟨done, rfl, fun _ => rfl⟩
  | cons line lines ih =>
    obtain ⟨hline, hrest⟩ := List.forall_mem_cons.mp hlines
    rw [readLines, readLine_eq]
    cases hsetting : settingOn? line with
    | none =>
      obtain ⟨entries, hread, hlookup⟩ := ih hrest (number + 1) done
      refine ⟨entries, by simpa [hline] using hread, fun key => ?_⟩
      simp [hlookup, lastValue?_cons, valueOn?, hsetting]
    | some setting =>
      obtain ⟨entries, hread, hlookup⟩ := ih hrest (number + 1) (setting :: done)
      refine ⟨entries, hread, fun key => ?_⟩
      rw [hlookup, lastValue?_cons, Option.or_assoc, List.lookup_cons, valueOn?, hsetting, Option.bind_some]
      -- only a later line with the same key comes before this one
      by_cases hkey : setting.1 = key
      · simp [hkey]
      · have hbeq : (key == setting.1) = false := beq_eq_false_iff_ne.mpr (Ne.symm hkey)
        simp [hkey, hbeq]

/-- **A line without an equals sign** ends the reading, whatever the lines behind it say. -/
theorem readLines_bad (hfront : ∀ line ∈ front, ¬ IsBad line) (hline : IsBad line) (back : List (List Char)) (number : Nat)
    (done : List (String × String)) :
    readLines number done (front ++ line :: back) = .error (.badLine (number + front.length + 1)) := by
  induction front generalizing number done with
  | nil =>
    have hnone : settingOn? line = none := by
      rw [settingOn?, if_neg hline.1, cut_eq_none_iff.mpr hline.2]
      rfl
    rw [List.nil_append, readLines, readLine_eq, hnone]
    simp [hline]
  | cons other front ih =>
    obtain ⟨hother, hrest⟩ := List.forall_mem_cons.mp hfront
    rw [List.cons_append, readLines, readLine_eq]
    have hcount : number + 1 + front.length + 1 = number + (other :: front).length + 1 := by
      rw [List.length_cons]
      omega
    cases hsetting : settingOn? other with
    | none => simpa [hother, hcount] using ih hrest (number + 1) done
    | some setting => exact hcount ▸ ih hrest (number + 1) (setting :: done)

/-- A plan is made of what is found under the keys. -/
theorem ofSettings_congr {x y : List (String × String)} (h : ∀ key, x.lookup key = y.lookup key) :
    ofSettings x = ofSettings y := by
  have hraw : rawSetting x = rawSetting y := by
    funext key
    rw [rawSetting, rawSetting, h]
  simp only [ofSettings, readSetting, hraw]

/-! ## §3 — the same lines laid out differently

Changes of layout are given as a relation, one constructor for each kind. Two texts that are related say the same, by induction
on how they are. -/

/-- The key of a line that says something. -/
def keyOn? (line : List Char) : Option String := (settingOn? line).map Prod.fst

/-- Lines that are laid out differently, but say the same. -/
inductive Relaid : List (List Char) → List (List Char) → Prop where
  /-- A blank line or a comment is added. -/
  | note (front back : List (List Char)) (line : List Char) (hline : IsNote line) :
      Relaid (front ++ back) (front ++ line :: back)
  /-- Two neighbours with different keys change places. -/
  | swap (front back : List (List Char)) (first second : List Char) (hkeys : keyOn? first ≠ keyOn? second) :
      Relaid (front ++ first :: second :: back) (front ++ second :: first :: back)
  /-- A line is added whose key has another value further down. -/
  | overridden (front between back : List (List Char)) (first second : List Char) (hfirst : (keyOn? first).isSome)
      (hkeys : keyOn? first = keyOn? second) :
      Relaid (front ++ between ++ second :: back) (front ++ first :: between ++ second :: back)
  /-- Blanks are put around the key and around the value. A carriage return is a blank, too. -/
  | padded (front back : List (List Char)) (key value a b c d : List Char) (hkey : '=' ∉ key) (ha : Text.AllBlank a)
      (hb : Text.AllBlank b) (hc : Text.AllBlank c) (hd : Text.AllBlank d) :
      Relaid (front ++ (key ++ '=' :: value) :: back)
        (front ++ (a ++ key ++ b ++ '=' :: (c ++ value ++ d)) :: back)
  | symm {lines others : List (List Char)} (h : Relaid lines others) : Relaid others lines
  | trans {lines others more : List (List Char)} (h : Relaid lines others) (h' : Relaid others more) : Relaid lines more

/-- Lines that say the same: the same can be read of them, and every key has the same last value. -/
structure SaySame (lines others : List (List Char)) : Prop where
  bad : (∃ line ∈ lines, IsBad line) ↔ ∃ line ∈ others, IsBad line
  values : ∀ key, lastValue? lines key = lastValue? others key

/-- What replaces a part of the lines by a part that says the same. -/
theorem SaySame.within {part other : List (List Char)} (h : SaySame part other) (front back : List (List Char)) :
    SaySame (front ++ part ++ back) (front ++ other ++ back) where
  bad := by
    have hbad := h.bad
    simp only [List.mem_append, or_and_right, exists_or, hbad]
  values key := by simp only [lastValue?_append, h.values key]

/-- A line with an equals sign is a comment if its key starts like one. -/
theorem isNote_iff_of_cut (key value : List Char) :
    IsNote (key ++ '=' :: value) ↔ (Text.trim key).head? = some '#' := by
  rw [IsNote, Text.head?_trim key, Text.trim_append_cons not_isBlank_equals]
  cases Text.trimStart key <;> simp

/-- What a line with an equals sign says hangs on its trimmed sides. -/
theorem settingOn?_of_cut (hkey : '=' ∉ key) (value : List Char) :
    settingOn? (key ++ '=' :: value) =
      if (Text.trim key).head? = some '#' then none
      else some (String.ofList (Text.trim key), String.ofList (Text.trim value)) := by
  simp only [settingOn?, isNote_iff_of_cut, Text.cut_append_cons hkey, Option.map_some]

/-- A line with another key has no value for this one. -/
theorem valueOn?_of_keyOn?_ne {line : List Char} {key : String} (h : keyOn? line ≠ some key) : valueOn? key line = none := by
  rw [keyOn?] at h
  rw [valueOn?]
  cases hsetting : settingOn? line with
  | none => rfl
  | some setting =>
    have hne : setting.1 ≠ key := by
      rintro rfl
      exact h (by rw [hsetting]; rfl)
    simp [hne]

theorem isSome_valueOn? {line : List Char} {key : String} (h : keyOn? line = some key) : (valueOn? key line).isSome := by
  obtain ⟨setting, hsetting, rfl⟩ := Option.map_eq_some_iff.mp h
  simp [valueOn?, hsetting]

theorem settingOn?_of_isNote {line : List Char} (h : IsNote line) : settingOn? line = none := if_pos h

/-- **Lines that are laid out differently say the same.** -/
theorem Relaid.says {lines others : List (List Char)} (h : Relaid lines others) : SaySame lines others := by
  induction h with
  | note front back line hline =>
    have hsame : SaySame [] [line] := by
      refine ⟨by simp [IsBad, hline], fun key => ?_⟩
      simp [lastValue?_cons, valueOn?, settingOn?_of_isNote hline]
    simpa using hsame.within front back
  | swap front back first second hkeys =>
    have hsame : SaySame [first, second] [second, first] := by
      refine ⟨by simp [or_comm], fun key => ?_⟩
      -- no key has its value on both lines
      simp only [lastValue?_cons]
      by_cases hfirst : keyOn? first = some key
      · simp [valueOn?_of_keyOn?_ne (fun h => hkeys (hfirst.trans h.symm)), lastValue?]
      · simp [valueOn?_of_keyOn?_ne hfirst, lastValue?]
    simpa using hsame.within front back
  | overridden front between back first second hfirst hkeys =>
    have hsame : SaySame (between ++ [second]) (first :: between ++ [second]) := by
      refine ⟨?_, fun key => ?_⟩
      · have hgood : ¬ IsBad first := by
          rintro ⟨-, hequals⟩
          simp [keyOn?, settingOn?, cut_eq_none_iff.mpr hequals] at hfirst
        simp [hgood]
      · simp only [List.cons_append, lastValue?_cons, lastValue?_append]
        by_cases hkey : keyOn? first = some key
        · -- the value further down counts
          obtain ⟨value, hvalue⟩ := Option.isSome_iff_exists.mp (isSome_valueOn? (hkeys ▸ hkey))
          simp [hvalue, lastValue?]
        · simp [valueOn?_of_keyOn?_ne hkey]
    simpa using hsame.within front back
  | padded front back key value a b c d hkey ha hb hc hd =>
    have hpadded : '=' ∉ a ++ key ++ b := by simp [hkey, equals_not_mem ha, equals_not_mem hb]
    have hsetting : settingOn? (a ++ key ++ b ++ '=' :: (c ++ value ++ d)) = settingOn? (key ++ '=' :: value) := by
      rw [settingOn?_of_cut hkey, settingOn?_of_cut hpadded, Text.trim_surround ha hb, Text.trim_surround hc hd]
    have hsame : SaySame [key ++ '=' :: value] [a ++ key ++ b ++ '=' :: (c ++ value ++ d)] := by
      refine ⟨by simp [IsBad], fun key => ?_⟩
      simp only [lastValue?_cons, valueOn?, hsetting]
    simpa using hsame.within front back
  | symm h ih => exact ⟨ih.bad.symm, fun key => (ih.values key).symm⟩
  | trans h h' ih ih' => exact ⟨ih.bad.trans ih'.bad, fun key => (ih.values key).trans (ih'.values key)⟩

/-! ## §4 — texts

From lines to texts, where line ends come in. -/

/-- The lines of a text. -/
def linesOf (text : String) : List (List Char) := Text.lines text.toList

/-- A text in which every line is a note or has an equals sign. -/
def IsLaidOut (text : String) : Prop := ∀ line ∈ linesOf text, IsNote line ∨ '=' ∈ line

/-- A text with a carriage return before every line feed. -/
def withReturns (text : String) : String :=
  String.ofList (text.toList.flatMap fun c => if c = '\n' then ['\r', '\n'] else [c])

variable {s t text : String}

theorem not_isBad_iff : ¬ IsBad line ↔ IsNote line ∨ '=' ∈ line := by
  rw [IsBad, not_and_or, not_not, not_not]

theorem isLaidOut_iff : IsLaidOut text ↔ ¬ ∃ line ∈ linesOf text, IsBad line := by
  simp only [IsLaidOut, ← not_isBad_iff, not_exists, not_and]

/-- **What a text says is the last value of every key.** -/
theorem read_congr (hs : IsLaidOut s) (ht : IsLaidOut t)
    (h : ∀ key, lastValue? (linesOf s) key = lastValue? (linesOf t) key) : read s = read t := by
  have hgood : ∀ {text}, IsLaidOut text → ∀ line ∈ linesOf text, ¬ IsBad line := fun htext line hline =>
    not_isBad_iff.mpr (htext line hline)
  obtain ⟨x, hx, hlookup⟩ := readLines_laidOut (hgood hs) 0 []
  obtain ⟨y, hy, hlookup'⟩ := readLines_laidOut (hgood ht) 0 []
  rw [linesOf] at hx hy
  rw [read, read, hx, hy]
  refine ofSettings_congr fun key => ?_
  rw [hlookup, hlookup', h]

/-- **The first line without an equals sign** is what is wrong with a text, whatever the other lines say. -/
theorem read_bad (h : ∃ line ∈ linesOf text, IsBad line) :
    read text = .error (.badLine ((linesOf text).findIdx (fun line => decide (IsBad line)) + 1)) := by
  have hexists : ∃ line ∈ linesOf text, decide (IsBad line) = true := by simpa using h
  have hlt := List.findIdx_lt_length_of_exists hexists
  generalize hnumber : (linesOf text).findIdx (fun line => decide (IsBad line)) = number at hlt ⊢
  have hbad : IsBad (linesOf text)[number] := by
    subst hnumber
    have hfound := List.findIdx_getElem (w := hlt)
    exact of_decide_eq_true hfound
  -- the lines in front of the first bad one are good
  have hfront : ∀ line ∈ (linesOf text).take number, ¬ IsBad line := by
    intro line hline
    obtain ⟨i, hi, rfl⟩ := List.mem_take_iff_getElem.mp hline
    have hbefore : i < (linesOf text).findIdx fun line => decide (IsBad line) := by omega
    simpa using List.not_of_lt_findIdx hbefore
  obtain ⟨back, hback⟩ : ∃ back, linesOf text = (linesOf text).take number ++ (linesOf text)[number] :: back :=
    ⟨(linesOf text).drop (number + 1), by rw [List.getElem_cons_drop, List.take_append_drop]⟩
  have hread := readLines_bad hfront hbad back 0 []
  rw [← hback, List.length_take, Nat.min_eq_left hlt.le, Nat.zero_add] at hread
  rw [read]
  rw [linesOf] at hread
  rw [hread]

/-- What is read of lines hangs on the lines without the blanks around them. -/
theorem readLines_congr {others : List (List Char)} (h : lines.map Text.trim = others.map Text.trim) (number : Nat)
    (done : List (String × String)) : readLines number done lines = readLines number done others := by
  induction lines generalizing others number done with
  | nil =>
    rw [List.map_nil, List.nil_eq, List.map_eq_nil_iff] at h
    rw [h]
  | cons line lines ih =>
    cases others with
    | nil => cases h
    | cons other others =>
      rw [List.map_cons, List.map_cons, List.cons.injEq] at h
      have hline : readLine line = readLine other := by rw [readLine, readLine, h.1]
      simp only [readLines, hline, ih h.2]

/-- Pieces between line feeds, each but the last with a carriage return at its end. -/
def endReturns : List (List Char) → List (List Char)
  | [] => []
  | [last] => [last]
  | piece :: next :: pieces => (piece ++ ['\r']) :: endReturns (next :: pieces)

/-- With returns in front of the line feeds, every line but the last ends with one. -/
theorem splitOn_withReturns (cs : List Char) :
    Text.splitOn '\n' (cs.flatMap fun c => if c = '\n' then ['\r', '\n'] else [c]) =
      endReturns (Text.splitOn '\n' cs) := by
  induction cs with
  | nil => rfl
  | cons c cs ih =>
    obtain ⟨piece, pieces, hpieces⟩ := List.exists_cons_of_ne_nil (Text.splitOn_ne_nil '\n' cs)
    rw [hpieces] at ih
    by_cases hc : c = '\n'
    · simp [hc, Text.splitOn, ih, hpieces, endReturns]
    · -- the character belongs to the first piece, whether it is the last one or not
      cases pieces with
      | nil => simp [hc, Text.splitOn, ih, hpieces, endReturns]
      | cons next pieces => simp [hc, Text.splitOn, ih, hpieces, endReturns]

/-- Trimming takes these returns away, and lines are trimmed before they are read. -/
theorem trim_linesOfPieces (pieces : List (List Char)) :
    (Text.linesOfPieces (endReturns pieces)).map Text.trim = (Text.linesOfPieces pieces).map Text.trim := by
  induction pieces using endReturns.induct with
  | case1 => rfl
  | case2 => rfl
  | case3 piece next pieces ih =>
    obtain ⟨first, others, hmore⟩ : ∃ first others, endReturns (next :: pieces) = first :: others := by
      cases pieces <;> exact ⟨_, _, rfl⟩
    have hline : Text.dropReturn (piece ++ ['\r']) = piece := by simp [Text.dropReturn]
    rw [hmore] at ih
    simp only [endReturns, hmore, Text.linesOfPieces, List.map_cons, ih, hline, Text.trim_dropReturn]

/-- **How lines end does not matter**, not even for the number of a line that cannot be read. -/
theorem read_withReturns (text : String) : read (withReturns text) = read text := by
  have hlines : (linesOf (withReturns text)).map Text.trim = (linesOf text).map Text.trim := by
    rw [linesOf, withReturns, String.toList_ofList, Text.lines, splitOn_withReturns]
    exact trim_linesOfPieces _
  rw [read, read]
  rw [linesOf, linesOf] at hlines
  rw [readLines_congr hlines]

/-- **Plans are read whatever their layout.** Two texts in which every line is a note or has an equals sign are read alike, with
success or without, if they give every key the same last value; so they are if one was laid out differently from the other.
What is wrong with any other text is its first line that is neither. Carriage returns never make a difference. -/
theorem read_layout :
    (∀ s t, IsLaidOut s → IsLaidOut t → (∀ key, lastValue? (linesOf s) key = lastValue? (linesOf t) key) →
      read s = read t) ∧
    (∀ s t, Relaid (linesOf s) (linesOf t) → IsLaidOut s → IsLaidOut t ∧ read s = read t) ∧
    (∀ text, read (withReturns text) = read text) ∧
    ∀ text, (∃ line ∈ linesOf text, IsBad line) →
      ∃ fault, read text = .error fault ∧
        fault.message = "line " ++ toString ((linesOf text).findIdx (fun line => decide (IsBad line)) + 1) ++
          ": expected KEY=value" := by
  refine ⟨fun s t => read_congr, fun s t hrelaid hs => ?_, read_withReturns, fun text h => ?_⟩
  · have ht : IsLaidOut t := by
      rw [isLaidOut_iff] at hs ⊢
      rwa [← hrelaid.says.bad]
    exact ⟨ht, read_congr hs ht hrelaid.says.values⟩
  · exact ⟨_, read_bad h, rfl⟩

/-- A text with one setting. -/
def plainText : String := "REPORT_FORMATS=xml"

/-- The same setting below a comment and a line that it overrides. -/
def rearrangedText : String := "# moved\nREPORT_FORMATS = json\nREPORT_FORMATS=xml\n"

/-- A text with two lines that are neither notes nor settings. -/
def brokenText : String := "# plan\nENABLE\nMAX"

/-- A comment and an overridden setting change nothing, not even a fault. The bad line of the broken text is its second one. -/
theorem read_layout_rearranged :
    IsLaidOut plainText ∧ IsLaidOut rearrangedText ∧ Relaid (linesOf plainText) (linesOf rearrangedText) ∧
      (∀ key, lastValue? (linesOf plainText) key = lastValue? (linesOf rearrangedText) key) ∧
      read plainText = read rearrangedText ∧ read plainText = .error (.unknownFormat "xml") ∧
      (∃ line ∈ linesOf brokenText, IsBad line) ∧
      ∃ fault, read brokenText = .error fault ∧ fault.message = "line 2: expected KEY=value" := by
  have hplain : linesOf plainText = ["REPORT_FORMATS=xml".toList] := by decide +kernel
  have hlines : linesOf rearrangedText =
      ["# moved".toList, "REPORT_FORMATS = json".toList, "REPORT_FORMATS=xml".toList] := by decide +kernel
  have hrelaid : Relaid (linesOf plainText) (linesOf rearrangedText) := by
    rw [hlines, hplain]
    have hnote : IsNote "# moved".toList := by decide +kernel
    have hkey : (keyOn? "REPORT_FORMATS = json".toList).isSome = true := by decide
    have hkeys : keyOn? "REPORT_FORMATS = json".toList = keyOn? "REPORT_FORMATS=xml".toList := by decide
    exact .trans (.overridden [] [] [] _ _ hkey hkeys) (.note [] _ _ hnote)
  have hlaidOut : IsLaidOut plainText := by
    rw [isLaidOut_iff, hplain]
    decide +kernel
  obtain ⟨hlaidOut', hread⟩ := read_layout.2.1 _ _ hrelaid hlaidOut
  have hvalues := hrelaid.says.values
  have hfault : read plainText = .error (.unknownFormat "xml") := by decide +kernel
  have hbad : ∃ line ∈ linesOf brokenText, IsBad line := by decide
  obtain ⟨fault, hbroken, hmessage⟩ := read_layout.2.2.2 _ hbad
  have hnumber : (linesOf brokenText).findIdx (fun line => decide (IsBad line)) = 1 := by decide
  rw [hnumber] at hmessage
  exact ⟨hlaidOut, hlaidOut', hrelaid, hvalues, read_layout.1 _ _ hlaidOut hlaidOut' hvalues, hfault, hbad, fault, hbroken,
    hmessage⟩

end PlanText

end LintPlan
