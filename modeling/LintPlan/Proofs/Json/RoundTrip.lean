import LintPlan.Proofs.Json.Layouts

/-!
# Values that are read back

A value that is written in a layout reads as itself, as long as it does not nest too deep and its numbers are such that their
texts denote them. Blanks do not matter, nor what stands behind the value, unless a number could go on with it.

* **`Readable`** — the values that can be read back.
* **`ReadsBack`** — reading gives a value back, wherever it stands. `ReadsBack.entry` is the same for an entry.
* **`Members`** — what the readers of lists and of objects have in common; **`Members.readsBack`** is by induction on the members.
* **`document_written`** — a whole document, in both layouts.
-/

namespace LintPlan.Json

variable {more cs : List Char} {c : Char} {p : Position} {l : Layout} {level levels : Nat} {j : Json}

/-! ## §1 — values that can be read

Everything but floats is read back. A float is if its text is the usual one for a float that is not too large or small, which is
what the documents have. -/

/-- Can a value be read back from what is written for it, and does it nest within a number of levels? Integers have 64 bits,
and the text of a float has no exponent and denotes the float. -/
inductive Readable : Nat → Json → Prop where
  | null {levels : Nat} : Readable levels .null
  | bool {levels : Nat} (b : Bool) : Readable levels (.bool b)
  | int {levels : Nat} {i : Int} (hlow : -9223372036854775808 ≤ i) (hhigh : i ≤ Text.maxWord64) : Readable levels (.int i)
  | float {levels : Nat} {x : Binary64} {t : NumberText} (husual : t.IsUsual) (htext : t.chars = floatText x)
      (hvalue : t.value = .ok (.float x)) : Readable levels (.float x)
  | str {levels : Nat} (s : String) : Readable levels (.str s)
  | arr {levels : Nat} {items : List Json} (h : ∀ j ∈ items, Readable levels j) : Readable (levels + 1) (.arr items)
  | obj {levels : Nat} {entries : List (String × Json)} (h : ∀ e ∈ entries, Readable levels e.2) :
      Readable (levels + 1) (.obj entries)

theorem endsNumber_nil : EndsNumber [] := by
  intro x hx
  cases hx

theorem endsNumber_cons (h : c.isDigit = false ∧ c ≠ '.' ∧ c ≠ 'e' ∧ c ≠ 'E') : EndsNumber (c :: more) := by
  rintro x hx
  cases hx
  exact h

/-- What stands apart ends a number. -/
theorem endsNumber_blank {blanks : List Char} (hblanks : ∀ x ∈ blanks, isJsonBlank x = true) (hmore : EndsNumber more) :
    EndsNumber (blanks ++ more) := by
  cases blanks with
  | nil => exact hmore
  | cons x blanks =>
    have hx := hblanks x List.mem_cons_self
    refine endsNumber_cons ?_
    unfold isJsonBlank at hx
    simp only [Bool.or_eq_true, beq_iff_eq] at hx
    rcases hx with ((rfl | rfl) | rfl) | rfl <;> decide

/-- A minus or a digit makes a scalar a number: none of the words starts so, and no text. -/
theorem readScalar_number {x : Char} (hx : x = '-' ∨ x.isDigit = true) (rest : List Char) (p : Position) :
    readScalar ⟨x :: rest, p⟩ = readNumber ⟨x :: rest, p⟩ := by
  have hword : ∀ w ∈ ['n', 't', 'f', '"'], x ≠ w := by
    rintro w hw rfl
    revert hw
    rcases hx with rfl | hx
    · decide
    · intro hw
      simp only [List.mem_cons, List.not_mem_nil, or_false] at hw
      rcases hw with rfl | rfl | rfl | rfl <;> cases hx
  unfold readScalar
  split
  · next h => cases h
  · next h => exact absurd (List.cons.inj h).1 (hword _ (by decide))
  · next h => exact absurd (List.cons.inj h).1 (hword _ (by decide))
  · next h => exact absurd (List.cons.inj h).1 (hword _ (by decide))
  · next h => exact absurd (List.cons.inj h).1 (hword _ (by decide))
  · next h =>
    cases h
    rcases hx with rfl | hx
    · rfl
    · simp [hx]

/-- The first character of a number is a minus or a digit. -/
theorem chars_eq_cons {t : NumberText} (ht : t.IsUsual) : ∃ x rest, t.chars = x :: rest ∧ (x = '-' ∨ x.isDigit = true) := by
  obtain ⟨d, ds, hds⟩ := List.exists_cons_of_ne_nil ht.whole.1
  unfold NumberText.chars Binary64.signed
  split
  · exact ⟨'-', _, rfl, .inl rfl⟩
  · refine ⟨d, ds ++ _, by rw [hds, List.cons_append], .inr (ht.whole.2 d ?_)⟩
    rw [hds]
    exact List.mem_cons_self

/-- A number is read as a scalar. -/
theorem readScalar_chars {t : NumberText} (ht : t.IsUsual) (hvalue : t.value = .ok j) (hmore : EndsNumber more) :
    Reads readScalar t.chars j more := by
  intro p
  obtain ⟨x, rest, hchars, hx⟩ := chars_eq_cons ht
  obtain ⟨p', hread⟩ := readNumber_reads ht hvalue hmore p
  refine ⟨p', ?_⟩
  rw [hchars, List.cons_append] at hread ⊢
  rw [readScalar_number hx, hread]

/-! ## §2 — from item to item

Between members the reader looks at one character behind the blanks, and at another one behind a comma. That the text of a
member starts with neither a blank nor a bracket is what lets it decide. -/

/-- Something that stands at the start of a value, and not at the end of a list. -/
def StartsValue (cs : List Char) : Prop := ∃ x rest, cs = x :: rest ∧ isJsonBlank x = false ∧ x ≠ ']'

theorem isJsonBlank_of_isDigit (h : c.isDigit = true) : isJsonBlank c = false := by
  unfold isJsonBlank
  simp only [Bool.or_eq_false_iff, beq_eq_false_iff_ne]
  refine ⟨⟨⟨?_, ?_⟩, ?_⟩, ?_⟩ <;> rintro rfl <;> cases h

/-- Something that stands at the start of a value that is neither a list nor an object. -/
def StartsScalar (cs : List Char) : Prop := ∃ x rest, cs = x :: rest ∧ isJsonBlank x = false ∧ x ∉ ['[', ']', '\x7b']

theorem StartsScalar.startsValue (h : StartsScalar cs) : StartsValue cs := by
  obtain ⟨x, rest, hcs, hblank, hx⟩ := h
  refine ⟨x, rest, hcs, hblank, ?_⟩
  rintro rfl
  exact hx (by decide)

theorem startsScalar_chars {t : NumberText} (ht : t.IsUsual) : StartsScalar t.chars := by
  obtain ⟨x, rest, hchars, rfl | hx⟩ := chars_eq_cons ht
  · exact ⟨'-', rest, hchars, rfl, by decide⟩
  · refine ⟨x, rest, hchars, isJsonBlank_of_isDigit hx, fun hmem => ?_⟩
    simp only [List.mem_cons, List.not_mem_nil, or_false] at hmem
    rcases hmem with rfl | rfl | rfl <;> cases hx

/-- Is a value neither a list nor an object? -/
def IsScalar : Json → Prop
  | .arr _ => False
  | .obj _ => False
  | _ => True

/-- The text of a scalar starts like one, in every layout. -/
theorem startsScalar_laidOut (l : Layout) (level : Nat) (h : Readable levels j) (hscalar : IsScalar j) :
    StartsScalar (laidOut l level j) := by
  cases h with
  | null => exact ⟨'n', _, rfl, rfl, by decide⟩
  | bool b =>
    cases b
    · exact ⟨'f', _, rfl, rfl, by decide⟩
    · exact ⟨'t', _, rfl, rfl, by decide⟩
  | int hlow hhigh =>
    rw [laidOut, ← chars_integerText]
    exact startsScalar_chars (isUsual_integerText _)
  | float husual htext hvalue =>
    rw [laidOut, ← htext]
    exact startsScalar_chars husual
  | str s => exact ⟨'"', _, rfl, rfl, by decide⟩
  | arr => exact hscalar.elim
  | obj => exact hscalar.elim

theorem startsValue_laidOut (l : Layout) (level : Nat) (h : Readable levels j) : StartsValue (laidOut l level j) := by
  match j, h with
  | .arr [], _ | .arr (_ :: _), _ => exact ⟨'[', _, rfl, rfl, by decide⟩
  | .obj [], _ | .obj (_ :: _), _ => exact ⟨'\x7b', _, rfl, rfl, by decide⟩
  | .null, h | .bool _, h | .int _, h | .float _, h | .str _, h | .date, h => exact (startsScalar_laidOut l level h trivial).startsValue

variable {blanks : List Char}

/-- What stands in front of a member and its blanks: a comma, unless it is the first one. -/
def separator (first : Bool) : List Char := if first then [] else [',']

theorem nextItem_end (first : Bool) (hblanks : ∀ x ∈ blanks, isJsonBlank x = true) (more : List Char) :
    Reads (nextItem first) blanks false (']' :: more) := by
  intro p
  obtain ⟨p', hskip⟩ := skipBlanks_append hblanks (show isJsonBlank ']' = false from rfl) more p
  exact ⟨p', by simp [nextItem, hskip]⟩

/-- In front of a value it has one, and the separator is passed over. -/
theorem nextItem_goesOn (first : Bool) (hblanks : ∀ x ∈ blanks, isJsonBlank x = true) (hcs : StartsValue cs) (more : List Char) :
    Reads (nextItem first) (separator first ++ blanks) true (cs ++ more) := by
  intro p
  obtain ⟨x, rest, rfl, hblank, hx⟩ := hcs
  cases first with
  | true =>
    obtain ⟨p', hskip⟩ := skipBlanks_append hblanks hblank (rest ++ more) p
    exact ⟨p', by simp [nextItem, separator, hskip]⟩
  | false =>
    obtain ⟨p', hskip⟩ := skipBlanks_append hblanks hblank (rest ++ more) (p.after ',')
    refine ⟨p', ?_⟩
    simp [nextItem, separator, skipBlanks_cons (show isJsonBlank ',' = false from rfl), Cursor.advance, hskip, hx]

theorem nextEntry_end (first : Bool) (hblanks : ∀ x ∈ blanks, isJsonBlank x = true) (more : List Char) :
    Reads (nextEntry first) blanks false ('\x7d' :: more) := by
  intro p
  obtain ⟨p', hskip⟩ := skipBlanks_append hblanks (show isJsonBlank '\x7d' = false from rfl) more p
  exact ⟨p', by simp [nextEntry, hskip]⟩

/-- In front of a quote it has one: every key starts with a quote. -/
theorem nextEntry_goesOn (first : Bool) (hblanks : ∀ x ∈ blanks, isJsonBlank x = true) (more : List Char) :
    Reads (nextEntry first) (separator first ++ blanks) true ('"' :: more) := by
  intro p
  cases first with
  | true =>
    obtain ⟨p', hskip⟩ := skipBlanks_append hblanks (show isJsonBlank '"' = false from rfl) more p
    exact ⟨p', by simp [nextEntry, separator, hskip]⟩
  | false =>
    obtain ⟨p', hskip⟩ := skipBlanks_append hblanks (show isJsonBlank '"' = false from rfl) more (p.after ',')
    refine ⟨p', ?_⟩
    simp [nextEntry, separator, skipBlanks_cons (show isJsonBlank ',' = false from rfl), Cursor.advance, hskip]

theorem passColon_cons (more : List Char) (p : Position) : ∃ p', passColon ⟨':' :: more, p⟩ = .ok ⟨more, p'⟩ :=
  ⟨p.after ':', by simp [passColon, skipBlanks_cons (show isJsonBlank ':' = false from rfl), Cursor.advance]⟩

/-! ## §3 — members

Lists and objects are read by loops of the same form. The form is a structure with the two loops as instances, so that the
induction is done once. -/

variable {fuel depth : Nat} {first : Bool} {start here behind : Cursor} {done : List Json} {pairs : List (String × Json)}

theorem readItems_end (h : nextItem first start = .ok (false, here)) :
    readItems (fuel + 1) depth first done start = .ok (.arr done.reverse, here.advance) := by
  rw [readItems, h]

theorem readItems_next (h : nextItem first start = .ok (true, here)) (hvalue : readValue fuel depth here = .ok (j, behind)) :
    readItems (fuel + 1) depth first done start = readItems fuel depth false (j :: done) behind := by
  rw [readItems, h]
  dsimp only
  rw [hvalue]

theorem readEntries_end (h : nextEntry first start = .ok (false, here)) :
    readEntries (fuel + 1) depth first pairs start = .ok (.obj pairs.reverse, here.advance) := by
  rw [readEntries, h]

/-- Reading an entry: its key, the colon and its value. -/
def readEntry (fuel depth : Nat) : Reading (String × Json) := fun c =>
  match readText c with
  | .error fault => .error fault
  | .ok (key, c) =>
    match passColon c with
    | .error fault => .error fault
    | .ok c => (readValue fuel depth c).map fun r => ((key, r.1), r.2)

/-- It takes one entry after the other; `readEntry` puts the three steps for an entry together. -/
theorem readEntries_next {e : String × Json} (h : nextEntry first start = .ok (true, here))
    (hentry : readEntry fuel depth here = .ok (e, behind)) :
    readEntries (fuel + 1) depth first pairs start = readEntries fuel depth false (e :: pairs) behind := by
  unfold readEntry at hentry
  rw [readEntries, h]
  dsimp only
  cases hkey : readText here with
  | error fault =>
    rw [hkey] at hentry
    cases hentry
  | ok key =>
    rw [hkey] at hentry
    dsimp only at hentry ⊢
    cases hcolon : passColon key.2 with
    | error fault =>
      rw [hcolon] at hentry
      cases hentry
    | ok c =>
      rw [hcolon] at hentry
      dsimp only at hentry ⊢
      cases hvalue : readValue fuel depth c with
      | error fault =>
        rw [hvalue] at hentry
        cases hentry
      | ok value =>
        rw [hvalue] at hentry
        cases hentry
        rfl

/-- A value is read from what is written for it, wherever that stands. -/
def ReadsBack (levels : Nat) (l : Layout) (j : Json) : Prop :=
  ∀ ⦃level fuel depth blanks more⦄, (∀ x ∈ blanks, isJsonBlank x = true) → 2 * (laidOut l level j).length ≤ fuel →
    levels < depth → EndsNumber more → Reads (readValue fuel depth) (blanks ++ laidOut l level j) j more

/-- With its value an entry is read back: a key always is, and the colon stands between the two. -/
theorem ReadsBack.entry {e : String × Json} (h : ReadsBack levels l e.2) (hfuel : 2 * (laidOut l level e.2).length ≤ fuel)
    (hdepth : levels < depth) (hmore : EndsNumber more) : Reads (readEntry fuel depth) (laidOutEntry l level e) e more := by
  intro p
  obtain ⟨p₁, hkey⟩ := readText_quotedText e.1 (':' :: (l.gap ++ laidOut l level e.2 ++ more)) p
  obtain ⟨p₂, hcolon⟩ := passColon_cons (l.gap ++ laidOut l level e.2 ++ more) p₁
  obtain ⟨p₃, hvalue⟩ := h l.gap_blank hfuel hdepth hmore p₂
  refine ⟨p₃, ?_⟩
  have htext : laidOutEntry l level e ++ more = quotedText e.1 ++ ':' :: (l.gap ++ laidOut l level e.2 ++ more) := by
    simp [laidOutEntry]
  rw [readEntry, htext, hkey]
  dsimp only
  rw [hcolon]
  dsimp only
  rw [hvalue]
  rfl

/-- What stands behind an item: more items, and the end of the list. -/
theorem endsNumber_listed {α : Type} (text : α → List Char) (xs : List α) (hblanks : ∀ x ∈ blanks, isJsonBlank x = true)
    (hc : c.isDigit = false ∧ c ≠ '.' ∧ c ≠ 'e' ∧ c ≠ 'E') (more : List Char) :
    EndsNumber (listed l level text xs ++ (blanks ++ c :: more)) := by
  cases xs with
  | nil => exact (endsNumber_blank hblanks (endsNumber_cons hc) : EndsNumber (blanks ++ c :: more))
  | cons x xs => exact endsNumber_cons (by decide)

/-- How the members of a list or of an object are written and read: whether there is one more, a member, and all of them up to
the closing bracket, behind those that are read already. -/
structure Members (β : Type) where
  opening : Char
  closing : Char
  value : List β → Json
  text : Layout → Nat → β → List Char
  next : (first : Bool) → Reading Bool
  member : (fuel depth : Nat) → Reading β
  loop : (fuel depth : Nat) → (first : Bool) → (done : List β) → Reading Json
  opening_apart : isJsonBlank opening = false
  closing_apart : closing.isDigit = false ∧ closing ≠ '.' ∧ closing ≠ 'e' ∧ closing ≠ 'E'
  laidOut_value : ∀ l level xs, ∃ blanks, (∀ x ∈ blanks, isJsonBlank x = true) ∧
    laidOut l level (value xs) = opening :: (inARow l (level + 1) (text l (level + 1)) xs ++ (blanks ++ [closing]))
  readValue_opening : ∀ ⦃fuel depth start cs p⦄, 1 < depth → start.skipBlanks = ⟨opening :: cs, p⟩ →
    readValue (fuel + 1) depth start = loop fuel (depth - 1) true [] ⟨cs, p.after opening⟩
  next_end : ∀ first ⦃blanks⦄, (∀ x ∈ blanks, isJsonBlank x = true) → ∀ more, Reads (next first) blanks false (closing :: more)
  loop_end : ∀ ⦃fuel depth first done start here⦄, next first start = .ok (false, here) →
    loop (fuel + 1) depth first done start = .ok (value done.reverse, here.advance)
  loop_next : ∀ ⦃fuel depth first done start here x behind⦄, next first start = .ok (true, here) →
    member fuel depth here = .ok (x, behind) →
    loop (fuel + 1) depth first done start = loop fuel depth false (x :: done) behind

/-- The items of a list. -/
def Members.items : Members Json where
  opening := '['
  closing := ']'
  value := .arr
  text := laidOut
  next := nextItem
  member := readValue
  loop := readItems
  opening_apart := rfl
  closing_apart := by decide
  laidOut_value := laidOut_arr
  readValue_opening := by
    intro fuel depth start cs p hdepth h
    rw [readValue, h]
    exact if_neg (by omega)
  next_end := fun first _ => nextItem_end first
  loop_end := fun _ _ _ _ _ _ => readItems_end
  loop_next := fun _ _ _ _ _ _ _ _ => readItems_next

/-- The entries of an object. -/
def Members.entries : Members (String × Json) where
  opening := '\x7b'
  closing := '\x7d'
  value := .obj
  text := laidOutEntry
  next := nextEntry
  member := readEntry
  loop := readEntries
  opening_apart := rfl
  closing_apart := by decide
  laidOut_value := laidOut_obj
  readValue_opening := by
    intro fuel depth start cs p hdepth h
    rw [readValue, h]
    exact if_neg (by omega)
  next_end := fun first _ => nextEntry_end first
  loop_end := fun _ _ _ _ _ _ => readEntries_end
  loop_next := fun _ _ _ _ _ _ _ _ => readEntries_next

/-- A member is told apart from the end of the list, and read back. -/
structure Members.Keeps {β : Type} (m : Members β) (levels : Nat) (l : Layout) (level : Nat) (x : β) : Prop where
  nonempty : 0 < (m.text l level x).length
  next : ∀ first ⦃blanks⦄, (∀ c ∈ blanks, isJsonBlank c = true) → ∀ more,
    Reads (m.next first) (separator first ++ blanks) true (m.text l level x ++ more)
  member : ∀ ⦃fuel depth more⦄, 2 * (m.text l level x).length ≤ fuel → levels < depth → EndsNumber more →
    Reads (m.member fuel depth) (m.text l level x) x more

theorem keeps_item (h : ReadsBack levels l j) (hstart : StartsValue (laidOut l level j)) : Members.items.Keeps levels l level j where
  nonempty := by
    obtain ⟨x, rest, htext, -, -⟩ := hstart
    show 0 < (laidOut l level j).length
    rw [htext]
    exact Nat.succ_pos _
  next first _ hblanks := nextItem_goesOn first hblanks hstart
  member _ _ _ hfuel hdepth hmore := h (List.forall_mem_nil _) hfuel hdepth hmore

/-- An entry is told apart from the brace by its quote. It has more characters than its value, so the fuel is enough for that.
-/
theorem keeps_entry {e : String × Json} (h : ReadsBack levels l e.2) : Members.entries.Keeps levels l level e where
  nonempty := Nat.succ_pos _
  next first _ hblanks more := nextEntry_goesOn first hblanks _
  member fuel _ _ hfuel hdepth hmore := by
    have hshorter : (laidOut l level e.2).length < (laidOutEntry l level e).length := by
      simp only [laidOutEntry, List.length_append, List.length_cons]
      omega
    exact h.entry (Nat.le_trans (Nat.mul_le_mul_left 2 (Nat.le_of_lt hshorter)) hfuel) hdepth hmore

namespace Members
variable {β : Type} {m : Members β} {xs : List β}

/-- **The members behind the first** are read, up to the closing bracket. -/
theorem loop_listed (h : ∀ x ∈ xs, m.Keeps levels l level x) (hblanks : ∀ x ∈ blanks, isJsonBlank x = true)
    (hdepth : levels < depth) (done : List β) (hfuel : 2 * (listed l level (m.text l level) xs).length < fuel)
    (more : List Char) (p : Position) :
    ∃ p', m.loop fuel depth false done ⟨listed l level (m.text l level) xs ++ (blanks ++ m.closing :: more), p⟩ =
      .ok (m.value (done.reverse ++ xs), ⟨more, p'⟩) := by
  obtain ⟨fuel, rfl⟩ : ∃ f, fuel = f + 1 := ⟨fuel - 1, by omega⟩
  -- induction on the members, which hands what is done and the place on to the next turn of the loop
  induction xs generalizing fuel done p with
  | nil =>
    obtain ⟨p', hend⟩ := m.next_end false hblanks more p
    exact ⟨p'.after m.closing, by rw [List.append_nil]; exact m.loop_end hend⟩
  | cons x xs ih =>
    obtain ⟨hx, hxs⟩ := List.forall_mem_cons.mp h
    rw [length_listed_cons] at hfuel
    obtain ⟨fuel, rfl⟩ : ∃ f, fuel = f + 1 := ⟨fuel - 1, by omega⟩
    have hends : EndsNumber (listed l level (m.text l level) xs ++ (blanks ++ m.closing :: more)) :=
      endsNumber_listed _ xs hblanks m.closing_apart more
    -- the comma, the member, and the loop again with one step of fuel less for each
    obtain ⟨p₁, hnext⟩ := hx.next false (l.line_blank level)
      (listed l level (m.text l level) xs ++ (blanks ++ m.closing :: more)) p
    obtain ⟨p₂, hmember⟩ := hx.member (show 2 * (m.text l level x).length ≤ fuel + 1 by omega) hdepth hends p₁
    obtain ⟨p₃, hrest⟩ := ih hxs (x :: done) p₂ fuel (by omega)
    refine ⟨p₃, ?_⟩
    rw [listed_cons]
    refine (m.loop_next hnext hmember).trans ?_
    rw [hrest, List.reverse_cons, List.append_assoc, List.singleton_append]

/-- **All members** are read. -/
theorem loop_inARow (h : ∀ x ∈ xs, m.Keeps levels l level x) (hblanks : ∀ x ∈ blanks, isJsonBlank x = true)
    (hdepth : levels < depth) (hfuel : 2 * (inARow l level (m.text l level) xs).length < fuel) (more : List Char) (p : Position) :
    ∃ p', m.loop fuel depth true [] ⟨inARow l level (m.text l level) xs ++ (blanks ++ m.closing :: more), p⟩ =
      .ok (m.value xs, ⟨more, p'⟩) := by
  obtain ⟨fuel, rfl⟩ : ∃ f, fuel = f + 1 := ⟨fuel - 1, by omega⟩
  cases xs with
  | nil =>
    obtain ⟨p', hend⟩ := m.next_end true hblanks more p
    exact ⟨p'.after m.closing, m.loop_end hend⟩
  | cons x xs =>
    obtain ⟨hx, hxs⟩ := List.forall_mem_cons.mp h
    have hpos := hx.nonempty
    rw [inARow, List.length_append, List.length_append] at hfuel
    rw [inARow, List.append_assoc, List.append_assoc]
    have hends : EndsNumber (listed l level (m.text l level) xs ++ (blanks ++ m.closing :: more)) :=
      endsNumber_listed _ xs hblanks m.closing_apart more
    -- in front of the first member there is no comma
    obtain ⟨p₁, hnext⟩ := hx.next true (l.line_blank level)
      (listed l level (m.text l level) xs ++ (blanks ++ m.closing :: more)) p
    obtain ⟨p₂, hmember⟩ := hx.member (show 2 * (m.text l level x).length ≤ fuel by omega) hdepth hends p₁
    obtain ⟨p₃, hrest⟩ := loop_listed hxs hblanks hdepth [x]
      (show 2 * (listed l level (m.text l level) xs).length < fuel by omega) more p₂
    refine ⟨p₃, ?_⟩
    refine (m.loop_next hnext hmember).trans ?_
    rw [hrest]
    rfl

/-- **A list or an object** is read back if its members are. -/
theorem readsBack (h : ∀ level, ∀ x ∈ xs, m.Keeps levels l level x) : ReadsBack (levels + 1) l (m.value xs) := by
  intro level fuel depth blanks more hblanks hfuel hdepth _ p
  obtain ⟨closing, hclosing, htext⟩ := m.laidOut_value l level xs
  rw [htext] at hfuel ⊢
  simp only [List.length_cons, List.length_append] at hfuel
  obtain ⟨fuel, rfl⟩ : ∃ f, fuel = f + 1 := ⟨fuel - 1, by omega⟩
  obtain ⟨p₁, hskip⟩ := skipBlanks_append hblanks m.opening_apart
    (inARow l (level + 1) (m.text l (level + 1)) xs ++ (closing ++ m.closing :: more)) p
  obtain ⟨p₂, hloop⟩ := loop_inARow (h (level + 1)) hclosing (show levels < depth - 1 by omega)
    (show 2 * (inARow l (level + 1) (m.text l (level + 1)) xs).length < fuel by omega) more (p₁.after m.opening)
  refine ⟨p₂, ?_⟩
  -- only the brackets of the text are regrouped
  have hcs : blanks ++ m.opening :: (inARow l (level + 1) (m.text l (level + 1)) xs ++ (closing ++ [m.closing])) ++ more =
      blanks ++ m.opening :: (inARow l (level + 1) (m.text l (level + 1)) xs ++ (closing ++ m.closing :: more)) := by simp
  rw [hcs, m.readValue_opening (by omega) hskip]
  exact hloop

end Members

/-! ## §4 — values

The induction is on what is readable. Scalars are its base, lists and objects use the lemma about members. -/

/-- A scalar is read back without blanks in front, by cases on the scalar. -/
theorem readScalar_laidOut (l : Layout) (level : Nat) (h : Readable levels j) (hscalar : IsScalar j) (hmore : EndsNumber more) :
    Reads readScalar (laidOut l level j) j more := by
  cases h with
  | null =>
    intro p
    obtain ⟨p', hword⟩ := passWord_passes "null".toList more p
    exact ⟨p', by rw [laidOut]; exact congrArg (Except.map fun c => (Json.null, c)) hword⟩
  | bool b =>
    intro p
    cases b with
    | false =>
      obtain ⟨p', hword⟩ := passWord_passes "false".toList more p
      exact ⟨p', by rw [laidOut]; exact congrArg (Except.map fun c => (Json.bool false, c)) hword⟩
    | true =>
      obtain ⟨p', hword⟩ := passWord_passes "true".toList more p
      exact ⟨p', by rw [laidOut]; exact congrArg (Except.map fun c => (Json.bool true, c)) hword⟩
  | int hlow hhigh =>
    rw [laidOut, ← chars_integerText]
    exact readScalar_chars (isUsual_integerText _) (value_integerText hlow hhigh) hmore
  | float husual htext hvalue =>
    rw [laidOut, ← htext]
    exact readScalar_chars husual hvalue hmore
  | str s =>
    intro p
    obtain ⟨p', htext⟩ := readText_quotedText s more p
    exact ⟨p', by rw [laidOut]; exact congrArg (Except.map fun r => (Json.str r.1, r.2)) htext⟩
  | arr => exact hscalar.elim
  | obj => exact hscalar.elim

/-- Blanks in front of a scalar do not matter. -/
theorem readValue_scalar (h : Readable levels j) (hscalar : IsScalar j) : ReadsBack levels l j := by
  intro level fuel depth blanks more hblanks hfuel _ hmore p
  -- the first character is no blank and no bracket, so the reader of values hands over to that of scalars
  obtain ⟨x, rest, hcs, hblank, hx⟩ := startsScalar_laidOut l level h hscalar
  obtain ⟨p₁, hskip⟩ := skipBlanks_append hblanks hblank (rest ++ more) p
  obtain ⟨p₂, hread⟩ := readScalar_laidOut l level h hscalar hmore p₁
  rw [hcs] at hfuel hread ⊢
  obtain ⟨fuel, rfl⟩ : ∃ f, fuel = f + 1 := ⟨fuel - 1, by rw [List.length_cons] at hfuel; omega⟩
  refine ⟨p₂, ?_⟩
  rw [List.append_assoc, List.cons_append, readValue, hskip]
  rw [List.cons_append] at hread
  dsimp only
  split
  · next heq => exact absurd ((List.cons.inj heq).1 ▸ List.mem_cons_self) hx
  · next heq => exact absurd ((List.cons.inj heq).1 ▸ by simp) hx
  · exact hread

/-- **Every value that can be read is read back.** -/
theorem readsBack (h : Readable levels j) : ReadsBack levels l j := by
  induction h with
  | null => exact readValue_scalar .null trivial
  | bool b => exact readValue_scalar (.bool b) trivial
  | int hlow hhigh => exact readValue_scalar (.int hlow hhigh) trivial
  | float husual htext hvalue => exact readValue_scalar (.float husual htext hvalue) trivial
  | str s => exact readValue_scalar (.str s) trivial
  | arr h ih => exact Members.items.readsBack fun level j hj => keeps_item (ih j hj) (startsValue_laidOut l level (h j hj))
  | obj h ih => exact Members.entries.readsBack fun level e he => keeps_entry (ih e he)

/-! ## §5 — documents

A document starts with enough fuel for its own length, and both layouts are cases of one. -/

/-- A value in a layout is a document that denotes the value. -/
theorem document_laidOut (l : Layout) (h : Readable levels j) (hlevels : levels < depthLimit) :
    document (laidOut l 0 j) = .ok j := by
  obtain ⟨p', hread⟩ := readsBack h (List.forall_mem_nil _)
    (show 2 * (laidOut l 0 j).length ≤ 2 * (laidOut l 0 j).length + 2 by omega) hlevels endsNumber_nil .start
  rw [List.nil_append, List.append_nil] at hread
  rw [document, Cursor.ofText, hread]
  rfl

/-- **Reading undoes writing**, in both layouts. -/
theorem document_written (h : Readable levels j) (hlevels : levels < depthLimit) :
    document (compact j).toList = .ok j ∧ document (pretty j).toList = .ok j := by
  rw [compact, pretty, String.toList_ofList, String.toList_ofList, compactChars_eq 0, prettyChars_eq]
  exact ⟨document_laidOut .dense h hlevels, document_laidOut .airy h hlevels⟩

end LintPlan.Json
