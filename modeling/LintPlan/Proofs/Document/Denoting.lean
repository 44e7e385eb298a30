import LintPlan.Document.Configuration
import LintPlan.Proofs.Json.RoundTrip
import LintPlan.Proofs.Json.SortedEntries

/-!
# Documents that denote values

A type has a writer of documents and a reader. A document denotes a value if it can be read back from its text, and the reader
makes the value of it. That what is written for a value denotes it is proved along the document:

* **`Denotes`** — that, for a reader, and a number of levels in which the document nests.
* **`Denotes.list`**, **`Denotes.textMap`** — lists, and maps whose keys are in order.
* **`Sheet`** — the fields of a record by their names, each with its value if one is written.
* **`Filled`** — the values of a sheet are fit to be read, and what reads the fields makes a certain value of them. A sheet is filled
  field by field: **`Filled.cons`**.
* **`Denotes.record`** — the crux: a record denotes what its fields make.
* **`Denotes.parsed?_written`** — a document's text, in both layouts, is parsed as what the document denotes.
-/

namespace LintPlan.Json

variable {α β : Type} {write : α → Json} {read : Json → Option α} {levels : Nat} {j : Json} {x : α}

/-- What the reader makes of the document that a text holds. -/
def parsed? (read : Json → Option α) (text : String) : Option α := (document text.toList).toOption.bind read

/-- Can a document be read back, within a number of levels, and does the reader make the value of it? -/
structure Denotes (levels : Nat) (read : Json → Option α) (j : Json) (x : α) : Prop where
  readable : Readable levels j
  reads : read j = some x

/-- What a value denotes is what is read from its text, dense or airy: reading gives the value back, and the value is then
decoded. -/
theorem Denotes.parsed?_written (h : Denotes levels read j x) (hlevels : levels < depthLimit) :
    parsed? read (compact j) = some x ∧ parsed? read (pretty j) = some x := by
  obtain ⟨hcompact, hpretty⟩ := document_written h.readable hlevels
  rw [parsed?, parsed?, hcompact, hpretty]
  exact ⟨h.reads, h.reads⟩

/-! ## §1 — scalars

Each kind of scalar is written in the form its reader wants. -/

theorem denotes_text (s : String) : Denotes levels toText? (.str s) s := ⟨.str s, rfl⟩

theorem denotes_bool (b : Bool) : Denotes levels toBool? (.bool b) b := ⟨.bool b, rfl⟩

/-- A number denotes itself as long as it fits where it is read to, which is never wider than a machine word. -/
theorem denotes_nat {n limit : Nat} (h : n ≤ limit) (hlimit : limit ≤ Text.maxWord64) : Denotes levels (toNat? limit) (nat n) n where
  readable := .int (by omega) (by omega)
  reads := by
    rw [nat, toNat?, if_pos ⟨by omega, by omega⟩]
    rfl

theorem denotes_word64 {n : Nat} (h : n ≤ Text.maxWord64) : Denotes levels toWord64? (nat n) n := denotes_nat h (Nat.le_refl _)

theorem denotes_word32 {n : Nat} (h : n ≤ Text.maxWord32) : Denotes levels toWord32? (nat n) n := denotes_nat h (by decide)

/-- One of several names, if each is the name of what it stands for. -/
theorem denotes_choice {name : α → String} {ofName? : String → Option α} (hname : ∀ x, ofName? (name x) = some x) (x : α) :
    Denotes levels (toChoice? strict ofName?) (.str (name x)) x :=
  ⟨.str _, hname x⟩

/-! ## §2 — lists and maps

Containers denote what their members do, one level further down. -/

theorem mapM_eq_some_map {γ : Type} {f : β → Option γ} {g : β → γ} {xs : List β} (h : ∀ x ∈ xs, f x = some (g x)) :
    xs.mapM f = some (xs.map g) := by
  induction xs with
  | nil => rfl
  | cons x xs ih =>
    obtain ⟨hx, hxs⟩ := List.forall_mem_cons.mp h
    rw [List.mapM_cons, hx, ih hxs]
    rfl

theorem Denotes.list {xs : List α} (h : ∀ x ∈ xs, Denotes levels read (write x) x) :
    Denotes (levels + 1) (toList? read) (.arr (xs.map write)) xs where
  readable := .arr fun j hj => by
    obtain ⟨x, hx, rfl⟩ := List.mem_map.mp hj
    exact (h x hx).readable
  reads := by
    have hitems : xs.mapM (read ∘ write) = some (xs.map id) := mapM_eq_some_map fun x hx => (h x hx).reads
    rw [toList?, List.mapM_map, hitems, List.map_id]

theorem denotes_texts (ss : List String) : Denotes (levels + 1) (toList? toText?) (texts ss) ss := .list fun s _ => denotes_text s

theorem Denotes.textMap {m : List (String × α)} (hm : InOrder m) (h : ∀ e ∈ m, Denotes levels read (write e.2) e.2) :
    Denotes (levels + 1) (toTextMap? read) (.obj (m.map fun e => (e.1, write e.2))) m where
  readable := .obj fun j hj => by
    obtain ⟨e, he, rfl⟩ := List.mem_map.mp hj
    exact (h e he).readable
  reads := by
    refine foldlM_insertSorted (fun e he done => ?_) [] hm.increasing
    rw [(h e he).reads]
    rfl

/-! ## §3 — records

A record is written from a sheet: the names of its fields, each with a value or with nothing. The reader sorts the entries of an
object into slots by name; here it is shown that this gives back the sheet. -/

/-- The fields of a record by their names, each with its value if one is written. -/
abbrev Sheet := List (String × Option Json)

namespace Sheet

/-- The names of the fields. -/
def names (sheet : Sheet) : List String := sheet.map (·.1)

/-- The fields as a reader asks for them. -/
def fields (sheet : Sheet) : List FieldNames := sheet.map fun f => [f.1]

/-- The entries that are written. -/
def entries (sheet : Sheet) : List (String × Json) := sheet.filterMap fun f => f.2.map (f.1, ·)

/-- What the entries have for a field. -/
def slotOf (value : Option Json) : Slot := value.elim .absent .given

/-- What the entries have for each field. -/
def record (sheet : Sheet) : Record := ⟨sheet.map fun f => (f.1, slotOf f.2)⟩

/-- A list that is written unless it is empty. -/
def unlessEmpty (f : List α → Json) : List α → Option Json
  | [] => none
  | a :: as => some (f (a :: as))

variable {sheet : Sheet} {key : String} {value : Option Json}

@[simp] theorem entries_nil : entries [] = [] := rfl

@[simp] theorem entries_some (key : String) (j : Json) (sheet : Sheet) :
    entries ((key, some j) :: sheet) = (key, j) :: entries sheet := rfl

@[simp] theorem entries_map (key : String) (f : α → Json) (o : Option α) (sheet : Sheet) :
    entries ((key, o.map f) :: sheet) = entryIfSome key f o ++ entries sheet := by
  cases o <;> rfl

@[simp] theorem entries_unlessEmpty (key : String) (f : List α → Json) (xs : List α) (sheet : Sheet) :
    entries ((key, unlessEmpty f xs) :: sheet) = entryIfAny key f xs ++ entries sheet := by
  cases xs <;> rfl

theorem mem_of_mem_entries {e : String × Json} (h : e ∈ entries sheet) : (e.1, some e.2) ∈ sheet := by
  obtain ⟨⟨key, value⟩, hf, he⟩ := List.mem_filterMap.mp h
  obtain ⟨j, rfl, rfl⟩ := Option.map_eq_some_iff.mp he
  exact hf

theorem mem_names (h : (key, value) ∈ sheet) : key ∈ sheet.names := List.mem_map.mpr ⟨_, h, rfl⟩

theorem entriesNamed_of_notMem (h : key ∉ sheet.names) : entriesNamed [key] sheet.entries = [] := by
  rw [entriesNamed, List.map_eq_nil_iff, List.filter_eq_nil_iff]
  intro e he hkey
  have hname : e.1 = key := by simpa using hkey
  exact h (hname ▸ mem_names (mem_of_mem_entries he))

/-- Under the name of a field stands its value, and nothing else. -/
theorem entriesNamed_of_mem (hnames : sheet.names.Nodup) (h : (key, value) ∈ sheet) :
    entriesNamed [key] sheet.entries = value.toList := by
  induction sheet with
  | nil => cases h
  | cons f sheet ih =>
    obtain ⟨hout, hrest⟩ := List.nodup_cons.mp hnames
    -- the first field apart from the others, to use either the base case or the induction for each
    have hsplit : entriesNamed [key] (entries (f :: sheet)) =
        entriesNamed [key] (entries [f]) ++ entriesNamed [key] (entries sheet) := by
      rw [show f :: sheet = [f] ++ sheet from rfl, entries, List.filterMap_append, entriesNamed, List.filter_append,
        List.map_append]
      rfl
    rw [hsplit]
    rcases List.mem_cons.mp h with rfl | h
    · rw [entriesNamed_of_notMem hout, List.append_nil]
      cases value <;> simp [entries, entriesNamed]
    · have hne : f.1 ≠ key := ne_of_mem_of_not_mem (mem_names h) hout |>.symm
      rw [ih hrest h, entriesNamed_of_notMem fun hmem => hne (List.mem_singleton.mp hmem).symm, List.nil_append]

theorem slotOfEntries_of_mem (hnames : sheet.names.Nodup) (h : (key, value) ∈ sheet) :
    slotOfEntries sheet.entries [key] = some (key, slotOf value) := by
  rw [slotOfEntries, entriesNamed_of_mem hnames h]
  cases value <;> rfl

/-- The entries of a sheet give back the sheet. -/
theorem toRecord?_entries (hnames : sheet.names.Nodup) :
    toRecord? strict false sheet.fields (.obj sheet.entries) = some sheet.record := by
  have hslots : sheet.fields.mapM (slotOfEntries sheet.entries) = some (sheet.map fun f => (f.1, slotOf f.2)) := by
    rw [fields, List.mapM_map]
    exact mapM_eq_some_map fun f hf => slotOfEntries_of_mem hnames hf
  rw [toRecord?, Bool.false_and, if_neg Bool.false_ne_true, hslots]
  rfl

/-- The record of a sheet gives each field the slot of its value. -/
theorem slot_record (hnames : sheet.names.Nodup) (h : (key, value) ∈ sheet) : sheet.record.slot key = slotOf value := by
  induction sheet with
  | nil => cases h
  | cons f sheet ih =>
    obtain ⟨hout, hrest⟩ := List.nodup_cons.mp hnames
    rw [Record.slot, record, List.map_cons, List.lookup_cons]
    rcases List.mem_cons.mp h with rfl | h
    · simp
    · have hne : (key == f.1) = false := beq_false_of_ne (ne_of_mem_of_not_mem (mem_names h) hout)
      rw [hne]
      exact ih hrest h

end Sheet

/-! ## §4 — filling a sheet

A record is fetched field by field. Each lemma takes one field from the sheet and hands on the rest, so that a record is dealt
with by listing its fields in the order of the constructor. -/

/-- Are the values of a sheet fit to be read, and does `fetch` make a certain value of any record that has them? -/
structure Filled (levels : Nat) (sheet : Sheet) (fetch : Record → Option α) (x : α) : Prop where
  readable : ∀ f ∈ sheet, ∀ j ∈ f.2, Readable levels j
  fetches : ∀ r : Record, (∀ f ∈ sheet, r.slot f.1 = Sheet.slotOf f.2) → fetch r = some x

namespace Filled
variable {key : String} {sheet : Sheet}

theorem nil : Filled levels [] (fun _ => some x) x := ⟨nofun, fun _ _ => rfl⟩

/-- One field after the other. -/
theorem cons {f : String × Option Json} {g : Record → Option β} {v : β} {next : β → Record → Option α}
    (hf : Filled levels [f] g v) (h : Filled levels sheet (next v) x) :
    Filled levels (f :: sheet) (fun r => g r >>= fun v => next v r) x where
  readable := List.forall_mem_cons.mpr ⟨hf.readable f (List.mem_singleton_self f), h.readable⟩
  fetches r hr := by
    obtain ⟨hslot, hslots⟩ := List.forall_mem_cons.mp hr
    rw [hf.fetches r (List.forall_mem_singleton.mpr hslot), Option.bind_eq_bind, Option.bind_some]
    exact h.fetches r hslots

theorem required (h : Denotes levels read j x) : Filled levels [(key, some j)] (·.required key read) x where
  readable := by simpa using h.readable
  fetches r hr := by
    rw [Record.required, hr _ (List.mem_singleton_self _)]
    exact h.reads

theorem written (h : Denotes levels read j x) (default : α) : Filled levels [(key, some j)] (·.withDefault key default read) x where
  readable := by simpa using h.readable
  fetches r hr := by
    rw [Record.withDefault, hr _ (List.mem_singleton_self _)]
    exact h.reads

/-- A field that is left out if it has no value. What is written for a value is not `null`, which would be read as none. -/
theorem option {o : Option α} (h : ∀ x ∈ o, Denotes levels read (write x) x) (hnull : ∀ x, write x ≠ .null) :
    Filled levels [(key, o.map write)] (·.withDefault key none (toOption? read)) o := by
  cases o with
  | none => exact ⟨by simp, fun r hr => by rw [Record.withDefault, hr _ (List.mem_singleton_self _)]; rfl⟩
  | some x =>
    refine written ⟨(h x rfl).readable, ?_⟩ none
    have hread : toOption? read (write x) = (read (write x)).map some := by
      unfold toOption?
      split
      · next hwrite => exact absurd hwrite (hnull x)
      · rfl
    rw [hread, (h x rfl).reads]
    rfl

/-- A field that is left out if it is empty. -/
theorem unlessEmpty {write : List α → Json} {read : Json → Option (List α)} {xs : List α} (h : Denotes levels read (write xs) xs) :
    Filled levels [(key, Sheet.unlessEmpty write xs)] (·.withDefault key [] read) xs := by
  cases xs with
  | nil => exact ⟨by simp [Sheet.unlessEmpty], fun r hr => by rw [Record.withDefault, hr _ (List.mem_singleton_self _)]; rfl⟩
  | cons x xs => exact written h []

end Filled

/-- A record denotes what its fields make. -/
theorem Denotes.record (sheet : Sheet) {fetch : Record → Option α} (hj : j = .obj sheet.entries)
    (hread : ∀ j, read j = toRecord? strict false sheet.fields j >>= fetch) (hnames : sheet.names.Nodup)
    (h : Filled levels sheet fetch x) : Denotes (levels + 1) read j x where
  readable := by
    rw [hj]
    exact .obj fun e he => h.readable _ (Sheet.mem_of_mem_entries he) e.2 rfl
  reads := by
    rw [hj, hread, Sheet.toRecord?_entries hnames]
    exact h.fetches _ fun f hf => Sheet.slot_record hnames hf

end LintPlan.Json
