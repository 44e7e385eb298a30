import LintPlan.Execution.Pipe
import LintPlan.Proofs.Text.Bytes

/-!
# What is read of a pipe

`Pipe.lines` goes through the bytes once, and cuts and decodes them on the way. Here they are cut first, at line feeds and
nowhere else, and what is read is compared with that:

* **`map_withoutEnd_pieces`** — the lines that `Pipe.pieces` cuts are the ones between line feeds.
* **`lines_front`**, **`lines_stop`** — what is read are the lines up to the first one that is no text.
* **`lines_eq`** — if all of them are texts, what is read are these texts.
* **`segments_flatMap`** — the lines of texts that are written with a line feed behind each.
-/

namespace LintPlan.Pipe

/-! ## §1 — lines between line feeds

Lines as they would be explained, and the pieces that a reader gets. -/

/-- A line without the carriage return that may stand in front of its line feed. -/
def dropReturn (line : List UInt8) : List UInt8 :=
  if line.getLast? = some carriageReturn then line.dropLast else line

/-- Lines of the pieces between line feeds: every piece but the last was ended by one, and the last is a line only if there
is something in it. -/
def segmentsOf : List (List UInt8) → List (List UInt8)
  | [] => []
  | [last] => if last = [] then [] else [last]
  | line :: more => dropReturn line :: segmentsOf more

def segments (bytes : List UInt8) : List (List UInt8) := segmentsOf (bytes.splitOn lineFeed)

variable {line rest bytes : List UInt8}

/-- **Induction along lines.** -/
@[elab_as_elim]
theorem line_induction {P : List UInt8 → Prop} (last : ∀ line, lineFeed ∉ line → P line)
    (ended : ∀ line rest, lineFeed ∉ line → P rest → P (line ++ lineFeed :: rest)) (bytes : List UInt8) : P bytes := by
  induction hlen : bytes.length using Nat.strongRecOn generalizing bytes with
  | ind n ih =>
    by_cases hmem : lineFeed ∈ bytes
    · obtain ⟨line, rest, rfl, hline⟩ := List.eq_append_cons_of_mem hmem
      have hshort : rest.length < n := by
        rw [← hlen, List.length_append, List.length_cons]
        omega
      exact ended line rest hline (ih rest.length hshort rest rfl)
    · exact last bytes hmem

theorem segments_of_not_mem (h : lineFeed ∉ line) : segments line = if line = [] then [] else [line] := by
  rw [segments, List.splitOn_eq_singleton h]
  rfl

theorem segments_append_cons (h : lineFeed ∉ line) (rest : List UInt8) :
    segments (line ++ lineFeed :: rest) = dropReturn line :: segments rest := by
  rw [segments, List.splitOn_append_cons_self_of_not_mem h, segments]
  -- there is always a last piece behind a line feed
  cases hrest : rest.splitOn lineFeed with
  | nil => exact absurd hrest (List.splitOn_ne_nil _ _)
  | cons next more => rfl

theorem pieces_of_not_mem (h : lineFeed ∉ line) : pieces line = if line = [] then [] else [line] := by
  induction line with
  | nil => rfl
  | cons b line ih =>
    rw [List.mem_cons, not_or] at h
    rw [pieces, if_neg (Ne.symm h.1), ih h.2, if_neg (List.cons_ne_nil b line)]
    cases line <;> rfl

theorem pieces_append_cons (h : lineFeed ∉ line) (rest : List UInt8) :
    pieces (line ++ lineFeed :: rest) = (line ++ [lineFeed]) :: pieces rest := by
  induction line with
  | nil => rw [List.nil_append, pieces, if_pos rfl, List.nil_append]
  | cons b line ih =>
    rw [List.mem_cons, not_or] at h
    rw [List.cons_append, pieces, if_neg (Ne.symm h.1), ih h.2, List.cons_append]

/-- A piece that was not ended is the line. -/
theorem withoutEnd_of_not_mem (h : lineFeed ∉ line) : withoutEnd line = line := by
  rcases List.eq_nil_or_concat' line with rfl | ⟨front, b, rfl⟩
  · rfl
  · have hb : b ≠ lineFeed := by
      rintro rfl
      exact h (List.mem_append_right front (List.mem_singleton_self _))
    unfold withoutEnd
    rw [List.reverse_append, List.reverse_singleton, List.singleton_append]
    cases front.reverse with
    | nil => exact if_neg hb
    | cons c more => exact if_neg hb

/-- From an ended piece the line feed is taken, and a return in front of it. -/
theorem withoutEnd_ended (line : List UInt8) : withoutEnd (line ++ [lineFeed]) = dropReturn line := by
  unfold withoutEnd dropReturn
  rw [List.reverse_append, List.reverse_singleton, List.singleton_append]
  rcases List.eq_nil_or_concat' line with rfl | ⟨front, b, rfl⟩
  · rfl
  · rw [List.reverse_append, List.reverse_singleton, List.singleton_append, List.getLast?_append, List.dropLast_concat]
    simp only [if_true]
    by_cases hb : b = carriageReturn
    · subst hb
      simp
    · simp [hb]

/-- **What is cut are the lines between line feeds.** -/
theorem map_withoutEnd_pieces (bytes : List UInt8) : (pieces bytes).map withoutEnd = segments bytes := by
  induction bytes using line_induction with
  | last line h =>
    rw [pieces_of_not_mem h, segments_of_not_mem h]
    by_cases hline : line = []
    · rw [if_pos hline, List.map_nil]
    · rw [if_neg hline, List.map_singleton, withoutEnd_of_not_mem h]
  | ended line rest h ih =>
    rw [pieces_append_cons h, segments_append_cons h, List.map_cons, withoutEnd_ended, ih]

/-- That brings no line feed. -/
theorem not_mem_dropReturn (h : lineFeed ∉ line) : lineFeed ∉ dropReturn line := by
  unfold dropReturn
  split
  · exact fun hmem => h (List.dropLast_subset line hmem)
  · exact h

/-- So lines have none. -/
theorem not_mem_of_mem_segments (h : line ∈ segments bytes) : lineFeed ∉ line := by
  induction bytes using line_induction with
  | last whole hwhole =>
    rw [segments_of_not_mem hwhole] at h
    split at h
    · cases h
    · rwa [List.mem_singleton.mp h]
  | ended first rest hfirst ih =>
    rw [segments_append_cons hfirst] at h
    rcases List.mem_cons.mp h with rfl | h
    · exact not_mem_dropReturn hfirst
    · exact ih h

/-! ## §2 — lines that are texts

The reader leaves at the first line that is no text. -/

theorem text?_eq_some_iff {piece : List UInt8} {s : String} :
    text? piece = some s ↔ withoutEnd piece = Text.bytesOf s := Text.ofBytes?_eq_some_iff

variable {pieces : List (List UInt8)} {texts : List String}

/-- The texts that are read are the first lines. -/
theorem texts_front (pieces : List (List UInt8)) : (Pipe.texts pieces).map Text.bytesOf <+: pieces.map withoutEnd := by
  induction pieces with
  | nil => exact List.prefix_refl []
  | cons piece more ih =>
    unfold Pipe.texts
    cases hpiece : text? piece with
    | none => exact List.nil_prefix
    | some s =>
      rw [List.map_cons, List.map_cons, text?_eq_some_iff.mp hpiece]
      exact List.cons_prefix_cons.mpr ⟨rfl, ih⟩

/-- The next line, if there is one, is no text. -/
theorem texts_stop {bad : List UInt8} (h : (pieces.map withoutEnd)[(Pipe.texts pieces).length]? = some bad) (s : String) :
    bad ≠ Text.bytesOf s := by
  induction pieces with
  | nil => cases h
  | cons piece more ih =>
    unfold Pipe.texts at h
    cases hpiece : text? piece with
    | none =>
      rw [hpiece] at h
      obtain rfl : withoutEnd piece = bad := Option.some.inj h
      intro hs
      cases hpiece.symm.trans (text?_eq_some_iff.mpr hs)
    | some first =>
      rw [hpiece] at h
      exact ih h

/-- If all lines are texts, they are what is read. -/
theorem texts_eq (h : pieces.map withoutEnd = texts.map Text.bytesOf) : Pipe.texts pieces = texts := by
  induction pieces generalizing texts with
  | nil =>
    obtain rfl : texts = [] := List.map_eq_nil_iff.mp h.symm
    rfl
  | cons piece more ih =>
    cases texts with
    | nil => cases h
    | cons s texts =>
      obtain ⟨hpiece, hmore⟩ := List.cons.inj h
      rw [Pipe.texts, text?_eq_some_iff.mpr hpiece]
      show s :: Pipe.texts more = s :: texts
      rw [ih hmore]

/-- **What is read are lines of the bytes, from the first one on.** -/
theorem lines_front (bytes : List UInt8) : (lines bytes).map Text.bytesOf <+: segments bytes := by
  rw [← map_withoutEnd_pieces]
  exact texts_front _

/-- **Reading stops at a line that is no text**, if it stops before the end. -/
theorem lines_stop {bad : List UInt8} (h : (segments bytes)[(lines bytes).length]? = some bad) (s : String) :
    bad ≠ Text.bytesOf s := by
  rw [← map_withoutEnd_pieces] at h
  exact texts_stop h s

/-- **If all lines are texts, what is read are these texts.** -/
theorem lines_eq (h : segments bytes = texts.map Text.bytesOf) : lines bytes = texts := by
  rw [← map_withoutEnd_pieces] at h
  exact texts_eq h

theorem lineFeed_not_mem_lines {s : String} (h : s ∈ lines bytes) : '\n' ∉ s.toList := by
  have hsegment := (lines_front bytes).subset (List.mem_map_of_mem h)
  intro hmem
  exact not_mem_of_mem_segments hsegment ((Text.mem_bytesOf (by decide)).mpr hmem)

theorem dropReturn_bytesOf {s : String} (h : '\r' ∉ s.toList) : dropReturn (Text.bytesOf s) = Text.bytesOf s := by
  refine if_neg fun hlast => ?_
  exact h ((Text.mem_bytesOf (by decide)).mp (List.mem_of_getLast? hlast))

/-- **Texts that are written with a line feed behind each** are the lines of what is written. -/
theorem segments_flatMap (h : ∀ s ∈ texts, '\n' ∉ s.toList ∧ '\r' ∉ s.toList) :
    segments (texts.flatMap fun s => Text.bytesOf s ++ [lineFeed]) = texts.map Text.bytesOf := by
  induction texts with
  | nil => rfl
  | cons s texts ih =>
    obtain ⟨hfeed, hreturn⟩ := h s List.mem_cons_self
    have hline : lineFeed ∉ Text.bytesOf s := fun hmem => hfeed ((Text.mem_bytesOf (by decide)).mp hmem)
    rw [List.flatMap_cons, List.append_assoc, List.singleton_append, segments_append_cons hline,
      dropReturn_bytesOf hreturn, ih fun t ht => h t (List.mem_cons_of_mem s ht), List.map_cons]

end LintPlan.Pipe
