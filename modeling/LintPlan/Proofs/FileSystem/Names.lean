import LintPlan.FileSystem.Name
import LintPlan.Proofs.FileSystem.Paths
import LintPlan.Proofs.Text.Bytes

/-!
# Names and what is shown for them

A name that is a text is shown as that text, so nothing is lost where all names on a path are texts. Any other name is shown
with replacements, and the path with it.

* **`FileName.text?_eq_some_iff`** — which names are texts.
* **`lossy_intercalate`** — a path is shown name by name.
* **`FileName.IsPlain`** — what a name in a directory is like: it is taken apart neither in bytes nor as it is shown.
-/

namespace LintPlan

namespace FileName

variable {n : FileName} {s : String}

/-! ## §1 — names and texts

A name is a list of bytes. Most are texts; what is shown for the others differs from them. -/

theorem text?_eq_some_iff : n.text? = some s ↔ n = ofText s := by
  obtain ⟨bytes⟩ := n
  rw [text?, Text.ofBytes?_eq_some_iff, ofText, mk.injEq]

theorem text?_ofText (s : String) : (ofText s).text? = some s := text?_eq_some_iff.mpr rfl

/-- What is shown for a name. -/
def shown (n : FileName) : String := Text.lossy n.bytes

/-- What is shown for a name that is a text is the text. -/
theorem shown_ofText (s : String) : (ofText s).shown = s := Text.lossy_bytesOf s

theorem eq_ofText_shown (h : Text.replacement ∉ n.shown.toList) : n = ofText n.shown :=
  congrArg mk (Text.eq_bytesOf_of_lossy h)

theorem isIdle_ofText (s : String) : (ofText s).isIdle = Path.isIdle s := by
  have hsame : ∀ t, (ofText s == ofText t) = (s == t) := by
    intro t
    rw [Bool.eq_iff_iff, beq_iff_eq, beq_iff_eq, ofText_inj]
  rw [isIdle, Path.isIdle, hsame, hsame]

/-! ## §2 — plain names

Names as directories have them. -/

/-- Is a name the name of something in a directory? It may be `..`, which is told apart elsewhere. -/
structure IsPlain (n : FileName) : Prop where
  notIdle : n.isIdle = false
  noSlash : 0x2F ∉ n.bytes

/-- What is shown for a plain name is not idle: a dot is never part of a replacement. -/
theorem IsPlain.isIdle_shown (h : n.IsPlain) : Path.isIdle n.shown = false := by
  have hne : ∀ s, Text.replacement ∉ s.toList → n ≠ ofText s → (n.shown == s) = false := by
    intro s hs hne
    rw [beq_eq_false_iff_ne]
    rintro rfl
    exact hne (eq_ofText_shown hs)
  obtain ⟨hempty, hdot⟩ := Bool.or_eq_false_iff.mp h.notIdle
  rw [Path.isIdle, hne "" (by decide) (beq_eq_false_iff_ne.mp hempty), hne "." (by decide) (beq_eq_false_iff_ne.mp hdot)]
  rfl

theorem IsPlain.noSlash_shown (h : n.IsPlain) : '/' ∉ n.shown.toList := by
  rw [shown, Text.lossy, String.toList_ofList]
  exact fun hslash => h.noSlash (Text.mem_of_mem_lossyFrom (by decide) hslash)

end FileName

/-! ## §3 — paths

A path of a walk is bytes with slashes between the names, so it is no text as soon as one of the names is none. -/

namespace Path

/-- Each name of a path is shown as it would be alone: a slash ends whatever breaks off in front of it. -/
theorem lossyFrom_intercalate (pieces : List (List UInt8)) :
    Text.lossyFrom 0 ([0x2F].intercalate pieces) = Text.join ['/'] (pieces.map (Text.lossyFrom 0)) := by
  induction pieces with
  | nil => rfl
  | cons piece pieces ih =>
    cases pieces with
    | nil => rw [List.intercalate_singleton, List.map_singleton, Text.join]
    | cons next pieces =>
      have hslash : Text.lossyFrom 0 (0x2F :: [0x2F].intercalate (next :: pieces)) =
          '/' :: Text.lossyFrom 0 ([0x2F].intercalate (next :: pieces)) := Text.lossyFrom_utf8EncodeChar_append '/' _
      rw [List.intercalate_cons_cons, List.append_assoc, List.singleton_append,
        Text.lossyFrom_append_cons (by decide) (Nat.zero_le _), hslash, ih]
      show _ = Text.lossyFrom 0 piece ++ ['/'] ++ Text.join ['/'] ((next :: pieces).map (Text.lossyFrom 0))
      rw [List.append_assoc, List.singleton_append]

/-- **A path is shown name by name.** -/
theorem lossy_intercalate (ns : List FileName) : Text.lossy ([0x2F].intercalate (ns.map (·.bytes))) = ofNames (ns.map FileName.shown) := by
  rw [← String.toList_inj, toList_ofNames, Text.lossy, String.toList_ofList, lossyFrom_intercalate, List.map_map, List.map_map]
  refine congrArg (Text.join ['/']) (List.map_congr_left fun n _ => ?_)
  show _ = (Text.lossy n.bytes).toList
  rw [Text.lossy, String.toList_ofList]
  rfl

/-- Along names that are texts a path is a text. -/
theorem intercalate_bytesOf (ns : List String) : [0x2F].intercalate (ns.map Text.bytesOf) = Text.bytesOf (ofNames ns) := by
  have hbytes : ∀ pieces : List (List Char), [0x2F].intercalate (pieces.map (·.flatMap String.utf8EncodeChar)) =
      (Text.join ['/'] pieces).flatMap String.utf8EncodeChar := by
    intro pieces
    induction pieces with
    | nil => rfl
    | cons piece pieces ih =>
      cases pieces with
      | nil => rw [List.map_singleton, List.intercalate_singleton, Text.join]
      | cons next pieces =>
        have hslash : ['/'].flatMap String.utf8EncodeChar = [0x2F] := rfl
        rw [List.map_cons, List.map_cons, List.intercalate_cons_cons, ← List.map_cons, ih]
        show _ = (piece ++ ['/'] ++ Text.join ['/'] (next :: pieces)).flatMap String.utf8EncodeChar
        rw [List.flatMap_append, List.flatMap_append, hslash]
  rw [Text.bytesOf_eq_flatMap, toList_ofNames, ← hbytes, List.map_map]
  exact congrArg _ (List.map_congr_left fun n _ => Text.bytesOf_eq_flatMap n)

end Path

end LintPlan
