import LintPlan.Text.Bytes
/-!
# Names of files

A name in a directory is bytes, in the order of bytes. Most names are texts. Paths are texts, so the other names are met only
where a directory is listed.

Main statement: a name is smaller than another one or larger, unless it is the same (`lt_of_not_lt`).
-/

namespace LintPlan

/-- A name in a directory. -/
structure FileName where
  bytes : List UInt8
  deriving DecidableEq, Repr

namespace FileName

/-- The name that is a text. -/
def ofText (s : String) : FileName := ⟨Text.bytesOf s⟩

/-- The text that the name is, if it is one. -/
def text? (n : FileName) : Option String := Text.ofBytes? n.bytes

/-- Does a path with this name in it lead nowhere else? -/
def isIdle (n : FileName) : Bool := n == ofText "" || n == ofText "."

theorem ofText_inj {s t : String} : ofText s = ofText t ↔ s = t := by
  rw [ofText, ofText, mk.injEq, Text.bytesOf_inj]

theorem map_ofText_inj {ss ts : List String} : ss.map ofText = ts.map ofText ↔ ss = ts :=
  List.map_inj_right fun _ _ h => ofText_inj.1 h

/-! ## The order -/

instance : LT FileName where
  lt a b := a.bytes < b.bytes

instance : DecidableLT FileName := fun a b => inferInstanceAs (Decidable (a.bytes < b.bytes))

instance : Std.Irrefl fun a b : FileName => a < b where
  irrefl a := List.lt_irrefl a.bytes

theorem lt_trans {a b c : FileName} (hab : a < b) (hbc : b < c) : a < c := by
  have hac : a.bytes < c.bytes := List.lt_trans hab hbc
  exact hac

instance : Trans (fun a b : FileName => a < b) (fun a b : FileName => a < b) (fun a b : FileName => a < b) where
  trans := lt_trans

/-- Of two names one is smaller. -/
theorem lt_of_not_lt {a b : FileName} (h : ¬ a < b) (hne : b ≠ a) : b < a := by
  have hbytes : b.bytes ≠ a.bytes := fun heq => hne (congrArg mk heq)
  have hlt : b.bytes < a.bytes := Std.lt_of_le_of_ne (List.not_lt.1 h) hbytes
  exact hlt

end FileName

end LintPlan
