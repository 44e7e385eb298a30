/-!
# Texts as bytes

A text is kept as the bytes of its UTF-8 form, and not all bytes are those of a text. What is read as bytes can be shown all
the same: then whatever is no character is shown as a replacement.
-/

namespace LintPlan.Text

/-- The bytes of a text. -/
def bytesOf (s : String) : List UInt8 := s.toByteArray.data.toList

/-- The text that has these bytes, if there is one. -/
def ofBytes? (bytes : List UInt8) : Option String := String.fromUTF8? ⟨bytes.toArray⟩

/-! ## Bytes that are no text -/

/-- Stands for bytes that are no character. -/
def replacement : Char := Char.ofNat 0xFFFD

/-- Does a byte go on with a character, whatever comes before it? -/
def goesOn (b : UInt8) : Bool := 0x80 ≤ b && b ≤ 0xBF

/-- The least and the greatest byte that may follow the first byte of a longer character, and how many bytes follow it in all.
The range is narrower where other bytes would give a character that is written with fewer bytes, or none. -/
def following (first : UInt8) : Option (UInt8 × UInt8 × Nat) :=
  if 0xC2 ≤ first ∧ first ≤ 0xDF then some (0x80, 0xBF, 1)
  else if first = 0xE0 then some (0xA0, 0xBF, 2)
  else if first = 0xED then some (0x80, 0x9F, 2)
  else if 0xE1 ≤ first ∧ first ≤ 0xEF then some (0x80, 0xBF, 2)
  else if first = 0xF0 then some (0x90, 0xBF, 3)
  else if 0xF1 ≤ first ∧ first ≤ 0xF3 then some (0x80, 0xBF, 3)
  else if first = 0xF4 then some (0x80, 0x8F, 3)
  else none

/-- How many bytes belong to a character that breaks off before it is complete, apart from its first byte. -/
def brokenOff (first : UInt8) : List UInt8 → Nat
  | [] => 0
  | second :: rest =>
    match following first with
    | none => 0
    | some (least, greatest, most) =>
      if least ≤ second ∧ second ≤ greatest then ((rest.take (most - 1)).takeWhile goesOn).length + 1 else 0

/-- The characters of bytes, behind some that belong to the character before. A byte that begins no character, and the whole
beginning of a character that breaks off, are replaced. -/
def lossyFrom : (belonging : Nat) → List UInt8 → List Char
  | _, [] => []
  | belonging + 1, _ :: bytes => lossyFrom belonging bytes
  | 0, b :: bytes =>
    match (ByteArray.mk (b :: bytes).toArray).utf8DecodeChar? 0 with
    | some c => c :: lossyFrom (c.utf8Size - 1) bytes
    | none => replacement :: lossyFrom (brokenOff b bytes) bytes

/-- The text that is shown for bytes. -/
def lossy (bytes : List UInt8) : String := String.ofList (lossyFrom 0 bytes)

/-! ## Laws -/

theorem bytesOf_inj {s t : String} : bytesOf s = bytesOf t ↔ s = t := by
  rw [bytesOf, bytesOf, Array.toList_inj, ← ByteArray.ext_iff, String.toByteArray_inj]

end LintPlan.Text
