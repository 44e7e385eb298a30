import LintPlan.Text.Bytes
import Mathlib.Data.List.Basic
import Mathlib.Data.String.Basic

/-!
# Texts as bytes

The bytes of a text and the text of bytes undo each other (**`ofBytes?_eq_some_iff`**), and an ASCII character has a byte
of its own that no other character has (**`mem_bytesOf`**).

What is shown for the bytes of a text is that text (**`lossy_bytesOf`**). An ASCII byte ends whatever is in front of it, so
bytes with such bytes between them are shown piece by piece (**`lossyFrom_append_cons`**).
-/

namespace LintPlan.Text

/-! ## §1 — there and back

Bytes are those of at most one text. -/

/-- **Reading bytes as a text** succeeds exactly on the bytes of texts. -/
theorem ofBytes?_eq_some_iff {bytes : List UInt8} {s : String} : ofBytes? bytes = some s ↔ bytes = bytesOf s := by
  rw [ofBytes?, bytesOf]
  constructor
  · intro h
    unfold String.fromUTF8? at h
    split at h
    · cases h
      rfl
    · cases h
  · rintro rfl
    show String.fromUTF8? s.toByteArray = some s
    rw [String.fromUTF8?, dif_pos s.isValidUTF8]
    rfl

theorem ofBytes?_bytesOf (s : String) : ofBytes? (bytesOf s) = some s := ofBytes?_eq_some_iff.mpr rfl

/-! ## §2 — bytes of characters

An ASCII byte stands for itself and is part of no other character. Separators of paths are found in bytes by this. -/

theorem bytesOf_eq_flatMap (s : String) : bytesOf s = s.toList.flatMap String.utf8EncodeChar := by
  rw [bytesOf]
  conv_lhs => rw [← String.ofList_toList (s := s), String.toByteArray_ofList]
  rw [List.utf8Encode, List.toList_data_toByteArray]

/-- **A low byte is a whole character:** the bytes of longer characters are all high. -/
theorem toNat_of_mem_utf8EncodeChar {c : Char} {b : UInt8} (h : b ∈ String.utf8EncodeChar c) (hlow : b.toNat < 128) :
    c.toNat = b.toNat := by
  unfold String.utf8EncodeChar at h
  dsimp only at h
  show c.val.toNat = b.toNat
  split at h
  · obtain rfl := List.mem_singleton.mp h
    rw [UInt8.toNat_ofNat']
    omega
  · -- what a longer character consists of
    have hhigh : ∀ k, 128 ≤ k → k < 256 → b ≠ UInt8.ofNat k := by
      rintro k hle hlt rfl
      rw [UInt8.toNat_ofNat'] at hlow
      omega
    split at h
    · simp only [List.mem_cons, List.not_mem_nil, or_false] at h
      rcases h with h | h <;> exact absurd h (hhigh _ (by omega) (by omega))
    · split at h
      · simp only [List.mem_cons, List.not_mem_nil, or_false] at h
        rcases h with h | h | h <;> exact absurd h (hhigh _ (by omega) (by omega))
      · simp only [List.mem_cons, List.not_mem_nil, or_false] at h
        rcases h with h | h | h | h <;> exact absurd h (hhigh _ (by omega) (by omega))

theorem mem_utf8EncodeChar {c : Char} (h : c.toNat < 128) : UInt8.ofNat c.toNat ∈ String.utf8EncodeChar c := by
  have hle : c.val.toNat ≤ 127 := Nat.le_of_lt_succ h
  unfold String.utf8EncodeChar
  dsimp only
  rw [if_pos hle]
  exact List.mem_singleton_self _

/-- **An ASCII character has a byte of its own.** -/
theorem mem_bytesOf {s : String} {c : Char} (h : c.toNat < 128) : UInt8.ofNat c.toNat ∈ bytesOf s ↔ c ∈ s.toList := by
  have hbyte : (UInt8.ofNat c.toNat).toNat = c.toNat := by
    rw [UInt8.toNat_ofNat']
    omega
  rw [bytesOf_eq_flatMap, List.mem_flatMap]
  constructor
  · rintro ⟨d, hd, hmem⟩
    have hsame := toNat_of_mem_utf8EncodeChar hmem (by omega)
    obtain rfl : d = c := Char.toNat_inj.mp (hsame.trans hbyte)
    exact hd
  · exact fun hc => ⟨c, hc, mem_utf8EncodeChar h⟩

/-! ## §3 — what is shown for bytes

Bytes that are no text are shown with a sign in place of what cannot be read. What is shown without that sign is exact. -/

theorem lossyFrom_nil (belonging : Nat) : lossyFrom belonging [] = [] := by
  cases belonging <;> rfl

/-- Bytes that belong to the character before show nothing. -/
theorem lossyFrom_eq_drop (belonging : Nat) (bytes : List UInt8) : lossyFrom belonging bytes = lossyFrom 0 (bytes.drop belonging) := by
  induction belonging generalizing bytes with
  | zero => rfl
  | succ belonging ih =>
    cases bytes with
    | nil => rw [lossyFrom_nil, List.drop_nil, lossyFrom_nil]
    | cons b bytes => exact ih bytes

theorem mk_append_toArray (front rest : List UInt8) :
    ByteArray.mk (front ++ rest).toArray = front.toByteArray ++ rest.toByteArray := by
  rw [← List.toByteArray_append, ByteArray.ext_iff, ← Array.toList_inj, List.toList_data_toByteArray]

/-- **Bytes begin with a character** iff they begin with the bytes of that character. -/
theorem utf8DecodeChar?_eq_some_iff {bytes : List UInt8} {c : Char} :
    (ByteArray.mk bytes.toArray).utf8DecodeChar? 0 = some c ↔ String.utf8EncodeChar c <+: bytes := by
  constructor
  · intro h
    obtain ⟨rest, hrest⟩ := ByteArray.exists_of_utf8DecodeChar?_eq_some h
    refine ⟨rest.data.toList, ?_⟩
    have hdata := congrArg (fun b : ByteArray => b.data.toList) hrest
    simpa using hdata.symm
  · rintro ⟨rest, rfl⟩
    rw [mk_append_toArray, ByteArray.utf8DecodeChar?_utf8EncodeChar_append]

/-- The bytes of a character are shown as that character, and what follows as it would be alone. -/
theorem lossyFrom_utf8EncodeChar_append (c : Char) (rest : List UInt8) :
    lossyFrom 0 (String.utf8EncodeChar c ++ rest) = c :: lossyFrom 0 rest := by
  have hdecoded := utf8DecodeChar?_eq_some_iff.mpr (List.prefix_append (String.utf8EncodeChar c) rest)
  have hlength := String.length_utf8EncodeChar c
  cases hc : String.utf8EncodeChar c with
  | nil =>
    rw [hc] at hlength
    exact absurd hlength.symm c.utf8Size_pos.ne'
  | cons b more =>
    rw [hc] at hdecoded hlength
    -- the bytes that are passed over are those behind the first one
    have hmore : c.utf8Size - 1 = more.length := by
      rw [← hlength, List.length_cons, Nat.add_sub_cancel]
    rw [List.cons_append] at hdecoded ⊢
    rw [lossyFrom, hdecoded]
    dsimp only
    rw [lossyFrom_eq_drop, hmore, List.drop_left]

/-- **A text is shown as it is.** -/
theorem lossy_bytesOf (s : String) : lossy (bytesOf s) = s := by
  have hshown : ∀ cs : List Char, lossyFrom 0 (cs.flatMap String.utf8EncodeChar) = cs := by
    intro cs
    induction cs with
    | nil => rfl
    | cons c cs ih => rw [List.flatMap_cons, lossyFrom_utf8EncodeChar_append, ih]
  rw [lossy, bytesOf_eq_flatMap, hshown, String.ofList_toList]

/-- What begins with a character that is no replacement begins with the bytes of that character. -/
theorem exists_of_lossyFrom_eq_cons {bytes : List UInt8} {c : Char} {cs : List Char} (h : lossyFrom 0 bytes = c :: cs)
    (hc : c ≠ replacement) : ∃ rest, bytes = String.utf8EncodeChar c ++ rest ∧ lossyFrom 0 rest = cs := by
  cases bytes with
  | nil => cases h
  | cons b bytes =>
    cases hdecoded : (ByteArray.mk (b :: bytes).toArray).utf8DecodeChar? 0 with
    | none =>
      rw [lossyFrom, hdecoded] at h
      exact absurd (List.cons.inj h).1.symm hc
    | some d =>
      obtain ⟨rest, hrest⟩ := utf8DecodeChar?_eq_some_iff.mp hdecoded
      rw [← hrest, lossyFrom_utf8EncodeChar_append] at h
      obtain ⟨rfl, hcs⟩ := List.cons.inj h
      exact ⟨rest, hrest.symm, hcs⟩

/-- **What is shown without a replacement** is a text. -/
theorem eq_bytesOf_of_lossy {bytes : List UInt8} (h : replacement ∉ (lossy bytes).toList) : bytes = bytesOf (lossy bytes) := by
  have hshown : ∀ (cs : List Char) (bytes : List UInt8), replacement ∉ cs → lossyFrom 0 bytes = cs →
      bytes = cs.flatMap String.utf8EncodeChar := by
    intro cs
    induction cs with
    | nil =>
      intro bytes _ hnil
      cases bytes with
      | nil => rfl
      | cons b bytes =>
        rw [lossyFrom] at hnil
        split at hnil <;> cases hnil
    | cons c cs ih =>
      intro bytes hnone hcons
      obtain ⟨hc, hcs⟩ := not_or.mp (List.mem_cons.not.mp hnone)
      obtain ⟨rest, rfl, hrest⟩ := exists_of_lossyFrom_eq_cons hcons (Ne.symm hc)
      rw [List.flatMap_cons, ← ih rest hcs hrest]
  rw [lossy, String.toList_ofList] at h
  rw [bytesOf_eq_flatMap, lossy, String.toList_ofList]
  exact hshown _ bytes h rfl

/-- An ASCII character is shown only where its byte is. -/
theorem mem_of_mem_lossyFrom {c : Char} (hc : c.toNat < 128) {belonging : Nat} {bytes : List UInt8}
    (h : c ∈ lossyFrom belonging bytes) : UInt8.ofNat c.toNat ∈ bytes := by
  fun_induction lossyFrom belonging bytes with
  | case1 belonging => cases h
  | case2 belonging first bytes ih => exact List.mem_cons_of_mem first (ih h)
  | case3 first bytes d hdecoded ih =>
    rcases List.mem_cons.mp h with rfl | h
    · exact (utf8DecodeChar?_eq_some_iff.mp hdecoded).mem (mem_utf8EncodeChar hc)
    · exact List.mem_cons_of_mem first (ih h)
  | case4 first bytes hbroken ih =>
    rcases List.mem_cons.mp h with rfl | h
    · exact absurd hc (by decide)
    · exact List.mem_cons_of_mem first (ih h)

/-! ## §4 — bytes behind one another

A character that breaks off may take bytes with it, but no ASCII byte: that belongs to no longer character, whole or broken off. -/

theorem least_following {first least greatest : UInt8} {most : Nat} (h : following first = some (least, greatest, most)) :
    0x80 ≤ least := by
  unfold following at h
  grind

/-- No more bytes belong to a broken character than there are. -/
theorem brokenOff_le_length (first : UInt8) (bytes : List UInt8) : brokenOff first bytes ≤ bytes.length := by
  cases bytes with
  | nil => exact Nat.le_refl 0
  | cons second rest =>
    rw [brokenOff, List.length_cons]
    split
    · exact Nat.zero_le _
    · next most _ =>
      have htaken : ((rest.take (most - 1)).takeWhile goesOn).length ≤ rest.length :=
        Nat.le_trans (List.takeWhile_prefix _).length_le (List.length_take_le' _ _)
      split
      · exact Nat.add_le_add_right htaken 1
      · exact Nat.zero_le _

section
variable {b : UInt8} (hascii : b.toNat < 128)
include hascii

/-- Which character stands at the front is not changed by an ASCII byte further on, nor by what follows that. -/
theorem utf8DecodeChar?_append_cons (first : UInt8) (front rest : List UInt8) :
    (ByteArray.mk (first :: (front ++ b :: rest)).toArray).utf8DecodeChar? 0 =
      (ByteArray.mk (first :: front).toArray).utf8DecodeChar? 0 := by
  refine Option.ext fun c => ?_
  rw [utf8DecodeChar?_eq_some_iff, utf8DecodeChar?_eq_some_iff, ← List.cons_append]
  refine ⟨fun h => ?_, fun h => h.trans (List.prefix_append _ _)⟩
  by_cases hlength : (String.utf8EncodeChar c).length ≤ (first :: front).length
  · exact List.prefix_of_prefix_length_le h (List.prefix_append _ _) hlength
  · -- else the ASCII byte is one of the character, which then has no other byte
    have hfront : first :: front ++ [b] <+: first :: front ++ b :: rest :=
      (List.prefix_append_right_inj _).mpr (List.prefix_append [b] rest)
    have hin : first :: front ++ [b] <+: String.utf8EncodeChar c :=
      List.prefix_of_prefix_length_le hfront h (by rw [List.length_append, List.length_singleton]; omega)
    have hsame : c.toNat = b.toNat := toNat_of_mem_utf8EncodeChar (hin.mem (List.mem_concat_self)) hascii
    have hle : c.toNat ≤ 127 := Nat.le_of_lt_succ (hsame ▸ hascii)
    have hsize : c.utf8Size = 1 := Char.utf8Size_eq_one_iff.mpr (UInt32.le_iff_toNat_le.mpr hle)
    rw [String.length_utf8EncodeChar, hsize, List.length_cons] at hlength
    omega

/-- Nor is how many bytes belong to one that breaks off. -/
theorem brokenOff_append_cons (first : UInt8) (front rest : List UInt8) :
    brokenOff first (front ++ b :: rest) = brokenOff first front := by
  have hlow : ¬ 0x80 ≤ b := fun hle => Nat.not_le.mpr hascii (UInt8.le_iff_toNat_le.mp hle)
  -- an ASCII byte ends every run of bytes that go on
  have hends : goesOn b = false := by rw [goesOn, decide_eq_false hlow, Bool.false_and]
  cases front with
  | nil =>
    rw [List.nil_append, brokenOff, brokenOff]
    cases hfollowing : following first with
    | none => rfl
    | some range =>
      obtain ⟨least, greatest, most⟩ := range
      have hleast : ¬ least ≤ b := fun hle => hlow (UInt8.le_trans (least_following hfollowing) hle)
      exact if_neg fun h => hleast h.1
  | cons second more =>
    have hmore : ∀ most, ((more ++ b :: rest).take most).takeWhile goesOn = (more.take most).takeWhile goesOn := by
      intro most
      rw [List.take_append, List.takeWhile_append]
      split
      · next hall =>
        have hnone : ((b :: rest).take (most - more.length)).takeWhile goesOn = [] := by
          cases most - more.length with
          | zero => rfl
          | succ k => rw [List.take_succ_cons, List.takeWhile_cons_of_neg (by rw [hends]; exact Bool.false_ne_true)]
        rw [hnone, List.append_nil]
        exact ((List.takeWhile_prefix _).eq_of_length hall).symm
      · rfl
    rw [List.cons_append, brokenOff, brokenOff]
    simp only [hmore]

/-- **Bytes in front of an ASCII byte** are shown on their own. -/
theorem lossyFrom_append_cons {belonging : Nat} {front : List UInt8} (h : belonging ≤ front.length) (rest : List UInt8) :
    lossyFrom belonging (front ++ b :: rest) = lossyFrom belonging front ++ lossyFrom 0 (b :: rest) := by
  fun_induction lossyFrom belonging front with
  | case1 belonging =>
    obtain rfl : belonging = 0 := Nat.le_zero.mp h
    rfl
  | case2 belonging first bytes ih => exact ih (Nat.le_of_succ_le_succ h)
  | case3 first bytes c hdecoded ih =>
    have hsize : c.utf8Size - 1 ≤ bytes.length := by
      have hprefix := (utf8DecodeChar?_eq_some_iff.mp hdecoded).length_le
      rw [String.length_utf8EncodeChar, List.length_cons] at hprefix
      omega
    rw [List.cons_append, lossyFrom, utf8DecodeChar?_append_cons hascii, hdecoded]
    exact congrArg (List.cons c) (ih hsize)
  | case4 first bytes hbroken ih =>
    rw [List.cons_append, lossyFrom, utf8DecodeChar?_append_cons hascii, hbroken]
    dsimp only
    rw [brokenOff_append_cons hascii, ih (brokenOff_le_length first bytes), List.cons_append]

end

end LintPlan.Text
