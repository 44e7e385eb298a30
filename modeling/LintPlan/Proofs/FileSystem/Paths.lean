import LintPlan.FileSystem.Path
import LintPlan.Proofs.Text.ReadingBack
import Mathlib.Data.List.Basic

/-!
# Paths from the root

A path that is made of proper names, one below the other from the root, is taken apart into these names again. What is said
about such paths is said about lists of names, and the texts play no part any more.

* **`IsName`** — a text that stands for itself between slashes.
* **`parts_absolute`** — the parts of a path from the root are its names, behind the empty part in front.
* **`append_absolute`**, **`parent?_absolute`**, **`withFileName_absolute`** — going down, going up, and going to a neighbour.
-/

namespace LintPlan.Path

/-- Is a text the name of something, and not a way to stay, to go up or to go on? -/
structure IsName (s : String) : Prop where
  notIdle : isIdle s = false
  notUp : s ≠ ".."
  noSlash : '/' ∉ s.toList

variable {s name : String} {ns : List String}

theorem IsName.toList_ne_nil (h : IsName s) : s.toList ≠ [] := by
  intro hnil
  have hempty : s = "" := String.toList_eq_nil_iff.mp hnil
  have hidle := h.notIdle
  rw [hempty] at hidle
  cases hidle

theorem isName_concat (hns : ∀ name ∈ ns, IsName name) (hname : IsName name) : ∀ x ∈ ns ++ [name], IsName x :=
  List.forall_mem_append.mpr ⟨hns, List.forall_mem_singleton.mpr hname⟩

/-! ## §1 — texts and names

A path is made from names and cut into them. -/

theorem toList_ofNames (ns : List String) : (ofNames ns).toList = Text.join ['/'] (ns.map String.toList) := by
  rw [ofNames, Text.joined, String.toList_ofList]
  rfl

theorem toList_absolute (ns : List String) : (absolute ns).toList = '/' :: Text.join ['/'] (ns.map String.toList) := by
  rw [absolute, String.toList_append, toList_ofNames]
  rfl

/-- The last piece of a joined text. -/
theorem join_concat {sep : List Char} {pieces : List (List Char)} (hne : pieces ≠ []) (piece : List Char) :
    Text.join sep (pieces ++ [piece]) = Text.join sep pieces ++ sep ++ piece := by
  induction pieces with
  | nil => exact absurd rfl hne
  | cons p ps ih =>
    cases ps with
    | nil => rfl
    | cons q qs =>
      have hrest := ih (List.cons_ne_nil q qs)
      show p ++ sep ++ Text.join sep (q :: qs ++ [piece]) = p ++ sep ++ Text.join sep (q :: qs) ++ sep ++ piece
      rw [hrest]
      simp only [List.append_assoc]

/-- **The parts of names with slashes between them** are the names: none has a slash in it, so splitting undoes the
joining. -/
theorem parts_ofNames (hns : ∀ name ∈ ns, '/' ∉ name.toList) (hne : ns ≠ []) : parts (ofNames ns) = ns := by
  have hpieces : ∀ p ∈ ns.map String.toList, '/' ∉ p := by
    intro p hp
    obtain ⟨name, hname, rfl⟩ := List.mem_map.mp hp
    exact hns name hname
  have hsplit := Text.splitOn_join (mt List.map_eq_nil_iff.mp hne) hpieces
  rw [parts, toList_ofNames, hsplit, List.map_map]
  refine (List.map_congr_left ?_).trans (List.map_id ns)
  intro name _
  exact String.ofList_toList

theorem names_ofNames (hns : ∀ name ∈ ns, '/' ∉ name.toList) : names (ofNames ns) = ns.filter fun name => !isIdle name := by
  by_cases hne : ns = []
  · subst hne
    rfl
  · rw [names, parts_ofNames hns hne]

/-- **The parts of a path from the root.** -/
theorem parts_absolute (hns : ∀ name ∈ ns, IsName name) (hne : ns ≠ []) : parts (absolute ns) = "" :: ns := by
  have hrest := parts_ofNames (fun name hname => (hns name hname).noSlash) hne
  rw [parts, toList_ofNames] at hrest
  rw [parts, toList_absolute, Text.splitOn, if_pos rfl, List.map_cons, hrest]

theorem isAbsolute_absolute (ns : List String) : isAbsolute (absolute ns) = true := by
  rw [isAbsolute, toList_absolute]
  rfl

theorem IsName.isAbsolute_eq (h : IsName name) : isAbsolute name = false := by
  rw [isAbsolute, beq_eq_false_iff_ne]
  intro hhead
  exact h.noSlash (List.mem_of_head? hhead)

theorem absolute_ne_empty (ns : List String) : absolute ns ≠ "" := by
  intro hempty
  have hcons := toList_absolute ns
  rw [hempty] at hcons
  cases hcons

/-- A path that ends with a name does not end with a slash. -/
theorem getLast?_absolute_concat (ns : List String) (hname : IsName name) :
    (absolute (ns ++ [name])).toList.getLast? ≠ some '/' := by
  obtain ⟨front, hfront⟩ : ∃ front, (absolute (ns ++ [name])).toList = front ++ name.toList := by
    rw [toList_absolute, List.map_append, List.map_singleton]
    by_cases hne : ns = []
    · subst hne
      exact ⟨['/'], rfl⟩
    · rw [join_concat (mt List.map_eq_nil_iff.mp hne), ← List.cons_append]
      exact ⟨_, rfl⟩
  rw [hfront, List.getLast?_append_of_ne_nil front hname.toList_ne_nil]
  intro hslash
  exact hname.noSlash (List.mem_of_getLast? hslash)

theorem absolute_concat (hne : ns ≠ []) (name : String) : absolute (ns ++ [name]) = absolute ns ++ "/" ++ name := by
  rw [← String.toList_inj, toList_absolute, List.map_append, List.map_singleton, join_concat (mt List.map_eq_nil_iff.mp hne),
    String.toList_append, String.toList_append, toList_absolute]
  simp

/-! ## §2 — down, up, and to a neighbour

How the operations on paths act on lists of names. -/

/-- **Going down.** -/
theorem append_absolute (hns : ∀ name ∈ ns, IsName name) (hname : IsName name) :
    append (absolute ns) name = absolute (ns ++ [name]) := by
  have hempty : (absolute ns == "") = false := beq_eq_false_iff_ne.mpr (absolute_ne_empty ns)
  rw [append, hname.isAbsolute_eq, hempty]
  -- the root ends with a slash already, and no other path does
  obtain rfl | ⟨up, last, rfl⟩ := ns.eq_nil_or_concat'
  · rw [if_neg (by decide), if_pos (by rfl)]
    rw [← String.toList_inj, String.toList_append, toList_absolute, toList_absolute]
    rfl
  · have hlast := getLast?_absolute_concat up (hns last (List.mem_append_right _ List.mem_cons_self))
    rw [if_neg (by decide), if_neg (by rwa [beq_iff_eq]), absolute_concat (List.concat_ne_nil last up)]

theorem ofReversedParts_absolute (hne : ns ≠ []) : ofReversedParts (ns.reverse ++ [""]) = absolute ns := by
  have hparts : (ns.reverse ++ [""]).reverse = "" :: ns := by simp
  rw [ofReversedParts, hparts, ← String.toList_inj, toList_ofNames, toList_absolute]
  cases ns with
  | nil => exact absurd rfl hne
  | cons name rest => rfl

/-- **Going up.** -/
theorem parent?_absolute (hns : ∀ name ∈ ns, IsName name) (hname : IsName name) :
    parent? (absolute (ns ++ [name])) = some (absolute ns) := by
  have hall := isName_concat hns hname
  have hparts : (parts (absolute (ns ++ [name]))).reverse = name :: (ns.reverse ++ [""]) := by
    rw [parts_absolute hall (List.concat_ne_nil name ns)]
    simp
  rw [parent?, hparts, List.dropWhile_cons_of_neg (by rw [hname.notIdle]; exact Bool.false_ne_true)]
  dsimp only
  obtain rfl | ⟨up, last, rfl⟩ := ns.eq_nil_or_concat'
  · rw [isAbsolute_absolute]
    rfl
  · have hlast := hns last (List.mem_append_right _ List.mem_cons_self)
    rw [← ofReversedParts_absolute (List.concat_ne_nil last up), List.reverse_concat,
      List.cons_append, List.dropWhile_cons_of_neg (by rw [hlast.notIdle]; exact Bool.false_ne_true)]

/-- The last name of a path is the name of the file. -/
theorem fileName_absolute (hns : ∀ name ∈ ns, IsName name) (hname : IsName name) :
    fileName (absolute (ns ++ [name])) = some name := by
  have hall := isName_concat hns hname
  have hnames : names (absolute (ns ++ [name])) = ns ++ [name] := by
    rw [names, parts_absolute hall (List.concat_ne_nil name ns)]
    refine (List.filter_cons_of_neg (by decide)).trans (List.filter_eq_self.mpr ?_)
    intro x hx
    rw [(hall x hx).notIdle]
    rfl
  rw [fileName, hnames, List.getLast?_concat]
  split
  · next hup => exact absurd (Option.some.inj hup) hname.notUp
  · rfl

/-- **Going to a neighbour.** -/
theorem withFileName_absolute {other : String} (hns : ∀ name ∈ ns, IsName name) (hname : IsName name)
    (hother : IsName other) : withFileName (absolute (ns ++ [name])) other = absolute (ns ++ [other]) := by
  rw [withFileName, fileName_absolute hns hname, parent?_absolute hns hname]
  exact append_absolute hns hother

end LintPlan.Path
