import LintPlan.FileSystem.Name
/-!
# File trees

Files, directories and links by their place below the root. A tree is kept name by name, so that the way to a place
takes one step for each of its names; what lies below something that is no directory is there and cannot be reached.

There is one limit. The paths that a program is given are texts, and so are the targets of links here; so a path leads
along names that are texts only. Places with other names are in the tree (`at?`) and are met where directories are listed.

Main statements: what is put at a place is found there, and no other place changes (`at?_put`, `get?_put`), likewise for
`erase` (`at?_erase`, `get?_erase`).
-/

namespace LintPlan

/-- The names from the root to a place that a path leads to. -/
abbrev Location := List String

/-- What may be at a place. -/
inductive FileNode where
  /-- A file with its bytes. -/
  | file (content : List UInt8) (executable : Bool)
  | directory
  /-- A link to a path that is a text. -/
  | link (target : String)
  deriving DecidableEq, Repr

namespace FileNode

/-- Is it a directory? -/
def isDirectory : FileNode → Bool
  | directory => true
  | _ => false

/-- Is it a file? -/
def isFile : FileNode → Bool
  | file .. => true
  | _ => false

end FileNode

/-! ## Forests -/

/-- Names side by side: under each one there may be something, and other names below it. -/
inductive Forest where
  /-- No names. -/
  | nil
  /-- A name with what is there, the names below it and the other names beside it. -/
  | cons (name : FileName) (node : Option FileNode) (inside beside : Forest)
  deriving DecidableEq, Repr

namespace Forest

/-- What is under a name, with the names below it. -/
def under (name : FileName) : Forest → Option FileNode × Forest
  | nil => (none, nil)
  | cons n node inside beside => if n = name then (node, inside) else under name beside

/-- The forest with something else under a name. A new name comes before the first one that is larger. -/
def place (name : FileName) (entry : Option FileNode × Forest) : Forest → Forest
  | nil => cons name entry.1 entry.2 nil
  | cons n node inside beside =>
    if n = name then cons name entry.1 entry.2 beside
    else if name < n then cons name entry.1 entry.2 (cons n node inside beside)
    else cons n node inside (place name entry beside)

/-- The names side by side. -/
def names : Forest → List FileName
  | nil => []
  | cons name _ _ beside => name :: beside.names

/-- The names under which something is. -/
def present : Forest → List FileName
  | nil => []
  | cons name node _ beside => if node.isSome then name :: beside.present else beside.present

/-- The names below a place. -/
def descend : List FileName → Forest → Forest
  | [], f => f
  | name :: rest, f => descend rest (f.under name).2

/-- What is at a place; the place without names is a directory. -/
def get? : List FileName → Forest → Option FileNode
  | [], _ => some .directory
  | [name], f => (f.under name).1
  | name :: next :: rest, f => get? (next :: rest) (f.under name).2

/-- The forest with something else, or nothing, at a place. The place without names stays what it is. -/
def set (node : Option FileNode) : List FileName → Forest → Forest
  | [], f => f
  | [name], f => f.place name (node, (f.under name).2)
  | name :: next :: rest, f =>
    f.place name ((f.under name).1, set node (next :: rest) (f.under name).2)

/-- Do the names grow from each one to the next, at every level? -/
def Sorted : Forest → Prop
  | nil => True
  | cons name _ inside beside => inside.Sorted ∧ beside.Sorted ∧ ∀ n ∈ beside.names, name < n

theorem under_place (name m : FileName) (entry : Option FileNode × Forest) (f : Forest) :
    (f.place name entry).under m = if m = name then entry else f.under m := by
  induction f with
  | nil =>
    by_cases h : name = m
    · simp [place, under, h]
    · simp [place, under, h, Ne.symm h]
  | cons n node inside beside _ ih =>
    unfold place
    split
    · next hn =>
      subst hn
      by_cases h : n = m
      · simp [under, h]
      · simp [under, h, Ne.symm h]
    · next hn =>
      split
      · by_cases h : name = m
        · simp [under, h]
        · simp [under, h, Ne.symm h]
      · by_cases h : n = m
        · subst h; simp [under, hn]
        · simp [under, h, ih]

theorem mem_names_place {name m : FileName} {entry : Option FileNode × Forest} {f : Forest} :
    m ∈ (f.place name entry).names ↔ m = name ∨ m ∈ f.names := by
  induction f with
  | nil => simp [place, names]
  | cons n node inside beside _ ih =>
    unfold place
    split
    · next hn => subst hn; simp [names]
    · split
      · simp [names]
      · simp only [names, List.mem_cons, ih]
        grind

theorem sorted_place {name : FileName} {entry : Option FileNode × Forest} {f : Forest} (h : f.Sorted)
    (he : entry.2.Sorted) : (f.place name entry).Sorted := by
  induction f with
  | nil => exact ⟨he, trivial, by simp [names]⟩
  | cons n node inside beside _ ih =>
    obtain ⟨hb, hs, hl⟩ := h
    unfold place
    split
    · next hn => subst hn; exact ⟨he, hs, hl⟩
    · next hn =>
      split
      · next hlt =>
        refine ⟨he, ⟨hb, hs, hl⟩, fun m hm => ?_⟩
        rcases List.mem_cons.1 hm with rfl | hm
        · exact hlt
        · exact FileName.lt_trans hlt (hl m hm)
      · next hlt =>
        refine ⟨hb, ih hs, fun m hm => ?_⟩
        rcases mem_names_place.1 hm with rfl | hm
        · exact FileName.lt_of_not_lt hlt hn
        · exact hl m hm

theorem sorted_under {f : Forest} (h : f.Sorted) (name : FileName) : (f.under name).2.Sorted := by
  induction f with
  | nil => trivial
  | cons n node inside beside _ ih =>
    unfold under
    split
    · exact h.1
    · exact ih h.2.1

theorem sorted_set (node : Option FileNode) (loc : List FileName) {f : Forest} (h : f.Sorted) :
    (f.set node loc).Sorted := by
  fun_induction set node loc f with
  | case1 => exact h
  | case2 name f => exact sorted_place h (sorted_under h name)
  | case3 name next rest f ih => exact sorted_place h (ih (sorted_under h name))

/-- What is put is found, and nothing else changes. -/
theorem get?_set (node : Option FileNode) (loc l : List FileName) (f : Forest) (h : loc ≠ []) :
    (f.set node loc).get? l = if l = loc then node else f.get? l := by
  fun_induction set node loc f generalizing l with
  | case1 => exact absurd rfl h
  | case2 name f =>
    match l with
    | [] => simp [get?]
    | [m] => simp only [get?, under_place, List.cons.injEq, and_true]; split <;> rfl
    | m :: k :: ks =>
      simp only [get?, under_place]
      by_cases hm : m = name <;> simp [hm]
  | case3 name next rest f ih =>
    match l with
    | [] => simp [get?]
    | [m] =>
      simp only [get?, under_place]
      by_cases hm : m = name <;> simp [hm]
    | m :: k :: ks =>
      simp only [get?, under_place]
      by_cases hm : m = name
      · simp [hm, ih (k :: ks) (by simp)]
      · simp [hm]

end Forest

/-! ## Trees -/

/-- The places below a root with what is there; the root itself is always a directory. -/
structure FileTree where
  /-- The names below the root. -/
  forest : Forest
  /-- The names are in order, each one once. -/
  sorted : forest.Sorted := by trivial
  deriving DecidableEq, Repr

namespace FileTree

/-- The tree with nothing in it. -/
def empty : FileTree where
  forest := .nil

/-- What is at a place, whatever its names are. -/
def at? (t : FileTree) (names : List FileName) : Option FileNode := t.forest.get? names

/-- What is at a place that a path leads to. -/
def get? (t : FileTree) (loc : Location) : Option FileNode := t.at? (loc.map .ofText)

/-- Puts something at a place, whatever was there. -/
def putAt (t : FileTree) (names : List FileName) (node : FileNode) : FileTree where
  forest := t.forest.set (some node) names
  sorted := Forest.sorted_set (some node) names t.sorted

/-- Puts something at a place that a path leads to. -/
def put (t : FileTree) (loc : Location) (node : FileNode) : FileTree := t.putAt (loc.map .ofText) node

/-- Takes away what is at a place that a path leads to. -/
def erase (t : FileTree) (loc : Location) : FileTree where
  forest := t.forest.set none (loc.map .ofText)
  sorted := Forest.sorted_set none (loc.map .ofText) t.sorted

/-- What is put is found, and nothing else changes. -/
theorem at?_putAt (t : FileTree) (loc l : List FileName) (node : FileNode) (h : loc ≠ []) :
    (t.putAt loc node).at? l = if l = loc then some node else t.at? l :=
  Forest.get?_set (some node) loc l t.forest h

/-- What is put is found, and nothing else changes. -/
theorem at?_put (t : FileTree) (loc : Location) (l : List FileName) (node : FileNode) (h : loc ≠ []) :
    (t.put loc node).at? l = if l = loc.map .ofText then some node else t.at? l :=
  t.at?_putAt _ l node (mt List.map_eq_nil_iff.1 h)

/-- What is erased is gone, and nothing else changes. -/
theorem at?_erase (t : FileTree) (loc : Location) (l : List FileName) (h : loc ≠ []) :
    (t.erase loc).at? l = if l = loc.map .ofText then none else t.at? l :=
  Forest.get?_set none (loc.map .ofText) l t.forest (mt List.map_eq_nil_iff.1 h)

/-- Of the places that paths lead to, too, no other one changes. -/
theorem get?_put (t : FileTree) (loc l : Location) (node : FileNode) (h : loc ≠ []) :
    (t.put loc node).get? l = if l = loc then some node else t.get? l := by
  simp only [get?, at?_put t loc _ node h, FileName.map_ofText_inj]

theorem get?_erase (t : FileTree) (loc l : Location) (h : loc ≠ []) :
    (t.erase loc).get? l = if l = loc then none else t.get? l := by
  simp only [get?, at?_erase t loc _ h, FileName.map_ofText_inj]

end FileTree

end LintPlan
