import LintPlan.Proofs.FileSystem.Following

/-!
# Places on the way

Following a path looks up one place after the other, and what it finds depends on nothing else. So a path leads to the same in
two trees if they agree on these places, whatever else they have.

* **`placesOn`** — the places that are looked up when a path is followed to its end.
* **`find_congr`** — a path leads to the same in a tree that agrees on these places.
* **`present_of_find`** — on the way to something that is there, something is at every place.
* **`IsPlace.placesOn_absolute`** — on the way down to a directory, without links, these are the directories above it.
-/

namespace LintPlan.FileTree

variable {t t' : FileTree} {loc here place : Location} {part path : String} {rest parts : List String} {found : Found}

/-! ## §1 — what is looked up

The places that the walk along a path looks at, by the recursion of the walk. -/

/-- The directory at which a path starts, by its place. -/
def start (here : Location) (path : String) : Location := if Path.isAbsolute path then [] else here

/-- The places that are looked up on the way along some parts. `jump` gives those behind a link. -/
def placesAlong (t : FileTree) (jump : Location → List String → List Location) : Location → List String → List Location
  | _, [] => []
  | loc, part :: rest =>
    if Path.isIdle part then placesAlong t jump loc rest
    else if part = ".." then placesAlong t jump loc.dropLast rest
    else if longestName < part.utf8ByteSize then []
    else
      (loc ++ [part]) :: match t.get? (loc ++ [part]) with
        | some .directory => placesAlong t jump (loc ++ [part]) rest
        | some (.link target) => jump (start loc target) (Path.parts target ++ rest)
        | _ => []

/-- The places that are looked up on the way along some parts, with a number of links that may be followed. -/
def placesFollowed (t : FileTree) : Nat → Location → List String → List Location
  | 0 => placesAlong t fun _ _ => []
  | links + 1 => placesAlong t (placesFollowed t links)

/-- The places that are looked up when a path is followed, to its end. -/
def placesOn (t : FileTree) (here : Location) (path : String) : List Location :=
  t.placesFollowed mostLinks (start here path) (Path.parts path)

theorem origin_trailTo (t : FileTree) (loc : Location) (path : String) :
    origin (t.trailTo loc) path = t.trailTo (start loc path) := by
  unfold origin start
  split <;> rfl

theorem tail_trailTo (t : FileTree) (loc : Location) : (t.trailTo loc).tail = t.trailTo loc.dropLast := by
  obtain rfl | ⟨up, last, rfl⟩ := loc.eq_nil_or_concat'
  · rfl
  · rw [trailTo_concat, List.dropLast_concat, List.tail_cons]

/-- What parts of a path are: idle, a way up, too long, or the name of an entry. -/
theorem part_cases (hslash : '/' ∉ part.toList) :
    Path.isIdle part = true ∨ part = ".." ∨ (Path.isIdle part = false ∧ part ≠ ".." ∧ longestName < part.utf8ByteSize) ∨
      IsEntryName part := by
  by_cases hidle : Path.isIdle part = true
  · exact .inl hidle
  by_cases hup : part = ".."
  · exact .inr (.inl hup)
  have hidle : Path.isIdle part = false := Bool.eq_false_iff.mpr hidle
  by_cases hlong : longestName < part.utf8ByteSize
  · exact .inr (.inr (.inl ⟨hidle, hup, hlong⟩))
  · exact .inr (.inr (.inr ⟨⟨hidle, hup, hslash⟩, Nat.not_lt.mp hlong⟩))

theorem along_long {jump : Trail → List String → Except OsFault Found} (hidle : Path.isIdle part = false) (hup : part ≠ "..")
    (hlong : longestName < part.utf8ByteSize) (toEnd : Bool) (way : Trail) :
    t.along toEnd jump way (part :: rest) = .error .nameTooLong := by
  rw [along, if_neg (by rw [hidle]; exact Bool.false_ne_true), if_neg hup, if_pos hlong]

section
variable {jump : Location → List String → List Location}

theorem placesAlong_idle (hidle : Path.isIdle part = true) (loc : Location) :
    t.placesAlong jump loc (part :: rest) = t.placesAlong jump loc rest := by
  rw [placesAlong, if_pos hidle]

theorem placesAlong_up (loc : Location) :
    t.placesAlong jump loc (".." :: rest) = t.placesAlong jump loc.dropLast rest := by
  rw [placesAlong, if_neg (by decide), if_pos rfl]

theorem placesAlong_name (hname : IsEntryName part) (loc : Location) :
    t.placesAlong jump loc (part :: rest) =
      (loc ++ [part]) :: match t.get? (loc ++ [part]) with
        | some .directory => t.placesAlong jump (loc ++ [part]) rest
        | some (.link target) => jump (start loc target) (Path.parts target ++ rest)
        | _ => [] := by
  rw [placesAlong, if_neg (by rw [hname.notIdle]; exact Bool.false_ne_true), if_neg hname.notUp,
    if_neg (Nat.not_lt.mpr hname.short)]

end

/-! ## §2 — agreeing on the way

The outcome depends on these places only. -/

section
variable {jump jump' : Trail → List String → Except OsFault Found} {places : Location → List String → List Location}

/-- **Going along leads to the same** in a tree that agrees on what is looked up, if going on after a link does. -/
theorem along_congr (hparts : ∀ part ∈ parts, '/' ∉ part.toList)
    (hjump : ∀ loc parts, (∀ part ∈ parts, '/' ∉ part.toList) → (∀ place ∈ places loc parts, t'.get? place = t.get? place) →
      jump' (t'.trailTo loc) parts = jump (t.trailTo loc) parts)
    (hsame : ∀ place ∈ t.placesAlong places loc parts, t'.get? place = t.get? place) :
    t'.along true jump' (t'.trailTo loc) parts = t.along true jump (t.trailTo loc) parts := by
  induction parts generalizing loc with
  | nil => rw [along, along, location_trailTo, location_trailTo]
  | cons part rest ih =>
    obtain ⟨hpart, hrest⟩ := List.forall_mem_cons.mp hparts
    rcases part_cases hpart with hidle | rfl | ⟨hidle, hup, hlong⟩ | hname
    · rw [placesAlong_idle hidle] at hsame
      rw [along_idle hidle, along_idle hidle]
      exact ih hrest hsame
    · rw [placesAlong_up] at hsame
      rw [along_up, along_up, tail_trailTo, tail_trailTo]
      exact ih hrest hsame
    · rw [along_long hidle hup hlong, along_long hidle hup hlong]
    · rw [placesAlong_name hname] at hsame
      obtain ⟨hhere, hbehind⟩ := List.forall_mem_cons.mp hsame
      rw [along_trailTo hname, along_trailTo hname, hhere]
      cases hnode : t.get? (loc ++ [part]) with
      | none => rfl
      | some node =>
        rw [hnode] at hbehind
        cases node with
        | file content executable => rfl
        | directory => exact ih hrest hbehind
        | link target =>
          simp only [Bool.not_true, Bool.and_false, Bool.false_eq_true, if_false]
          rw [origin_trailTo, origin_trailTo]
          exact hjump _ _ (List.forall_mem_append.mpr ⟨noSlash_parts target, hrest⟩) hbehind

end

theorem follow_congr {links : Nat} (hparts : ∀ part ∈ parts, '/' ∉ part.toList)
    (hsame : ∀ place ∈ t.placesFollowed links loc parts, t'.get? place = t.get? place) :
    t'.follow true links (t'.trailTo loc) parts = t.follow true links (t.trailTo loc) parts := by
  -- on the number of links that may still be followed
  induction links generalizing loc parts with
  | zero => exact along_congr hparts (fun _ _ _ _ => rfl) hsame
  | succ links ih => exact along_congr hparts (fun _ _ hparts hsame => ih hparts hsame) hsame

/-- **A path leads to the same** in a tree that agrees on the places on the way. -/
theorem find_congr (hsame : ∀ place ∈ t.placesOn here path, t'.get? place = t.get? place) :
    t'.find here path true = t.find here path true := by
  unfold find trace
  rw [origin_trailTo, origin_trailTo, follow_congr (noSlash_parts path) hsame]

theorem node_congr (hsame : ∀ place ∈ t.placesOn here path, t'.get? place = t.get? place) :
    t'.node here path = t.node here path := by
  rw [node, node, find_congr hsame]

/-! ## §3 — the way to something that is there

None of them is empty then. -/

/-- If something is found, something was there at every place on the way. -/
theorem present_along {jump : Trail → List String → Except OsFault Found} {places : Location → List String → List Location}
    (hparts : ∀ part ∈ parts, '/' ∉ part.toList)
    (hjump : ∀ loc parts, (∀ part ∈ parts, '/' ∉ part.toList) → jump (t.trailTo loc) parts = .ok found →
      ∀ place ∈ places loc parts, t.get? place ≠ none)
    (hfound : t.along true jump (t.trailTo loc) parts = .ok found) (hthere : found.node ≠ none) :
    ∀ place ∈ t.placesAlong places loc parts, t.get? place ≠ none := by
  induction parts generalizing loc with
  | nil => exact nofun
  | cons part rest ih =>
    obtain ⟨hpart, hrest⟩ := List.forall_mem_cons.mp hparts
    rcases part_cases hpart with hidle | rfl | ⟨hidle, hup, hlong⟩ | hname
    · rw [placesAlong_idle hidle]
      rw [along_idle hidle] at hfound
      exact ih hrest hfound
    · rw [placesAlong_up]
      rw [along_up, tail_trailTo] at hfound
      exact ih hrest hfound
    · rw [along_long hidle hup hlong] at hfound
      cases hfound
    · rw [placesAlong_name hname, List.forall_mem_cons]
      rw [along_trailTo hname] at hfound
      cases hnode : t.get? (loc ++ [part]) with
      | none =>
        -- at the end of a path there may be nothing, but then nothing is found
        rw [hnode] at hfound
        dsimp only at hfound
        split at hfound
        · cases hfound
          exact absurd rfl hthere
        · cases hfound
      | some node =>
        rw [hnode] at hfound
        refine ⟨nofun, ?_⟩
        cases node with
        | file content executable => exact nofun
        | directory => exact ih hrest hfound
        | link target =>
          simp only [Bool.not_true, Bool.and_false, Bool.false_eq_true, if_false] at hfound
          rw [origin_trailTo] at hfound
          exact hjump _ _ (List.forall_mem_append.mpr ⟨noSlash_parts target, hrest⟩) hfound

theorem present_followed {links : Nat} (hparts : ∀ part ∈ parts, '/' ∉ part.toList)
    (hfound : t.follow true links (t.trailTo loc) parts = .ok found) (hthere : found.node ≠ none) :
    ∀ place ∈ t.placesFollowed links loc parts, t.get? place ≠ none := by
  induction links generalizing loc parts with
  | zero =>
    refine present_along hparts ?_ hfound hthere
    intro _ _ _ hjump
    cases hjump
  | succ links ih => exact present_along hparts (fun _ _ hparts hjump => ih hparts hjump) hfound hthere

/-- **On the way to something that is there**, something is at every place. -/
theorem present_of_find (hfound : t.find here path true = .ok found) (hthere : found.node ≠ none) :
    ∀ place ∈ t.placesOn here path, t.get? place ≠ none := by
  unfold find trace at hfound
  split at hfound
  · cases hfound
  · split at hfound
    · cases hfound
    · split at hfound
      · cases hfound
      · rw [origin_trailTo] at hfound
        exact present_followed (noSlash_parts path) hfound hthere

/-! ## §4 — the way down

The places on the way to a directory without links. -/

/-- **On the way down to a place**, only what is above it is looked up. -/
theorem IsPlace.placesAlong_prefix {jump : Location → List String → List Location} {names : List String}
    (h : t.IsPlace (loc ++ names)) : ∀ place ∈ t.placesAlong jump loc names, place <+: loc ++ names := by
  induction names generalizing loc with
  | nil => exact nofun
  | cons name names ih =>
    rw [List.append_cons] at h ⊢
    have hname : IsEntryName name := h.names name (by simp)
    rw [placesAlong_name hname, h.directories (List.prefix_append _ _), List.forall_mem_cons]
    exact ⟨List.prefix_append _ _, ih h⟩

/-- The path of a directory looks up the directories above it and nothing else. -/
theorem IsPlace.placesOn_absolute (h : t.IsPlace loc) : ∀ place ∈ t.placesOn here (Path.absolute loc), place <+: loc := by
  have hparts : ∃ front, Path.parts (Path.absolute loc) = front ++ loc ∧ ∀ part ∈ front, Path.isIdle part = true := by
    by_cases hne : loc = []
    · subst hne
      exact ⟨["", ""], rfl, by simp [Path.isIdle]⟩
    · exact ⟨[""], Path.parts_absolute h.isName hne, by simp [Path.isIdle]⟩
  obtain ⟨front, hparts, hidle⟩ := hparts
  have hskip : ∀ jump : Location → List String → List Location, ∀ front : List String,
      (∀ part ∈ front, Path.isIdle part = true) → t.placesAlong jump [] (front ++ loc) = t.placesAlong jump [] loc := by
    intro jump front hidle
    induction front with
    | nil => rfl
    | cons part front ih =>
      obtain ⟨hpart, hfront⟩ := List.forall_mem_cons.mp hidle
      rw [List.cons_append, placesAlong_idle hpart, ih hfront]
  rw [placesOn, start, if_pos (Path.isAbsolute_absolute loc), hparts, mostLinks, placesFollowed, hskip _ front hidle]
  exact IsPlace.placesAlong_prefix (show t.IsPlace ([] ++ loc) from h)

end LintPlan.FileTree
