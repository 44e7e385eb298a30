import LintPlan.FileSystem.Lookup
import LintPlan.Proofs.FileSystem.Paths
import Mathlib.Data.List.Induction

/-!
# Where paths lead to

Following a path keeps a trail of directories. As long as no link is on the way, the trail is the one to a place, and every
step looks up one more place.

* **`IsPlace`** — a directory, with directories all the way down to it.
* **`along_trailTo`** — one step from such a place.
* **`trace_sound`** — whatever is found lies in a directory that is reached, under a proper name.
* **`find_isPlace`** — a path from the root with directories all the way leads to its own place.
* **`resolve_sound`** — what a path is resolved to is a place, or a file in one.
-/

open LintPlan.Path (IsName)

namespace LintPlan

/-! ## §1 — trails

The walk keeps the names so far with what is beside each, so that it can go back up. A trail is determined by its place. -/

theorem Forest.get?_concat (loc : List FileName) (name : FileName) (f : Forest) :
    f.get? (loc ++ [name]) = ((f.descend loc).under name).1 := by
  induction loc generalizing f with
  | nil => rfl
  | cons m rest ih =>
    show f.get? (m :: (rest ++ [name])) = (((f.under m).2.descend rest).under name).1
    rw [← ih]
    cases rest <;> rfl

theorem Forest.descend_concat (loc : List FileName) (name : FileName) (f : Forest) :
    f.descend (loc ++ [name]) = ((f.descend loc).under name).2 := by
  induction loc generalizing f with
  | nil => rfl
  | cons m rest ih => exact ih (f.under m).2

namespace FileTree

variable {t : FileTree} {loc : Location} {name : String}

theorem trailTo_concat (t : FileTree) (loc : Location) (name : String) :
    t.trailTo (loc ++ [name]) = (name, ((t.inside (t.trailTo loc)).under (.ofText name)).2) :: t.trailTo loc := List.foldl_concat ..

theorem location_trailTo (t : FileTree) (loc : Location) : (t.trailTo loc).location = loc := by
  induction loc using List.reverseRecOn with
  | nil => rfl
  | append_singleton loc name ih =>
    rw [trailTo_concat, Trail.location, List.map_cons, List.reverse_cons]
    exact congrArg (· ++ [name]) ih

theorem inside_trailTo (t : FileTree) (loc : Location) : t.inside (t.trailTo loc) = t.forest.descend (loc.map .ofText) := by
  induction loc using List.reverseRecOn with
  | nil => rfl
  | append_singleton loc name ih =>
    rw [trailTo_concat, ih, List.map_append]
    exact (Forest.descend_concat _ _ t.forest).symm

/-- What a trail leads to with one more name. -/
theorem under_trailTo (t : FileTree) (loc : Location) (name : String) :
    ((t.inside (t.trailTo loc)).under (.ofText name)).1 = t.get? (loc ++ [name]) := by
  rw [inside_trailTo, get?, List.map_append]
  exact (Forest.get?_concat _ _ t.forest).symm

/-! ## §2 — one step

What one name of a path does. -/

/-- Can a text be the name of an entry of a directory? -/
structure IsEntryName (s : String) : Prop extends IsName s where
  short : s.utf8ByteSize ≤ longestName

variable {toEnd : Bool} {jump : Trail → List String → Except OsFault Found} {part : String} {rest : List String}

theorem along_idle (hidle : Path.isIdle part = true) (way : Trail) :
    t.along toEnd jump way (part :: rest) = t.along toEnd jump way rest := by
  rw [along, if_pos hidle]

theorem along_up (way : Trail) : t.along toEnd jump way (".." :: rest) = t.along toEnd jump way.tail rest := by
  rw [along, if_neg (by decide), if_pos rfl]

/-- **A step from a trail to a place** looks up the place with one more name. -/
theorem along_trailTo (hname : IsEntryName name) :
    t.along toEnd jump (t.trailTo loc) (name :: rest) =
      match t.get? (loc ++ [name]) with
      | none => if rest.isEmpty then .ok ⟨loc ++ [name], none⟩ else .error .notFound
      | some .directory => t.along toEnd jump (t.trailTo (loc ++ [name])) rest
      | some (.file content executable) =>
        if rest.isEmpty then .ok ⟨loc ++ [name], some (.file content executable)⟩ else .error .notDirectory
      | some (.link target) =>
        if rest.isEmpty && !toEnd then .ok ⟨loc ++ [name], some (.link target)⟩
        else jump (origin (t.trailTo loc) target) (Path.parts target ++ rest) := by
  have hlocation := location_trailTo t (loc ++ [name])
  rw [along, if_neg (by rw [hname.notIdle]; exact Bool.false_ne_true), if_neg hname.notUp,
    if_neg (Nat.not_lt.mpr hname.short)]
  rw [trailTo_concat] at hlocation ⊢
  rw [← under_trailTo]
  generalize (t.inside (t.trailTo loc)).under (.ofText name) = entry at hlocation ⊢
  obtain ⟨node, below⟩ := entry
  cases node with
  | none => simp only [hlocation]
  | some node => cases node <;> simp only [hlocation]

/-! ## §3 — directories all the way

A path through directories that are no links leads to where it says. -/

/-- Is there a directory at a place, and are there directories all the way down to it? -/
structure IsPlace (t : FileTree) (loc : Location) : Prop where
  names : ∀ name ∈ loc, IsEntryName name
  directories : ∀ {above : Location}, above <+: loc → t.get? above = some .directory

theorem isPlace_nil (t : FileTree) : t.IsPlace [] := by
  refine ⟨nofun, ?_⟩
  intro above habove
  rw [List.prefix_nil.mp habove]
  rfl

theorem IsPlace.concat (h : t.IsPlace loc) (hname : IsEntryName name) (hdirectory : t.get? (loc ++ [name]) = some .directory) :
    t.IsPlace (loc ++ [name]) := by
  refine ⟨List.forall_mem_append.mpr ⟨h.names, List.forall_mem_singleton.mpr hname⟩, ?_⟩
  intro above habove
  rcases List.prefix_concat_iff.mp habove with rfl | habove
  · exact hdirectory
  · exact h.directories habove

theorem IsPlace.mono {above : Location} (h : t.IsPlace loc) (habove : above <+: loc) : t.IsPlace above :=
  ⟨fun name hname => h.names name (habove.subset hname), fun hhigher => h.directories (hhigher.trans habove)⟩

theorem IsPlace.isName (h : t.IsPlace loc) : ∀ name ∈ loc, IsName name := fun name hname => (h.names name hname).toIsName

/-- **Going down to a place.** -/
theorem along_isPlace {names : List String} (h : t.IsPlace (loc ++ names)) :
    t.along toEnd jump (t.trailTo loc) (names ++ rest) = t.along toEnd jump (t.trailTo (loc ++ names)) rest := by
  induction names generalizing loc with
  | nil => rw [List.append_nil, List.nil_append]
  | cons name names ih =>
    have hcons : loc ++ name :: names = loc ++ [name] ++ names := (List.append_cons ..)
    rw [hcons] at h ⊢
    have hname : IsEntryName name := h.names name (by simp)
    rw [List.cons_append, along_trailTo hname, h.directories (List.prefix_append _ _)]
    exact ih h

/-- Following is going along, whatever is done about links. -/
theorem follow_eq_along (t : FileTree) (toEnd : Bool) (links : Nat) :
    ∃ jump, t.follow toEnd links = t.along toEnd jump := by
  cases links <;> exact ⟨_, rfl⟩

/-- Is a character in a path that cannot be in one? -/
def hasNul (path : String) : Bool := path.toList.any fun c => c.toNat == 0

theorem trace_absolute (t : FileTree) (toEnd : Bool) (hns : ∀ name ∈ loc, IsName name) (hne : loc ≠ [])
    (hnul : hasNul (Path.absolute loc) = false) :
    ∃ jump, t.trace [] (Path.absolute loc) toEnd = t.along toEnd jump (t.trailTo []) loc := by
  obtain ⟨jump, hjump⟩ := follow_eq_along t toEnd mostLinks
  have hnone : ¬ ((Path.absolute loc).toList.any fun c => c.toNat == 0) = true := Bool.eq_false_iff.mp hnul
  refine ⟨jump, ?_⟩
  rw [trace, if_neg hnone, if_neg (Path.absolute_ne_empty loc), hjump, origin,
    if_pos (Path.isAbsolute_absolute loc), Path.parts_absolute hns hne, along_idle rfl]
  rfl

/-- **What is in a place** is found under the path from the root, if it is no link or links are not followed at the end. -/
theorem trace_isPlace (h : t.IsPlace loc) (hname : IsEntryName name) (hnul : hasNul (Path.absolute (loc ++ [name])) = false)
    (hend : toEnd = true → ∀ target, t.get? (loc ++ [name]) ≠ some (.link target)) :
    t.trace [] (Path.absolute (loc ++ [name])) toEnd = .ok ⟨loc ++ [name], t.get? (loc ++ [name])⟩ := by
  have hne : loc ++ [name] ≠ [] := List.concat_ne_nil name loc
  obtain ⟨jump, htrace⟩ := trace_absolute t toEnd (Path.isName_concat h.isName hname.toIsName) hne hnul
  rw [htrace, along_isPlace (show t.IsPlace ([] ++ loc) from h), List.nil_append, along_trailTo hname]
  cases hnode : t.get? (loc ++ [name]) with
  | none => rfl
  | some node =>
    cases node with
    | file content executable => rfl
    | directory =>
      show Except.ok _ = _
      rw [location_trailTo]
    | link target =>
      cases toEnd with
      | false => rfl
      | true => exact absurd hnode (hend rfl target)

/-- A path that is neither too long nor impossible. -/
structure Fits (path : String) : Prop where
  short : isTooLong path = false
  possible : hasNul path = false

/-- A path that does not fit leads nowhere, in any tree; it is not for want of a directory. -/
theorem find_of_not_fits {path : String} (h : ¬ Fits path) :
    ∃ fault, fault ≠ .notFound ∧ ∀ (t : FileTree) (toEnd : Bool), t.find [] path toEnd = .error fault := by
  cases hlong : isTooLong path with
  | true => exact ⟨.nameTooLong, nofun, fun t toEnd => by rw [find, if_pos hlong]⟩
  | false =>
    cases hnul : hasNul path with
    | false => exact absurd ⟨hlong, hnul⟩ h
    | true =>
      have hany : (path.toList.any fun c => c.toNat == 0) = true := hnul
      exact ⟨.nulInPath, nofun, fun t toEnd => by rw [find, if_neg (Bool.eq_false_iff.mp hlong), trace, if_pos hany]⟩

/-- **What is in a place is found**, if the path fits. -/
theorem find_isPlace (toEnd : Bool) (h : t.IsPlace loc) (hname : IsEntryName name)
    (hfits : Fits (Path.absolute (loc ++ [name])))
    (hend : toEnd = true → ∀ target, t.get? (loc ++ [name]) ≠ some (.link target)) :
    t.find [] (Path.absolute (loc ++ [name])) toEnd = .ok ⟨loc ++ [name], t.get? (loc ++ [name])⟩ := by
  rw [find, if_neg (Bool.eq_false_iff.mp hfits.short)]
  exact trace_isPlace h hname hfits.possible hend

/-! ## §4 — whatever is found

Through links too, what is found is a place of the tree. Induction over the links and, for each, over the names. -/

/-- What is known of whatever is found: it is what is at the place, in directories all the way, and no link if links were
followed at the end. -/
structure Sound (t : FileTree) (toEnd : Bool) (found : Found) : Prop where
  node : found.node = t.get? found.location
  names : ∀ name ∈ found.location, IsEntryName name
  above : ∀ {above : Location}, above <+: found.location → above ≠ found.location → t.get? above = some .directory
  final : toEnd = true → ∀ target, found.node ≠ some (.link target)

theorem IsPlace.sound (h : t.IsPlace loc) : t.Sound toEnd ⟨loc, some .directory⟩ :=
  ⟨(h.directories (List.prefix_refl loc)).symm, h.names, fun habove _ => h.directories habove, nofun⟩

/-- Something that is found in a place. -/
theorem IsPlace.sound_concat (h : t.IsPlace loc) (hname : IsEntryName name) {node : Option FileNode}
    (hnode : t.get? (loc ++ [name]) = node) (hfinal : toEnd = true → ∀ target, node ≠ some (.link target)) :
    t.Sound toEnd ⟨loc ++ [name], node⟩ := by
  refine ⟨hnode.symm, List.forall_mem_append.mpr ⟨h.names, List.forall_mem_singleton.mpr hname⟩, ?_, hfinal⟩
  intro above habove hne
  -- everything strictly above the entry is at or above the place
  exact h.directories ((List.prefix_concat_iff.mp habove).resolve_left hne)

theorem noSlash_parts (path : String) : ∀ part ∈ Path.parts path, '/' ∉ part.toList := by
  intro part hpart
  obtain ⟨cs, hcs, rfl⟩ := List.mem_map.mp hpart
  rw [String.toList_ofList]
  exact Text.not_mem_of_mem_splitOn hcs

/-- **Going along finds what is there**, if going on after a link does. -/
theorem along_sound {parts : List String} {found : Found} (h : t.IsPlace loc) (hparts : ∀ part ∈ parts, '/' ∉ part.toList)
    (hjump : ∀ {loc parts}, t.IsPlace loc → (∀ part ∈ parts, '/' ∉ part.toList) →
      jump (t.trailTo loc) parts = .ok found → t.Sound toEnd found)
    (hfound : t.along toEnd jump (t.trailTo loc) parts = .ok found) : t.Sound toEnd found := by
  induction parts generalizing loc with
  | nil =>
    have heq : found = ⟨loc, some .directory⟩ := by
      rw [along, location_trailTo] at hfound
      exact (Except.ok.inj hfound).symm
    rw [heq]
    exact h.sound
  | cons part rest ih =>
    have hrest : ∀ part ∈ rest, '/' ∉ part.toList := fun x hx => hparts x (List.mem_cons_of_mem part hx)
    by_cases hidle : Path.isIdle part = true
    · rw [along_idle hidle] at hfound
      exact ih h hrest hfound
    by_cases hup : part = ".."
    · subst hup
      rw [along_up] at hfound
      -- above the root is the root
      obtain rfl | ⟨up, last, rfl⟩ := loc.eq_nil_or_concat'
      · exact ih h hrest hfound
      · rw [trailTo_concat, List.tail_cons] at hfound
        exact ih (h.mono (List.prefix_append _ _)) hrest hfound
    by_cases hlong : longestName < part.utf8ByteSize
    · rw [along, if_neg hidle, if_neg hup, if_pos hlong] at hfound
      cases hfound
    have hname : IsEntryName part :=
      ⟨⟨Bool.eq_false_iff.mpr hidle, hup, hparts part List.mem_cons_self⟩, Nat.not_lt.mp hlong⟩
    rw [along_trailTo hname] at hfound
    -- what is not gone into is found only at the end of the path
    have hlast : ∀ {node : Option FileNode} {fault : OsFault}, t.get? (loc ++ [part]) = node →
        (toEnd = true → ∀ target, node ≠ some (.link target)) →
        (if rest.isEmpty then .ok ⟨loc ++ [part], node⟩ else .error fault) = (.ok found : Except OsFault Found) →
        t.Sound toEnd found := by
      intro node fault hnode hfinal heq
      by_cases hend : rest.isEmpty = true
      · rw [if_pos hend] at heq
        exact Except.ok.inj heq ▸ h.sound_concat hname hnode hfinal
      · rw [if_neg hend] at heq
        cases heq
    cases hnode : t.get? (loc ++ [part]) with
    | none =>
      rw [hnode] at hfound
      exact hlast hnode nofun hfound
    | some node =>
      rw [hnode] at hfound
      cases node with
      | file content executable => exact hlast hnode nofun hfound
      | directory => exact ih (h.concat hname hnode) hrest hfound
      | link target =>
        dsimp only at hfound
        by_cases hend : (rest.isEmpty && !toEnd) = true
        · rw [if_pos hend] at hfound
          refine Except.ok.inj hfound ▸ h.sound_concat hname hnode ?_
          rintro rfl
          simp at hend
        · rw [if_neg hend] at hfound
          -- behind a link the way goes on with the parts of its target, from the root or from where the link is
          have hnext : ∀ x ∈ Path.parts target ++ rest, '/' ∉ x.toList :=
            List.forall_mem_append.mpr ⟨noSlash_parts target, hrest⟩
          unfold origin at hfound
          by_cases habsolute : Path.isAbsolute target = true
          · rw [if_pos habsolute] at hfound
            exact hjump t.isPlace_nil hnext hfound
          · rw [if_neg habsolute] at hfound
            exact hjump h hnext hfound

/-- **Following finds what is there.** -/
theorem follow_sound {links : Nat} {parts : List String} {found : Found} (h : t.IsPlace loc)
    (hparts : ∀ part ∈ parts, '/' ∉ part.toList) (hfound : t.follow toEnd links (t.trailTo loc) parts = .ok found) :
    t.Sound toEnd found := by
  -- on the number of links that may still be followed: after a link one fewer is left, and after none nothing is found
  induction links generalizing loc parts with
  | zero =>
    refine along_sound h hparts ?_ hfound
    intro loc parts _ _ hjump
    cases hjump
  | succ links ih => exact along_sound h hparts ih hfound

/-- **What is found** is what is there, from the working directory or from the root. -/
theorem trace_sound {here : Location} {path : String} {found : Found}
    (hhere : Path.isAbsolute path = true ∨ t.IsPlace here) (hfound : t.trace here path toEnd = .ok found) :
    t.Sound toEnd found := by
  unfold trace at hfound
  split at hfound
  · cases hfound
  · split at hfound
    · cases hfound
    · unfold origin at hfound
      by_cases habsolute : Path.isAbsolute path = true
      · rw [if_pos habsolute] at hfound
        exact follow_sound t.isPlace_nil (noSlash_parts path) hfound
      · rw [if_neg habsolute] at hfound
        exact follow_sound (hhere.resolve_left habsolute) (noSlash_parts path) hfound

/-- Is there a place, or a file in a place? -/
def IsResolved (t : FileTree) (loc : Location) : Prop :=
  t.IsPlace loc ∨ ∃ dir name content executable,
    loc = dir ++ [name] ∧ t.IsPlace dir ∧ IsEntryName name ∧ t.get? loc = some (.file content executable)

theorem IsResolved.isName (h : t.IsResolved loc) : ∀ name ∈ loc, IsName name := by
  obtain hplace | ⟨dir, name, content, executable, rfl, hdir, hname, -⟩ := h
  · exact hplace.isName
  · exact Path.isName_concat hdir.isName hname.toIsName

/-- **A path that is resolved** leads to a place, or to a file in a place. -/
theorem resolve_sound {here : Location} {path : String} {node : FileNode}
    (hhere : Path.isAbsolute path = true ∨ t.IsPlace here) (h : t.resolve here path = .ok (loc, node)) : t.IsResolved loc := by
  unfold resolve at h
  cases hfound : t.trace here path true with
  | error fault =>
    rw [hfound] at h
    cases h
  | ok found =>
    rw [hfound] at h
    have hsound := trace_sound hhere hfound
    obtain ⟨found, there⟩ := found
    cases there with
    | none => cases h
    | some there =>
      cases h
      have hnode : t.get? loc = some node := hsound.node.symm
      obtain rfl | ⟨dir, name, rfl⟩ := loc.eq_nil_or_concat'
      · exact .inl t.isPlace_nil
      · have hname : IsEntryName name := hsound.names name (by simp)
        have hdir : t.IsPlace dir := by
          refine ⟨fun x hx => hsound.names x (List.mem_append_left _ hx), ?_⟩
          intro above habove
          refine hsound.above (habove.trans (List.prefix_append _ _)) ?_
          rintro rfl
          exact absurd habove.length_le (by simp)
        cases node with
        | file content executable => exact .inr ⟨dir, name, content, executable, rfl, hdir, hname, hnode⟩
        | directory => exact .inl (hdir.concat hname hnode)
        -- a path is resolved to its end, so no link is left
        | link target => exact absurd rfl (hsound.final rfl target)

end FileTree

end LintPlan
