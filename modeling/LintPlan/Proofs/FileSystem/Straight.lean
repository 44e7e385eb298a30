import LintPlan.FileSystem.Writing
import LintPlan.Proofs.FileSystem.Ways
import Mathlib.Data.List.TakeWhile

/-!
# Paths without links on the way

As long as nothing on its way is a link, a path can only lead to one place, and which one is seen from its parts: names go down
and two dots go up. Whether the path leads anywhere at all still depends on the tree.

* **`placeOf`**, **`wayOf`** — the place that a path stands for, and the places on the way down to it.
* **`find_straight`**, **`findEntry_straight`** — what is found is found at that place.
* **`placeOf_append`** — going down by one name.
* **`find_again`** — what was found at the end of a path is found again in a tree that has the same directories.
-/

namespace LintPlan.FileTree

variable {t t' : FileTree} {here loc l : Location} {part path dir name : String} {rest parts ps qs : List String} {found : Found}

/-! ## §1 — places and ways

Without links a path can be followed on its names alone: the place it leads to, and the places it enters. -/

/-- Where parts of a path lead to from a place. -/
def endOf : Location → List String → Location
  | loc, [] => loc
  | loc, part :: rest =>
    if Path.isIdle part then endOf loc rest
    else if part = ".." then endOf loc.dropLast rest
    else endOf (loc ++ [part]) rest

/-- The places that parts of a path go down to, one after the other. -/
def entered : Location → List String → List Location
  | _, [] => []
  | loc, part :: rest =>
    if Path.isIdle part then entered loc rest
    else if part = ".." then entered loc.dropLast rest
    else (loc ++ [part]) :: entered (loc ++ [part]) rest

/-- The place that a path stands for. -/
@[irreducible]
def placeOf (here : Location) (path : String) : Location := endOf (start here path) (Path.parts path)

/-- The places on the way of a path: whatever one of its names leads down to. -/
def wayOf (here : Location) (path : String) : List Location := entered (start here path) (Path.parts path)

theorem endOf_idle (hidle : Path.isIdle part = true) (loc : Location) : endOf loc (part :: rest) = endOf loc rest := by
  rw [endOf, if_pos hidle]

theorem entered_idle (hidle : Path.isIdle part = true) (loc : Location) : entered loc (part :: rest) = entered loc rest := by
  rw [entered, if_pos hidle]

theorem endOf_up (loc : Location) : endOf loc (".." :: rest) = endOf loc.dropLast rest := by
  rw [endOf, if_neg (by decide), if_pos rfl]

theorem entered_up (loc : Location) : entered loc (".." :: rest) = entered loc.dropLast rest := by
  rw [entered, if_neg (by decide), if_pos rfl]

theorem endOf_name (hidle : Path.isIdle part = false) (hup : part ≠ "..") (loc : Location) :
    endOf loc (part :: rest) = endOf (loc ++ [part]) rest := by
  rw [endOf, if_neg (by simp [hidle]), if_neg hup]

theorem entered_name (hidle : Path.isIdle part = false) (hup : part ≠ "..") (loc : Location) :
    entered loc (part :: rest) = (loc ++ [part]) :: entered (loc ++ [part]) rest := by
  rw [entered, if_neg (by simp [hidle]), if_neg hup]

/-- Two paths, one behind the other. -/
theorem endOf_append (loc : Location) (ps qs : List String) : endOf loc (ps ++ qs) = endOf (endOf loc ps) qs := by
  induction ps generalizing loc with
  | nil => rfl
  | cons part ps ih =>
    simp only [List.cons_append, endOf]
    split
    · exact ih loc
    · split <;> exact ih _

/-- What both enter. -/
theorem entered_append (loc : Location) (ps qs : List String) :
    entered loc (ps ++ qs) = entered loc ps ++ entered (endOf loc ps) qs := by
  induction ps generalizing loc with
  | nil => rfl
  | cons part ps ih =>
    simp only [List.cons_append, endOf, entered]
    split
    · exact ih loc
    · split
      · exact ih _
      · rw [ih, List.cons_append]

theorem entered_of_idle (h : ∀ part ∈ ps, Path.isIdle part = true) (loc : Location) : entered loc ps = [] := by
  induction ps with
  | nil => rfl
  | cons part ps ih =>
    obtain ⟨hpart, hps⟩ := List.forall_mem_cons.mp h
    rw [entered_idle hpart, ih hps]

theorem endOf_of_idle (h : ∀ part ∈ ps, Path.isIdle part = true) (loc : Location) : endOf loc ps = loc := by
  induction ps with
  | nil => rfl
  | cons part ps ih =>
    obtain ⟨hpart, hps⟩ := List.forall_mem_cons.mp h
    rw [endOf_idle hpart, ih hps]

/-- Without two dots it only goes down. -/
theorem length_entered (hup : ".." ∉ ps) (loc : Location) :
    loc.length ≤ (endOf loc ps).length ∧ ∀ l ∈ entered loc ps, l.length ≤ (endOf loc ps).length := by
  induction ps generalizing loc with
  | nil => exact ⟨Nat.le_refl _, nofun⟩
  | cons part ps ih =>
    obtain ⟨hpart, hps⟩ := not_or.mp (mt List.mem_cons.mpr hup)
    cases hidle : Path.isIdle part with
    | true =>
      rw [endOf_idle hidle, entered_idle hidle]
      exact ih hps loc
    | false =>
      rw [endOf_name hidle (Ne.symm hpart), entered_name hidle (Ne.symm hpart)]
      obtain ⟨hdown, hway⟩ := ih hps (loc ++ [part])
      refine ⟨?_, List.forall_mem_cons.mpr ⟨hdown, hway⟩⟩
      rw [List.length_append] at hdown
      omega

/-- Only parts that lead somewhere count. -/
theorem endOf_filter (loc : Location) (ps : List String) : endOf loc (ps.filter fun part => !Path.isIdle part) = endOf loc ps := by
  induction ps generalizing loc with
  | nil => rfl
  | cons part ps ih =>
    cases hidle : Path.isIdle part with
    | true => rw [List.filter_cons_of_neg (by simp [hidle]), endOf_idle hidle, ih]
    | false =>
      rw [List.filter_cons_of_pos (by simp [hidle])]
      simp only [endOf, ih]

/-! ## §2 — what is found

Looking up such a path finds that place. -/

/-- Nothing on the way is a link. -/
def Linkless (t : FileTree) (way : List Location) : Prop := ∀ l ∈ way, ∀ target, t.get? l ≠ some (.link target)

/-- What is not gone into is found only at the end of a path. -/
theorem last_of_found {last : Found} {fault : OsFault}
    (h : (if rest.isEmpty then .ok last else .error fault) = (.ok found : Except OsFault Found)) : rest = [] ∧ found = last := by
  cases rest with
  | nil => exact ⟨rfl, (Except.ok.inj h).symm⟩
  | cons next more => cases h

/-- Without links on the way the walk ends where the names say. Induction on the parts, by what each can be. -/
theorem along_straight {toEnd : Bool} {jump : Trail → List String → Except OsFault Found}
    (hparts : ∀ part ∈ parts, '/' ∉ part.toList) (hlinks : t.Linkless (entered loc parts))
    (hfound : t.along toEnd jump (t.trailTo loc) parts = .ok found) :
    found.location = endOf loc parts ∧ (found.node = none → found.location ∈ entered loc parts) := by
  induction parts generalizing loc with
  | nil =>
    rw [along, location_trailTo] at hfound
    cases hfound
    refine ⟨rfl, fun hnone => ?_⟩
    cases hnone
  | cons part rest ih =>
    obtain ⟨hpart, hrest⟩ := List.forall_mem_cons.mp hparts
    rcases part_cases hpart with hidle | rfl | ⟨hidle, hup, hlong⟩ | hname
    · rw [along_idle hidle] at hfound
      rw [entered_idle hidle] at hlinks
      rw [endOf_idle hidle, entered_idle hidle]
      exact ih hrest hlinks hfound
    · rw [along_up, tail_trailTo] at hfound
      rw [entered_up] at hlinks
      rw [endOf_up, entered_up]
      exact ih hrest hlinks hfound
    · rw [along_long hidle hup hlong] at hfound
      cases hfound
    · rw [entered_name hname.notIdle hname.notUp] at hlinks
      obtain ⟨hnolink, hlinks⟩ := List.forall_mem_cons.mp hlinks
      rw [endOf_name hname.notIdle hname.notUp, entered_name hname.notIdle hname.notUp]
      rw [along_trailTo hname] at hfound
      cases hnode : t.get? (loc ++ [part]) with
      | none =>
        rw [hnode] at hfound
        obtain ⟨rfl, rfl⟩ := last_of_found hfound
        exact ⟨rfl, fun _ => List.mem_cons_self⟩
      | some node =>
        rw [hnode] at hfound
        cases node with
        | file content executable =>
          obtain ⟨rfl, rfl⟩ := last_of_found hfound
          exact ⟨rfl, fun _ => List.mem_cons_self⟩
        | directory =>
          obtain ⟨hlocation, hnone⟩ := ih hrest hlinks hfound
          exact ⟨hlocation, fun h => List.mem_cons_of_mem _ (hnone h)⟩
        | link target => exact absurd hnode (hnolink target)

/-- So for a whole path. -/
theorem trace_straight {toEnd : Bool} (hlinks : t.Linkless (wayOf here path))
    (hfound : t.trace here path toEnd = .ok found) :
    found.location = placeOf here path ∧ (found.node = none → found.location ∈ wayOf here path) := by
  unfold trace at hfound
  split at hfound
  · cases hfound
  · split at hfound
    · cases hfound
    · obtain ⟨jump, hjump⟩ := follow_eq_along t toEnd mostLinks
      rw [hjump, origin_trailTo] at hfound
      rw [placeOf]
      exact along_straight (noSlash_parts path) hlinks hfound

/-- **What is found at the end of a path** is found at its place. -/
theorem find_straight {toEnd : Bool} (hlinks : t.Linkless (wayOf here path)) (hfound : t.find here path toEnd = .ok found) :
    found.location = placeOf here path := by
  unfold find at hfound
  split at hfound
  · cases hfound
  · exact (trace_straight hlinks hfound).1

/-! ## §3 — slashes at the end

Slashes behind a path do not change where it leads. -/

/-- A path is itself without the slashes at its end, and these slashes. -/
theorem exists_slashes (path : String) : ∃ k, path.toList = (dropSlashes path).toList ++ List.replicate k '/' := by
  refine ⟨(path.toList.reverse.takeWhile (· == '/')).length, ?_⟩
  have hslashes : path.toList.reverse.takeWhile (· == '/') =
      List.replicate (path.toList.reverse.takeWhile (· == '/')).length '/' := by
    rw [List.eq_replicate_iff]
    refine ⟨rfl, fun c hc => ?_⟩
    have hslash : (c == '/') = true := List.mem_takeWhile_imp (p := (· == '/')) hc
    exact eq_of_beq hslash
  have hsplit := congrArg List.reverse (List.takeWhile_append_dropWhile (p := (· == '/')) (l := path.toList.reverse))
  rw [List.reverse_append, List.reverse_reverse, hslashes, List.reverse_replicate] at hsplit
  rw [dropSlashes, String.toList_ofList, Text.dropEndWhile]
  exact hsplit.symm

theorem splitOn_append_replicate (sep : Char) (cs : List Char) (k : Nat) :
    Text.splitOn sep (cs ++ List.replicate k sep) = Text.splitOn sep cs ++ List.replicate k [] := by
  induction k generalizing cs with
  | zero => simp
  | succ k ih =>
    -- one separator more ends a piece with nothing in it
    rw [List.replicate_succ', ← List.append_assoc, Text.splitOn_append_sep, ih, List.replicate_succ', List.append_assoc]
    rfl

/-- Slashes at the end of a path do not count, unless there is nothing else. -/
theorem parts_dropSlashes (path : String) : ∃ k, Path.parts path = Path.parts (dropSlashes path) ++ List.replicate k "" := by
  obtain ⟨k, hpath⟩ := exists_slashes path
  refine ⟨k, ?_⟩
  rw [Path.parts, hpath, splitOn_append_replicate, List.map_append, List.map_replicate]
  rfl

theorem start_dropSlashes (hne : dropSlashes path ≠ "") : start here (dropSlashes path) = start here path := by
  obtain ⟨k, hpath⟩ := exists_slashes path
  have hcons : (dropSlashes path).toList ≠ [] := mt String.toList_eq_nil_iff.mp hne
  rw [start, start, Path.isAbsolute, Path.isAbsolute, hpath, List.head?_append_of_ne_nil _ hcons]

theorem isIdle_of_mem_replicate {k : Nat} : ∀ part ∈ List.replicate k "", Path.isIdle part = true := by
  intro part hpart
  rw [List.eq_of_mem_replicate hpart]
  decide

theorem placeOf_dropSlashes (hne : dropSlashes path ≠ "") : placeOf here (dropSlashes path) = placeOf here path := by
  obtain ⟨k, hparts⟩ := parts_dropSlashes path
  rw [placeOf, placeOf, start_dropSlashes hne, hparts, endOf_append, endOf_of_idle isIdle_of_mem_replicate]

theorem wayOf_dropSlashes (hne : dropSlashes path ≠ "") : wayOf here (dropSlashes path) = wayOf here path := by
  obtain ⟨k, hparts⟩ := parts_dropSlashes path
  rw [wayOf, wayOf, start_dropSlashes hne, hparts, entered_append, entered_of_idle isIdle_of_mem_replicate, List.append_nil]

/-- **The entry under the last name of a path** is found at the place of the path, and if nothing is there, it is on the way. -/
theorem findEntry_straight (hlinks : t.Linkless (wayOf here path)) (hfound : t.findEntry here path = .ok found) :
    found.location = placeOf here path ∧ (found.node = none → found.location ∈ wayOf here path) := by
  unfold findEntry at hfound
  split at hfound
  · cases hfound
  · split at hfound
    · exact trace_straight hlinks hfound
    · next hne =>
      rw [← placeOf_dropSlashes hne, ← wayOf_dropSlashes hne]
      rw [← wayOf_dropSlashes hne] at hlinks
      exact trace_straight hlinks hfound

/-! ## §4 — what is found again

After a change that keeps directories, the same path finds the same place. -/

/-- What is no directory is found at the end of a path only, so that a file in its place is found in a tree with the same
directories. -/
theorem along_again {toEnd : Bool} {jump jump' : Trail → List String → Except OsFault Found} {node : Option FileNode}
    {content : List UInt8} {executable : Bool} (hparts : ∀ part ∈ parts, '/' ∉ part.toList)
    (hlinks : t.Linkless (entered loc parts)) (hfound : t.along toEnd jump (t.trailTo loc) parts = .ok ⟨l, node⟩)
    (hnode : node ≠ some .directory) (hdirectories : ∀ l, t.get? l = some .directory → t'.get? l = some .directory)
    (hfile : t'.get? l = some (.file content executable)) :
    t'.along true jump' (t'.trailTo loc) parts = .ok ⟨l, some (.file content executable)⟩ := by
  induction parts generalizing loc with
  | nil =>
    cases hfound
    exact absurd rfl hnode
  | cons part rest ih =>
    obtain ⟨hpart, hrest⟩ := List.forall_mem_cons.mp hparts
    rcases part_cases hpart with hidle | rfl | ⟨hidle, hup, hlong⟩ | hname
    · rw [along_idle hidle] at hfound ⊢
      rw [entered_idle hidle] at hlinks
      exact ih hrest hlinks hfound
    · rw [along_up, tail_trailTo] at hfound ⊢
      rw [entered_up] at hlinks
      exact ih hrest hlinks hfound
    · rw [along_long hidle hup hlong] at hfound
      cases hfound
    · rw [entered_name hname.notIdle hname.notUp] at hlinks
      obtain ⟨hnolink, hlinks⟩ := List.forall_mem_cons.mp hlinks
      rw [along_trailTo hname] at hfound ⊢
      cases hthere : t.get? (loc ++ [part]) with
      | none =>
        rw [hthere] at hfound
        obtain ⟨rfl, hlast⟩ := last_of_found hfound
        cases hlast
        rw [hfile]
        rfl
      | some there =>
        rw [hthere] at hfound
        cases there with
        | file old flag =>
          obtain ⟨rfl, hlast⟩ := last_of_found hfound
          cases hlast
          rw [hfile]
          rfl
        | directory =>
          rw [hdirectories _ hthere]
          exact ih hrest hlinks hfound
        | link target => exact absurd hthere (hnolink target)

/-- **A file at the place of a path is found**, where something else than a directory was found before. -/
theorem find_again {node : Option FileNode} {content : List UInt8} {executable : Bool}
    (hlinks : t.Linkless (wayOf here path)) (hslash : endsWithSlash path = false)
    (hfound : t.findEntry here path = .ok ⟨l, node⟩)
    (hnode : node ≠ some .directory) (hdirectories : ∀ l, t.get? l = some .directory → t'.get? l = some .directory)
    (hfile : t'.get? l = some (.file content executable)) :
    t'.find here path true = .ok ⟨l, some (.file content executable)⟩ := by
  -- there is nothing to drop, so both look-ups take the same path
  have hkeep : dropSlashes path = path := by
    have hlast : ∀ c, path.toList.reverse.head? = some c → (c == '/') = false := by
      intro c hc
      rw [List.head?_reverse] at hc
      rw [endsWithSlash, hc] at hslash
      simpa using hslash
    rw [dropSlashes, Text.dropEndWhile, Text.dropWhile_eq_self_iff.mpr hlast, List.reverse_reverse, String.ofList_toList]
  unfold findEntry at hfound
  rw [hkeep, ite_self] at hfound
  unfold find
  split at hfound
  · cases hfound
  · next hshort =>
    rw [if_neg hshort]
    unfold trace at hfound ⊢
    split at hfound
    · cases hfound
    · next hnul =>
      rw [if_neg hnul]
      split at hfound
      · cases hfound
      · next hempty =>
        rw [if_neg hempty]
        obtain ⟨jump, hjump⟩ := follow_eq_along t false mostLinks
        obtain ⟨jump', hjump'⟩ := follow_eq_along t' true mostLinks
        rw [hjump, origin_trailTo] at hfound
        rw [hjump', origin_trailTo]
        exact along_again (noSlash_parts path) hlinks hfound hnode hdirectories hfile

/-! ## §5 — names at the end

A path with one more name. -/

theorem parts_name (hname : '/' ∉ name.toList) : Path.parts name = [name] := by
  rw [Path.parts, Text.splitOn_of_not_mem hname, List.map_singleton, String.ofList_toList]

theorem parts_append_slash (path : String) (hname : '/' ∉ name.toList) :
    Path.parts (path ++ "/" ++ name) = Path.parts path ++ [name] := by
  have hlist : (path ++ "/" ++ name).toList = path.toList ++ '/' :: name.toList := by simp
  rw [Path.parts, hlist, Text.splitOn_append_sep, List.map_append, Text.splitOn_of_not_mem hname, List.map_singleton,
    String.ofList_toList]
  rfl

theorem isAbsolute_append (hne : path ≠ "") (more : String) : Path.isAbsolute (path ++ more) = Path.isAbsolute path := by
  have hcons : path.toList ≠ [] := mt String.toList_eq_nil_iff.mp hne
  rw [Path.isAbsolute, Path.isAbsolute, String.toList_append, List.head?_append_of_ne_nil _ hcons]

/-- **A name below a path** stands for a place right below the place of the path. -/
theorem placeOf_append (hname : Path.IsName name) (path : String) :
    placeOf here (Path.append path name) = placeOf here path ++ [name] := by
  have hdown : ∀ loc, endOf loc [name] = loc ++ [name] := fun loc => endOf_name hname.notIdle hname.notUp loc
  have hrelative : Path.isAbsolute name = false := hname.isAbsolute_eq
  by_cases hempty : path = ""
  · subst hempty
    rw [Path.append, if_pos (by simp), placeOf, placeOf, parts_name hname.noSlash, start, hrelative,
      if_neg Bool.false_ne_true, hdown]
    rfl
  rw [Path.append, if_neg (by simp [hrelative, hempty])]
  split
  · next hslash =>
    -- the last part of the path is empty, and the name takes its place
    obtain ⟨front, hfront⟩ := List.getLast?_eq_some_iff.mp (beq_iff_eq.mp hslash)
    have hlist : (path ++ name).toList = front ++ '/' :: name.toList := by simp [hfront]
    have hparts : Path.parts path = (Text.splitOn '/' front).map String.ofList ++ [""] := by
      rw [Path.parts, hfront, Text.splitOn_append_sep, List.map_append]
      rfl
    have hparts' : Path.parts (path ++ name) = (Text.splitOn '/' front).map String.ofList ++ [name] := by
      rw [Path.parts, hlist, Text.splitOn_append_sep, List.map_append, Text.splitOn_of_not_mem hname.noSlash,
        List.map_singleton, String.ofList_toList]
    rw [placeOf, placeOf, start, isAbsolute_append hempty, hparts, hparts', endOf_append, endOf_append, hdown]
    rfl
  · rw [placeOf, placeOf, parts_append_slash path hname.noSlash, endOf_append, hdown, start, String.append_assoc,
      isAbsolute_append hempty]
    rfl

/-- The place of a path with a last name ends with that name. -/
theorem exists_placeOf (here : Location) (h : Path.fileName path = some name) :
    ∃ dir, placeOf here path = dir ++ [name] ∧ Path.IsName name := by
  unfold Path.fileName at h
  split at h
  · cases h
  · next hup =>
    obtain ⟨front, hfront⟩ := List.getLast?_eq_some_iff.mp h
    have hmem : name ∈ Path.names path := hfront ▸ List.mem_append_right front List.mem_cons_self
    obtain ⟨hpart, hidle⟩ := List.mem_filter.mp hmem
    have hname : Path.IsName name := by
      refine ⟨by simpa using hidle, ?_, noSlash_parts path name hpart⟩
      rintro rfl
      exact hup h
    refine ⟨endOf (start here path) front, ?_, hname⟩
    rw [placeOf, ← endOf_filter]
    rw [Path.names] at hfront
    rw [hfront, endOf_append, endOf_name hname.notIdle hname.notUp]
    rfl

/-! ## §6 — the directories that a path lies in

The way to a path passes through all directories above it. -/

/-- A path starts at the root if its first part is empty and not the only one. -/
theorem isAbsolute_iff (path : String) : Path.isAbsolute path = true ↔ ∃ next more, Path.parts path = "" :: next :: more := by
  rw [Path.isAbsolute, Path.parts, beq_iff_eq]
  cases path.toList with
  | nil => simp [Text.splitOn]
  | cons c cs =>
    obtain ⟨piece, pieces, hrest⟩ := List.exists_cons_of_ne_nil (Text.splitOn_ne_nil '/' cs)
    rw [Text.splitOn, hrest]
    by_cases hslash : c = '/'
    · rw [if_pos hslash, hslash]
      exact ⟨fun _ => ⟨_, _, rfl⟩, fun _ => rfl⟩
    · rw [if_neg hslash]
      constructor
      · intro h
        exact absurd (Option.some.inj h) hslash
      · rintro ⟨next, more, hparts⟩
        have hfirst : String.ofList (c :: piece) = "" := (List.cons.inj hparts).1
        simp at hfirst

/-- The first parts of a path, up to a name or two dots, start where the path does. -/
theorem wayOf_ofNames {ns : List String} {last : String} (hns : ns <+: Path.parts path) (hlast : ns.getLast? = some last)
    (hidle : Path.isIdle last = false) : wayOf here (Path.ofNames ns) = entered (start here path) ns := by
  obtain ⟨more, hparts⟩ := hns
  have hne : ns ≠ [] := by
    rintro rfl
    cases hlast
  have hslash : ∀ part ∈ ns, '/' ∉ part.toList := fun part hpart =>
    noSlash_parts path part (hparts ▸ List.mem_append_left more hpart)
  have hown : Path.parts (Path.ofNames ns) = ns := Path.parts_ofNames hslash hne
  have habsolute : Path.isAbsolute (Path.ofNames ns) = Path.isAbsolute path := by
    rw [Bool.eq_iff_iff, isAbsolute_iff, isAbsolute_iff, hown, ← hparts]
    constructor
    · rintro ⟨next, rest, rfl⟩
      exact ⟨next, rest ++ more, rfl⟩
    · rintro ⟨next, rest, heq⟩
      -- an empty part is not all there is, since it is idle
      match ns, hne with
      | [only], _ =>
        obtain rfl : only = "" := (List.cons.inj heq).1
        cases hlast
        exact absurd hidle (by decide)
      | first :: second :: others, _ =>
        obtain rfl : first = "" := (List.cons.inj heq).1
        exact ⟨second, others, rfl⟩
  rw [wayOf, hown, start, habsolute]
  rfl

theorem exists_idle_front (ps : List String) : ∃ front, (∀ part ∈ front, Path.isIdle part = true) ∧
    ps = front ++ ps.dropWhile Path.isIdle :=
  ⟨ps.takeWhile Path.isIdle, fun _ hpart => List.mem_takeWhile_imp hpart, List.takeWhile_append_dropWhile.symm⟩

/-- **The way to the directory of a path** is what its parts go down to in front of the last one that leads somewhere. -/
theorem wayOf_parent? (here : Location) (h : Path.parent? path = some dir) :
    ∃ up last idle, Path.parts path = up ++ last :: idle ∧ Path.isIdle last = false ∧
      (∀ part ∈ idle, Path.isIdle part = true) ∧ wayOf here dir = entered (start here path) up := by
  obtain ⟨behind, hbehind, hreversed⟩ := exists_idle_front (Path.parts path).reverse
  unfold Path.parent? at h
  split at h
  · cases h
  · next last up hdrop =>
    rw [hdrop] at hreversed
    have hparts : Path.parts path = up.reverse ++ last :: behind.reverse := by
      have hturned := congrArg List.reverse hreversed
      simpa using hturned
    have hlast : Path.isIdle last = false := by
      have hhead := List.head?_dropWhile_not Path.isIdle (Path.parts path).reverse
      rw [hdrop] at hhead
      simpa using hhead
    refine ⟨up.reverse, last, behind.reverse, hparts, hlast, fun part hpart => hbehind part (List.mem_reverse.mp hpart), ?_⟩
    obtain ⟨between, hbetween, hup⟩ := exists_idle_front up
    have hturned : ∀ part ∈ between.reverse, Path.isIdle part = true := fun part hpart =>
      hbetween part (List.mem_reverse.mp hpart)
    split at h
    · next hnone =>
      -- nothing is left of the path, and the directory is the root or the one at which paths start
      rw [hnone, List.append_nil] at hup
      rw [hup, entered_of_idle hturned]
      cases h
      split <;> rfl
    · next hsome =>
      cases h
      obtain ⟨first, others, hfirst⟩ := List.exists_cons_of_ne_nil hsome
      have hidle : Path.isIdle first = false := by
        have hhead := List.head?_dropWhile_not Path.isIdle up
        rw [hfirst] at hhead
        simpa using hhead
      have hprefix : (up.dropWhile Path.isIdle).reverse <+: Path.parts path := by
        refine ⟨between.reverse ++ last :: behind.reverse, ?_⟩
        rw [← List.append_assoc, ← List.reverse_append, ← hup, hparts]
      have hend : (up.dropWhile Path.isIdle).reverse.getLast? = some first := by
        rw [List.getLast?_reverse, hfirst]
        rfl
      rw [Path.ofReversedParts, wayOf_ofNames hprefix hend hidle]
      conv_rhs => rw [hup, List.reverse_append, entered_append, entered_of_idle hturned, List.append_nil]

end LintPlan.FileTree
