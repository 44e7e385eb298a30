import LintPlan.Proofs.FileSystem.Actions
import LintPlan.Proofs.FileSystem.Following
import LintPlan.Proofs.Text.Bytes

/-!
# Replacing a file

A file is replaced through a temporary file beside it, which then takes its name. When this succeeds, and neither the directory
of the file nor the temporary file is a link, the file has the new content and the temporary file is gone. With a link in the
place of the temporary file this need not be so: what is written goes where the link leads, and what takes the name of the
file is the link.

* **`makeParents_ok`** — the directory of the file is there, and was made if it was not.
* **`replaceFile_ok`** — what a replacement that succeeded has done to the tree.
* **`readText_replaceFile`** — reading the file gives the text that was written.
* **`replaceFile_at?`** — nothing else changes, and for this the replacement need not succeed.
* **`replaceFile_elsewhere`** — when it succeeds, the directory of the file is there besides.
-/

open LintPlan.Path (IsName)

namespace LintPlan.FileTree

variable {t t' : FileTree} {dir above : Location} {name part : String}

/-! ## §1 — places in changed trees

Directories stay directories when something is put beside or below them. -/

/-- Something else at another place leaves a place as it is. -/
theorem IsPlace.put {loc : Location} (h : t.IsPlace dir) (node : FileNode) (hother : ¬ loc <+: dir) :
    (t.put loc node).IsPlace dir := by
  have hne : loc ≠ [] := by
    rintro rfl
    exact hother List.nil_prefix
  refine ⟨h.names, ?_⟩
  intro above habove
  rw [get?_put t loc above node hne, if_neg (by rintro rfl; exact hother habove)]
  exact h.directories habove

/-- Taking away something that is not above keeps a place. -/
theorem IsPlace.erase {loc : Location} (h : t.IsPlace dir) (hother : ¬ loc <+: dir) : (t.erase loc).IsPlace dir := by
  have hne : loc ≠ [] := by
    rintro rfl
    exact hother List.nil_prefix
  refine ⟨h.names, ?_⟩
  intro above habove
  rw [get?_erase t loc above hne, if_neg (by rintro rfl; exact hother habove)]
  exact h.directories habove

theorem not_concat_above (dir : Location) (name : String) : ¬ dir ++ [name] <+: dir := by
  intro h
  have hlen := h.length_le
  rw [List.length_append, List.length_singleton] at hlen
  exact absurd hlen (Nat.not_succ_le_self _)

/-- What happens to entries of a place leaves it a place. -/
theorem IsPlace.replaced (h : t.IsPlace dir) (other name : String) (node there : FileNode) :
    (((t.put (dir ++ [other]) node).erase (dir ++ [other])).put (dir ++ [name]) there).IsPlace dir := by
  have hnot := not_concat_above dir
  exact ((h.put node (hnot other)).erase (hnot other)).put there (hnot name)

/-- A directory that is made in a place is a place. -/
theorem IsPlace.put_directory (h : t.IsPlace dir) (hname : IsEntryName name) :
    (t.put (dir ++ [name]) .directory).IsPlace (dir ++ [name]) := by
  refine (h.put .directory (not_concat_above dir name)).concat hname ?_
  rw [get?_put _ _ _ _ (List.concat_ne_nil name dir), if_pos rfl]

/-! ## §2 — finding entries

What looking up a path gives, in the cases that come up. -/

/-- An entry under a path from the root is what is found there without following a link at the end. -/
theorem findEntry_absolute (hname : IsName name) :
    t.findEntry [] (Path.absolute (dir ++ [name])) = t.find [] (Path.absolute (dir ++ [name])) false := by
  have hkeep : Text.dropEndWhile (· == '/') (Path.absolute (dir ++ [name])).toList =
      (Path.absolute (dir ++ [name])).toList := by
    rw [Text.dropEndWhile, List.reverse_eq_iff, Text.dropWhile_eq_self_iff, List.head?_reverse]
    intro c hc
    rw [beq_eq_false_iff_ne]
    rintro rfl
    exact Path.getLast?_absolute_concat dir hname hc
  have hdrop : dropSlashes (Path.absolute (dir ++ [name])) = Path.absolute (dir ++ [name]) := by
    rw [dropSlashes, hkeep, String.ofList_toList]
  rw [findEntry, hdrop, if_neg (Path.absolute_ne_empty _)]
  rfl

/-- Below a file there is nothing, and there is no way to make something. -/
theorem find_below_file {content : List UInt8} {executable : Bool} (h : t.IsPlace dir) (hname : IsEntryName name)
    (hpart : IsEntryName part) (hfile : t.get? (dir ++ [name]) = some (.file content executable)) :
    ∃ fault, fault ≠ .notFound ∧ ∀ toEnd, t.find [] (Path.absolute (dir ++ [name] ++ [part])) toEnd = .error fault := by
  by_cases hfits : Fits (Path.absolute (dir ++ [name] ++ [part]))
  · refine ⟨.notDirectory, nofun, fun toEnd => ?_⟩
    have hns := Path.isName_concat (Path.isName_concat h.isName hname.toIsName) hpart.toIsName
    have hne : dir ++ [name] ++ [part] ≠ [] := List.concat_ne_nil part _
    obtain ⟨jump, htrace⟩ := trace_absolute t toEnd hns hne hfits.possible
    rw [find, if_neg (Bool.eq_false_iff.mp hfits.short), htrace, List.append_assoc,
      along_isPlace (show t.IsPlace ([] ++ dir) from h), List.nil_append, List.singleton_append, along_trailTo hname, hfile]
    rfl
  · obtain ⟨fault, hfault, hnowhere⟩ := find_of_not_fits hfits
    exact ⟨fault, hfault, hnowhere t⟩

/-- **Where a path goes from something that is resolved**: it is found in a place, or leads nowhere. That is never for want of
a directory. -/
theorem find_resolved (habove : t.IsResolved above) (hpart : IsEntryName part) :
    t.IsPlace above ∧ Fits (Path.absolute (above ++ [part])) ∨
      ∃ fault, fault ≠ .notFound ∧ ∀ toEnd, t.find [] (Path.absolute (above ++ [part])) toEnd = .error fault := by
  obtain hplace | ⟨dir, name, content, executable, rfl, hdir, hname, hfile⟩ := habove
  · by_cases hfits : Fits (Path.absolute (above ++ [part]))
    · exact .inl ⟨hplace, hfits⟩
    · obtain ⟨fault, hfault, hfind⟩ := find_of_not_fits hfits
      exact .inr ⟨fault, hfault, hfind t⟩
  · exact .inr (find_below_file hdir hname hpart hfile)

/-! ## §3 — the directory

Making the directory of the file. -/

theorem isDirectory_of_error {here : Location} {path : String} {fault : OsFault} (h : t.find here path true = .error fault) :
    t.isDirectory here path = false := by
  rw [isDirectory, node, h]
  rfl

theorem ofReversedParts_concat (above : Location) (part : String) :
    Path.ofReversedParts (part :: (above.reverse ++ [""])) = Path.absolute (above ++ [part]) := by
  rw [← Path.ofReversedParts_absolute (List.concat_ne_nil part above), List.reverse_concat]
  rfl

/-- With the directory above in place there is one directory to make, if any. -/
theorem makeDirectories_isPlace (h : t.IsPlace above) (hpart : IsEntryName part) (hfits : Fits (Path.absolute (above ++ [part]))) :
    (makeDirectories [] (part :: (above.reverse ++ [""]))).on t =
      match t.get? (above ++ [part]) with
      | none => (t.put (above ++ [part]) .directory, .ok ())
      | some _ =>
        if t.isDirectory [] (Path.absolute (above ++ [part])) then (t, .ok ()) else (t, .error .alreadyExists) := by
  have hentry := find_isPlace false h hpart hfits nofun
  rw [← findEntry_absolute hpart.toIsName, ← ofReversedParts_concat] at hentry
  have hfound : t.findEntry [] (Path.ofReversedParts (part :: (above.reverse ++ [""]))) ≠ .error .notFound := by
    rw [hentry]
    exact nofun
  rw [makeDirectories_on hpart.notIdle _ hfound, makeDirectory_on, hentry, ofReversedParts_concat]
  cases t.get? (above ++ [part]) <;> rfl

/-- Where nothing can be found nothing is made. -/
theorem makeDirectories_nowhere {fault : OsFault} (hpart : IsEntryName part) (hfault : fault ≠ .notFound)
    (h : ∀ toEnd, t.find [] (Path.absolute (above ++ [part])) toEnd = .error fault) :
    (makeDirectories [] (part :: (above.reverse ++ [""]))).on t = (t, .error fault) := by
  have hentry := h false
  rw [← findEntry_absolute hpart.toIsName, ← ofReversedParts_concat] at hentry
  have hfound : t.findEntry [] (Path.ofReversedParts (part :: (above.reverse ++ [""]))) ≠ .error .notFound := by
    rw [hentry]
    exact fun heq => hfault (Except.error.inj heq)
  rw [makeDirectories_on hpart.notIdle _ hfound, makeDirectory_on, hentry, ofReversedParts_concat]
  dsimp only
  rw [isDirectory_of_error (h true), if_neg Bool.false_ne_true]

/-- **Making the directories down to a place**, whatever comes of it: at most the place itself is made, if nothing is there. -/
theorem makeDirectories_tree (habove : t.IsResolved above) (hpart : IsEntryName part) :
    ((makeDirectories [] (part :: (above.reverse ++ [""]))).on t).1 = t ∨
      t.get? (above ++ [part]) = none ∧
        ((makeDirectories [] (part :: (above.reverse ++ [""]))).on t).1 = t.put (above ++ [part]) .directory := by
  rcases find_resolved habove hpart with ⟨hplace, hfits⟩ | ⟨fault, hfault, hfind⟩
  · rw [makeDirectories_isPlace hplace hpart hfits]
    cases t.get? (above ++ [part]) with
    | none => exact .inr ⟨rfl, rfl⟩
    | some node =>
      dsimp only
      split <;> exact .inl rfl
  · rw [makeDirectories_nowhere hpart hfault hfind]
    exact .inl rfl

/-- When it succeeds, the place is there, unless what is called like it is a link. -/
theorem makeDirectories_ok (habove : t.IsResolved above) (hpart : IsEntryName part)
    (hlink : ∀ target, t.get? (above ++ [part]) ≠ some (.link target))
    (h : (makeDirectories [] (part :: (above.reverse ++ [""]))).on t = (t', .ok ())) :
    t'.IsPlace (above ++ [part]) := by
  rcases find_resolved habove hpart with ⟨hplace, hfits⟩ | ⟨fault, hfault, hfind⟩
  · rw [makeDirectories_isPlace hplace hpart hfits] at h
    have hfind := find_isPlace true hplace hpart hfits fun _ => hlink
    cases hnode : t.get? (above ++ [part]) with
    | none =>
      rw [hnode] at h
      cases h
      exact hplace.put_directory hpart
    | some node =>
      rw [hnode] at h hfind
      dsimp only at h
      rw [isDirectory, FileTree.node, hfind] at h
      cases node with
      -- a file in its place is a fault
      | file content executable => cases h
      | directory =>
        cases h
        exact hplace.concat hpart hnode
      | link target => exact absurd hnode (hlink target)
  · rw [makeDirectories_nowhere hpart hfault hfind] at h
    cases h

/-- The directories above a file are those of its path. -/
theorem makeParents_absolute (habove : t.IsResolved above) (hpart : IsEntryName part) (hname : IsName name) :
    makeParents [] (Path.absolute (above ++ [part] ++ [name])) = makeDirectories [] (part :: (above.reverse ++ [""])) := by
  have hnames := Path.isName_concat habove.isName hpart.toIsName
  have hparts : (Path.parts (Path.absolute (above ++ [part]))).reverse = part :: (above.reverse ++ [""]) := by
    rw [Path.parts_absolute hnames (List.concat_ne_nil part above), List.reverse_cons,
      List.reverse_concat]
    rfl
  rw [makeParents, Path.parent?_absolute hnames hname]
  dsimp only
  rw [hparts]

/-- **The directory of a path** is made, or is there. -/
theorem makeParents_ok (habove : t.IsResolved above) (hpart : IsEntryName part) (hname : IsName name)
    (hlink : ∀ target, t.get? (above ++ [part]) ≠ some (.link target))
    (h : (makeParents [] (Path.absolute (above ++ [part] ++ [name]))).on t = (t', .ok ())) :
    t'.IsPlace (above ++ [part]) ∧
      (t' = t ∨ t.get? (above ++ [part]) = none ∧ t' = t.put (above ++ [part]) .directory) := by
  rw [makeParents_absolute habove hpart hname] at h
  have htree := makeDirectories_tree habove hpart
  rw [h] at htree
  exact ⟨makeDirectories_ok habove hpart hlink h, htree⟩

/-! ## §4 — the file

Writing it under another name and renaming it. -/

/-- Writing a file in a place, when it succeeds and what is there is no link. -/
theorem writeFile_ok {content : List UInt8} (h : t.IsPlace dir) (hname : IsEntryName name)
    (hlink : ∀ target, t.get? (dir ++ [name]) ≠ some (.link target))
    (hwrite : (writeFile [] (Path.absolute (dir ++ [name])) content).on t = (t', .ok ())) :
    ∃ executable, t' = t.put (dir ++ [name]) (.file content executable) := by
  rw [writeFile_on] at hwrite
  by_cases hfits : Fits (Path.absolute (dir ++ [name]))
  · rw [find_isPlace true h hname hfits fun _ => hlink] at hwrite
    cases hnode : t.get? (dir ++ [name]) with
    | none =>
      rw [hnode] at hwrite
      cases hwrite
      exact ⟨false, rfl⟩
    | some node =>
      rw [hnode] at hwrite
      cases node with
      | file old executable =>
        cases hwrite
        exact ⟨executable, rfl⟩
      | directory => cases hwrite
      | link target => exact absurd hnode (hlink target)
  · obtain ⟨fault, -, hfind⟩ := find_of_not_fits hfits
    rw [hfind] at hwrite
    cases hwrite

/-- The name of the temporary file. -/
def temporaryName (name : String) : String := "." ++ name ++ ".tmp"

theorem temporaryPath_absolute (hdir : ∀ x ∈ dir, IsName x) (hname : IsName name) (htemporary : IsName (temporaryName name)) :
    temporaryPath (Path.absolute (dir ++ [name])) = Path.absolute (dir ++ [temporaryName name]) := by
  rw [temporaryPath, Path.fileName_absolute hdir hname]
  exact Path.withFileName_absolute hdir hname htemporary

theorem find_ok {found : Found} (toEnd : Bool) (h : t.IsPlace dir) (hname : IsEntryName name)
    (hend : toEnd = true → ∀ target, t.get? (dir ++ [name]) ≠ some (.link target))
    (hfound : t.find [] (Path.absolute (dir ++ [name])) toEnd = .ok found) :
    found = ⟨dir ++ [name], t.get? (dir ++ [name])⟩ ∧ Fits (Path.absolute (dir ++ [name])) := by
  by_cases hfits : Fits (Path.absolute (dir ++ [name]))
  · rw [find_isPlace toEnd h hname hfits hend] at hfound
    exact ⟨(Except.ok.inj hfound).symm, hfits⟩
  · obtain ⟨fault, -, hnowhere⟩ := find_of_not_fits hfits
    rw [hnowhere] at hfound
    cases hfound

theorem findEntry_ok {found : Found} (h : t.IsPlace dir) (hname : IsEntryName name)
    (hfound : t.findEntry [] (Path.absolute (dir ++ [name])) = .ok found) :
    found = ⟨dir ++ [name], t.get? (dir ++ [name])⟩ ∧ Fits (Path.absolute (dir ++ [name])) := by
  rw [findEntry_absolute hname.toIsName] at hfound
  exact find_ok false h hname nofun hfound

/-- A directory that was made is no link, and brings none. -/
theorem unlinked_of_made {made : FileTree} {loc : Location} (hne : dir ≠ [])
    (hmade : made = t ∨ t.get? dir = none ∧ made = t.put dir .directory)
    (hlink : ∀ target, t.get? loc ≠ some (.link target)) : ∀ target, made.get? loc ≠ some (.link target) := by
  intro target
  obtain rfl | ⟨-, rfl⟩ := hmade
  · exact hlink target
  · rw [get?_put _ _ _ _ hne]
    split
    · exact nofun
    · exact hlink target

/-- **What a replacement that succeeded has done.** -/
theorem replaceFile_ok {text : String} (habove : t.IsResolved above) (hpart : IsEntryName part) (hname : IsEntryName name)
    (htemporary : IsEntryName (temporaryName name)) (hlink : ∀ target, t.get? (above ++ [part]) ≠ some (.link target))
    (hlink' : ∀ target, t.get? (above ++ [part] ++ [temporaryName name]) ≠ some (.link target))
    (h : (replaceFile [] (Path.absolute (above ++ [part] ++ [name])) text).on t = (t', .ok ())) :
    ∃ made executable, made.IsPlace (above ++ [part]) ∧
      (made = t ∨ t.get? (above ++ [part]) = none ∧ made = t.put (above ++ [part]) .directory) ∧
      Fits (Path.absolute (above ++ [part] ++ [name])) ∧
      t' = ((made.put (above ++ [part] ++ [temporaryName name]) (.file (Text.bytesOf text) executable)).erase
        (above ++ [part] ++ [temporaryName name])).put (above ++ [part] ++ [name]) (.file (Text.bytesOf text) executable) := by
  have hdirnames := Path.isName_concat habove.isName hpart.toIsName
  obtain ⟨made, _, hmake, hrest⟩ := FileAction.on_bind_ok.mp h
  obtain ⟨written, _, hwrite, hrename⟩ := FileAction.on_bind_ok.mp hrest
  rw [temporaryPath_absolute hdirnames hname.toIsName htemporary.toIsName] at hwrite hrename
  obtain ⟨hplace, hmade⟩ := makeParents_ok habove hpart hname.toIsName hlink hmake
  have hne : ∀ x : String, above ++ [part] ++ [x] ≠ [] := fun x =>
    List.concat_ne_nil x _
  obtain ⟨executable, rfl⟩ := writeFile_ok hplace htemporary (unlinked_of_made (List.concat_ne_nil part above) hmade hlink') hwrite
  -- the new content is in a file beside, so the directory is still a place, and what is moved is this file
  have hplace' := hplace.put (.file (Text.bytesOf text) executable)
    (not_concat_above (above ++ [part]) (temporaryName name))
  obtain ⟨source, moved, target, hsource, htarget, rfl⟩ := renameFile_ok hrename
  obtain ⟨hsource, -⟩ := findEntry_ok hplace' htemporary hsource
  obtain ⟨rfl, hfits⟩ := findEntry_ok hplace' hname htarget
  rw [get?_put _ _ _ _ (hne _), if_pos rfl] at hsource
  cases hsource
  exact ⟨made, executable, hplace, hmade, hfits, rfl⟩

/-! ## §5 — reading it back

What was written is read. -/

/-- The temporary name is longer than the name. -/
theorem temporaryName_ne (name : String) : temporaryName name ≠ name := by
  intro h
  -- it is five characters longer
  have hlen := congrArg String.length h
  rw [temporaryName, String.length_append, String.length_append] at hlen
  have hdot : ".".length = 1 := rfl
  have hend : ".tmp".length = 4 := rfl
  omega

/-- **Reading back:** after a replacement that succeeded the file holds the text, and the temporary file is gone. -/
theorem readText_replaceFile {text : String} (habove : t.IsResolved above) (hpart : IsEntryName part)
    (hname : IsEntryName name) (htemporary : IsEntryName (temporaryName name))
    (hlink : ∀ target, t.get? (above ++ [part]) ≠ some (.link target))
    (hlink' : ∀ target, t.get? (above ++ [part] ++ [temporaryName name]) ≠ some (.link target))
    (h : (replaceFile [] (Path.absolute (above ++ [part] ++ [name])) text).on t = (t', .ok ())) :
    t'.readText [] (Path.absolute (above ++ [part] ++ [name])) = .ok text ∧
      t'.get? (above ++ [part] ++ [temporaryName name]) = none := by
  obtain ⟨made, executable, hplace, -, hfits, rfl⟩ := replaceFile_ok habove hpart hname htemporary hlink hlink' h
  have hne : ∀ x : String, above ++ [part] ++ [x] ≠ [] := fun x =>
    List.concat_ne_nil x _
  have hother : above ++ [part] ++ [temporaryName name] ≠ above ++ [part] ++ [name] := by
    intro heq
    exact temporaryName_ne name (List.singleton_inj.mp (List.append_cancel_left heq))
  have hplace' := hplace.replaced (temporaryName name) name (.file (Text.bytesOf text) executable)
    (.file (Text.bytesOf text) executable)
  constructor
  · have hread := find_isPlace true hplace' hname hfits (by
      rintro - target
      rw [get?_put _ _ _ _ (hne name), if_pos rfl]
      exact nofun)
    rw [get?_put _ _ _ _ (hne name), if_pos rfl] at hread
    rw [readText, readBytes, node, hread]
    dsimp only [present]
    rw [Text.ofBytes?_bytesOf]
  · rw [get?_put _ _ _ _ (hne name), if_neg hother, get?_erase _ _ _ (hne _), if_pos rfl]

/-! ## §6 — elsewhere

All other places stay as they are. -/

/-- The places that change when a file is replaced: that of the file, that of the temporary file, and that of the directory if
it is not there yet. -/
def touched (t : FileTree) (dir : Location) (name : String) : List Location :=
  (if t.get? dir = none then [dir] else []) ++ [dir ++ [temporaryName name], dir ++ [name]]

/-- All places that are touched lie in the directory. -/
theorem prefix_of_mem_touched {loc : Location} (h : loc ∈ t.touched dir name) : dir <+: loc := by
  rcases List.mem_append.mp h with hdir | hfile
  · split at hdir
    · exact List.mem_singleton.mp hdir ▸ List.prefix_refl dir
    · cases hdir
  · rcases List.mem_pair.mp hfile with rfl | rfl
    · exact List.prefix_append _ _
    · exact List.prefix_append _ _

section
variable {text : String}

/-- **Elsewhere nothing changes** when a file is replaced, whether this succeeds or is refused on the way. -/
theorem replaceFile_at? (habove : t.IsResolved above) (hpart : IsEntryName part) (hname : IsEntryName name)
    (htemporary : IsEntryName (temporaryName name)) (hlink : ∀ target, t.get? (above ++ [part]) ≠ some (.link target))
    (hlink' : ∀ target, t.get? (above ++ [part] ++ [temporaryName name]) ≠ some (.link target)) {l : List FileName}
    (hl : ∀ loc ∈ t.touched (above ++ [part]) name, l ≠ loc.map .ofText) :
    ((replaceFile [] (Path.absolute (above ++ [part] ++ [name])) text).on t).1.at? l = t.at? l := by
  rw [touched, List.forall_mem_append, List.forall_mem_cons, List.forall_mem_singleton] at hl
  obtain ⟨hdir, hother, hfile⟩ := hl
  unfold replaceFile
  rw [temporaryPath_absolute (Path.isName_concat habove.isName hpart.toIsName) hname.toIsName htemporary.toIsName]
  refine FileAction.on_bind_at? ?_ fun made _ hmake => ?_
  · -- the directory is made only if nothing is there
    rw [makeParents_absolute habove hpart hname.toIsName]
    rcases makeDirectories_tree habove hpart with hsame | ⟨hnone, hput⟩
    · rw [hsame]
    · rw [if_pos hnone, List.forall_mem_singleton] at hdir
      rw [hput, at?_put_of_ne _ hdir]
  obtain ⟨hplace, hmade⟩ := makeParents_ok habove hpart hname.toIsName hlink hmake
  have hkept := unlinked_of_made (List.concat_ne_nil part above) hmade hlink'
  refine FileAction.on_bind_at? ?_ fun written _ hwrite => ?_
  · refine writeFile_at? fun found hfound => ?_
    rwa [(find_ok true hplace htemporary (fun _ => hkept) hfound).1]
  obtain ⟨executable, rfl⟩ := writeFile_ok hplace htemporary hkept hwrite
  have hplace' := hplace.put (.file (Text.bytesOf text) executable) (not_concat_above (above ++ [part]) (temporaryName name))
  refine renameFile_at? (fun found hfound => ?_) fun found hfound => ?_
  · rwa [(findEntry_ok hplace' htemporary hfound).1]
  · rwa [(findEntry_ok hplace' hname hfound).1]

/-- When it succeeds, the directory is there. -/
theorem replaceFile_elsewhere (habove : t.IsResolved above) (hpart : IsEntryName part)
    (hname : IsEntryName name) (htemporary : IsEntryName (temporaryName name))
    (hlink : ∀ target, t.get? (above ++ [part]) ≠ some (.link target))
    (hlink' : ∀ target, t.get? (above ++ [part] ++ [temporaryName name]) ≠ some (.link target))
    (h : (replaceFile [] (Path.absolute (above ++ [part] ++ [name])) text).on t = (t', .ok ())) :
    t'.IsPlace (above ++ [part]) ∧ (t.get? (above ++ [part]) = none ∨ t.get? (above ++ [part]) = some .directory) ∧
      ∀ l : List FileName, (∀ loc ∈ t.touched (above ++ [part]) name, l ≠ loc.map .ofText) → t'.at? l = t.at? l := by
  obtain ⟨made, executable, hplace, hmade, -, htree⟩ := replaceFile_ok habove hpart hname htemporary hlink hlink' h
  refine ⟨htree ▸ hplace.replaced _ _ _ _, ?_, ?_⟩
  · obtain rfl | ⟨hnone, -⟩ := hmade
    · exact .inr (hplace.directories (List.prefix_refl _))
    · exact .inl hnone
  · intro l hl
    rw [← replaceFile_at? habove hpart hname htemporary hlink hlink' hl, h]

end

end LintPlan.FileTree
