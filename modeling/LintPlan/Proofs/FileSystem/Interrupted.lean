import LintPlan.Proofs.FileSystem.Calls
import LintPlan.Proofs.FileSystem.Replacing
import LintPlan.Proofs.FileSystem.Straight

/-!
# Replacing a file that is interrupted

As long as no link is on its way, a file that is being replaced has its old content or its new one at each moment, and nothing
else that was there changes but the temporary file beside it.

What is put where nothing was are directories, one after the other down to the file. With two dots a path may pass through its own
place on the way there: then a directory is made where the file would be, and the file is not.

* **`Prepared`** — what is so up to the last call, and **`Replaced`** what is so after it.
* **`Phase.step`** — one step of replacing a file.
* **`replaceFile_atomic`** — what is so at any moment, wherever it stops.
-/

namespace LintPlan.FileTree

open FileProgram

variable {t t₀ t' : FileTree} {here l : Location} {path text dir : String} {p : FileProgram} {found : Found}

/-! ## §1 — the places

Which places the calls look at and touch. -/

/-- The places on the way to the directory of a path. -/
def placesAbove (here : Location) (path : String) : List Location :=
  match Path.parent? path with
  | some dir => wayOf here dir
  | none => []

/-- The places on the way of a path, and on that of the path of the temporary file. -/
def bothWays (here : Location) (path : String) : List Location := wayOf here path ++ wayOf here (temporaryPath path)

/-- What the directories above are looked up along is on the way to the file. -/
theorem placesAbove_subset (here : Location) (path : String) : placesAbove here path ⊆ wayOf here path := by
  unfold placesAbove
  cases hparent : Path.parent? path with
  | none => exact List.nil_subset _
  | some dir =>
    obtain ⟨up, last, idle, hparts, -, -, hway⟩ := wayOf_parent? here hparent
    dsimp only
    rw [hway, wayOf, hparts, entered_append]
    exact List.subset_append_left _ _

/-- Only with two dots a path can pass through its own place. -/
theorem placeOf_not_mem_placesAbove (here : Location) (hup : ".." ∉ Path.parts path) :
    placeOf here path ∉ placesAbove here path := by
  unfold placesAbove
  cases hparent : Path.parent? path with
  | none => exact List.not_mem_nil
  | some dir =>
    obtain ⟨up, last, idle, hparts, hlast, hidle, hway⟩ := wayOf_parent? here hparent
    rw [hparts] at hup
    have hdown : last ≠ ".." := by
      rintro rfl
      simp at hup
    have hplace : placeOf here path = endOf (start here path) up ++ [last] := by
      rw [placeOf, hparts, endOf_append, endOf_name hlast hdown, endOf_of_idle hidle]
    have habove := (length_entered (fun h => hup (List.mem_append_left _ h)) (start here path)).2
    dsimp only
    rw [hway, hplace]
    intro hmem
    have hlength := habove _ hmem
    simp at hlength

/-- The name of the temporary file is a name. -/
theorem isName_temporary {name : String} (hname : Path.IsName name) : Path.IsName (temporaryName name) := by
  have hlength : (temporaryName name).length = name.length + 5 := by
    rw [temporaryName, String.length_append, String.length_append]
    have hdot : ".".length = 1 := rfl
    have hend : ".tmp".length = 4 := rfl
    omega
  have hlonger : ∀ short : String, short.length < 5 → temporaryName name ≠ short := by
    rintro short hshort rfl
    omega
  refine ⟨?_, hlonger ".." (by decide), ?_⟩
  · have hempty : temporaryName name ≠ "" := hlonger "" (by decide)
    have hdot : temporaryName name ≠ "." := hlonger "." (by decide)
    simp [Path.isIdle, hempty, hdot]
  · have hslash := hname.noSlash
    simp [temporaryName, String.toList_append, hslash]

/-- **The temporary file** has a name, and is not the file itself. -/
theorem placeOf_temporaryPath (here : Location) (path : String) :
    placeOf here (temporaryPath path) ≠ [] ∧ placeOf here (temporaryPath path) ≠ placeOf here path := by
  unfold temporaryPath Path.withFileName
  cases hname : Path.fileName path with
  | none =>
    -- it lies below what the path stands for
    have hstandard : Path.IsName (temporaryName "lintscope") := ⟨by decide, by decide, by decide⟩
    rw [if_neg (by simp), show "." ++ (none : Option String).getD "lintscope" ++ ".tmp" = temporaryName "lintscope" from rfl,
      placeOf_append hstandard]
    refine ⟨List.concat_ne_nil _ _, fun heq => ?_⟩
    have hlength := congrArg List.length heq
    simp at hlength
  | some name =>
    obtain ⟨dir, hplace, hproper⟩ := exists_placeOf here hname
    rw [if_pos (by simp), show "." ++ (some name).getD "lintscope" ++ ".tmp" = temporaryName name from rfl,
      placeOf_append (isName_temporary hproper), hplace]
    refine ⟨List.concat_ne_nil _ _, fun heq => ?_⟩
    exact temporaryName_ne name (List.singleton_inj.mp (List.append_inj' heq rfl).2)

/-! ## §2 — what is called

First directories, then the temporary file, then the renaming. -/

/-- Directories are made on the way to the directory of the file only. -/
theorem onlyMakes_makingParents (here : Location) (path : String) :
    (makingParents here path).OnlyMakes fun made => wayOf here made ⊆ placesAbove here path := by
  unfold makingParents placesAbove
  cases hparent : Path.parent? path with
  | none => trivial
  | some dir =>
    refine onlyMakes_making fun part up hsuffix hidle => ?_
    have hprefix : (part :: up).reverse <+: Path.parts dir := by
      simpa using List.reverse_prefix.mpr hsuffix
    have hlast : (part :: up).reverse.getLast? = some part := by simp
    obtain ⟨more, hparts⟩ := hprefix
    rw [Path.ofReversedParts, wayOf_ofNames ⟨more, hparts⟩ hlast hidle]
    dsimp only
    rw [wayOf, ← hparts, entered_append]
    exact List.subset_append_left _ _

theorem find_node {toEnd : Bool} (hhere : t.IsPlace here) (hfound : t.find here path toEnd = .ok found) :
    found.node = t.get? found.location := by
  unfold find at hfound
  split at hfound
  · cases hfound
  · exact (trace_sound (.inr hhere) hfound).node

theorem findEntry_node (hhere : t.IsPlace here) (hfound : t.findEntry here path = .ok found) :
    found.node = t.get? found.location := by
  unfold findEntry at hfound
  split at hfound
  · cases hfound
  · exact (trace_sound (.inr hhere) hfound).node

/-! ## §3 — before the last call

The invariant up to the renaming: nothing but new directories and the temporary file. -/

/-- What is at a place is what was there, unless nothing was there and a directory was made, at one of some places. -/
def IsKept (made : List Location) (t₀ t : FileTree) (l : List FileName) : Prop :=
  t.at? l = t₀.at? l ∨ t₀.at? l = none ∧ t.at? l = some .directory ∧ ∃ loc ∈ made, l = loc.map .ofText

/-- Exactly this content is in the file at a place. -/
def HasContent (t : FileTree) (l : Location) (content : List UInt8) : Prop :=
  ∃ executable, t.get? l = some (.file content executable)

/-- The files up to the last call: only the temporary file, and the missing directories, are not as they were. -/
structure Prepared (t₀ : FileTree) (here : Location) (path : String) (t : FileTree) : Prop where
  kept : ∀ l, l ≠ (placeOf here (temporaryPath path)).map .ofText → IsKept (placesAbove here path) t₀ t l
  directories : ∀ l, t₀.get? l = some .directory → t.get? l = some .directory
  linkless : t.Linkless (bothWays here path)

theorem prepared_refl (hlinks : t₀.Linkless (bothWays here path)) : Prepared t₀ here path t₀ :=
  ⟨fun _ _ => .inl rfl, fun _ h => h, hlinks⟩

theorem Linkless.mono {way way' : List Location} (h : t.Linkless way) (hsubset : way' ⊆ way) : t.Linkless way' :=
  fun l hl => h l (hsubset hl)

/-- What is put is no link. -/
theorem Linkless.put {way : List Location} {node : FileNode} (h : t.Linkless way) (hnode : ∀ target, node ≠ .link target)
    (hne : l ≠ []) : (t.put l node).Linkless way := by
  intro other hother target
  rw [get?_put t l other node hne]
  split
  · exact fun heq => hnode target (Option.some.inj heq)
  · exact h other hother target

namespace Prepared

variable {made : String}

theorem isPlace (h : Prepared t₀ here path t) (hhere : t₀.IsPlace here) : t.IsPlace here :=
  ⟨hhere.names, fun habove => h.directories _ (hhere.directories habove)⟩

theorem linkless_path (h : Prepared t₀ here path t) : t.Linkless (wayOf here path) :=
  h.linkless.mono (List.subset_append_left _ _)

theorem linkless_temporary (h : Prepared t₀ here path t) : t.Linkless (wayOf here (temporaryPath path)) :=
  h.linkless.mono (List.subset_append_right _ _)

/-- **Making a directory** on the way to the directory of the file: at most this directory is made, where nothing was. -/
theorem makeDirectory (h : Prepared t₀ here path t) (hhere : t₀.IsPlace here) (hmade : wayOf here made ⊆ placesAbove here path) :
    Prepared t₀ here path ((makeDirectory here made).on t).1 := by
  rw [makeDirectory_on]
  cases hfound : t.findEntry here made with
  | error fault => exact h
  | ok found =>
    obtain ⟨loc, _ | node⟩ := found
    · have hlinks : t.Linkless (wayOf here made) :=
        h.linkless_path.mono (List.Subset.trans hmade (placesAbove_subset here path))
      have hmem : loc ∈ placesAbove here path := hmade ((findEntry_straight hlinks hfound).2 rfl)
      have hnone : t.get? loc = none := (findEntry_node (h.isPlace hhere) hfound).symm
      have hne : loc ≠ [] := by
        rintro rfl
        cases hnone
      refine ⟨fun l hl => ?_, fun l hl => ?_, h.linkless.put (by simp) hne⟩
      · by_cases heq : l = loc.map .ofText
        · subst heq
          -- nothing was there, since nothing is there now
          rcases h.kept _ hl with hsame | ⟨-, hdirectory, -⟩
          · exact .inr ⟨hsame.symm.trans hnone, by rw [at?_put t loc _ _ hne, if_pos rfl], loc, hmem, rfl⟩
          · cases hnone.symm.trans hdirectory
        · unfold IsKept
          rw [at?_put_of_ne _ heq]
          exact h.kept l hl
      · rw [get?_put t loc l _ hne]
        split
        · rfl
        · exact h.directories l hl
    · exact h

/-- **Writing the temporary file**, all of it or a part: nothing else changes. -/
theorem writeFile (h : Prepared t₀ here path t) (hhere : t₀.IsPlace here) (content : List UInt8) :
    Prepared t₀ here path ((writeFile here (temporaryPath path) content).on t).1 ∧
      (((writeFile here (temporaryPath path) content).on t).2 = .ok () →
        HasContent ((writeFile here (temporaryPath path) content).on t).1 (placeOf here (temporaryPath path)) content) := by
  obtain ⟨hne, -⟩ := placeOf_temporaryPath here path
  -- what is put is put at the place of the temporary file, and there is no directory there
  have hput : ∀ executable, t.get? (placeOf here (temporaryPath path)) ≠ some .directory →
      Prepared t₀ here path (t.put (placeOf here (temporaryPath path)) (.file content executable)) ∧
        HasContent (t.put (placeOf here (temporaryPath path)) (.file content executable))
          (placeOf here (temporaryPath path)) content := by
    intro executable hfile
    refine ⟨⟨fun l hl => ?_, fun l hl => ?_, h.linkless.put (by simp) hne⟩, executable, by rw [get?_put _ _ _ _ hne, if_pos rfl]⟩
    · unfold IsKept
      rw [at?_put_of_ne _ hl]
      exact h.kept l hl
    · have hother : l ≠ placeOf here (temporaryPath path) := by
        intro heq
        exact hfile (heq ▸ h.directories l hl)
      rw [get?_put_of_ne _ hother]
      exact h.directories l hl
  rw [writeFile_on]
  cases hfound : t.find here (temporaryPath path) true with
  | error fault => exact ⟨h, nofun⟩
  | ok found =>
    have hlocation := find_straight h.linkless_temporary hfound
    have hnode := find_node (h.isPlace hhere) hfound
    obtain ⟨loc, node⟩ := found
    dsimp only at hlocation hnode
    subst hlocation
    obtain _ | node := node
    · obtain ⟨hprepared, hcontent⟩ := hput false (by rw [← hnode]; nofun)
      exact ⟨hprepared, fun _ => hcontent⟩
    · cases node with
      | directory => exact ⟨h, nofun⟩
      | file old executable =>
        obtain ⟨hprepared, hcontent⟩ := hput executable (by rw [← hnode]; nofun)
        exact ⟨hprepared, fun _ => hcontent⟩
      | link target =>
        obtain ⟨hprepared, hcontent⟩ := hput false (by rw [← hnode]; nofun)
        exact ⟨hprepared, fun _ => hcontent⟩

end Prepared

/-! ## §4 — the last call

The renaming changes both places at once. -/

/-- The files after the last call: the file has the new content, and the temporary file is gone. -/
structure Replaced (t₀ : FileTree) (here : Location) (path text : String) (t : FileTree) : Prop where
  content : HasContent t (placeOf here path) (Text.bytesOf text)
  gone : t.get? (placeOf here (temporaryPath path)) = none
  read : t.readText here path = .ok text
  kept : ∀ l, l ≠ (placeOf here path).map .ofText → l ≠ (placeOf here (temporaryPath path)).map .ofText →
    IsKept (placesAbove here path) t₀ t l

/-- **The temporary file takes the name of the file**, or everything stays as it is. -/
theorem Prepared.renameFile (h : Prepared t₀ here path t) (hhere : t₀.IsPlace here)
    (hcontent : HasContent t (placeOf here (temporaryPath path)) (Text.bytesOf text)) :
    (∃ fault, (renameFile here (temporaryPath path) path).on t = (t, .error fault)) ∨
      ∃ t', (renameFile here (temporaryPath path) path).on t = (t', .ok ()) ∧ Replaced t₀ here path text t' := by
  obtain ⟨hne, hother⟩ := placeOf_temporaryPath here path
  rcases renameFile_moves here (temporaryPath path) path t with hrefused |
    ⟨source, moved, ⟨target, there⟩, hold, hnew, hslash, hdirectory, hran⟩
  · exact .inl hrefused
  refine .inr ⟨_, hran, ?_⟩
  -- what is moved is the temporary file, and it goes to the place of the file
  have hsource : source = placeOf here (temporaryPath path) := (findEntry_straight h.linkless_temporary hold).1
  have htarget : target = placeOf here path := (findEntry_straight h.linkless_path hnew).1
  subst hsource htarget
  obtain ⟨executable, hfile⟩ := hcontent
  obtain rfl : moved = .file (Text.bytesOf text) executable :=
    Option.some.inj ((findEntry_node (h.isPlace hhere) hold).trans hfile)
  have hthere : there = t.get? (placeOf here path) := findEntry_node (h.isPlace hhere) hnew
  have hroot : placeOf here path ≠ [] := by
    intro hroot
    rw [hroot] at hthere
    exact hdirectory hthere
  have hhas : ((t.erase (placeOf here (temporaryPath path))).put (placeOf here path)
      (.file (Text.bytesOf text) executable)).get? (placeOf here path) = some (.file (Text.bytesOf text) executable) := by
    rw [get?_put _ _ _ _ hroot, if_pos rfl]
  have hsame : ∀ l, l ≠ (placeOf here path).map .ofText → l ≠ (placeOf here (temporaryPath path)).map .ofText →
      ((t.erase (placeOf here (temporaryPath path))).put (placeOf here path)
        (.file (Text.bytesOf text) executable)).at? l = t.at? l := by
    intro l hl hl'
    rw [at?_put_of_ne _ hl, at?_erase_of_ne hl']
  refine ⟨⟨executable, hhas⟩, ?_, ?_, fun l hl hl' => ?_⟩
  · rw [get?_put_of_ne _ hother, get?_erase _ _ _ hne, if_pos rfl]
  · -- neither of the two places was a directory, so the path leads where it led before
    have hdirectories : ∀ l, t.get? l = some .directory →
        ((t.erase (placeOf here (temporaryPath path))).put (placeOf here path)
          (.file (Text.bytesOf text) executable)).get? l = some .directory := by
      intro l hl
      refine (hsame _ (fun heq => ?_) fun heq => ?_).trans hl
      · rw [FileName.map_ofText_inj] at heq
        exact hdirectory (hthere.trans (heq ▸ hl))
      · rw [FileName.map_ofText_inj] at heq
        rw [heq, hfile] at hl
        cases hl
    have hfind := find_again h.linkless_path hslash hnew hdirectory hdirectories hhas
    rw [readText, readBytes, node, hfind]
    dsimp only [present]
    rw [Text.ofBytes?_bytesOf]
  · unfold IsKept
    rw [hsame l hl hl']
    exact h.kept l hl'

/-! ## §5 — one step after the other

The phases of a replacement, and that each step leads from one to the next. -/

/-- The calls once the directories are there. -/
def writing (path text : String) : FileProgram :=
  (one (.writeFile (temporaryPath path) (Text.bytesOf text))).andThen (moving path)

/-- How far replacing a file has come. -/
inductive Phase (t₀ : FileTree) (here : Location) (path text : String) : FileTree × FileProgram → Prop where
  /-- Directories are made, or this was refused, or the temporary file is being written. -/
  | preparing {t : FileTree} {p : FileProgram} (h : Prepared t₀ here path t)
      (hmakes : p.OnlyMakes fun made => wayOf here made ⊆ placesAbove here path) :
      Phase t₀ here path text (t, p.andThen (writing path text))
  /-- The temporary file has the new content. -/
  | moving {t : FileTree} (h : Prepared t₀ here path t)
      (hcontent : HasContent t (placeOf here (temporaryPath path)) (Text.bytesOf text)) :
      Phase t₀ here path text (t, moving path)
  /-- The file has the new content. -/
  | replaced {t : FileTree} (h : Replaced t₀ here path text t) : Phase t₀ here path text (t, done (.ok ()))

/-- Whatever is refused ends it. -/
theorem phase_refused (h : Prepared t₀ here path t) (fault : OsFault) :
    Phase t₀ here path text (t, done (.error fault)) := .preparing (p := done (.error fault)) h trivial

/-- From the last directory to the renaming: the temporary file may be written, in part or as a whole, or refused. -/
theorem phase_writing (h : Prepared t₀ here path t) (hhere : t₀.IsPlace here)
    (hstep : Step here (t, writing path text) (t', p)) : Phase t₀ here path text (t', p) := by
  rcases step_call hstep with ⟨outcome, hran, rfl⟩ | ⟨fault, rfl, rfl⟩ | ⟨path', part, content, hcall, -, rfl, rfl⟩
  · obtain ⟨hprepared, hcontent⟩ := h.writeFile hhere (Text.bytesOf text)
    rw [show (FileTree.writeFile here (temporaryPath path) (Text.bytesOf text)).on t = (t', outcome) from hran] at hprepared hcontent
    cases outcome with
    | ok _ => exact .moving hprepared (hcontent rfl)
    | error fault => exact phase_refused hprepared fault
  · exact phase_refused h fault
  · -- some of the content is there, and writing goes on
    cases hcall
    exact .preparing (p := done (.ok ())) (h.writeFile hhere part).1 trivial

/-- **One step of replacing a file.** -/
theorem Phase.step {x y : FileTree × FileProgram} (hhere : t₀.IsPlace here) (h : Phase t₀ here path text x)
    (hstep : Step here x y) : Phase t₀ here path text y := by
  obtain ⟨t', q⟩ := y
  cases h with
  | replaced => exact absurd hstep not_step_done
  | @preparing t p h hmakes =>
    cases p with
    | done outcome =>
      cases outcome with
      | error fault => exact absurd hstep not_step_done
      | ok _ => exact phase_writing h hhere hstep
    | call c next =>
      cases c with
      | writeFile => exact hmakes.elim
      | renameFile => exact hmakes.elim
      | makeDirectory made =>
        rcases step_call hstep with ⟨outcome, hran, rfl⟩ | ⟨fault, rfl, rfl⟩ | ⟨_, _, _, hcall, -⟩
        · -- carried out, refused, or broken off, which only a write can be
          have hprepared := h.makeDirectory hhere hmakes.1
          rw [show (FileTree.makeDirectory here made).on t = (t', outcome) from hran] at hprepared
          exact .preparing hprepared (hmakes.2 t' outcome)
        · exact .preparing h (hmakes.2 t' (.error fault))
        · cases hcall
  | @moving t h hcontent =>
    rcases step_call hstep with ⟨outcome, hran, rfl⟩ | ⟨fault, rfl, rfl⟩ | ⟨_, _, _, hcall, -⟩
    · rcases h.renameFile hhere hcontent with ⟨fault, hmoved⟩ | ⟨after, hmoved, hreplaced⟩
      · cases hmoved.symm.trans hran
        exact phase_refused h fault
      · cases hmoved.symm.trans hran
        exact .replaced hreplaced
    · exact phase_refused h fault
    · cases hcall

/-- What is so at a moment, given what is still to be called. -/
structure OldOrNew (t₀ : FileTree) (here : Location) (path text : String) (t : FileTree) (p : FileProgram) : Prop where
  /-- The file is as it was, or it has exactly the new content. -/
  file : IsKept (placesAbove here path) t₀ t ((placeOf here path).map .ofText) ∨
    HasContent t (placeOf here path) (Text.bytesOf text)
  /-- When replacing it was refused, it is as it was. -/
  refused : ∀ fault, p = done (.error fault) → IsKept (placesAbove here path) t₀ t ((placeOf here path).map .ofText)
  /-- When it was replaced, it has the new content and the temporary file is gone. -/
  replaced : p = done (.ok ()) → Replaced t₀ here path text t
  /-- Anything else is as it was, also under names that are no texts. -/
  elsewhere : ∀ l, l ≠ (placeOf here path).map .ofText → l ≠ (placeOf here (temporaryPath path)).map .ofText →
    IsKept (placesAbove here path) t₀ t l

/-- In each phase the file is the old one or the new one. -/
theorem Phase.oldOrNew (h : Phase t₀ here path text (t, p)) : OldOrNew t₀ here path text t p := by
  have hother := mt FileName.map_ofText_inj.mp (placeOf_temporaryPath here path).2.symm
  cases h with
  | replaced h => exact ⟨.inr h.content, nofun, fun _ => h, h.kept⟩
  | moving h _ => exact ⟨.inl (h.kept _ hother), nofun, nofun, fun l _ hl => h.kept l hl⟩
  | @preparing _ p h _ =>
    have hkept := h.kept _ hother
    refine ⟨.inl hkept, fun _ _ => hkept, fun hdone => ?_, fun l _ hl => h.kept l hl⟩
    -- it is not over yet, unless something was refused
    cases p with
    | done outcome => cases outcome <;> cases hdone
    | call c next => cases hdone

/-- **Replacing a file is all or nothing** as long as no link is on the way: at any moment the file is as it was or has exactly
the new content, wherever it stops and whatever is refused. A directory may be where nothing was, if the path passes through
its own place. -/
theorem replaceFile_atomic (hhere : t.IsPlace here) (hlinks : t.Linkless (bothWays here path)) (text : String) :
    (∀ t' p, Reaches here (t, replacing here path text) (t', p) → OldOrNew t here path text t' p) ∧
      Reaches here (t, replacing here path text)
        (((replaceFile here path text).on t).1, done ((replaceFile here path text).on t).2) ∧
      (".." ∉ Path.parts path → placeOf here path ∉ placesAbove here path) := by
  refine ⟨fun t' p hreaches => ?_, ?_, placeOf_not_mem_placesAbove here⟩
  · have hstart : Phase t here path text (t, replacing here path text) :=
      .preparing (prepared_refl hlinks) (onlyMakes_makingParents here path)
    exact (reaches_invariant (fun h hstep => h.step hhere hstep) hreaches hstart).oldOrNew
  · rw [← replacing_on]
    exact reaches_on here _ t

/-- A file, with another one beside it that was left behind. -/
def leftBehind : FileTree := (FileTree.empty.put ["f"] (.file [1] false)).put [".f.tmp"] (.file [2] true)

/-- The moment at which the temporary file has been emptied, and nothing has been written to it yet. -/
theorem replaceFile_atomic_leftBehind :
    leftBehind.IsPlace [] ∧ leftBehind.Linkless (bothWays [] "f") ∧
      OldOrNew leftBehind [] "f" "3" ((FileTree.writeFile [] ".f.tmp" []).on leftBehind).1 (writing "f" "3") ∧
      ((FileTree.writeFile [] ".f.tmp" []).on leftBehind).1.get? ["f"] = some (.file [1] false) ∧
      ((FileTree.writeFile [] ".f.tmp" []).on leftBehind).1.get? [".f.tmp"] = some (.file [] true) := by
  have hways : bothWays [] "f" = [["f"], [".f.tmp"]] := by decide
  have hlinks : leftBehind.Linkless (bothWays [] "f") := by
    rw [hways]
    simp only [Linkless, List.forall_mem_cons]
    refine ⟨fun target => ?_, fun target => ?_, nofun⟩
    · rw [show leftBehind.get? ["f"] = some (.file [1] false) by decide]
      nofun
    · rw [show leftBehind.get? [".f.tmp"] = some (.file [2] true) by decide]
      nofun
  have hparent : Path.parent? "f" = some "" := by decide
  have hother : temporaryPath "f" = ".f.tmp" := by decide
  have hcalls : replacing [] "f" "3" = writing "f" "3" := by
    rw [replacing, makingParents, hparent]
    rfl
  have hbegun : Reaches [] (leftBehind, replacing [] "f" "3")
      (((FileTree.writeFile [] ".f.tmp" []).on leftBehind).1, writing "f" "3") := by
    rw [hcalls, writing, hother]
    exact .single (.begun ".f.tmp" _ List.nil_prefix)
  exact ⟨isPlace_nil _, hlinks, (replaceFile_atomic (isPlace_nil _) hlinks "3").1 _ _ hbegun, by decide, by decide⟩

/-- On the way to `x/../x` a directory is made where the file would be, and then the file cannot be. -/
theorem directory_in_its_place :
    FileTree.empty.Linkless (bothWays [] "x/../x") ∧ placeOf [] "x/../x" = ["x"] ∧ FileTree.empty.get? ["x"] = none ∧
      ((replaceFile [] "x/../x" "1").on FileTree.empty).2 = .error .isDirectory ∧
      ((replaceFile [] "x/../x" "1").on FileTree.empty).1.get? ["x"] = some .directory := by
  have hways : bothWays [] "x/../x" = [["x"], ["x"], ["x"], [".x.tmp"]] := by decide
  have hlinks : FileTree.empty.Linkless (bothWays [] "x/../x") := by
    rw [hways]
    intro l hl target
    have hnone : FileTree.empty.get? l = none := by
      simp only [List.mem_cons, List.not_mem_nil, or_false] at hl
      rcases hl with rfl | rfl | rfl | rfl <;> rfl
    rw [hnone]
    nofun
  exact ⟨hlinks, by decide +kernel, by decide, by decide +kernel, by decide +kernel⟩

end LintPlan.FileTree
