import LintPlan.FileSystem.Writing

/-!
# What actions on files do

What running an action leads to, without the monad: one equation for each action, and the inversion for actions one after the
other (**`on_bind_ok`**), so that a run that succeeded is taken apart into the runs of its parts. What an action leaves as it
is does not depend on success: **`on_bind_at?`** is about a run that may stop anywhere. This is said of all places, also of those
with names that are no texts.
-/

namespace LintPlan

variable {α β : Type} {t t' : FileTree}

namespace FileAction

theorem on_bind (a : FileAction α) (f : α → FileAction β) (t : FileTree) :
    (a >>= f).on t =
      match a.on t with
      | (t', .ok v) => (f v).on t'
      | (t', .error fault) => (t', .error fault) := by
  unfold on
  simp only [ExceptT.run_bind, StateT.run_bind]
  generalize a.run.run t = ran
  obtain ⟨v, t'⟩ := ran
  cases v <;> rfl

/-- **Two actions that succeeded, one after the other.** -/
theorem on_bind_ok {a : FileAction α} {f : α → FileAction β} {v : β} :
    (a >>= f).on t = (t', .ok v) ↔ ∃ between u, a.on t = (between, .ok u) ∧ (f u).on between = (t', .ok v) := by
  rw [on_bind]
  generalize a.on t = ran
  obtain ⟨between, u⟩ := ran
  cases u with
  | ok u =>
    constructor
    · intro h
      exact ⟨between, u, rfl, h⟩
    · rintro ⟨_, _, heq, h⟩
      cases heq
      exact h
  | error fault =>
    constructor
    · intro h
      cases h
    · rintro ⟨_, _, heq, -⟩
      cases heq

theorem on_get (t : FileTree) : on get t = (t, .ok t) := rfl

/-- **A place that two actions leave as it is**, one after the other. The second one need not come to run. -/
theorem on_bind_at? {a : FileAction α} {f : α → FileAction β} {l : List FileName}
    (ha : (a.on t).1.at? l = t.at? l)
    (hf : ∀ between u, a.on t = (between, .ok u) → ((f u).on between).1.at? l = between.at? l) :
    ((a >>= f).on t).1.at? l = t.at? l := by
  rw [on_bind]
  cases hran : a.on t with
  | mk between outcome =>
    rw [hran] at ha
    cases outcome with
    | error fault => exact ha
    | ok u => exact (hf between u hran).trans ha

end FileAction

namespace FileTree

open FileAction

variable {here : Location} {path : String}

/-- A directory is made where nothing is. -/
theorem makeDirectory_on (here : Location) (path : String) (t : FileTree) :
    (makeDirectory here path).on t =
      match t.findEntry here path with
      | .error fault => (t, .error fault)
      | .ok ⟨_, some _⟩ => (t, .error .alreadyExists)
      | .ok ⟨loc, none⟩ => (t.put loc .directory, .ok ()) := by
  unfold makeDirectory
  rw [on_bind, on_get]
  dsimp only
  generalize t.findEntry here path = found
  obtain fault | ⟨loc, _ | node⟩ := found <;> rfl

/-- Making a directory with all the directories that it lies in, unless there is nothing for it to lie in: it is made, or it is
there. -/
theorem makeDirectories_on {part : String} (hpart : Path.isIdle part = false) (up : List String)
    (hfound : t.findEntry here (Path.ofReversedParts (part :: up)) ≠ .error .notFound) :
    (makeDirectories here (part :: up)).on t =
      match (makeDirectory here (Path.ofReversedParts (part :: up))).on t with
      | (t', .ok _) => (t', .ok ())
      | (_, .error fault) =>
        if t.isDirectory here (Path.ofReversedParts (part :: up)) then (t, .ok ()) else (t, .error fault) := by
  unfold makeDirectories
  rw [if_neg (by rw [hpart]; exact Bool.false_ne_true), on_bind, on_get]
  dsimp only
  generalize hmade : (makeDirectory here (Path.ofReversedParts (part :: up))).on t = made
  obtain ⟨t', fault | _⟩ := made
  · -- only for want of a directory to lie in would the directories above be made first
    have hfault : fault ≠ .notFound := by
      rintro rfl
      rw [makeDirectory_on] at hmade
      generalize t.findEntry here (Path.ofReversedParts (part :: up)) = found at hmade hfound
      obtain fault | ⟨loc, _ | node⟩ := found
      · cases hmade
        exact hfound rfl
      · cases hmade
      · cases hmade
    cases fault
    case notFound => exact absurd rfl hfault
    all_goals
      dsimp only
      rw [on_bind, on_get]
      dsimp only
      by_cases hthere : t.isDirectory here (Path.ofReversedParts (part :: up)) = true
      · rw [if_pos hthere, if_pos hthere]
        rfl
      · rw [if_neg hthere, if_neg hthere]
        rfl
  · rfl

/-- A file is written over or made; a directory in its place stays. -/
theorem writeFile_on (here : Location) (path : String) (content : List UInt8) (t : FileTree) :
    (writeFile here path content).on t =
      match t.find here path true with
      | .error fault => (t, .error fault)
      | .ok ⟨_, some .directory⟩ => (t, .error .isDirectory)
      | .ok ⟨loc, some (.file _ executable)⟩ => (t.put loc (.file content executable), .ok ())
      | .ok ⟨loc, _⟩ => (t.put loc (.file content false), .ok ()) := by
  unfold writeFile
  rw [on_bind, on_get]
  dsimp only
  generalize t.find here path true = found
  obtain fault | ⟨loc, _ | node⟩ := found
  · rfl
  · rfl
  · cases node <;> rfl

/-- **Giving a file another path** is refused, or what was found under the one path, and nowhere else any more, is what is
found under the other one. That path ends without a slash, and no directory is under it. -/
theorem renameFile_moves (here : Location) (old new : String) (t : FileTree) :
    (∃ fault, (renameFile here old new).on t = (t, .error fault)) ∨
      ∃ source moved target, t.findEntry here old = .ok ⟨source, some moved⟩ ∧ t.findEntry here new = .ok target ∧
        endsWithSlash new = false ∧ target.node ≠ some .directory ∧
        (renameFile here old new).on t = ((t.erase source).put target.location moved, .ok ()) := by
  unfold renameFile
  rw [on_bind, on_get]
  dsimp only
  generalize t.findEntry here old = source
  generalize t.findEntry here new = target
  -- the faults in the order in which they are looked for
  obtain fault | ⟨source, node⟩ := source
  · exact .inl ⟨fault, rfl⟩
  obtain fault | target := target
  · exact .inl ⟨fault, rfl⟩
  dsimp only
  by_cases hname : (!endsWithName new) = true
  · rw [if_pos hname]
    exact .inl ⟨.busy, rfl⟩
  rw [if_neg hname]
  obtain _ | moved := node
  · exact .inl ⟨.notFound, rfl⟩
  dsimp only
  by_cases hslash : endsWithSlash new = true
  · simp only [if_pos hslash]
    exact .inl ⟨.notDirectory, rfl⟩
  simp only [if_neg hslash]
  by_cases hdirectory : target.node = some .directory
  · simp only [if_pos hdirectory]
    exact .inl ⟨.isDirectory, rfl⟩
  simp only [if_neg hdirectory]
  exact .inr ⟨source, moved, target, rfl, rfl, Bool.eq_false_iff.mpr hslash, hdirectory, rfl⟩

theorem renameFile_cases (here : Location) (old new : String) (t : FileTree) :
    (∃ fault, (renameFile here old new).on t = (t, .error fault)) ∨
      ∃ source moved target, t.findEntry here old = .ok ⟨source, some moved⟩ ∧ t.findEntry here new = .ok target ∧
        (renameFile here old new).on t = ((t.erase source).put target.location moved, .ok ()) := by
  rcases renameFile_moves here old new t with hrefused | ⟨source, moved, target, hold, hnew, -, -, hran⟩
  · exact .inl hrefused
  · exact .inr ⟨source, moved, target, hold, hnew, hran⟩

theorem renameFile_ok {old new : String} (h : (renameFile here old new).on t = (t', .ok ())) :
    ∃ source moved target, t.findEntry here old = .ok ⟨source, some moved⟩ ∧ t.findEntry here new = .ok target ∧
      t' = (t.erase source).put target.location moved := by
  rcases renameFile_cases here old new t with ⟨fault, hran⟩ | ⟨source, moved, target, hold, hnew, hran⟩
  · rw [hran] at h
    cases h
  · rw [hran] at h
    cases h
    exact ⟨source, moved, target, hold, hnew, rfl⟩

/-! ## Elsewhere

An action is not noticed at places other than those it found. -/

section
variable {loc : Location} {l : List FileName}

theorem at?_put_of_ne (node : FileNode) (h : l ≠ loc.map .ofText) : (t.put loc node).at? l = t.at? l := by
  by_cases hne : loc = []
  · rw [hne]
    rfl
  · rw [at?_put t loc l node hne, if_neg h]

theorem at?_erase_of_ne (h : l ≠ loc.map .ofText) : (t.erase loc).at? l = t.at? l := by
  by_cases hne : loc = []
  · rw [hne]
    rfl
  · rw [at?_erase t loc l hne, if_neg h]

theorem get?_put_of_ne {other : Location} (node : FileNode) (h : other ≠ loc) : (t.put loc node).get? other = t.get? other :=
  at?_put_of_ne node (mt FileName.map_ofText_inj.mp h)

/-- Writing changes the place that was found, and no other one. -/
theorem writeFile_at? {content : List UInt8} (h : ∀ found, t.find here path true = .ok found → l ≠ found.location.map .ofText) :
    ((writeFile here path content).on t).1.at? l = t.at? l := by
  rw [writeFile_on]
  generalize t.find here path true = found at h
  obtain fault | ⟨loc, node⟩ := found
  · rfl
  have hne : l ≠ loc.map .ofText := h _ rfl
  obtain _ | node := node
  · exact at?_put_of_ne _ hne
  · cases node with
    | file old executable => exact at?_put_of_ne _ hne
    | directory => rfl
    | link target => exact at?_put_of_ne _ hne

theorem renameFile_at? {old new : String} (hold : ∀ found, t.findEntry here old = .ok found → l ≠ found.location.map .ofText)
    (hnew : ∀ found, t.findEntry here new = .ok found → l ≠ found.location.map .ofText) :
    ((renameFile here old new).on t).1.at? l = t.at? l := by
  rcases renameFile_cases here old new t with ⟨fault, hran⟩ | ⟨source, moved, target, hsource, htarget, hran⟩
  · rw [hran]
  · rw [hran]
    show ((t.erase source).put target.location moved).at? l = t.at? l
    rw [at?_put_of_ne moved (hnew _ htarget), at?_erase_of_ne (hold _ hsource)]

end

end FileTree

end LintPlan
