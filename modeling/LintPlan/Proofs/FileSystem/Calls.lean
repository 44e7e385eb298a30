import LintPlan.Proofs.FileSystem.Actions
import Mathlib.Logic.Relation

/-!
# Calls to the system

Replacing a file takes several calls to the system. What is called is a program, and what comes of it is a run of the program,
step by step: each call may be refused, for whatever reason, writing may have come only some way, and between two calls
everything may stop.

* **`FileProgram`** — what is called, depending on what came of the calls before.
* **`replacing_on`** — the program for replacing a file does what `replaceFile` does.
* **`Step`** — one call is carried out, is refused, or has come some way; **`reaches_on`** is the run in which nothing interferes.
-/

namespace LintPlan

open FileTree

/-! ## §1 — programs

An action of several calls as a tree: each call, and how it goes on with its outcome. So there is a state between any two calls.
-/

/-- A call to the system that changes files. -/
inductive FileCall where
  | makeDirectory (path : String)
  | writeFile (path : String) (content : List UInt8)
  | renameFile (old new : String)

/-- What a call does when it is carried out. -/
def FileCall.act (here : Location) : FileCall → FileAction Unit
  | makeDirectory path => FileTree.makeDirectory here path
  | writeFile path content => FileTree.writeFile here path content
  | renameFile old new => FileTree.renameFile here old new

/-- Calls one after the other. Which one is next may depend on what came of the last one, and on the files after it. -/
inductive FileProgram where
  | done (outcome : Except OsFault Unit)
  | call (c : FileCall) (next : FileTree → Except OsFault Unit → FileProgram)

namespace FileProgram

/-- A single call. -/
def one (c : FileCall) : FileProgram := call c fun _ outcome => done outcome

/-- One program after another one, if that comes to a good end. -/
def andThen : FileProgram → FileProgram → FileProgram
  | done (.ok _), q => q
  | done (.error fault), _ => done (.error fault)
  | call c next, q => call c fun t outcome => (next t outcome).andThen q

/-- The files after a program, and what came of it, when nothing interferes. -/
def on (here : Location) : FileProgram → FileTree → FileTree × Except OsFault Unit
  | done outcome, t => (t, outcome)
  | call c next, t =>
    let ran := (c.act here).on t
    (next ran.1 ran.2).on here ran.1

/-- What is wanted may be there, though making it was refused. -/
def unlessDirectory (here : Location) (path : String) (fault : OsFault) (t : FileTree) : FileProgram :=
  if t.isDirectory here path then done (.ok ()) else done (.error fault)

/-- Makes a directory unless it is there. -/
def needing (here : Location) (path : String) : FileProgram :=
  call (.makeDirectory path) fun t outcome =>
    match outcome with
    | .ok _ => done (.ok ())
    | .error fault => unlessDirectory here path fault t

/-- Makes a directory with all the directories that it lies in. -/
def making (here : Location) : List String → FileProgram
  | [] => done (.ok ())
  | part :: up =>
    if Path.isIdle part then making here up
    else
      call (.makeDirectory (Path.ofReversedParts (part :: up))) fun t outcome =>
        match outcome with
        | .ok _ => done (.ok ())
        | .error .notFound => (making here up).andThen (needing here (Path.ofReversedParts (part :: up)))
        | .error fault => unlessDirectory here (Path.ofReversedParts (part :: up)) fault t

/-- Makes the directories that the last name of a path lies in. -/
def makingParents (here : Location) (path : String) : FileProgram :=
  match Path.parent? path with
  | some dir => making here (Path.parts dir).reverse
  | none => done (.ok ())

/-- The last call: the temporary file takes the name of the file. -/
def moving (path : String) : FileProgram := one (.renameFile (temporaryPath path) path)

/-- The calls that replace the content of a file. -/
def replacing (here : Location) (path text : String) : FileProgram :=
  (makingParents here path).andThen ((one (.writeFile (temporaryPath path) (Text.bytesOf text))).andThen (moving path))

variable {here : Location} {p q : FileProgram}

theorem on_andThen (p q : FileProgram) (t : FileTree) :
    (p.andThen q).on here t =
      match p.on here t with
      | (t', .ok _) => q.on here t'
      | (t', .error fault) => (t', .error fault) := by
  induction p generalizing t with
  | done outcome => cases outcome <;> rfl
  | call c next ih => exact ih _ _ _

theorem on_one (c : FileCall) (t : FileTree) : (one c).on here t = (c.act here).on t := rfl

/-- Programs one after the other do what actions do one after the other. -/
theorem on_andThen_eq_bind {a b : FileAction Unit} (ha : ∀ t, p.on here t = a.on t) (hb : ∀ t, q.on here t = b.on t)
    (t : FileTree) : (p.andThen q).on here t = (a >>= fun _ => b).on t := by
  rw [on_andThen, FileAction.on_bind, ha]
  cases a.on t with
  | mk t' outcome =>
    cases outcome with
    | ok _ => exact hb t'
    | error fault => rfl

theorem on_unlessDirectory (here : Location) (path : String) (fault : OsFault) (t : FileTree) :
    (unlessDirectory here path fault t).on here t =
      if t.isDirectory here path then (t, .ok ()) else (t, .error fault) := by
  unfold unlessDirectory
  split <;> rfl

end FileProgram

namespace FileTree

variable {here : Location} {path : String} {t : FileTree}

/-- Making a directory that is refused changes nothing. -/
theorem makeDirectory_error {t' : FileTree} {fault : OsFault} (h : (makeDirectory here path).on t = (t', .error fault)) :
    t' = t := by
  rw [makeDirectory_on] at h
  generalize t.findEntry here path = found at h
  obtain _ | ⟨loc, _ | node⟩ := found <;> cases h <;> rfl

/-- The action that needs a directory is its program. -/
theorem needDirectory_on (here : Location) (path : String) (t : FileTree) :
    (needDirectory here path).on t = (FileProgram.needing here path).on here t := by
  unfold needDirectory FileProgram.needing
  rw [FileAction.on_bind, FileAction.on_get]
  simp only [FileProgram.on, FileCall.act]
  cases hmade : (makeDirectory here path).on t with
  | mk t' outcome =>
    cases outcome with
    | ok _ => rfl
    | error fault =>
      obtain rfl := makeDirectory_error hmade
      dsimp only
      rw [FileProgram.on_unlessDirectory, FileAction.on_bind, FileAction.on_get]
      dsimp only
      split <;> rfl

/-- So is the action that makes all directories of a path. By induction along the path. -/
theorem makeDirectories_eq_on (here : Location) (reversed : List String) (t : FileTree) :
    (makeDirectories here reversed).on t = (FileProgram.making here reversed).on here t := by
  induction reversed generalizing t with
  | nil => rfl
  | cons part up ih =>
    unfold makeDirectories FileProgram.making
    split
    · exact ih t
    · rw [FileAction.on_bind, FileAction.on_get]
      simp only [FileProgram.on, FileCall.act]
      cases hmade : (makeDirectory here (Path.ofReversedParts (part :: up))).on t with
      | mk t' outcome =>
        cases outcome with
        | ok _ => rfl
        | error fault =>
          obtain rfl := makeDirectory_error hmade
          cases fault
          case notFound =>
            -- the directory above comes first
            have habove := FileProgram.on_andThen_eq_bind (fun t => (ih t).symm)
              (fun t => (needDirectory_on here (Path.ofReversedParts (part :: up)) t).symm) t'
            dsimp only
            rw [habove]
          all_goals
            dsimp only
            rw [FileProgram.on_unlessDirectory, FileAction.on_bind, FileAction.on_get]
            dsimp only
            split <;> rfl

/-- **The program for replacing a file** does what replacing it does. -/
theorem replacing_on (here : Location) (path text : String) (t : FileTree) :
    (FileProgram.replacing here path text).on here t = (replaceFile here path text).on t := by
  have hparents : ∀ t, (FileProgram.makingParents here path).on here t = (makeParents here path).on t := by
    intro t
    unfold FileProgram.makingParents makeParents
    cases Path.parent? path with
    | some dir => exact (makeDirectories_eq_on here _ t).symm
    | none => rfl
  have hwrite : ∀ t, (FileProgram.one (.writeFile (temporaryPath path) (Text.bytesOf text))).on here t =
      (writeFile here (temporaryPath path) (Text.bytesOf text)).on t := FileProgram.on_one _
  have hmove : ∀ t, (FileProgram.moving path).on here t = (renameFile here (temporaryPath path) path).on t :=
    FileProgram.on_one _
  exact FileProgram.on_andThen_eq_bind hparents (FileProgram.on_andThen_eq_bind hwrite hmove) t

end FileTree

/-! ## §2 — runs

Calls are carried out one by one, may be refused, and a write may end half-way. What holds at the start and is kept by a step
holds in every state that is reached. -/

namespace FileProgram

variable {here : Location} {t t' : FileTree} {p q : FileProgram}

/-- What happens next: a call is carried out, it is refused for whatever reason, or a file that is written has some of its
content and the call goes on. -/
inductive Step (here : Location) : FileTree × FileProgram → FileTree × FileProgram → Prop where
  | carriedOut {t : FileTree} (c : FileCall) (next : FileTree → Except OsFault Unit → FileProgram) :
      Step here (t, call c next) (((c.act here).on t).1, next ((c.act here).on t).1 ((c.act here).on t).2)
  | refused {t : FileTree} (c : FileCall) (next : FileTree → Except OsFault Unit → FileProgram) (fault : OsFault) :
      Step here (t, call c next) (t, next t (.error fault))
  | begun {t : FileTree} (path : String) {part content : List UInt8}
      (next : FileTree → Except OsFault Unit → FileProgram) (hpart : part <+: content) :
      Step here (t, call (.writeFile path content) next)
        (((FileTree.writeFile here path part).on t).1, call (.writeFile path content) next)

/-- A program may come as far as this, after some of its steps. -/
def Reaches (here : Location) : FileTree × FileProgram → FileTree × FileProgram → Prop := Relation.ReflTransGen (Step here)

theorem not_step_done {outcome : Except OsFault Unit} {x : FileTree × FileProgram} : ¬ Step here (t, done outcome) x := nofun

/-- **A step of a call.** -/
theorem step_call {c : FileCall} {next : FileTree → Except OsFault Unit → FileProgram}
    (h : Step here (t, call c next) (t', q)) :
    (∃ outcome, (c.act here).on t = (t', outcome) ∧ q = next t' outcome) ∨
      (∃ fault, t' = t ∧ q = next t (.error fault)) ∨
      ∃ path part content, c = .writeFile path content ∧ part <+: content ∧
        t' = ((FileTree.writeFile here path part).on t).1 ∧ q = call c next := by
  cases h with
  | carriedOut => exact .inl ⟨_, rfl, rfl⟩
  | refused _ _ fault => exact .inr (.inl ⟨fault, rfl, rfl⟩)
  | begun path _ hpart => exact .inr (.inr ⟨path, _, _, rfl, hpart, rfl, rfl⟩)

/-- **When nothing interferes**, a program comes to its end. -/
theorem reaches_on (here : Location) (p : FileProgram) (t : FileTree) :
    Reaches here (t, p) ((p.on here t).1, done (p.on here t).2) := by
  induction p generalizing t with
  | done outcome => exact .refl
  | call c next ih => exact .head (.carriedOut c next) (ih _ _ _)

/-- What every step keeps is so wherever a program has come. -/
theorem reaches_invariant {I : FileTree × FileProgram → Prop} {x y : FileTree × FileProgram}
    (hstep : ∀ {x y}, I x → Step here x y → I y) (h : Reaches here x y) (hx : I x) : I y := by
  induction h with
  | refl => exact hx
  | tail _ hlast ih => exact hstep ih hlast

/-! ## §3 — what is called

Up to some call a program only makes directories. -/

/-- Nothing is called but to make directories, and these with paths of a kind. -/
def OnlyMakes (kind : String → Prop) : FileProgram → Prop
  | done _ => True
  | call (.makeDirectory path) next => kind path ∧ ∀ t outcome, (next t outcome).OnlyMakes kind
  | call _ _ => False

variable {kind : String → Prop} {path : String}

/-- Two programs that only make directories are one. -/
theorem OnlyMakes.andThen (hp : p.OnlyMakes kind) (hq : q.OnlyMakes kind) : (p.andThen q).OnlyMakes kind := by
  induction p with
  | done outcome =>
    cases outcome with
    | ok _ => exact hq
    | error fault => trivial
  | call c next ih =>
    cases c with
    | makeDirectory path => exact ⟨hp.1, fun t outcome => ih t outcome (hp.2 t outcome)⟩
    | writeFile path content => exact hp.elim
    | renameFile old new => exact hp.elim

theorem onlyMakes_unlessDirectory (fault : OsFault) (t : FileTree) : (unlessDirectory here path fault t).OnlyMakes kind := by
  unfold unlessDirectory
  split <;> trivial

theorem onlyMakes_needing (hpath : kind path) : (needing here path).OnlyMakes kind := by
  refine ⟨hpath, fun t outcome => ?_⟩
  cases outcome with
  | ok _ => trivial
  | error fault => exact onlyMakes_unlessDirectory fault t

/-- Directories are made with paths that a part of the parts ends, if it leads somewhere. -/
theorem onlyMakes_making {reversed : List String}
    (hkind : ∀ part up, part :: up <:+ reversed → Path.isIdle part = false → kind (Path.ofReversedParts (part :: up))) :
    (making here reversed).OnlyMakes kind := by
  induction reversed with
  | nil => trivial
  | cons part up ih =>
    have hup := ih fun last more hsuffix hidle => hkind last more (hsuffix.trans (List.suffix_cons part up)) hidle
    unfold making
    split
    · exact hup
    · next hidle =>
      have hpath := hkind part up (List.suffix_refl _) (Bool.eq_false_iff.mpr hidle)
      refine ⟨hpath, fun t outcome => ?_⟩
      dsimp only
      split
      · trivial
      · exact hup.andThen (onlyMakes_needing hpath)
      · exact onlyMakes_unlessDirectory _ t

end FileProgram

end LintPlan
