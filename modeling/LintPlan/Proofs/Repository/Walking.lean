import LintPlan.Proofs.FileSystem.Following
import LintPlan.Proofs.FileSystem.Names
import LintPlan.Repository.Walk

/-!
# What a walk lists

A walk goes through a forest from name to name, and from each directory that it enters into the names below. What it lists
can be said without the order in which it goes: a place is listed iff something is there that a walk lists, the place is not
too deep, and every directory on the way is entered.

* **`Forest.mem_walk_cons`** — the first name of a place decides where the rest of it is looked for.
* **`Forest.mem_walk`** — what is listed, by the names of the places alone.
* **`Forest.walk_increasing`** — places come in the order of their names, a directory before what is in it.
* **`Forest.walk_nested`** — a walk to a lesser depth lists what a deeper one lists within that depth.
* **`FileTree.walk_exact`** — all this for the walk below a root.
-/

namespace LintPlan

namespace Forest

variable {f inside : Forest} {o : WalkOptions} {depth : Nat} {above names : List FileName} {name n : FileName}
  {node : Option FileNode} {x : FileNode} {e : WalkEntry}

/-! ## §1 — places below a place

A tree is a forest of names, each with what is beside it and what is in it. Places are looked up along this. -/

/-- A place below another is looked up in what is there. -/
theorem get?_append (loc : List FileName) (hne : names ≠ []) (f : Forest) : f.get? (loc ++ names) = (f.descend loc).get? names := by
  induction loc generalizing f with
  | nil => rfl
  | cons m rest ih =>
    obtain ⟨k, ks, hk⟩ := List.exists_cons_of_ne_nil (List.append_ne_nil_of_right_ne_nil rest hne)
    have hrest := ih (f.under m).2
    rw [hk] at hrest
    rw [List.cons_append, hk]
    exact hrest

theorem get?_cons (hne : names ≠ []) : f.get? (n :: names) = (f.under n).2.get? names := get?_append [n] hne f

theorem sorted_descend (loc : List FileName) (h : f.Sorted) : (f.descend loc).Sorted := by
  induction loc generalizing f with
  | nil => exact h
  | cons name rest ih => exact ih (sorted_under h name)

/-- Are there directories all the way down a list of names, and does a walk enter each of them? -/
def IsWay (o : WalkOptions) (f : Forest) (names : List FileName) : Prop :=
  ∀ above name, above ++ [name] <+: names → f.get? (above ++ [name]) = some .directory ∧ o.entersNamed name = true

theorem isWay_nil : f.IsWay o [] := by
  intro above name h
  simp at h

/-- A way is entered if its first directory is, and the rest from there. -/
theorem isWay_cons :
    f.IsWay o (n :: names) ↔ (f.under n).1 = some .directory ∧ o.entersNamed n = true ∧ (f.under n).2.IsWay o names := by
  constructor
  · intro h
    obtain ⟨hdirectory, henters⟩ := h [] n (by simp)
    refine ⟨hdirectory, henters, fun above name habove => ?_⟩
    obtain ⟨hget, hname⟩ := h (n :: above) name (List.cons_prefix_cons.mpr ⟨rfl, habove⟩)
    exact ⟨get?_cons (List.concat_ne_nil name above) ▸ hget, hname⟩
  · rintro ⟨hdirectory, henters, hrest⟩ above name habove
    cases above with
    | nil =>
      obtain ⟨rfl, -⟩ := List.cons_prefix_cons.mp habove
      exact ⟨hdirectory, henters⟩
    | cons m above =>
      obtain ⟨rfl, hprefix⟩ : m = n ∧ above ++ [name] <+: names := List.cons_prefix_cons.mp habove
      obtain ⟨hget, hname⟩ := hrest above name hprefix
      exact ⟨(get?_cons (List.concat_ne_nil name above)).trans hget, hname⟩

/-! ## §2 — what is listed

By induction on the forest, which entries a walk has. -/

/-- What is listed under one name. -/
def listed (o : WalkOptions) (name : FileName) (node : Option FileNode) (inside : Forest) (depth : Nat) (above : List FileName) :
    List WalkEntry :=
  match node with
  | some (.file content executable) => [⟨above ++ [name], .file content executable⟩]
  | some .directory =>
    if o.entersNamed name then ⟨above ++ [name], .directory⟩ :: inside.walk o depth (above ++ [name]) else []
  | _ => []

theorem walk_zero (o : WalkOptions) (f : Forest) (above : List FileName) : f.walk o 0 above = [] := by
  cases f <;> rfl

theorem walk_cons (o : WalkOptions) (name : FileName) (node : Option FileNode) (inside beside : Forest) (depth : Nat)
    (above : List FileName) :
    (cons name node inside beside).walk o (depth + 1) above =
      listed o name node inside depth above ++ beside.walk o (depth + 1) above := rfl

/-- What a walk lists under a name: the file there, or the directory and what is listed below it. -/
theorem mem_listed :
    e ∈ listed o name node inside depth above ↔
      (∃ file, node = some file ∧ file.isFile = true ∧ e = ⟨above ++ [name], file⟩) ∨
      node = some .directory ∧ o.entersNamed name = true ∧
        (e = ⟨above ++ [name], .directory⟩ ∨ e ∈ inside.walk o depth (above ++ [name])) := by
  cases node with
  | none => simp [listed]
  | some node =>
    cases node with
    | link target => simp [listed, FileNode.isFile]
    | file content executable => simp [listed, FileNode.isFile]
    | directory => by_cases henters : o.entersNamed name = true <;> simp [listed, henters, FileNode.isFile]

/-- Whatever is listed lies under one of the names. -/
theorem exists_cons_of_mem_walk (h : e ∈ f.walk o depth above) : ∃ n rest, e.names = above ++ n :: rest ∧ n ∈ f.names := by
  induction f generalizing depth above with
  | nil => cases h
  | cons name node inside beside ihInside ihBeside =>
    cases depth with
    | zero => cases h
    | succ depth =>
      rw [walk_cons, List.mem_append, mem_listed] at h
      rcases h with (⟨file, -, -, rfl⟩ | ⟨-, -, rfl | h⟩) | h
      · exact ⟨name, [], rfl, List.mem_cons_self⟩
      · exact ⟨name, [], rfl, List.mem_cons_self⟩
      · obtain ⟨m, rest, hnames, -⟩ := ihInside h
        exact ⟨name, m :: rest, by rw [hnames, ← List.append_cons], List.mem_cons_self⟩
      · obtain ⟨m, rest, hnames, hm⟩ := ihBeside h
        exact ⟨m, rest, hnames, List.mem_cons_of_mem _ hm⟩

theorem length_lt_of_mem_walk (h : e ∈ f.walk o depth above) : above.length < e.depth := by
  obtain ⟨n, rest, hnames, -⟩ := exists_cons_of_mem_walk h
  rw [WalkEntry.depth, hnames, List.length_append, List.length_cons]
  omega

theorem not_mem_walk_above : ⟨above, x⟩ ∉ f.walk o depth above := fun h => Nat.lt_irrefl _ (length_lt_of_mem_walk h)

theorem exists_cons_of_mem_listed (h : e ∈ listed o name node inside depth above) : ∃ rest, e.names = above ++ name :: rest := by
  rcases mem_listed.mp h with ⟨file, -, -, rfl⟩ | ⟨-, -, rfl | h⟩
  · exact ⟨[], rfl⟩
  · exact ⟨[], rfl⟩
  · obtain ⟨m, rest, hnames, -⟩ := exists_cons_of_mem_walk h
    exact ⟨m :: rest, by rw [hnames, ← List.append_cons]⟩

theorem mem_names_of_mem_walk (h : ⟨above ++ n :: names, x⟩ ∈ f.walk o depth above) : n ∈ f.names := by
  obtain ⟨m, rest, hnames, hm⟩ := exists_cons_of_mem_walk h
  obtain ⟨rfl, -⟩ := List.cons.inj (List.append_cancel_left hnames)
  exact hm

/-- **The first name decides.** A place is listed iff it is listed under its first name. -/
theorem mem_walk_cons (hsorted : f.Sorted) :
    ⟨above ++ n :: names, x⟩ ∈ f.walk o (depth + 1) above ↔
      ⟨above ++ n :: names, x⟩ ∈ listed o n (f.under n).1 (f.under n).2 depth above := by
  induction f with
  | nil => exact Iff.rfl
  | cons name node inside beside _ ih =>
    obtain ⟨-, hbeside, hleast⟩ := hsorted
    rw [walk_cons, List.mem_append, under]
    by_cases hn : name = n
    · -- the names beside are larger, so what is listed among them is elsewhere
      subst hn
      have hnone : ⟨above ++ name :: names, x⟩ ∉ beside.walk o (depth + 1) above := by
        intro h
        exact Std.Irrefl.irrefl name (hleast name (mem_names_of_mem_walk h))
      rw [if_pos rfl, or_iff_left hnone]
    · have hnone : ⟨above ++ n :: names, x⟩ ∉ listed o name node inside depth above := by
        intro h
        obtain ⟨rest, hrest⟩ := exists_cons_of_mem_listed h
        exact hn (List.cons.inj (List.append_cancel_left hrest)).1.symm
      rw [if_neg hn, ← ih hbeside, or_iff_right hnone]

/-- At the place of a name itself stands a file, or a directory that is entered. -/
theorem mem_listed_self :
    ⟨above ++ [name], x⟩ ∈ listed o name node inside depth above ↔
      node = some x ∧ (x.isFile = true ∨ x = .directory ∧ o.entersNamed name = true) := by
  rw [mem_listed, or_iff_left not_mem_walk_above]
  constructor
  · rintro (⟨file, hnode, hfile, heq⟩ | ⟨hnode, henters, heq⟩)
    · cases heq
      exact ⟨hnode, .inl hfile⟩
    · cases heq
      exact ⟨hnode, .inr ⟨rfl, henters⟩⟩
  · rintro ⟨hnode, hfile | ⟨rfl, henters⟩⟩
    · exact .inl ⟨x, hnode, hfile, rfl⟩
    · exact .inr ⟨hnode, henters, rfl⟩

/-- Further down, the directory has to be entered, and the rest is looked for below it. -/
theorem mem_listed_below (hne : names ≠ []) :
    ⟨above ++ [name] ++ names, x⟩ ∈ listed o name node inside depth above ↔
      node = some .directory ∧ o.entersNamed name = true ∧
        ⟨above ++ [name] ++ names, x⟩ ∈ inside.walk o depth (above ++ [name]) := by
  have hself : ∀ y : FileNode, (⟨above ++ [name] ++ names, x⟩ : WalkEntry) ≠ ⟨above ++ [name], y⟩ := by
    intro y heq
    exact hne (List.append_right_eq_self.mp (congrArg WalkEntry.names heq))
  rw [mem_listed, or_iff_right, or_iff_right (hself _)]
  rintro ⟨file, -, -, heq⟩
  exact hself file heq

/-- Is something at a place that a walk lists there: a file at the end of a way, or a directory that is entered itself? -/
structure Shows (o : WalkOptions) (f : Forest) (names : List FileName) (x : FileNode) : Prop where
  there : f.get? names = some x
  reached : x.isFile = true ∧ f.IsWay o names.dropLast ∨ x = .directory ∧ f.IsWay o names

/-- A file is shown, and a directory if it is entered. -/
theorem shows_singleton :
    f.Shows o [n] x ↔ (f.under n).1 = some x ∧ (x.isFile = true ∨ x = .directory ∧ o.entersNamed n = true) := by
  constructor
  · rintro ⟨hthere, ⟨hfile, -⟩ | ⟨rfl, hway⟩⟩
    · exact ⟨hthere, .inl hfile⟩
    · exact ⟨hthere, .inr ⟨rfl, (isWay_cons.mp hway).2.1⟩⟩
  · rintro ⟨hthere, hfile | ⟨rfl, henters⟩⟩
    · exact ⟨hthere, .inl ⟨hfile, isWay_nil⟩⟩
    · exact ⟨hthere, .inr ⟨rfl, isWay_cons.mpr ⟨hthere, henters, isWay_nil⟩⟩⟩

/-- Further down, the first directory must be entered. -/
theorem shows_cons (hne : names ≠ []) :
    f.Shows o (n :: names) x ↔ (f.under n).1 = some .directory ∧ o.entersNamed n = true ∧ (f.under n).2.Shows o names x := by
  have hlast : (n :: names).dropLast = n :: names.dropLast := List.dropLast_cons_of_ne_nil hne
  constructor
  · rintro ⟨hthere, hreached⟩
    rw [get?_cons hne] at hthere
    rw [hlast, isWay_cons, isWay_cons] at hreached
    obtain ⟨hfile, hdirectory, henters, hway⟩ | ⟨rfl, hdirectory, henters, hway⟩ := hreached
    · exact ⟨hdirectory, henters, hthere, .inl ⟨hfile, hway⟩⟩
    · exact ⟨hdirectory, henters, hthere, .inr ⟨rfl, hway⟩⟩
  · rintro ⟨hdirectory, henters, hthere, hreached⟩
    refine ⟨(get?_cons hne).trans hthere, ?_⟩
    rw [hlast, isWay_cons, isWay_cons]
    obtain ⟨hfile, hway⟩ | ⟨rfl, hway⟩ := hreached
    · exact .inl ⟨hfile, hdirectory, henters, hway⟩
    · exact .inr ⟨rfl, hdirectory, henters, hway⟩

/-- **What is listed** is what is shown, within the depth. -/
theorem mem_walk (hsorted : f.Sorted) :
    ⟨above ++ names, x⟩ ∈ f.walk o depth above ↔ names ≠ [] ∧ names.length ≤ depth ∧ f.Shows o names x := by
  -- on the names: each one is looked up in the forest below the one before it, with one level less to go
  induction names generalizing f depth above with
  | nil =>
    rw [List.append_nil]
    exact iff_of_false not_mem_walk_above fun h => h.1 rfl
  | cons n names ih =>
    cases depth with
    | zero =>
      rw [walk_zero]
      exact iff_of_false nofun fun h => Nat.not_succ_le_zero _ h.2.1
    | succ depth =>
      have hne : n :: names ≠ [] := List.cons_ne_nil n names
      rw [mem_walk_cons hsorted, and_iff_right hne, List.length_cons, Nat.add_le_add_iff_right]
      by_cases hnames : names = []
      · subst hnames
        rw [mem_listed_self, shows_singleton, List.length_nil, and_iff_right (Nat.zero_le depth)]
      · rw [List.append_cons, mem_listed_below hnames, ih (sorted_under hsorted n), shows_cons hnames, and_iff_right hnames]
        exact ⟨fun ⟨hnode, henters, hdepth, hrest⟩ => ⟨hdepth, hnode, henters, hrest⟩,
          fun ⟨hdepth, hnode, henters, hrest⟩ => ⟨hnode, henters, hdepth, hrest⟩⟩

/-! ## §3 — the order of what is listed

Names are sorted in every directory, and a directory comes before what is in it. So entries are in the order of their names. -/

/-- **The order of a walk** is that of the names, compared one after the other. -/
theorem walk_increasing (hsorted : f.Sorted) : (f.walk o depth above).Pairwise fun a b => a.names < b.names := by
  induction f generalizing depth above with
  | nil => exact List.Pairwise.nil
  | cons name node inside beside ihInside ihBeside =>
    obtain ⟨hinside, hbeside, hleast⟩ := hsorted
    cases depth with
    | zero => exact List.Pairwise.nil
    | succ depth =>
      rw [walk_cons, List.pairwise_append]
      refine ⟨?_, ihBeside hbeside, ?_⟩
      · -- a directory comes before what is in it
        cases node with
        | none => exact List.Pairwise.nil
        | some node =>
          cases node with
          | link target => exact List.Pairwise.nil
          | file content executable => exact List.pairwise_singleton _ _
          | directory =>
            rw [listed]
            split
            · refine List.pairwise_cons.mpr ⟨?_, ihInside hinside⟩
              intro e he
              obtain ⟨m, rest, hnames, -⟩ := exists_cons_of_mem_walk he
              have hlonger : above ++ [name] ++ [] < above ++ [name] ++ m :: rest := List.append_left_lt (List.nil_lt_cons m rest)
              rw [hnames]
              rwa [List.append_nil] at hlonger
            · exact List.Pairwise.nil
      · intro a ha b hb
        -- the names beside it are greater, and so is everything in them
        obtain ⟨rest, ha⟩ := exists_cons_of_mem_listed ha
        obtain ⟨m, rest', hb, hm⟩ := exists_cons_of_mem_walk hb
        rw [ha, hb]
        exact List.append_left_lt (List.cons_lt_cons_iff.mpr (.inl (hleast m hm)))

/-- A walk of less depth lists, for one name, what is not too deep. -/
theorem listed_nested {lesser : Nat}
    (hinside : inside.walk o lesser (above ++ [name]) =
      (inside.walk o depth (above ++ [name])).filter fun e => e.depth ≤ (above ++ [name]).length + lesser) :
    listed o name node inside lesser above =
      (listed o name node inside depth above).filter fun e => e.depth ≤ above.length + (lesser + 1) := by
  have hlength : (above ++ [name]).length = above.length + 1 := List.length_append
  have hself : ∀ y : FileNode, decide ((⟨above ++ [name], y⟩ : WalkEntry).depth ≤ above.length + (lesser + 1)) = true := by
    intro y
    rw [decide_eq_true_iff, WalkEntry.depth, hlength]
    omega
  cases node with
  | none => rfl
  | some node =>
    cases node with
    | link target => rfl
    | file content executable => rw [listed, listed, List.filter_cons, if_pos (hself _), List.filter_nil]
    | directory =>
      rw [listed, listed]
      split
      · rw [List.filter_cons, if_pos (hself _), hinside, hlength, Nat.add_assoc, Nat.add_comm 1 lesser]
      · rfl

/-- **A walk to a lesser depth** lists what a deeper one lists within that depth, in the same order. -/
theorem walk_nested {lesser : Nat} (hle : lesser ≤ depth) :
    f.walk o lesser above = (f.walk o depth above).filter fun e => e.depth ≤ above.length + lesser := by
  induction f generalizing lesser depth above with
  | nil => rfl
  | cons name node inside beside ihInside ihBeside =>
    cases lesser with
    | zero =>
      rw [walk_zero, eq_comm, List.filter_eq_nil_iff]
      intro e he hdepth
      exact Nat.not_lt.mpr (of_decide_eq_true hdepth) (length_lt_of_mem_walk he)
    | succ lesser =>
      cases depth with
      | zero => cases hle
      | succ depth =>
        rw [walk_cons, walk_cons, List.filter_append, ← ihBeside hle,
          ← listed_nested (ihInside (Nat.le_of_succ_le_succ hle))]

/-- The depth is handed down level by level, so the one that the options name plays no part below. -/
theorem walk_withDepth (o : WalkOptions) (most : Nat) (f : Forest) (depth : Nat) (above : List FileName) :
    f.walk { o with maxDepth := most } depth above = f.walk o depth above := by
  induction f generalizing depth above with
  | nil => rfl
  | cons name node inside beside ihInside ihBeside =>
    cases depth with
    | zero => rfl
    | succ depth =>
      rw [walk_cons, walk_cons, ihBeside]
      unfold listed
      rw [ihInside]
      rfl

end Forest

/-! ## §4 — a walk through a tree

The same for a walk from a place of a tree, and the rule as a whole. -/

theorem WalkEntry.path_eq (e : WalkEntry) : e.path = Path.ofNames (e.names.map FileName.shown) := Path.lossy_intercalate e.names

/-- **Along names that are texts** a path is a text, and is shown as it is. -/
theorem WalkEntry.path_of_texts {e : WalkEntry} {ns : List String} (h : e.names = ns.map .ofText) :
    e.pathBytes = Text.bytesOf (Path.ofNames ns) ∧ e.path = Path.ofNames ns := by
  have hbytes : e.pathBytes = Text.bytesOf (Path.ofNames ns) := by
    rw [pathBytes, h, List.map_map]
    exact Path.intercalate_bytesOf ns
  exact ⟨hbytes, by rw [path, hbytes, Text.lossy_bytesOf]⟩

namespace FileTree

variable {t : FileTree} {o : WalkOptions} {root : Location} {names : List FileName} {x : FileNode} {e : WalkEntry}

/-- Is there a way from a root into directories with these names, one in the other, that a walk takes? -/
def IsWay (t : FileTree) (o : WalkOptions) (root : Location) (names : List FileName) : Prop :=
  ∀ above name, above ++ [name] <+: names →
    t.at? (root.map .ofText ++ (above ++ [name])) = some .directory ∧ o.entersNamed name = true

theorem mem_walk :
    ⟨names, x⟩ ∈ t.walk o root ↔
      names ≠ [] ∧ names.length ≤ o.maxDepth ∧ t.at? (root.map .ofText ++ names) = some x ∧
        (x.isFile = true ∧ t.IsWay o root names.dropLast ∨ x = .directory ∧ t.IsWay o root names) := by
  have hway : ∀ ns, (t.forest.descend (root.map .ofText)).IsWay o ns ↔ t.IsWay o root ns := by
    intro ns
    refine forall_congr' fun above => forall_congr' fun name => imp_congr_right fun _ => ?_
    rw [at?, Forest.get?_append _ (List.concat_ne_nil name above)]
  have hlisted : ⟨[] ++ names, x⟩ ∈ (t.forest.descend (root.map .ofText)).walk o o.maxDepth [] ↔
      names ≠ [] ∧ names.length ≤ o.maxDepth ∧ (t.forest.descend (root.map .ofText)).Shows o names x :=
    Forest.mem_walk (Forest.sorted_descend _ t.sorted)
  rw [List.nil_append] at hlisted
  rw [walk]
  refine hlisted.trans (and_congr_right fun hne => and_congr_right fun _ => ?_)
  rw [← hway, ← hway, at?, Forest.get?_append _ hne]
  exact ⟨fun h => ⟨h.there, h.reached⟩, fun h => ⟨h.1, h.2⟩⟩

theorem depth_le_of_mem_walk (h : e ∈ t.walk o root) : e.depth ≤ o.maxDepth := (mem_walk.mp h).2.1

/-- All places on such a way are directories. -/
theorem IsWay.directory {place : List FileName} (h : t.IsWay o root names) (hne : place ≠ []) (hplace : place <+: names) :
    t.at? (root.map .ofText ++ place) = some .directory := by
  obtain ⟨above, name, rfl⟩ := (List.eq_nil_or_concat' place).resolve_left hne
  exact (h above name hplace).1

/-- There is no link where something is listed, nor on the way to it. -/
theorem ne_link_of_mem_walk {place : List FileName} (h : ⟨names, x⟩ ∈ t.walk o root) (hne : place ≠ []) (hplace : place <+: names)
    (target : String) : t.at? (root.map .ofText ++ place) ≠ some (.link target) := by
  have hdirectory : t.at? (root.map .ofText ++ place) = some .directory → t.at? (root.map .ofText ++ place) ≠ some (.link target) := by
    intro hdirectory hlink
    cases hdirectory.symm.trans hlink
  obtain ⟨hnames, -, hthere, ⟨hfile, hway⟩ | ⟨-, hway⟩⟩ := mem_walk.mp h
  · rw [← List.dropLast_append_getLast hnames, List.prefix_concat_iff, List.dropLast_append_getLast hnames] at hplace
    rcases hplace with rfl | hplace
    · rintro hlink
      cases hthere.symm.trans hlink
      cases hfile
    · exact hdirectory (hway.directory hne hplace)
  · exact hdirectory (hway.directory hne hplace)

theorem walk_increasing (t : FileTree) (o : WalkOptions) (root : Location) :
    (t.walk o root).Pairwise fun a b => a.names < b.names :=
  Forest.walk_increasing (Forest.sorted_descend _ t.sorted)

theorem nodup_walk (t : FileTree) (o : WalkOptions) (root : Location) : (t.walk o root).Nodup := by
  refine (walk_increasing t o root).imp ?_
  rintro a _ hlt rfl
  exact List.lt_irrefl a.names hlt

theorem walk_nested (t : FileTree) (o : WalkOptions) (root : Location) {lesser greater : Nat} (hle : lesser ≤ greater) :
    t.walk { o with maxDepth := lesser } root =
      (t.walk { o with maxDepth := greater } root).filter fun e => e.depth ≤ lesser := by
  have hdepth : ∀ most : Nat, t.walk { o with maxDepth := most } root = (t.forest.descend (root.map .ofText)).walk o most [] := by
    intro most
    rw [walk, Forest.walk_withDepth]
  have hnested : (t.forest.descend (root.map .ofText)).walk o lesser [] =
      ((t.forest.descend (root.map .ofText)).walk o greater []).filter fun e => e.depth ≤ 0 + lesser := Forest.walk_nested hle
  rw [Nat.zero_add] at hnested
  rw [hdepth, hdepth]
  exact hnested

/-- The names on the path of something that is listed, where they can be told apart on it. -/
theorem components_of_mem_walk (h : e ∈ t.walk o root) (hnames : ∀ name ∈ e.names, name.IsPlain) :
    e.pathBytes.splitOn 0x2F = e.names.map (·.bytes) ∧ Path.names e.path = e.names.map FileName.shown ∧
      e.depth = (Path.names e.path).length := by
  have hne : e.names ≠ [] := (mem_walk.mp h).1
  have hbytes : e.pathBytes.splitOn 0x2F = e.names.map (·.bytes) := by
    refine List.splitOn_intercalate _ ?_ (mt List.map_eq_nil_iff.mp hne)
    intro bytes hbytes
    obtain ⟨name, hname, rfl⟩ := List.mem_map.mp hbytes
    exact (hnames name hname).noSlash
  have hshown : Path.names e.path = e.names.map FileName.shown := by
    rw [e.path_eq, Path.names_ofNames (List.forall_mem_map.mpr fun name hname => (hnames name hname).noSlash_shown),
      List.filter_eq_self]
    refine List.forall_mem_map.mpr fun name hname => ?_
    rw [(hnames name hname).isIdle_shown]
    rfl
  refine ⟨hbytes, hshown, ?_⟩
  rw [hshown, List.length_map]
  rfl

/-- What a walk is expected to list. -/
structure ExactWalk (t : FileTree) (o : WalkOptions) (root : Location) : Prop where
  /-- Each file within the depth to which all directories on the way are entered. The root is not on the way. -/
  files : ∀ names file, ⟨names, file⟩ ∈ t.walkFiles o root ↔
    names ≠ [] ∧ names.length ≤ o.maxDepth ∧ t.at? (root.map .ofText ++ names) = some file ∧ file.isFile = true ∧
      t.IsWay o root names.dropLast
  /-- Likewise each directory that is entered itself, apart from the root. -/
  directories : ∀ names node, ⟨names, node⟩ ∈ t.walkDirectories o root ↔
    names ≠ [] ∧ names.length ≤ o.maxDepth ∧ t.at? (root.map .ofText ++ names) = some .directory ∧ node = .directory ∧
      t.IsWay o root names
  filesOnce : (t.walkFiles o root).Nodup
  directoriesOnce : (t.walkDirectories o root).Nodup
  links : ∀ e ∈ t.walk o root, ∀ place, place ≠ [] → place <+: e.names → ∀ target, t.at? (root.map .ofText ++ place) ≠ some (.link target)
  increasing : (t.walk o root).Pairwise fun a b => a.names < b.names
  /-- The names are what stands between the slashes of the path, in bytes and as it is shown, unless there are other slashes or
  names that lead nowhere else. -/
  components : ∀ e ∈ t.walk o root, (∀ name ∈ e.names, name.IsPlain) →
    e.pathBytes.splitOn 0x2F = e.names.map (·.bytes) ∧ Path.names e.path = e.names.map FileName.shown ∧
      e.depth = (Path.names e.path).length
  /-- A lesser depth takes away what is deeper, and nothing else. -/
  nested : ∀ lesser greater : Nat, lesser ≤ greater →
    t.walkFiles { o with maxDepth := lesser } root =
      (t.walkFiles { o with maxDepth := greater } root).filter (fun e => e.depth ≤ lesser) ∧
    t.walkDirectories { o with maxDepth := lesser } root =
      (t.walkDirectories { o with maxDepth := greater } root).filter (fun e => e.depth ≤ lesser)

/-- **The walk is exact.** -/
theorem walk_exact (t : FileTree) (o : WalkOptions) (root : Location) : ExactWalk t o root where
  files names file := by
    rw [walkFiles, List.mem_filter, mem_walk]
    constructor
    · rintro ⟨⟨hne, hdepth, hthere, ⟨hfile, hway⟩ | ⟨rfl, -⟩⟩, hfilter⟩
      · exact ⟨hne, hdepth, hthere, hfile, hway⟩
      · cases hfilter
    · rintro ⟨hne, hdepth, hthere, hfile, hway⟩
      exact ⟨⟨hne, hdepth, hthere, .inl ⟨hfile, hway⟩⟩, hfile⟩
  directories names node := by
    rw [walkDirectories, List.mem_filter, mem_walk]
    constructor
    · rintro ⟨⟨hne, hdepth, hthere, ⟨hfile, -⟩ | ⟨rfl, hway⟩⟩, hfilter⟩
      · cases node with
        | file content executable => cases hfilter
        | directory => cases hfile
        | link target => cases hfile
      · exact ⟨hne, hdepth, hthere, rfl, hway⟩
    · rintro ⟨hne, hdepth, hthere, rfl, hway⟩
      exact ⟨⟨hne, hdepth, hthere, .inr ⟨rfl, hway⟩⟩, rfl⟩
  filesOnce := (nodup_walk t o root).filter _
  directoriesOnce := (nodup_walk t o root).filter _
  links := fun _ he _ hne hplace target => ne_link_of_mem_walk he hne hplace target
  increasing := walk_increasing t o root
  components := fun _ he hnames => components_of_mem_walk he hnames
  nested := by
    intro lesser greater hle
    rw [walkFiles, walkFiles, walkDirectories, walkDirectories, walk_nested t o root hle]
    exact ⟨List.filter_comm _ _ _, List.filter_comm _ _ _⟩

/-- Hidden directories, some of which may be entered, hidden files, and a link to the root. -/
def hiddenTree : FileTree :=
  let file := FileNode.file [] false
  empty.put [".git"] .directory |>.put [".git", "config"] file |>.put [".github"] .directory
    |>.put [".github", "ci.yml"] file |>.put ["src"] .directory |>.put ["src", ".env"] file |>.put ["src", "now"] (.link "/")

/-- A walk that passes by a directory and a link, and the texts of its paths. -/
theorem walk_exact_hidden :
    (hiddenTree.walk (.toDepth 2) []).map WalkEntry.names =
        [[".github"], [".github", "ci.yml"], ["src"], ["src", ".env"]].map (List.map FileName.ofText) ∧
      ∀ e ∈ hiddenTree.walk (.toDepth 2) [], Path.names e.path = e.names.map FileName.shown := by
  have hplain : ∀ e ∈ hiddenTree.walk (.toDepth 2) [], ∀ name ∈ e.names, name.isIdle = false ∧ 0x2F ∉ name.bytes := by
    decide
  refine ⟨by decide, fun e he => ?_⟩
  have hnames : ∀ name ∈ e.names, name.IsPlain := fun name hname => ⟨(hplain e he name hname).1, (hplain e he name hname).2⟩
  exact ((walk_exact hiddenTree (.toDepth 2) []).components e he hnames).2.1

end FileTree

end LintPlan
