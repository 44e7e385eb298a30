import LintPlan.Planning.Selection
import LintPlan.Repair

/-!
# The first-wins pass

Two parts of planning keep linters apart that must not run together: choosing candidates drops a linter as soon as it
conflicts with one before it, and repairing a configuration switches off the later linter of the first conflicting pair
until there is none left. Both come down to one pass over a list:

* **`firstWinsFrom`**: the pass itself, which keeps a member iff it conflicts with nothing kept before it.
* **`withoutConflicts_enabled`**: choosing candidates is this pass.
* **`separated_enabled`**: repairing is this pass as well, whatever the list repeats. The crux is
  `firstWinsFrom_eraseP_later`: the linter that one turn of the repair switches off is one that the pass skips, while
  the one that it clashes with is kept (`earlier_mem_firstWinsFrom`).
-/

namespace LintPlan.Planning

/-! ## §1 — the pass

The pass is over any list whose members have names; `kept` holds the names that were kept before. -/

section
variable {α : Type} (name : α → String)

/-- The members that conflict with nothing kept before them, when the names in `kept` were kept already. -/
def firstWinsFrom (kept : List String) : List α → List α
  | [] => []
  | x :: xs =>
    if kept.any (Catalog.conflicts · (name x)) then firstWinsFrom kept xs
    else x :: firstWinsFrom (kept ++ [name x]) xs

end

/-- The names of a list that conflict with no name kept before them. -/
def firstWins (names : List String) : List String := firstWinsFrom id [] names

/-- No two of the names conflict. -/
def ConflictFree (names : List String) : Prop := names.Pairwise fun a b => Catalog.conflicts a b = false

/-- Among names that are free of conflicts the order does not matter. -/
theorem ConflictFree.conflicts_eq_false {names : List String} (h : ConflictFree names) {a b : String} (ha : a ∈ names)
    (hb : b ∈ names) : Catalog.conflicts a b = false := by
  refine List.Pairwise.forall_of_forall_of_flip (fun x _ => Catalog.conflicts_irrefl x) h (h.imp ?_) ha hb
  intro x y hxy
  rw [flip, Catalog.conflicts_comm]
  exact hxy

theorem ConflictFree.sublist {names names' : List String} (h : ConflictFree names) (hsub : names'.Sublist names) :
    ConflictFree names' := List.Pairwise.sublist hsub h

section
variable {α : Type} {name : α → String}

theorem firstWinsFrom_skip {kept : List String} {x : α} (xs : List α)
    (h : ∃ k ∈ kept, Catalog.conflicts k (name x) = true) :
    firstWinsFrom name kept (x :: xs) = firstWinsFrom name kept xs := by
  rw [firstWinsFrom, if_pos (List.any_eq_true.2 h)]

theorem firstWinsFrom_keep {kept : List String} {x : α} (xs : List α)
    (h : ∀ k ∈ kept, Catalog.conflicts k (name x) = false) :
    firstWinsFrom name kept (x :: xs) = x :: firstWinsFrom name (kept ++ [name x]) xs := by
  rw [firstWinsFrom, if_neg]
  intro hany
  obtain ⟨k, hk, hc⟩ := List.any_eq_true.1 hany
  rw [h k hk] at hc
  exact absurd hc (by decide)

/-- The pass looks at names only. -/
theorem map_firstWinsFrom (kept : List String) (xs : List α) :
    (firstWinsFrom name kept xs).map name = firstWinsFrom id kept (xs.map name) := by
  induction xs generalizing kept with
  | nil => rfl
  | cons x xs ih =>
    show _ = if kept.any (Catalog.conflicts · (name x)) then firstWinsFrom id kept (xs.map name)
      else name x :: firstWinsFrom id (kept ++ [name x]) (xs.map name)
    rw [firstWinsFrom]
    split
    · exact ih kept
    · rw [List.map_cons, ih]

/-- The pass drops members and moves none. -/
theorem firstWinsFrom_sublist (kept : List String) (xs : List α) :
    (firstWinsFrom name kept xs).Sublist xs := by
  induction xs generalizing kept with
  | nil => exact List.Sublist.refl _
  | cons x xs ih =>
    rw [firstWinsFrom]
    split
    · exact (ih kept).cons x
    · exact (ih _).cons_cons x

/-- Nothing that the pass keeps conflicts with a name kept before. -/
theorem conflicts_eq_false_of_mem_firstWinsFrom {kept : List String} {xs : List α} {k : String} {x : α}
    (hk : k ∈ kept) (hx : x ∈ firstWinsFrom name kept xs) : Catalog.conflicts k (name x) = false := by
  induction xs generalizing kept with
  | nil => exact absurd hx (List.not_mem_nil)
  | cons y ys ih =>
    rw [firstWinsFrom] at hx
    split at hx
    · exact ih hk hx
    · next hany =>
      rcases List.mem_cons.1 hx with rfl | hx
      · exact Bool.not_eq_true _ ▸ fun hc => hany (List.any_eq_true.2 ⟨k, hk, hc⟩)
      · exact ih (List.mem_append_left _ hk) hx

/-- **What the pass keeps is free of conflicts.** -/
theorem conflictFree_firstWinsFrom (kept : List String) (xs : List α) :
    ConflictFree ((firstWinsFrom name kept xs).map name) := by
  induction xs generalizing kept with
  | nil => exact List.Pairwise.nil
  | cons x xs ih =>
    rw [firstWinsFrom]
    split
    · exact ih kept
    · rw [List.map_cons]
      refine List.Pairwise.cons ?_ (ih _)
      intro b hb
      obtain ⟨y, hy, rfl⟩ := List.mem_map.1 hb
      exact conflicts_eq_false_of_mem_firstWinsFrom (List.mem_append_right _ (List.mem_singleton_self _)) hy

theorem clear_of_keep {kept : List String} {x : α} {xs : List α}
    (hkept : ∀ k ∈ kept, ∀ y ∈ x :: xs, Catalog.conflicts k (name y) = false)
    (hx : ∀ b ∈ xs.map name, Catalog.conflicts (name x) b = false) :
    ∀ k ∈ kept ++ [name x], ∀ y ∈ xs, Catalog.conflicts k (name y) = false := by
  intro k hk y hy
  rcases List.mem_append.1 hk with hk | hk
  · exact hkept k hk y (List.mem_cons_of_mem _ hy)
  · rw [List.mem_singleton.1 hk]
    exact hx _ (List.mem_map_of_mem hy)

/-- A list without conflicts passes unchanged. -/
theorem firstWinsFrom_eq_self {kept : List String} {xs : List α} (hfree : ConflictFree (xs.map name))
    (hkept : ∀ k ∈ kept, ∀ x ∈ xs, Catalog.conflicts k (name x) = false) :
    firstWinsFrom name kept xs = xs := by
  induction xs generalizing kept with
  | nil => rfl
  | cons x xs ih =>
    obtain ⟨hx, hxs⟩ := List.pairwise_cons.1 hfree
    rw [firstWinsFrom_keep xs fun k hk => hkept k hk x List.mem_cons_self, ih hxs (clear_of_keep hkept hx)]

/-- **Whatever the pass skips conflicts with something kept.** -/
theorem exists_conflict_of_not_mem_firstWinsFrom {kept : List String} {xs : List α} {x : α} (hx : x ∈ xs)
    (hskip : name x ∉ (firstWinsFrom name kept xs).map name) :
    ∃ k ∈ kept ++ (firstWinsFrom name kept xs).map name, Catalog.conflicts k (name x) = true := by
  induction xs generalizing kept with
  | nil => cases hx
  | cons y ys ih =>
    rw [firstWinsFrom] at hskip ⊢
    split at hskip
    · next hany =>
      rw [if_pos hany]
      rcases List.mem_cons.1 hx with rfl | hx
      · -- the member itself is skipped here; otherwise the induction has its rival
        obtain ⟨k, hk, hc⟩ := List.any_eq_true.1 hany
        exact ⟨k, List.mem_append_left _ hk, hc⟩
      · exact ih hx hskip
    · next hany =>
      rw [if_neg hany]
      rw [List.map_cons, List.mem_cons, not_or] at hskip
      have hys : x ∈ ys := (List.mem_cons.1 hx).resolve_left fun he => hskip.1 (congrArg name he)
      obtain ⟨k, hk, hc⟩ := ih hys hskip.2
      rw [← List.append_cons] at hk
      exact ⟨k, hk, hc⟩

/-- The pass goes on behind a first part with what it kept of that part. -/
theorem firstWinsFrom_append (kept : List String) (xs ys : List α) :
    firstWinsFrom name kept (xs ++ ys) =
      firstWinsFrom name kept xs ++ firstWinsFrom name (kept ++ (firstWinsFrom name kept xs).map name) ys := by
  induction xs generalizing kept with
  | nil => simp [firstWinsFrom]
  | cons x xs ih =>
    rw [List.cons_append, firstWinsFrom, firstWinsFrom]
    split
    · exact ih kept
    · rw [ih, List.map_cons, List.cons_append, List.append_assoc, List.singleton_append]

/-- The order of the names that were kept before does not matter. -/
theorem firstWinsFrom_perm {kept kept' : List String} (h : kept.Perm kept') (xs : List α) :
    firstWinsFrom name kept xs = firstWinsFrom name kept' xs := by
  induction xs generalizing kept kept' with
  | nil => rfl
  | cons x xs ih =>
    have hany : kept.any (Catalog.conflicts · (name x)) = kept'.any (Catalog.conflicts · (name x)) := h.any_eq
    rw [firstWinsFrom, firstWinsFrom, hany, ih h, ih (h.append_right [name x])]

/-! ## §2 — leaving out a member that the pass skips

A repair takes out the later one of the first clashing pair, turn by turn. The pass does not notice: it would have skipped that
member. -/

/-- A name that conflicts with a kept one is skipped wherever it stands, so its first bearer may as well go. -/
theorem firstWinsFrom_eraseP_skipped {kept : List String} {k b : String} (hk : k ∈ kept)
    (hc : Catalog.conflicts k b = true) (xs : List α) :
    firstWinsFrom name kept (xs.eraseP (name · == b)) = firstWinsFrom name kept xs := by
  induction xs generalizing kept with
  | nil => rfl
  | cons x xs ih =>
    by_cases hx : name x = b
    · rw [List.eraseP_cons_of_pos (by simpa using hx), firstWinsFrom_skip xs ⟨k, hk, hx ▸ hc⟩]
    · rw [List.eraseP_cons_of_neg (by simpa using hx), firstWinsFrom, firstWinsFrom]
      split
      · exact ih hk
      · rw [ih (List.mem_append_left _ hk)]

/-- The later name of a clash is one of the names, and conflicts with another one. -/
theorem mem_of_mem_clashes {names : List String} {p : String × String} (h : p ∈ clashes names) :
    p.1 ∈ names ∧ p.2 ∈ names ∧ Catalog.conflicts p.1 p.2 = true := by
  induction names with
  | nil => exact absurd h (List.not_mem_nil)
  | cons a rest ih =>
    rcases List.mem_append.1 h with h | h
    · obtain ⟨b, hb, rfl⟩ := List.mem_map.1 h
      obtain ⟨hmem, hc⟩ := List.mem_filter.1 hb
      exact ⟨List.mem_cons_self, List.mem_cons_of_mem _ hmem, hc⟩
    · obtain ⟨h1, h2, hc⟩ := ih h
      exact ⟨List.mem_cons_of_mem _ h1, List.mem_cons_of_mem _ h2, hc⟩

/-- There are no clashes iff the names are free of conflicts. -/
theorem clashes_eq_nil_iff (names : List String) : clashes names = [] ↔ ConflictFree names := by
  induction names with
  | nil => exact ⟨fun _ => List.Pairwise.nil, fun _ => rfl⟩
  | cons a rest ih =>
    rw [clashes, List.append_eq_nil_iff, List.map_eq_nil_iff, List.filter_eq_nil_iff, ih]
    simp only [Bool.not_eq_true, ConflictFree, List.pairwise_cons]

/-- Either the head of a list is the earlier name of its first clash, or it clashes with nothing behind it. -/
theorem clashes_cons_cases {a : String} {rest : List String} {p : String × String} {ps : List (String × String)}
    (h : clashes (a :: rest) = p :: ps) :
    (p.1 = a ∧ Catalog.conflicts a p.2 = true) ∨
      ((∀ b ∈ rest, Catalog.conflicts a b = false) ∧ clashes rest = p :: ps) := by
  rw [clashes] at h
  cases hr : rest.filter (Catalog.conflicts a) with
  | nil =>
    rw [hr, List.map_nil, List.nil_append] at h
    refine .inr ⟨?_, h⟩
    simpa only [List.filter_eq_nil_iff, Bool.not_eq_true] using hr
  | cons b bs =>
    have hb : b ∈ rest.filter (Catalog.conflicts a) := hr ▸ List.mem_cons_self
    rw [hr, List.map_cons, List.cons_append, List.cons.injEq] at h
    have hp : (a, b) = p := h.1
    exact .inl (hp ▸ ⟨rfl, (List.mem_filter.1 hb).2⟩)

/-- **The later name of the first clash is skipped by the pass.** The kept names must conflict with nothing in the list,
as they do when the pass has come to the first clash. -/
theorem firstWinsFrom_eraseP_later {kept : List String} {xs : List α} {p : String × String}
    {ps : List (String × String)} (hkept : ∀ k ∈ kept, ∀ x ∈ xs, Catalog.conflicts k (name x) = false)
    (h : clashes (xs.map name) = p :: ps) :
    firstWinsFrom name kept (xs.eraseP (name · == p.2)) = firstWinsFrom name kept xs := by
  induction xs generalizing kept with
  | nil => exact absurd h (by simp [clashes])
  | cons x xs ih =>
    have hx := fun k hk => hkept k hk x List.mem_cons_self
    rcases clashes_cons_cases h with ⟨-, hc⟩ | ⟨hnone, hrest⟩
    · -- `x` is the earlier name of the first clash, and it is kept
      have hne : ¬(name x == p.2) = true := by
        intro he
        rw [← eq_of_beq he, Catalog.conflicts_irrefl] at hc
        exact absurd hc (by decide)
      rw [List.eraseP_cons_of_neg (by exact hne), firstWinsFrom_keep _ hx, firstWinsFrom_keep _ hx,
        firstWinsFrom_eraseP_skipped (List.mem_append_right _ (List.mem_singleton_self _)) hc]
    · -- `x` clashes with nothing behind it: the first clash lies behind `x`, and `x` is not its later name
      obtain ⟨h1, h2, hc⟩ := mem_of_mem_clashes (hrest ▸ List.mem_cons_self : p ∈ clashes (xs.map name))
      have hne : ¬(name x == p.2) = true := by
        intro he
        rw [← eq_of_beq he, Catalog.conflicts_comm, hnone _ h1] at hc
        exact absurd hc (by decide)
      rw [List.eraseP_cons_of_neg (by exact hne), firstWinsFrom_keep _ hx, firstWinsFrom_keep _ hx,
        ih (clear_of_keep hkept hnone) hrest]

/-- **The earlier name of the first clash is kept by the pass**, so that no later turn of a repair takes it away. -/
theorem earlier_mem_firstWinsFrom {kept : List String} {xs : List α} {p : String × String}
    {ps : List (String × String)} (hkept : ∀ k ∈ kept, ∀ x ∈ xs, Catalog.conflicts k (name x) = false)
    (h : clashes (xs.map name) = p :: ps) : p.1 ∈ (firstWinsFrom name kept xs).map name := by
  induction xs generalizing kept with
  | nil => exact absurd h (by simp [clashes])
  | cons x xs ih =>
    rw [firstWinsFrom_keep xs fun k hk => hkept k hk x List.mem_cons_self, List.map_cons, List.mem_cons]
    rcases clashes_cons_cases h with ⟨hp, -⟩ | ⟨hnone, hrest⟩
    · exact .inl hp
    · exact .inr (ih (clear_of_keep hkept hnone) hrest)

end

/-! ## §3 — choosing candidates is the pass

The loop of the choice adds a linter unless a rival is on. -/

/-- Adding linters one by one is the pass, with those that are on as the ones kept before. -/
theorem foldl_addUnlessRival_enabled (ls : List Linter) (s : LinterSet) :
    (ls.foldl addUnlessRival s).enabled = s.enabled ++ firstWinsFrom Linter.name s.enabledNames ls := by
  induction ls generalizing s with
  | nil => exact (List.append_nil _).symm
  | cons l ls ih =>
    have hany : s.enabled.any (fun k => Catalog.conflicts k.name l.name) =
        s.enabledNames.any (Catalog.conflicts · l.name) := by
      rw [LinterSet.enabledNames, List.any_map]; rfl
    rw [List.foldl_cons, ih, addUnlessRival, hany, firstWinsFrom]
    split
    · rfl
    · simp [LinterSet.add, LinterSet.enabledNames]

/-- **Choosing candidates keeps the linters that the pass keeps.** -/
theorem withoutConflicts_enabled (ls : List Linter) :
    (withoutConflicts ls).enabled = firstWinsFrom Linter.name [] ls := by
  rw [withoutConflicts, foldl_addUnlessRival_enabled]
  rfl

/-! ## §4 — repairing is the pass

The turns of the repair take out members until nothing clashes. -/

/-- Enough turns of the repair leave what the pass keeps. Induction on the turns: a turn with a clash leaves a shorter
list on which the pass keeps the same linters. -/
theorem separate_enabled (fuel : Nat) (s : LinterSet) (hfuel : s.enabled.length ≤ fuel) :
    (s.separate fuel).enabled = firstWinsFrom Linter.name [] s.enabled := by
  induction fuel generalizing s with
  | zero =>
    have hnil : s.enabled = [] := List.length_eq_zero_iff.1 (Nat.le_zero.1 hfuel)
    rw [LinterSet.separate, hnil]
    rfl
  | succ fuel ih =>
    rw [LinterSet.separate]
    cases hclash : clashes s.enabledNames with
    | nil =>
      have hfree := (clashes_eq_nil_iff _).1 hclash
      exact (firstWinsFrom_eq_self hfree fun k hk => absurd hk (List.not_mem_nil)).symm
    | cons p ps =>
      obtain ⟨-, hmem, -⟩ := mem_of_mem_clashes (hclash ▸ List.mem_cons_self : p ∈ clashes s.enabledNames)
      obtain ⟨l, hl, hname⟩ := List.mem_map.1 hmem
      -- each turn takes out one linter, so there is fuel enough
      have hlen : (s.enabled.eraseP (·.name == p.2)).length = s.enabled.length - 1 :=
        List.length_eraseP_of_mem hl (by simpa using hname)
      have hpos : 0 < s.enabled.length := List.length_pos_of_mem hl
      show ((s.disable p.2).separate fuel).enabled = _
      rw [ih (s.disable p.2) (by show (s.enabled.eraseP _).length ≤ fuel; omega)]
      exact firstWinsFrom_eraseP_later (fun k hk => absurd hk (List.not_mem_nil)) hclash

/-- **Repairing leaves the linters that the pass keeps.** -/
theorem separated_enabled (s : LinterSet) : s.separated.enabled = firstWinsFrom Linter.name [] s.enabled :=
  separate_enabled _ s (Nat.le_refl _)

/-- The names that a repaired set has on are those that the pass keeps. -/
theorem separated_enabledNames (s : LinterSet) : s.separated.enabledNames = firstWins s.enabledNames := by
  rw [LinterSet.enabledNames, separated_enabled, map_firstWinsFrom]
  rfl

end LintPlan.Planning
