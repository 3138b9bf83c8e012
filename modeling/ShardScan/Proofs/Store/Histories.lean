import ShardScan.Proofs.Catalog.Enclosing
import ShardScan.Proofs.Dict
import ShardScan.Proofs.Store.Tables

/-!
# Histories of a store

A store changes step by step, from an empty one on; a step that fails may leave
something behind.  What holds of empty stores and is kept by every step that is
allowed holds of every store that such steps lead to.

Beside the calls on tables there are those that make and remove directories.
Each of them does one thing to the directories: it makes one, with those around
it, or it removes one that is empty, or it leaves them alone.

## Main definitions

* `Store.History` — the stores that allowed steps lead to.
* `Store.SchemeCall`, `Store.after` — calls on directories and tables.
* `Store.Removable` — a directory that the store removes.
* `Store.Turns`, `Store.Effect` — what a call does to the directories, and to all paths.

## Main results

* `Store.History.keeps` — what every allowed step keeps holds in every history.
* `Store.contains_makeDirectory_iff` — the directories behind the making of one.
* `Store.removeDirectory_of_removable` — what a removal changes.
* `Store.effect_after` — every call has one of these effects.
-/

namespace ShardScan
namespace Store

/-- The stores that steps lead to from an empty one, as long as each of them is allowed in the
store it is made in. -/
inductive History {Step : Type} (next : Store → Step → Store) (allowed : Store → Step → Prop)
    (database : String) : Store → Prop
  | new : History next allowed database (.new database)
  | step {s : Store} {step : Step} (h : History next allowed database s) (hstep : allowed s step) :
    History next allowed database (next s step)

/-- **What every allowed step keeps** holds in every history, if it holds of the empty store. -/
theorem History.keeps {Step : Type} {next : Store → Step → Store} {allowed : Store → Step → Prop}
    {database : String} {P : Store → Prop} (hnew : P (.new database))
    (hkeeps : ∀ s step, P s → allowed s step → P (next s step)) {s : Store}
    (h : History next allowed database s) : P s := by
  induction h with
  | new => exact hnew
  | step _ hstep ih => exact hkeeps _ _ ih hstep

/-- Steps that are allowed in every store go on with a history. -/
theorem History.run {Step : Type} {next : Store → Step → Store} {allowed : Store → Step → Prop}
    {database : String} {s : Store} (h : History next allowed database s) {steps : List Step}
    (hsteps : ∀ step ∈ steps, ∀ s, allowed s step) :
    History next allowed database (steps.foldl next s) := by
  induction steps generalizing s with
  | nil => exact h
  | cons step steps ih =>
    refine ih (h.step (hsteps step List.mem_cons_self s)) ?_
    intro step' hstep'
    exact hsteps step' (List.mem_cons_of_mem _ hstep')

/-- A call that changes the directories or the tables of a store. -/
inductive SchemeCall
  | makeDirectory (path : String)
  | removeDirectory (path : String)
  | table (call : TableCall)

namespace SchemeCall

/-- The directory that a call makes, with those around it. -/
def directory? : SchemeCall → Option String
  | makeDirectory path => some path
  | table (.create path _) => some (Path.parent path)
  | _ => none

/-- The path to which a call brings a table. -/
def target? : SchemeCall → Option String
  | table (.create path _) => some path
  | table (.rename _ target) => some target
  | _ => none

end SchemeCall

/-- The store behind a call, be it successful or not. -/
def after (s : Store) : SchemeCall → Store
  | .makeDirectory path => (s.makeDirectory path).2
  | .removeDirectory path => (s.removeDirectory path).2
  | .table call => (s.call call).2

variable {s : Store} {path d : String}

/-! ### Making a directory -/

theorem database_makeDirectory (s : Store) (path : String) :
    (s.makeDirectory path).2.database = s.database := by
  unfold makeDirectory
  dsimp only
  repeat' split
  all_goals rfl

/-- **The directories behind the making of one** are those before, and those in the database that lie
around a path at which nothing was. -/
theorem contains_makeDirectory_iff : (s.makeDirectory path).2.directories.contains d = true ↔
    s.directories.contains d = true ∨ s.isTaken (Path.trimEnd path) = false ∧
      Path.Inside s.database d ∧ Path.Encloses d (Path.trimEnd path) := by
  unfold makeDirectory
  dsimp only
  split
  · next htable => simp [isTaken, htable]
  · next htable =>
    split
    · next hthere => simp [isTaken, hthere]
    · next hthere =>
      have hfree : s.isTaken (Path.trimEnd path) = false := by
        simp [isTaken, htable, hthere]
      rw [Dict.contains_foldl_insert, Path.mem_enclosing_iff (Nat.le_refl _), or_comm, hfree]
      simp

/-! ### Removing a directory -/

/-- A directory that the store removes: it is there, it is not the root, and it is the parent of
nothing. -/
structure Removable (s : Store) (path : String) : Prop where
  there : s.directories.contains path = true
  below : path ≠ s.database
  noDirectory : ∀ d, s.directories.contains d = true → d ≠ path → Path.parent d ≠ path
  noTable : ∀ t, s.tables.contains t = true → Path.parent t ≠ path

theorem removeDirectory_of_removable (h : s.Removable (Path.trimEnd path)) :
    s.removeDirectory path =
      (.ok (), { s with directories := s.directories.erase (Path.trimEnd path) }) := by
  have hchildren : (s.directories.keys.any fun d =>
      isChildOf (Path.trimEnd path) d && d != Path.trimEnd path) = false := by
    rw [List.any_eq_false]
    intro d hd
    have hparent := h.noDirectory d (Dict.mem_keys.mp hd)
    simp only [isChildOf, Bool.and_eq_true, beq_iff_eq, bne_iff_ne, not_and, not_not]
    intro hchild
    by_contra hne
    exact hparent hne hchild
  have htables : s.tables.keys.any (isChildOf (Path.trimEnd path)) = false := by
    rw [List.any_eq_false]
    intro t ht
    simpa [isChildOf] using h.noTable t (Dict.mem_keys.mp ht)
  unfold removeDirectory
  simp [h.there, h.below, hchildren, htables]

/-- Any other directory stays, and so does everything else. -/
theorem removeDirectory_of_not_removable (h : ¬ s.Removable (Path.trimEnd path)) :
    ∃ e, s.removeDirectory path = (.error e, s) := by
  unfold removeDirectory
  dsimp only
  split
  · exact ⟨_, rfl⟩
  · next hthere =>
    split
    · exact ⟨_, rfl⟩
    · next hempty =>
      refine absurd ?_ h
      simp only [Bool.or_eq_true, Bool.not_eq_true', beq_iff_eq, not_or, Bool.not_eq_false] at hthere
      simp only [Bool.or_eq_true, List.any_eq_true, not_or, not_exists, not_and] at hempty
      refine ⟨hthere.1, hthere.2, ?_, ?_⟩
      · intro d hd hne hparent
        refine hempty.1 d (Dict.mem_keys.mpr hd) ?_
        simp [isChildOf, hparent, hne]
      · intro t ht hparent
        refine hempty.2 t (Dict.mem_keys.mpr ht) ?_
        simp [isChildOf, hparent]

theorem tables_removeDirectory (s : Store) (path : String) :
    (s.removeDirectory path).2.tables = s.tables := by
  by_cases hremovable : s.Removable (Path.trimEnd path)
  · rw [removeDirectory_of_removable hremovable]
  · obtain ⟨e, hkept⟩ := removeDirectory_of_not_removable hremovable
    rw [hkept]

/-! ### Any call -/

/-- What a call does to the directories of a store: it makes one and takes no table away, or it
removes one, or it leaves them alone. -/
inductive Turns (s : Store) (c : SchemeCall) (s' : Store) : Prop
  | made (path : String) (hcall : c.directory? = some path)
    (hmade : s'.directories = (s.makeDirectory path).2.directories)
    (htables : ∀ t, s.tables.contains t = true → s'.tables.contains t = true)
  | removed (path : String) (hremovable : s.Removable path)
    (hremoved : s'.directories = s.directories.erase path)
  | same (hsame : s'.directories = s.directories)

/-- What a call does to the paths of a store. -/
structure Effect (s : Store) (c : SchemeCall) (s' : Store) : Prop where
  database : s'.database = s.database
  /-- A table that comes to a path comes where no directory is. -/
  tables : ∀ t, s'.tables.contains t = true →
    s.tables.contains t = true ∨ c.target? = some t ∧ s'.directories.contains t = false
  directories : s.Turns c s'

/-- A call that puts the table at a path in place of the one that is there. -/
theorem effect_of_replace {c : SchemeCall} {t t' : Table} (ht : s.tables.get? path = some t) :
    s.Effect c { s with tables := s.tables.insert path t' } where
  database := rfl
  tables q hq := by
    rcases (Dict.contains_insert ..).mp hq with rfl | hq
    · left
      simp [Dict.contains, ht]
    · exact .inl hq
  directories := .same rfl

theorem effect_of_eq (s : Store) (c : SchemeCall) : s.Effect c s where
  database := rfl
  tables _ hq := .inl hq
  directories := .same rfl

theorem effect_makeDirectory (s : Store) (path : String) :
    s.Effect (.makeDirectory path) (s.makeDirectory path).2 where
  database := database_makeDirectory s path
  tables _ hq := .inl (tables_makeDirectory s path ▸ hq)
  directories := by
    refine .made path rfl rfl ?_
    intro t ht
    rwa [tables_makeDirectory]

theorem effect_removeDirectory (s : Store) (path : String) :
    s.Effect (.removeDirectory path) (s.removeDirectory path).2 := by
  by_cases hremovable : s.Removable (Path.trimEnd path)
  · rw [removeDirectory_of_removable hremovable]
    exact ⟨rfl, fun _ hq => .inl hq, .removed _ hremovable rfl⟩
  · obtain ⟨e, hkept⟩ := removeDirectory_of_not_removable hremovable
    rw [hkept]
    exact effect_of_eq s _

theorem effect_createTable (s : Store) (path : String) (layout : TableLayout) :
    s.Effect (.table (.create path layout)) (s.createTable path layout).2 := by
  have hdatabase := database_makeDirectory s (Path.parent path)
  have htables := tables_makeDirectory s (Path.parent path)
  unfold createTable
  split
  · exact effect_of_eq s _
  · split
    · next made heq =>
      rw [heq] at hdatabase htables
      refine ⟨hdatabase, fun _ hq => .inl (htables ▸ hq), .made _ rfl (by rw [heq]) ?_⟩
      intro t ht
      exact htables.symm ▸ ht
    · next made heq =>
      rw [heq] at hdatabase htables
      dsimp only at hdatabase htables
      split
      · refine ⟨hdatabase, fun _ hq => .inl (htables ▸ hq), .made _ rfl (by rw [heq]) ?_⟩
        intro t ht
        exact htables.symm ▸ ht
      · next hfree =>
        -- The path is free when the directories around it are there.
        simp only [isTaken, Bool.or_eq_true, not_or, Bool.not_eq_true] at hfree
        refine ⟨hdatabase, ?_, .made _ rfl (by rw [heq]) ?_⟩
        · intro t ht
          rcases (Dict.contains_insert ..).mp ht with rfl | ht
          · exact .inr ⟨rfl, hfree.2⟩
          · exact .inl (htables ▸ ht)
        · intro t ht
          exact (Dict.contains_insert ..).mpr (.inr (htables.symm ▸ ht))

theorem effect_renameTable (s : Store) (source target : String) :
    s.Effect (.table (.rename source target)) (s.renameTable source target).2 := by
  unfold renameTable
  split
  · exact effect_of_eq s _
  · next hfree =>
    simp only [isTaken, Bool.or_eq_true, not_or, Bool.not_eq_true] at hfree
    split
    · exact effect_of_eq s _
    · refine ⟨rfl, ?_, .same rfl⟩
      intro t ht
      rcases (Dict.contains_insert ..).mp ht with rfl | ht
      · exact .inr ⟨rfl, hfree.2⟩
      · exact .inl ((Dict.contains_erase ..).mp ht).2

theorem effect_dropTable (s : Store) (path : String) :
    s.Effect (.table (.drop path)) (s.dropTable path).2 := by
  unfold dropTable
  split
  · refine ⟨rfl, ?_, .same rfl⟩
    intro t ht
    exact .inl ((Dict.contains_erase ..).mp ht).2
  · exact effect_of_eq s _

/-- **What a call does to the paths of a store.** -/
theorem effect_after (s : Store) (c : SchemeCall) : s.Effect c (s.after c) := by
  cases c with
  | makeDirectory path => exact effect_makeDirectory s path
  | removeDirectory path => exact effect_removeDirectory s path
  | table c =>
    cases c with
    | create path layout => exact effect_createTable s path layout
    | insert path rows =>
      rw [after, call, insertRows]
      split
      · exact effect_of_eq s _
      · next ht => exact effect_of_replace ht
    | alter path operations =>
      rw [after, call, alterTable]
      split
      · exact effect_of_eq s _
      · next ht => exact effect_of_replace ht
    | split path points =>
      rw [after, call, splitTable]
      split
      · exact effect_of_eq s _
      · next ht => exact effect_of_replace ht
    | rename source target => exact effect_renameTable s source target
    | drop path => exact effect_dropTable s path

end Store
end ShardScan
