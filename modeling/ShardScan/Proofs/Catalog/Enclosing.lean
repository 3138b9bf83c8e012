import Mathlib.Data.List.Infix
import ShardScan.Proofs.Catalog.Paths

/-!
# The paths around a path

A directory is made together with those around it, from the inside out, as long
as their paths begin with that of the database.  Going up only shortens a path, so
the way up does not leave the database and come back into it: what is made are
the paths around the one that is asked for, as far as they are in the database.

For the directory of a namespace these are the directories of the namespaces
around it, down to the root.

## Main definitions

* `Path.Inside` — a path begins with that of the database.
* `Path.Encloses` — a path lies around another.

## Main results

* `Path.mem_enclosing_iff` — the directories that are made with one.
* `Path.encloses_below_iff` — those around the directory of a namespace.
-/

namespace ShardScan
namespace Path

variable {database path outer inner : String}

/-- A path begins with that of the database, and is not a slash alone. -/
def Inside (database path : String) : Prop :=
  1 < path.utf8ByteSize ∧ database.toList <+: path.toList

/-- A path is another, or lies around it. -/
inductive Encloses (outer : String) : String → Prop
  | self : Encloses outer outer
  | around {inner : String} (h : Encloses outer (parent inner)) : Encloses outer inner

theorem encloses_iff : Encloses outer inner ↔ inner = outer ∨ Encloses outer (parent inner) := by
  constructor
  · intro h
    cases h with
    | self => exact .inl rfl
    | around h => exact .inr h
  · rintro (rfl | h)
    · exact .self
    · exact .around h

theorem Encloses.trans {middle : String} (h : Encloses outer middle) (h' : Encloses middle inner) :
    Encloses outer inner := by
  induction h' with
  | self => exact h
  | around _ ih => exact .around ih

/-! ### Going up -/

/-- A path begins with its parent, unless that is the root of all paths. -/
theorem parent_begins (path : String) :
    parent path = "/" ∨ ∃ rest, rest ≠ [] ∧ path.toList = (parent path).toList ++ rest := by
  have hdropped : Text.dropEndWhile (· == '/') path.toList <+: path.toList :=
    List.rdropWhile_prefix _ _
  obtain ⟨slashes, hslashes⟩ := hdropped
  unfold parent
  split
  · exact .inl rfl
  · exact .inl rfl
  · next before last _ hsplit =>
    obtain ⟨htext, -⟩ := splitLast_eq_some_iff.mp hsplit
    refine .inr ⟨'/' :: last ++ slashes, by simp, ?_⟩
    rw [← hslashes, htext, String.toList_ofList, List.append_assoc]

theorem size_parent_lt (h : 1 < path.utf8ByteSize) :
    (parent path).utf8ByteSize < path.utf8ByteSize := by
  rcases parent_begins path with hroot | ⟨rest, hrest, htext⟩
  · rw [hroot]
    exact h
  · have hpath : path = parent path ++ String.ofList rest := by
      rw [← String.toList_inj, String.toList_append, String.toList_ofList]
      exact htext
    have hne : (String.ofList rest).utf8ByteSize ≠ 0 := by
      intro hzero
      refine hrest ?_
      rw [← String.toList_ofList (l := rest), String.utf8ByteSize_eq_zero_iff.mp hzero,
        String.toList_empty]
    have hsize := congrArg String.utf8ByteSize hpath
    rw [String.utf8ByteSize_append] at hsize
    omega

theorem parent_ne_self (h : 1 < path.utf8ByteSize) : parent path ≠ path := by
  intro hsame
  have hlt := size_parent_lt h
  rw [hsame] at hlt
  exact absurd hlt (Nat.lt_irrefl _)

/-- The way up does not come back into the database. -/
theorem inside_of_parent (h : Inside database (parent path)) : Inside database path := by
  obtain ⟨hsize, hbegins⟩ := h
  rcases parent_begins path with hroot | ⟨rest, -, htext⟩
  · rw [hroot] at hsize
    exact absurd hsize (by decide)
  · have hbegins' : (parent path).toList <+: path.toList := ⟨rest, htext.symm⟩
    refine ⟨?_, hbegins.trans hbegins'⟩
    by_contra hshort
    have hpath : path = parent path ++ String.ofList rest := by
      rw [← String.toList_inj, String.toList_append, String.toList_ofList]
      exact htext
    have hsize' := congrArg String.utf8ByteSize hpath
    rw [String.utf8ByteSize_append] at hsize'
    omega

theorem Encloses.inside (h : Encloses outer inner) (houter : Inside database outer) :
    Inside database inner := by
  induction h with
  | self => exact houter
  | around _ ih => exact inside_of_parent ih

theorem enclosing_succ (database : String) (fuel : Nat) (path : String) [Decidable (Inside database path)] :
    enclosing database (fuel + 1) path =
      if Inside database path then path :: enclosing database fuel (parent path) else [] := by
  rw [enclosing]
  refine if_congr ?_ rfl rfl
  simp [Inside, List.isPrefixOf_iff_prefix]

/-- **The directories that are made with one** are those in the database that lie around it. -/
theorem mem_enclosing_iff {fuel : Nat} (hfuel : path.utf8ByteSize ≤ fuel) :
    outer ∈ enclosing database fuel path ↔ Inside database outer ∧ Encloses outer path := by
  classical
  induction fuel generalizing path with
  | zero =>
    rw [enclosing]
    constructor
    · intro hmem
      cases hmem
    · rintro ⟨hinside, hencloses⟩
      obtain ⟨hsize, -⟩ := hencloses.inside hinside
      omega
  | succ fuel ih =>
    rw [enclosing_succ, encloses_iff]
    split
    · next hinside =>
      have hparent : (parent path).utf8ByteSize ≤ fuel := by
        have hlt := size_parent_lt hinside.1
        omega
      rw [List.mem_cons, ih hparent]
      constructor
      · rintro (rfl | ⟨houter, hencloses⟩)
        · exact ⟨hinside, .inl rfl⟩
        · exact ⟨houter, .inr hencloses⟩
      · rintro ⟨houter, rfl | hencloses⟩
        · exact .inl rfl
        · exact .inr ⟨houter, hencloses⟩
    · next hinside =>
      constructor
      · intro hmem
        cases hmem
      · rintro ⟨houter, hencloses⟩
        exact absurd ((encloses_iff.mpr hencloses).inside houter) hinside

/-! ### Directories of namespaces -/

section Below

variable {space front : List String} (hroot : IsRoot database)
include hroot

theorem inside_append (rest : String) : Inside database (database ++ rest) := by
  constructor
  · rw [String.utf8ByteSize_append]
    exact Nat.lt_add_right _ hroot.one_lt_size
  · rw [String.toList_append]
    exact List.prefix_append _ _

theorem inside_below (space : List String) : Inside database (below database space) := by
  obtain ⟨rest, hrest⟩ := exists_below_eq hroot space
  rw [hrest]
  exact inside_append hroot rest

theorem inside_trimEnd_below (space : List String) :
    Inside database (trimEnd (below database space)) := by
  obtain ⟨rest, hrest⟩ := exists_trimEnd_below_eq hroot space
  rw [hrest]
  exact inside_append hroot rest

/-- Nothing around the root directory is in the database. -/
theorem not_inside_of_encloses_parent (h : Encloses outer (parent database)) :
    ¬ Inside database outer := by
  intro hinside
  obtain ⟨-, rest, hrest⟩ := h.inside hinside
  have hparent : parent database = database ++ String.ofList rest := by
    rw [← String.toList_inj, String.toList_append, String.toList_ofList]
    exact hrest.symm
  have hsize := congrArg String.utf8ByteSize hparent
  rw [String.utf8ByteSize_append] at hsize
  have hlt := size_parent_lt hroot.one_lt_size
  omega

theorem parent_below {name : String} (hname : name ≠ "") (space : List String) :
    parent (below database (space ++ [name])) = below database space := by
  rw [below_append_singleton]
  exact parent_child (below_ne_empty hroot space) (safe_ne_empty hname) (slash_notMem_safe name)

theorem below_ne_below {name : String} (hname : name ≠ "") (space : List String) :
    below database (space ++ [name]) ≠ below database space := by
  have hne := parent_ne_self (one_lt_size_below hroot (space ++ [name]))
  rw [parent_below hroot hname] at hne
  exact hne.symm

theorem below_nil : below database [] = database := hroot.trimmed.trimEnd_eq

/-- **Around the directory of a namespace** lie, in the database, those of the namespaces around
it. -/
theorem encloses_below_iff (hspace : "" ∉ space) :
    Inside database outer ∧ Encloses outer (below database space) ↔
      ∃ front, front <+: space ∧ outer = below database front := by
  induction space using List.reverseRecOn with
  | nil =>
    rw [encloses_iff, below_nil hroot]
    constructor
    · rintro ⟨hinside, hself | hencloses⟩
      · exact ⟨[], List.prefix_refl _, by rw [below_nil hroot, hself]⟩
      · exact absurd hinside (not_inside_of_encloses_parent hroot hencloses)
    · rintro ⟨front, hfront, rfl⟩
      have hinside := inside_below hroot []
      rw [below_nil hroot] at hinside
      rw [List.prefix_nil.mp hfront, below_nil hroot]
      exact ⟨hinside, .inl rfl⟩
  | append_singleton space name ih =>
    have hname : name ≠ "" := by
      rintro rfl
      exact hspace (List.mem_append_right _ List.mem_cons_self)
    have hrest : "" ∉ space := fun hmem => hspace (List.mem_append_left _ hmem)
    rw [encloses_iff, parent_below hroot hname, and_or_left, ih hrest]
    constructor
    · rintro (⟨-, rfl⟩ | ⟨front, hfront, rfl⟩)
      · exact ⟨_, List.prefix_refl _, rfl⟩
      · exact ⟨front, hfront.trans (List.prefix_append _ _), rfl⟩
    · rintro ⟨front, hfront, rfl⟩
      rcases List.prefix_concat_iff.mp hfront with rfl | hfront
      · exact .inl ⟨inside_below hroot _, rfl⟩
      · exact .inr ⟨front, hfront, rfl⟩

/-- The directory of a namespace other than the root is not that of the root. -/
theorem below_ne_database (hspace : space ≠ []) : below database space ≠ database := by
  intro heq
  obtain ⟨around, name, rfl⟩ := (List.eq_nil_or_concat space).resolve_left hspace
  obtain ⟨rest, hrest⟩ := exists_below_eq hroot around
  rw [List.concat_eq_append, below_append_singleton, child, hrest] at heq
  have hsize := congrArg String.utf8ByteSize heq
  simp only [String.utf8ByteSize_append, show "/".utf8ByteSize = 1 from rfl] at hsize
  omega

end Below

theorem isPart_safe {part : String} (h : part ≠ "") : IsPart (safe part) where
  nonempty := safe_ne_empty h
  slash := slash_notMem_safe part
  back := notMem_safe (.inr rfl) part

end Path
end ShardScan
