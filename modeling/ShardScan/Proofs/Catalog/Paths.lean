import Mathlib.Data.List.DropRight
import Mathlib.Data.List.Induction
import ShardScan.Catalog.Name
import ShardScan.Connection.Registry
import ShardScan.Store.Directory

/-!
# Paths of catalogs

The path of a table is that of the directory of its namespace with one part
more, so its parent is that directory and its last part the name.  Conversely a
path is made of its parent and its last part, unless slashes stand at its end:
those are passed over before it is divided.

## Main definitions

* `Path.Trimmed` — no slash stands at the end of a path.
* `Path.IsPart` — a component that stands for itself in a path.
* `Path.IsRoot` — the path of a root directory.

## Main results

* `Path.splitLast_eq_some_iff` — where the last slash of a text is.
* `Path.parent_child`, `Path.base_child` — the parts of a path that was put together.
* `Path.eq_child_of_parent` — a path is put together of its parts.
* `Path.trimmed_below` — directories of namespaces without empty components.
* `TableName.parent_path`, `TableName.base_path` — where the table of a name lies.
-/

namespace ShardScan
namespace Path

/-- No slash stands at the end. -/
def Trimmed (path : String) : Prop := path.toList.getLast? ≠ some '/'

instance (path : String) : Decidable (Trimmed path) := inferInstanceAs (Decidable (_ ≠ _))

theorem dropEndWhile_slash {s : List Char} (h : s.getLast? ≠ some '/') :
    Text.dropEndWhile (· == '/') s = s := by
  refine List.rdropWhile_eq_self_iff.mpr fun hne hlast => h ?_
  rw [List.getLast?_eq_some_getLast hne, eq_of_beq hlast]

theorem Trimmed.trimEnd_eq {path : String} (h : Trimmed path) : trimEnd path = path := by
  rw [trimEnd, dropEndWhile_slash h, String.ofList_toList]

theorem getLast?_dropEndWhile_slash (s : List Char) :
    (Text.dropEndWhile (· == '/') s).getLast? ≠ some '/' := by
  have hdropped : Text.dropEndWhile (· == '/') s = s.rdropWhile (· == '/') := rfl
  intro hlast
  rw [hdropped] at hlast
  have hne : s.rdropWhile (· == '/') ≠ [] := by
    intro hnil
    rw [hnil] at hlast
    cases hlast
  rw [List.getLast?_eq_some_getLast hne, Option.some.injEq] at hlast
  exact List.rdropWhile_last_not _ _ hne (beq_of_eq hlast)

/-! ### Parts -/

theorem splitLast_append (before : List Char) {last : List Char} (h : '/' ∉ last) :
    splitLast (before ++ '/' :: last) = some (before, last) := by
  have htail : ((before ++ '/' :: last).reverse.takeWhile (· != '/')).reverse = last := by
    rw [List.reverse_append, List.reverse_cons, List.append_assoc,
      List.takeWhile_append_of_pos, List.singleton_append, List.takeWhile_cons_of_neg,
      List.append_nil, List.reverse_reverse]
    · simp
    · intro c hc
      rw [bne_iff_ne]
      rintro rfl
      exact h (List.mem_reverse.mp hc)
  have hlength : (before ++ '/' :: last).length - last.length - 1 = before.length := by
    rw [List.length_append, List.length_cons]
    omega
  rw [splitLast]
  simp only [htail]
  rw [if_neg (by simp; omega), hlength, List.take_left]

/-- **A text is divided at its last slash.** -/
theorem splitLast_eq_some_iff {s before last : List Char} :
    splitLast s = some (before, last) ↔ s = before ++ '/' :: last ∧ '/' ∉ last := by
  constructor
  · intro h
    by_cases hslash : '/' ∈ s
    · -- The last slash is the first one from the end.
      obtain ⟨after, front, hs, hafter⟩ :=
        List.eq_append_cons_of_mem (List.mem_reverse.mpr hslash)
      have hs' : s = front.reverse ++ '/' :: after.reverse := by
        rw [← s.reverse_reverse, hs]
        simp
      have hafter' : '/' ∉ after.reverse := fun hmem => hafter (List.mem_reverse.mp hmem)
      rw [hs', splitLast_append _ hafter', Option.some.injEq, Prod.mk.injEq] at h
      obtain ⟨rfl, rfl⟩ := h
      exact ⟨hs', hafter'⟩
    · have hall : s.reverse.takeWhile (· != '/') = s.reverse := by
        refine List.takeWhile_eq_self_iff.mpr fun c hc => ?_
        rw [bne_iff_ne]
        rintro rfl
        exact hslash (List.mem_reverse.mp hc)
      simp [splitLast, hall] at h
  · rintro ⟨rfl, hlast⟩
    exact splitLast_append before hlast

/-- The path of what lies in a directory. -/
def child (directory name : String) : String := directory ++ "/" ++ name

theorem toList_child (directory name : String) :
    (child directory name).toList = directory.toList ++ '/' :: name.toList := by
  simp [child]

variable {directory name path : String}

theorem trimmed_child (hname : name ≠ "") (hslash : '/' ∉ name.toList) :
    Trimmed (child directory name) := by
  have hne : name.toList ≠ [] := fun hnil => hname (String.toList_eq_nil_iff.mp hnil)
  rw [Trimmed, toList_child, List.getLast?_append_of_ne_nil _ (List.cons_ne_nil _ _),
    List.getLast?_cons_of_ne_nil hne]
  exact fun hlast => hslash (List.mem_of_getLast? hlast)

theorem parent_child (hdirectory : directory ≠ "") (hname : name ≠ "")
    (hslash : '/' ∉ name.toList) : parent (child directory name) = directory := by
  have hne : directory.toList ≠ [] := fun hnil => hdirectory (String.toList_eq_nil_iff.mp hnil)
  rw [parent, dropEndWhile_slash (trimmed_child hname hslash), toList_child,
    splitLast_append _ hslash]
  split
  · next h => cases h
  · next h =>
    obtain ⟨hnil, -⟩ := Prod.mk.inj (Option.some.inj h)
    exact absurd hnil hne
  · next h =>
    obtain ⟨rfl, -⟩ := Prod.mk.inj (Option.some.inj h)
    exact String.ofList_toList

theorem base_child (hname : name ≠ "") (hslash : '/' ∉ name.toList) :
    base (child directory name) = name := by
  rw [base]
  simp only [dropEndWhile_slash (trimmed_child hname hslash)]
  simp only [toList_child, splitLast_append _ hslash, String.ofList_toList]

/-- A path that lies in a directory is put together of the directory and its last part. -/
theorem eq_child_of_parent (htrimmed : Trimmed path) (hparent : parent path = directory)
    (hroot : directory ≠ "/") : path = child directory (base path) := by
  rw [parent, dropEndWhile_slash htrimmed] at hparent
  rw [base]
  simp only [dropEndWhile_slash htrimmed]
  cases hsplit : splitLast path.toList with
  | none =>
    -- Without a slash, or with none but the first, the root would be the parent.
    rw [hsplit] at hparent
    exact absurd hparent.symm hroot
  | some parts =>
    obtain ⟨before, last⟩ := parts
    rw [hsplit] at hparent
    obtain ⟨hpath, -⟩ := splitLast_eq_some_iff.mp hsplit
    cases before with
    | nil => exact absurd hparent.symm hroot
    | cons c before =>
      rw [← String.toList_inj, toList_child, ← hparent, String.toList_ofList,
        String.toList_ofList]
      exact hpath

/-! ### Names made safe -/

/-- What separates parts of a path is in no name that was made safe. -/
theorem notMem_safe {c : Char} (hc : c = '/' ∨ c = '\\') (part : String) :
    c ∉ (safe part).toList := by
  rw [safe, String.toList_ofList, List.mem_map]
  rintro ⟨d, -, hd⟩
  split at hd
  · subst hd
    exact absurd hc (by decide)
  · next hother =>
    subst hd
    simp only [Bool.or_eq_true, decide_eq_true_eq] at hother
    exact hother hc

theorem slash_notMem_safe (part : String) : '/' ∉ (safe part).toList := notMem_safe (.inl rfl) part

theorem safe_ne_empty {part : String} (h : part ≠ "") : safe part ≠ "" := by
  intro hsafe
  have hlength := congrArg String.toList hsafe
  rw [safe, String.toList_ofList, String.toList_empty, List.map_eq_nil_iff] at hlength
  exact h (String.toList_eq_nil_iff.mp hlength)

/-- A component that stands for itself in a path: it is not empty, and no slash or backslash is in
it. -/
structure IsPart (part : String) : Prop where
  nonempty : part ≠ ""
  slash : '/' ∉ part.toList
  back : '\\' ∉ part.toList

instance (part : String) : Decidable (IsPart part) :=
  decidable_of_iff (part ≠ "" ∧ '/' ∉ part.toList ∧ '\\' ∉ part.toList)
    ⟨fun ⟨hne, hslash, hback⟩ => ⟨hne, hslash, hback⟩, fun h => ⟨h.nonempty, h.slash, h.back⟩⟩

theorem IsPart.safe_eq {part : String} (h : IsPart part) : safe part = part := by
  have hmap : (part.toList.map fun c => if c = '/' || c = '\\' then '_' else c) = part.toList := by
    refine List.map_congr_left (g := id) (fun c hc => if_neg ?_) |>.trans (List.map_id _)
    simp only [Bool.or_eq_true, decide_eq_true_eq]
    rintro (rfl | rfl)
    · exact h.slash hc
    · exact h.back hc
  rw [safe, hmap, String.ofList_toList]

/-! ### Directories of namespaces -/

/-- The path of a root directory: it has a slash before its name, and none behind. -/
structure IsRoot (path : String) : Prop where
  named : ∃ name, name ≠ "" ∧ path = "/" ++ name
  trimmed : Trimmed path

theorem isRoot_ofList {s : List Char} (hne : s ≠ []) (hlast : s.getLast? ≠ some '/') :
    IsRoot (String.ofList ('/' :: s)) where
  named := by
    refine ⟨String.ofList s, fun hempty => hne ?_, ?_⟩
    · rw [← String.toList_ofList (l := s), hempty, String.toList_empty]
    · rw [← List.singleton_append, String.ofList_append]
  trimmed := by
    rwa [Trimmed, String.toList_ofList, List.getLast?_cons_of_ne_nil hne]

theorem IsRoot.one_lt_size (h : IsRoot path) : 1 < path.utf8ByteSize := by
  obtain ⟨name, hname, rfl⟩ := h.named
  have hsize : name.utf8ByteSize ≠ 0 := fun hzero => hname (String.utf8ByteSize_eq_zero_iff.mp hzero)
  rw [String.utf8ByteSize_append, show "/".utf8ByteSize = 1 from rfl]
  omega

variable {database : String} {space : List String}

theorem below_append_singleton (database : String) (space : List String) (name : String) :
    below database (space ++ [name]) = child (below database space) (safe name) := by
  rw [below, List.foldl_append]
  rfl

/-- Directories of namespaces lie in the root directory. -/
theorem exists_below_eq (hroot : IsRoot database) (space : List String) :
    ∃ rest, below database space = database ++ rest := by
  induction space using List.reverseRecOn with
  | nil => exact ⟨"", by rw [String.append_empty]; exact hroot.trimmed.trimEnd_eq⟩
  | append_singleton space name ih =>
    obtain ⟨rest, hrest⟩ := ih
    refine ⟨rest ++ "/" ++ safe name, ?_⟩
    rw [below_append_singleton, child, hrest, String.append_assoc, String.append_assoc,
      String.append_assoc]

theorem one_lt_size_below (hroot : IsRoot database) (space : List String) :
    1 < (below database space).utf8ByteSize := by
  obtain ⟨rest, hrest⟩ := exists_below_eq hroot space
  rw [hrest, String.utf8ByteSize_append]
  exact Nat.lt_add_right _ hroot.one_lt_size

theorem below_ne_root (hroot : IsRoot database) (space : List String) :
    below database space ≠ "/" := by
  intro h
  have hsize := one_lt_size_below hroot space
  rw [h] at hsize
  exact absurd hsize (by decide)

theorem below_ne_empty (hroot : IsRoot database) (space : List String) :
    below database space ≠ "" := by
  intro h
  have hsize := one_lt_size_below hroot space
  rw [h] at hsize
  exact absurd hsize (by decide)

/-- Without an empty component at its end, a namespace has a directory without a slash there. -/
theorem trimmed_below (hroot : IsRoot database) (h : "" ∉ space) :
    Trimmed (below database space) := by
  rcases List.eq_nil_or_concat space with rfl | ⟨front, last, rfl⟩
  · rw [below, List.foldl_nil, hroot.trimmed.trimEnd_eq]
    exact hroot.trimmed
  · rw [List.concat_eq_append] at h ⊢
    rw [below_append_singleton]
    refine trimmed_child (safe_ne_empty ?_) (slash_notMem_safe last)
    rintro rfl
    exact h (List.mem_append_right _ List.mem_cons_self)

/-- A directory of a namespace without the slashes at its end still lies in the root directory. -/
theorem exists_trimEnd_below_eq (hroot : IsRoot database) (space : List String) :
    ∃ rest, trimEnd (below database space) = database ++ rest := by
  obtain ⟨rest, hrest⟩ := exists_below_eq hroot space
  have hdatabase : database.toList.reverse.dropWhile (· == '/') = database.toList.reverse := by
    have h := congrArg List.reverse (dropEndWhile_slash hroot.trimmed)
    rwa [Text.dropEndWhile, List.reverse_reverse] at h
  rw [trimEnd, hrest, String.toList_append, Text.dropEndWhile, List.reverse_append,
    List.dropWhile_append]
  -- The slashes at the end of what follows the database are dropped, and none of its own.
  split
  · refine ⟨"", ?_⟩
    rw [hdatabase, List.reverse_reverse, String.ofList_toList, String.append_empty]
  · refine ⟨trimEnd rest, ?_⟩
    rw [List.reverse_append, List.reverse_reverse, String.ofList_append, String.ofList_toList]
    rfl

end Path

/-! ### Names of tables -/

namespace TableName

variable {database : String} (table : TableName)

theorem path_eq (database : String) :
    table.path database = Path.child (Path.below database table.space) (Path.safe table.name) :=
  Path.below_append_singleton ..

theorem parent_path (hroot : Path.IsRoot database) (hname : table.name ≠ "") :
    Path.parent (table.path database) = Path.below database table.space := by
  rw [path_eq]
  exact Path.parent_child (Path.below_ne_empty hroot _) (Path.safe_ne_empty hname)
    (Path.slash_notMem_safe _)

theorem base_path (hname : table.name ≠ "") :
    Path.base (table.path database) = Path.safe table.name := by
  rw [path_eq]
  exact Path.base_child (Path.safe_ne_empty hname) (Path.slash_notMem_safe _)

/-- A name without a slash is none of an index. -/
theorem isIndex_of_isPart {table : TableName} (h : Path.IsPart table.name) :
    table.isIndex = false := by
  rw [isIndex, Option.isSome_eq_false_iff, Option.isNone_iff_eq_none]
  refine Option.eq_none_iff_forall_ne_some.mpr fun rest hrest => h.slash ?_
  rw [Text.after?_eq_some_iff.mp hrest]
  exact List.mem_append_left _ (by decide)

end TableName

/-- The database of a connection is the path of a root directory. -/
theorem ConnectionOptions.isRoot_database (o : ConnectionOptions) : Path.IsRoot o.database := by
  rw [database]
  have hlast := Path.getLast?_dropEndWhile_slash
    (Text.trim ((o.get? databaseKey).getD defaultDatabase).toList)
  split
  · exact ⟨⟨"local", by decide, rfl⟩, show "/local".toList.getLast? ≠ some '/' by decide⟩
  · next rest heq =>
    -- The slash in front is there already.
    rw [heq] at hlast
    have hne : rest ≠ [] := by
      rintro rfl
      exact hlast rfl
    rw [List.getLast?_cons_of_ne_nil hne] at hlast
    exact Path.isRoot_ofList hne hlast
  · next hne _ => exact Path.isRoot_ofList hne hlast

end ShardScan
