import ShardScan.Proofs.Catalog.Namespaces

/-!
# The tree of namespaces

Under the changes of catalogs of its own database the directories of a store are
those of namespaces, and each lies in another one, up to the root.  Making one
makes those around it, and one is removed only when nothing lies in it; a table
that comes or goes, or a creation that fails behind the directories that it made,
leaves the tree as it is.

This needs names: below a component without characters the store does not find its
way up.

## Main definitions

* `Catalog.Change.Named` — what a change makes has a name in each of its parts.
* `Store.Step.Within` — a step is a change by a catalog of the database, with names.
* `Store.Tree` — the directories are a tree of namespaces, and the tables have names.

## Main results

* `Store.Tree.effect` — what a call on the directory of a namespace keeps.
* `Catalog.removable_iff` — which namespaces can be dropped.
* `directory_tree` — the tree in every history, and what making and dropping a namespace do to it.
-/

namespace ShardScan

namespace Catalog

/-- What a change makes or moves has a name, and so has each component of its namespace. -/
def Change.Named : Change → Prop
  | .createNamespace space => "" ∉ space
  | .createTable table .. => "" ∉ table.space ++ [table.name]
  | .renameTable _ target => "" ∉ target.space ++ [target.name]
  | _ => True

instance : DecidablePred Change.Named
  | .createNamespace _ | .createTable .. | .renameTable .. => inferInstanceAs (Decidable (_ ∉ _))
  | .dropNamespace .. | .alterTable .. | .dropTable _ => inferInstanceAs (Decidable True)

end Catalog

namespace Store

/-- A step is a change by a catalog of the database, with names. -/
def Step.Within (database : String) : Step → Prop
  | .call _ => False
  | .change c made =>
    (∀ link, c.link = some link → link.connector.database = database) ∧ made.Named

/-- The directories of a store are those of namespaces, each but the root lies in another one, and
the tables have names. -/
structure Tree (database : String) (s : Store) : Prop where
  anchored : s.database = database
  root : s.directories.contains database = true
  spaces : ∀ d, s.directories.contains d = true →
    ∃ space, "" ∉ space ∧ d = Path.below database space
  closed : ∀ d, s.directories.contains d = true → d ≠ database →
    s.directories.contains (Path.parent d) = true
  tables : ∀ t, s.tables.contains t = true →
    ∃ table : TableName, "" ∉ table.space ++ [table.name] ∧ t = table.path database

variable {database : String} {s s' : Store} {c : SchemeCall}

theorem tree_new (hroot : Path.IsRoot database) : Tree database (.new database) := by
  have htrimmed := hroot.trimmed.trimEnd_eq
  have honly : ∀ d, (Store.new database).directories.contains d = true → d = database := by
    intro d hd
    rcases (Dict.contains_insert ..).mp hd with rfl | hd
    · exact htrimmed
    · cases hd
  refine ⟨htrimmed, ?_, ?_, ?_, ?_⟩
  · have hthere := rooted_new database
    rwa [Rooted, show (Store.new database).database = database from htrimmed] at hthere
  · intro d hd
    exact ⟨[], List.not_mem_nil, by rw [honly d hd, Path.below_nil hroot]⟩
  · intro d hd hne
    exact absurd (honly d hd) hne
  · intro t ht
    cases ht

/-- **The tree is kept** by a call that makes no directory but that of a namespace and brings a table
to a named path only. -/
theorem Tree.effect (hroot : Path.IsRoot database) (h : s.Tree database) (heffect : s.Effect c s')
    (hdirectory : ∀ path, c.directory? = some path →
      ∃ space, "" ∉ space ∧ path = Path.below database space)
    (htarget : ∀ t, c.target? = some t →
      ∃ table : TableName, "" ∉ table.space ++ [table.name] ∧ t = table.path database) :
    s'.Tree database := by
  have htables : ∀ t, s'.tables.contains t = true →
      ∃ table : TableName, "" ∉ table.space ++ [table.name] ∧ t = table.path database := by
    intro t ht
    rcases heffect.tables t ht with hstood | ⟨hcame, -⟩
    · exact h.tables t hstood
    · exact htarget t hcame
  have hdatabase : s'.database = database := heffect.database.trans h.anchored
  cases heffect.directories with
  | made path hcall hmade _ =>
    obtain ⟨space, hspace, rfl⟩ := hdirectory path hcall
    -- The directories behind the call are those before and those around the namespace.
    have hmem : ∀ d, s'.directories.contains d = true ↔ s.directories.contains d = true ∨
        s.isTaken (Path.below database space) = false ∧
          ∃ front, front <+: space ∧ d = Path.below database front := by
      intro d
      rw [hmade, contains_makeDirectory_iff, (Path.trimmed_below hroot hspace).trimEnd_eq,
        h.anchored, Path.encloses_below_iff hroot hspace]
    refine ⟨hdatabase, (hmem _).mpr (.inl h.root), ?_, ?_, htables⟩
    · intro d hd
      rcases (hmem d).mp hd with hd | ⟨-, front, hfront, rfl⟩
      · exact h.spaces d hd
      · exact ⟨front, fun hempty => hspace (hfront.subset hempty), rfl⟩
    · intro d hd hne
      rcases (hmem d).mp hd with hd | ⟨hfree, front, hfront, rfl⟩
      · exact (hmem _).mpr (.inl (h.closed d hd hne))
      · rcases List.eq_nil_or_concat front with rfl | ⟨around, name, rfl⟩
        · exact absurd (Path.below_nil hroot) hne
        · rw [List.concat_eq_append] at hfront ⊢
          have hname : name ≠ "" := by
            rintro rfl
            exact hspace (hfront.subset (List.mem_append_right _ List.mem_cons_self))
          rw [Path.parent_below hroot hname, hmem]
          exact .inr ⟨hfree, around, (List.prefix_append _ _).trans hfront, rfl⟩
  | removed path hremovable hremoved =>
    have hmem : ∀ d, s'.directories.contains d = true ↔
        d ≠ path ∧ s.directories.contains d = true := by
      intro d
      rw [hremoved, Dict.contains_erase]
    refine ⟨hdatabase, (hmem _).mpr ⟨?_, h.root⟩, ?_, ?_, htables⟩
    · rw [← h.anchored]
      exact hremovable.below.symm
    · intro d hd
      exact h.spaces d ((hmem d).mp hd).2
    · intro d hd hne
      obtain ⟨hother, hthere⟩ := (hmem d).mp hd
      exact (hmem _).mpr ⟨hremovable.noDirectory d hthere hother, h.closed d hthere hne⟩
  | same hsame =>
    refine ⟨hdatabase, ?_, ?_, ?_, htables⟩
    · rw [hsame]
      exact h.root
    · rw [hsame]
      exact h.spaces
    · rw [hsame]
      exact h.closed

section Children

variable {space : List String} (hroot : Path.IsRoot database) (h : s.Tree database)
include hroot h

/-- A directory in that of a namespace is the directory of a namespace in it. -/
theorem Tree.directory_of_parent {d : String} (hd : s.directories.contains d = true)
    (hparent : Path.parent d = Path.below database space) :
    ∃ name, Path.IsPart name ∧ d = Path.below database (space ++ [name]) := by
  obtain ⟨inner, hinner, rfl⟩ := h.spaces d hd
  rcases List.eq_nil_or_concat inner with rfl | ⟨around, part, rfl⟩
  · -- Nothing in the database lies around the root.
    refine absurd (Path.inside_below hroot space) (Path.not_inside_of_encloses_parent hroot ?_)
    rw [Path.below_nil hroot] at hparent
    rw [hparent]
    exact .self
  · rw [List.concat_eq_append] at hinner hparent ⊢
    have hpart : part ≠ "" := by
      rintro rfl
      exact hinner (List.mem_append_right _ List.mem_cons_self)
    have hsafe := Path.isPart_safe hpart
    rw [Path.parent_below hroot hpart] at hparent
    refine ⟨Path.safe part, hsafe, ?_⟩
    rw [Path.below_append_singleton, Path.below_append_singleton, hparent, hsafe.safe_eq]

/-- A table in it is a table of the namespace. -/
theorem Tree.table_of_parent {t : String} (ht : s.tables.contains t = true)
    (hparent : Path.parent t = Path.below database space) :
    ∃ name, Path.IsPart name ∧ t = Path.below database (space ++ [name]) := by
  obtain ⟨table, hnamed, rfl⟩ := h.tables t ht
  have hname : table.name ≠ "" := by
    intro hempty
    exact hnamed (List.mem_append_right _ (List.mem_singleton.mpr hempty.symm))
  have hsafe := Path.isPart_safe hname
  rw [table.parent_path hroot hname] at hparent
  refine ⟨Path.safe table.name, hsafe, ?_⟩
  rw [table.path_eq, hparent, Path.below_append_singleton, hsafe.safe_eq]

end Children

end Store

/-! ### Changes by a catalog -/

namespace Catalog

open Store (SchemeCall History Step next)

variable {database : String} {change : Change} {call : SchemeCall}

/-- A change with names asks for the directory of a namespace. -/
theorem Change.Asks.directory (h : change.Asks database call) (hroot : Path.IsRoot database)
    (hnamed : change.Named) :
    ∀ path, call.directory? = some path → ∃ space, "" ∉ space ∧ path = Path.below database space := by
  intro path hpath
  cases h with
  | createNamespace space =>
    cases hpath
    exact ⟨space, hnamed, rfl⟩
  | createTable table =>
    cases hpath
    have hspace : "" ∉ table.space := fun hempty => hnamed (List.mem_append_left _ hempty)
    have hname : table.name ≠ "" := by
      intro hempty
      exact hnamed (List.mem_append_right _ (List.mem_singleton.mpr hempty.symm))
    exact ⟨table.space, hspace, table.parent_path hroot hname⟩
  | dropNamespace | alterTable | renameTable | dropTable => cases hpath

/-- It brings a table to a named path only. -/
theorem Change.Asks.target (h : change.Asks database call) (hnamed : change.Named) :
    ∀ t, call.target? = some t →
      ∃ table : TableName, "" ∉ table.space ++ [table.name] ∧ t = table.path database := by
  intro t ht
  cases h with
  | createTable table =>
    cases ht
    exact ⟨table, hnamed, rfl⟩
  | renameTable source target =>
    cases ht
    exact ⟨target, hnamed, rfl⟩
  | createNamespace | dropNamespace | alterTable | dropTable => cases ht

theorem tree_of_history (hroot : Path.IsRoot database) {s : Store}
    (h : History next (fun _ step => step.Within database) database s) : s.Tree database := by
  apply h.keeps
  · exact Store.tree_new hroot
  · intro s step htree hwithin
    cases step with
    | call c => cases hwithin
    | change c change =>
      obtain ⟨hsame, hnamed⟩ := hwithin
      rw [next]
      cases hlink : c.link with
      | none =>
        rw [apply_of_unlinked hlink]
        exact htree
      | some link =>
        have hasks := apply_asks hlink s change
        rw [hsame link hlink] at hasks
        rcases hasks with hkept | ⟨call, hcall, hafter⟩
        · rw [hkept]
          exact htree
        · rw [hafter]
          exact htree.effect hroot (s.effect_after call) (hcall.directory hroot hnamed)
            (hcall.target hnamed)

variable {c : Catalog} {link : CatalogLink} {s : Store} {space : List String}

theorem notMem_of_isPart (hparts : ∀ part ∈ space, Path.IsPart part) : "" ∉ space :=
  fun hempty => (hparts "" hempty).nonempty rfl

theorem notMem_append {name : String} (hspace : "" ∉ space) (hname : name ≠ "") :
    "" ∉ space ++ [name] := by
  simp [hspace, hname.symm]

/-- The directory of a namespace with names has no slash at its end. -/
theorem place_eq (link : CatalogLink) (hspace : "" ∉ space) :
    link.place space = Path.below link.connector.database space :=
  (Path.trimmed_below (database_isRoot link) hspace).trimEnd_eq

/-! ### Making a namespace -/

/-- A namespace is made where nothing lies at its path. -/
theorem createNamespace_eq_ok_iff (hlink : c.link = some link) (s : Store) (space : List String) :
    (c.createNamespace s space).1 = .ok () ↔ s.isTaken (link.place space) = false := by
  have hexists : mentions ⟨.success, [Store.existsRemark]⟩ " path exist, request accepts it" = true := by
    decide +kernel
  unfold createNamespace Store.makeDirectory CatalogLink.place
  simp only [directory_eq hlink, Store.isTaken, Bool.or_eq_false_iff]
  generalize Path.trimEnd (Path.below link.connector.database space) = place
  by_cases htable : s.tables.contains place = true
  · simp [htable]
  · rw [Bool.not_eq_true] at htable
    by_cases hdirectory : s.directories.contains place = true
    · simp [htable, hdirectory, hexists, Status.isSuccess]
    · rw [Bool.not_eq_true] at hdirectory
      simp [htable, hdirectory, mentions, Status.success, Status.isSuccess, Status.expectSuccess,
        Except.mapError]

/-- The directories of the namespaces around one that was made are there. -/
theorem contains_createNamespace (hlink : c.link = some link)
    (hanchored : s.database = link.connector.database) (hspace : "" ∉ space)
    (hmade : (c.createNamespace s space).1 = .ok ()) {front : List String} (hfront : front <+: space) :
    (c.createNamespace s space).2.directories.contains (link.place front) = true := by
  have hroot := database_isRoot link
  have hfree := (createNamespace_eq_ok_iff hlink s space).mp hmade
  have hplace := Path.trimmed_below hroot hspace
  have haround : "" ∉ front := fun hempty => hspace (hfront.subset hempty)
  rw [createNamespace_snd hlink, Store.after, Store.contains_makeDirectory_iff, place_eq link haround,
    hplace.trimEnd_eq, hanchored, Path.encloses_below_iff hroot hspace]
  rw [place_eq link hspace] at hfree
  exact .inr ⟨hfree, front, hfront, rfl⟩

/-- A namespace that has a directory is there, and a listing of the one around it shows it if that
has a directory, too. -/
theorem mem_listNamespaces (hlink : c.link = some link) {around : List String} {name : String}
    (haround : "" ∉ around) (hname : Path.IsPart name)
    (hparent : s.directories.contains (link.place around) = true)
    (hthere : s.directories.contains (link.place (around ++ [name])) = true) :
    ∃ names, c.listNamespaces s around = .ok names ∧ around ++ [name] ∈ names := by
  have hroot := database_isRoot link
  rcases listNamespaces_cases hlink s around with ⟨-, names, hnames, hmem⟩ | ⟨hmissing, -⟩
  · refine ⟨names, hnames, (hmem name).mpr ⟨_, hthere, ?_⟩⟩
    rw [place_eq link (notMem_append haround hname.nonempty), place_eq link haround]
    refine ⟨Path.below_ne_below hroot hname.nonempty around,
      Path.parent_below hroot hname.nonempty around, ?_⟩
    rw [Path.below_append_singleton, hname.safe_eq, Path.base_child hname.nonempty hname.slash]
  · cases hmissing.symm.trans hparent

/-! ### Dropping a namespace -/

/-- **Which namespaces can be dropped**: those other than the root that have a directory in which
nothing lies. -/
theorem removable_iff (htree : s.Tree link.connector.database) (hspace : "" ∉ space) :
    s.Removable (link.place space) ↔ space ≠ [] ∧
      s.directories.contains (link.place space) = true ∧
      ∀ name, Path.IsPart name → s.isTaken (link.place (space ++ [name])) = false := by
  have hroot := database_isRoot link
  have hchild : ∀ name, Path.IsPart name →
      link.place (space ++ [name]) = Path.below link.connector.database (space ++ [name]) :=
    fun name hname => place_eq link (notMem_append hspace hname.nonempty)
  rw [place_eq link hspace]
  constructor
  · intro h
    refine ⟨?_, h.there, ?_⟩
    · rintro rfl
      exact h.below (by rw [Path.below_nil hroot, htree.anchored])
    · intro name hname
      have hparent := Path.parent_below hroot hname.nonempty space
      have hother := Path.below_ne_below hroot hname.nonempty space
      rw [hchild name hname, ← Bool.not_eq_true, Store.isTaken, Bool.or_eq_true]
      rintro (htable | hdirectory)
      · exact h.noTable _ htable hparent
      · exact h.noDirectory _ hdirectory hother hparent
  · rintro ⟨hne, hthere, hempty⟩
    have hfree : ∀ name, Path.IsPart name →
        s.tables.contains (Path.below link.connector.database (space ++ [name])) ≠ true ∧
        s.directories.contains (Path.below link.connector.database (space ++ [name])) ≠ true := by
      intro name hname
      have hnone := hempty name hname
      rw [hchild name hname] at hnone
      simpa [Store.isTaken] using hnone
    refine ⟨hthere, ?_, ?_, ?_⟩
    · rw [htree.anchored]
      exact Path.below_ne_database hroot hne
    · intro d hd _ hparent
      obtain ⟨name, hname, rfl⟩ := htree.directory_of_parent hroot hd hparent
      exact (hfree name hname).2 hd
    · intro t ht hparent
      obtain ⟨name, hname, rfl⟩ := htree.table_of_parent hroot ht hparent
      exact (hfree name hname).1 ht

theorem dropNamespace_of_removable (hlink : c.link = some link)
    (h : s.Removable (link.place space)) : c.dropNamespace s space false =
      (.ok true, { s with directories := s.directories.erase (link.place space) }) := by
  rw [dropNamespace, directory_eq hlink]
  simp only [Bool.false_eq_true, if_false, Store.removeDirectory_of_removable h]
  rfl

theorem dropNamespace_of_not_removable (hlink : c.link = some link)
    (h : ¬ s.Removable (link.place space)) : c.dropNamespace s space false = (.ok false, s) := by
  obtain ⟨e, hrefused⟩ := Store.removeDirectory_of_not_removable h
  rw [dropNamespace, directory_eq hlink]
  simp only [Bool.false_eq_true, if_false, hrefused]

end Catalog

open Store (History Step next)

/-- **The tree of directories.**  In every history of changes by catalogs of the store's database, with
names in all that they make, the root is a directory and every other directory lies in one.  A
namespace that is made is there with all those around it, and each of them is listed in the next.
A namespace is dropped when it is not the root, has a directory, and neither a namespace nor a
table lies in it; its directory alone goes, and a drop that is refused changes nothing. -/
theorem directory_tree {c : Catalog} {link : CatalogLink} (hlink : c.link = some link) {s : Store}
    (h : History next (fun _ step => step.Within link.connector.database)
      link.connector.database s) :
    s.directories.contains link.connector.database = true ∧
    (∀ d, s.directories.contains d = true → d ≠ link.connector.database →
      s.directories.contains (Path.parent d) = true) ∧
    (∀ space, (∀ part ∈ space, Path.IsPart part) → (c.createNamespace s space).1 = .ok () →
      ∀ front, front <+: space →
        c.namespaceExists (c.createNamespace s space).2 front = .ok true ∧
        ∀ around name, front = around ++ [name] →
          ∃ names, c.listNamespaces (c.createNamespace s space).2 around = .ok names ∧
            front ∈ names) ∧
    ∀ space, (∀ part ∈ space, Path.IsPart part) →
      ((c.dropNamespace s space false).1 = .ok true ↔ space ≠ [] ∧
        s.directories.contains (link.place space) = true ∧
        ∀ name, Path.IsPart name → s.isTaken (link.place (space ++ [name])) = false) ∧
      ((c.dropNamespace s space false).1 = .ok true → (c.dropNamespace s space false).2 =
        { s with directories := s.directories.erase (link.place space) }) ∧
      ((c.dropNamespace s space false).1 ≠ .ok true →
        c.dropNamespace s space false = (.ok false, s)) := by
  have htree := Catalog.tree_of_history (Catalog.database_isRoot link) h
  refine ⟨htree.root, htree.closed, ?_, ?_⟩
  · intro space hparts hmade front hfront
    have hthere : ∀ front, front <+: space →
        (c.createNamespace s space).2.directories.contains (link.place front) = true :=
      fun _ => Catalog.contains_createNamespace hlink htree.anchored
        (Catalog.notMem_of_isPart hparts) hmade
    constructor
    · rcases Catalog.namespaceExists_cases hlink (c.createNamespace s space).2 front with
        ⟨-, hexists⟩ | ⟨-, hnone, -⟩
      · exact hexists
      · exact absurd (.inr (.inl (hthere front hfront))) hnone
    · rintro around name rfl
      have haround : around <+: space := (List.prefix_append _ _).trans hfront
      refine Catalog.mem_listNamespaces hlink ?_ ?_ (hthere _ haround) (hthere _ hfront)
      · exact Catalog.notMem_of_isPart fun part hpart => hparts part (haround.subset hpart)
      · exact hparts name (hfront.subset (List.mem_append_right _ List.mem_cons_self))
  · intro space hparts
    rw [← Catalog.removable_iff htree (Catalog.notMem_of_isPart hparts)]
    by_cases hremovable : s.Removable (link.place space)
    · simp [Catalog.dropNamespace_of_removable hlink hremovable, hremovable]
    · simp [Catalog.dropNamespace_of_not_removable hlink hremovable, hremovable]

namespace Catalog

/-- A catalog makes the namespace of live recordings, and a table beside it. -/
def recordingSteps : List Step :=
  [.change archive (.createNamespace ["jazz", "live"]),
    .change archive (.createTable ⟨["jazz"], "albums"⟩ albumSchema .empty)]

def recordingStore : Store := recordingSteps.foldl next emptyStore

theorem history_recordingStore : History next (fun _ step => step.Within localLink.connector.database)
    localLink.connector.database recordingStore := by
  apply History.new.run
  intro step hstep s
  simp only [recordingSteps, List.mem_cons, List.not_mem_nil, or_false] at hstep
  rcases hstep with rfl | rfl
  all_goals
    refine ⟨?_, by decide⟩
    intro link hlink
    cases hlink
    rfl

end Catalog

/-- The namespace around that of the live recordings is there, a namespace in a new one is listed in
it, and the live recordings can be dropped while the namespace around them cannot. -/
theorem directory_tree_recordings :
    let s := Catalog.recordingStore
    s.directories.contains "/local/jazz" = true ∧
    (∃ names, Catalog.archive.listNamespaces
        (Catalog.archive.createNamespace s ["rock", "seventies"]).2 ["rock"] = .ok names ∧
      ["rock", "seventies"] ∈ names) ∧
    (Catalog.archive.dropNamespace s ["jazz", "live"] false).2 =
      { s with directories := s.directories.erase "/local/jazz/live" } ∧
    Catalog.archive.dropNamespace s ["jazz"] false = (.ok false, s) := by
  intro s
  have hlink : Catalog.archive.link = some Catalog.localLink := rfl
  obtain ⟨-, hclosed, hmakes, hdrops⟩ := directory_tree hlink Catalog.history_recordingStore
  have hparts : ∀ space ∈ [["jazz", "live"], ["jazz"], ["rock", "seventies"]],
      ∀ part ∈ space, Path.IsPart part := by
    decide
  refine ⟨?_, ?_, ?_, ?_⟩
  · exact hclosed "/local/jazz/live" (by decide +kernel) (by decide +kernel)
  · obtain ⟨-, hlisted⟩ := hmakes ["rock", "seventies"] (hparts _ (by simp)) (by decide +kernel)
      ["rock", "seventies"] (List.prefix_refl _)
    exact hlisted ["rock"] "seventies" rfl
  · exact (hdrops ["jazz", "live"] (hparts _ (by simp))).2.1 (by decide +kernel)
  · exact (hdrops ["jazz"] (hparts _ (by simp))).2.2 (by decide +kernel)

end ShardScan
