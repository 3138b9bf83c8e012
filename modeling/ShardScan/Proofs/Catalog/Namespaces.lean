import ShardScan.Proofs.Catalog.Listing

/-!
# Namespaces that are there

Whether a namespace is there is asked of what lies at its path, whatever that is;
its listing is asked of its directory.  The two agree where nothing passes for the
directory: a table at the path does, and so does the root of a catalog, which is
not asked for at all.  The root directory of a store is never removed, so for a
catalog of the store's own database it is only tables that make a difference.

## Main definitions

* `Store.Rooted` — the root directory is there.
* `Catalog.Founded` — nothing passes for the directory of a namespace.

## Main results

* `Catalog.namespaceExists_cases` — which namespaces are there.
* `Catalog.listNamespaces_cases` — which can be listed, and what is in them.
* `namespace_existence` — a founded namespace is there when it can be listed; any other is there and
  cannot be listed.
-/

namespace ShardScan
namespace Store

variable {s s' : Store} {path : String}

/-! ### The root directory -/

/-- The root directory is there. -/
def Rooted (s : Store) : Prop := s.directories.contains s.database = true

theorem rooted_new (database : String) : Rooted (.new database) :=
  (Dict.contains_insert ..).mpr (.inl rfl)

theorem Effect.rooted {c : SchemeCall} (h : s.Effect c s') (hs : s.Rooted) : s'.Rooted := by
  rw [Rooted, h.database]
  cases h.directories with
  | made asked hcall hmade htables =>
    rw [hmade, contains_makeDirectory_iff]
    exact .inl hs
  | removed asked hremovable hremoved =>
    rw [hremoved]
    exact (Dict.contains_erase ..).mpr ⟨hremovable.below.symm, hs⟩
  | same hsame =>
    rw [hsame]
    exact hs

theorem rooted_of_history {allowed : Store → Step → Prop} {database : String}
    (h : History next allowed database s) : s.Rooted := by
  apply h.keeps
  · exact rooted_new database
  · intro s step hs _
    obtain ⟨c, heffect⟩ := s.exists_effect_next step
    exact heffect.rooted hs

/-! ### What lies at a path -/

/-- Something lies at the path: the root, a directory or a table. -/
def Holds (s : Store) (path : String) : Prop :=
  path = s.database ∨ s.directories.contains path = true ∨ s.tables.contains path = true

theorem Rooted.holds_iff (h : s.Rooted) :
    s.Holds path ↔ s.directories.contains path = true ∨ s.tables.contains path = true := by
  constructor
  · rintro (rfl | hthere)
    · exact .inl h
    · exact hthere
  · exact .inr

theorem describePath_of_holds (h : s.Holds (Path.trimEnd path)) :
    ∃ e, s.describePath path = .ok e := by
  unfold describePath
  dsimp only
  split
  · exact ⟨_, rfl⟩
  · next hdatabase =>
    split
    · exact ⟨_, rfl⟩
    · next hdirectory =>
      split
      · exact ⟨_, rfl⟩
      · next htable => simp [Holds, hdatabase, hdirectory, htable] at h

theorem describePath_of_not_holds (h : ¬ s.Holds (Path.trimEnd path)) :
    s.describePath path = .error (notFound "describe path" (Path.trimEnd path)) := by
  simp only [Holds, not_or, Bool.not_eq_true] at h
  obtain ⟨hdatabase, hdirectory, htable⟩ := h
  simp [describePath, hdatabase, hdirectory, htable]

end Store

/-! ### What a catalog says of it -/

/-- The path at which a store looks for the directory of a namespace. -/
def CatalogLink.place (link : CatalogLink) (space : List String) : String :=
  Path.trimEnd (Path.below link.connector.database space)

namespace Catalog

variable {c : Catalog} {link : CatalogLink} {s : Store} {space : List String}

/-- A path where nothing is makes a namespace that is not there. -/
theorem namespaceError_notFound (space : List String) (context path : String) :
    namespaceError space (Store.notFound context path) = .noSuchNamespace space := by
  have hmentions : mentions (Store.notFound context path).status "Path not found" = true := by
    have hinfix : "Path not found".toList <:+: ("Path not found: " ++ path).toList := by
      refine ⟨[], ": ".toList ++ path.toList, ?_⟩
      rw [String.toList_append, ← List.append_assoc]
      rfl
    simp only [mentions, Store.notFound, StoreError.of, Status.of, List.any_cons,
      Text.occursIn_iff.mpr hinfix, Bool.true_or]
  rw [namespaceError, hmentions]
  rfl

/-- **Which namespaces are there**: the root, and those at whose path something lies. -/
theorem namespaceExists_cases (hlink : c.link = some link) (s : Store) (space : List String) :
    ((space = [] ∨ s.Holds (link.place space)) ∧ c.namespaceExists s space = .ok true) ∨
      space ≠ [] ∧ ¬ s.Holds (link.place space) ∧ c.namespaceExists s space = .ok false := by
  unfold namespaceExists namespaceMetadata
  simp only [directory_eq hlink, bind, Except.bind, List.isEmpty_iff]
  by_cases hroot : space = []
  · left
    rw [if_pos hroot]
    exact ⟨.inl hroot, rfl⟩
  · rw [if_neg hroot]
    by_cases hholds : s.Holds (link.place space)
    · obtain ⟨e, hdescribed⟩ := Store.describePath_of_holds hholds
      left
      rw [hdescribed]
      exact ⟨.inr hholds, rfl⟩
    · right
      rw [Store.describePath_of_not_holds hholds]
      simp only [Except.mapError, namespaceError_notFound]
      exact ⟨hroot, hholds, trivial⟩

/-- **Which namespaces can be listed**: those with a directory.  The namespaces in one are those
whose directories lie in it. -/
theorem listNamespaces_cases (hlink : c.link = some link) (s : Store) (space : List String) :
    (s.directories.contains (link.place space) = true ∧
      ∃ names, c.listNamespaces s space = .ok names ∧ ∀ name, space ++ [name] ∈ names ↔
        ∃ d, s.directories.contains d = true ∧ d ≠ link.place space ∧
          Path.parent d = link.place space ∧ Path.base d = name) ∨
    s.directories.contains (link.place space) = false ∧
      c.listNamespaces s space = .error (.noSuchNamespace space) := by
  unfold listNamespaces
  simp only [directory_eq hlink, bind, Except.bind]
  cases hthere : s.directories.contains (link.place space) with
  | true =>
    obtain ⟨entries, hlisted⟩ := Store.listDirectory_of_there hthere
    simp only [hlisted, Except.mapError, pure, Except.pure]
    refine .inl ⟨trivial, _, rfl, ?_⟩
    intro name
    simp only [List.mem_map, List.mem_filter, and_assoc, List.append_cancel_left_eq,
      List.cons.injEq, and_true]
    constructor
    · rintro ⟨e, he, hkind, hname⟩
      rcases (Store.mem_listDirectory hlisted).mp he with ⟨d, hd, hne, hparent, rfl⟩ | ⟨t, -, -, rfl⟩
      · exact ⟨d, hd, hne, hparent, hname⟩
      · cases hkind
    · rintro ⟨d, hd, hne, hparent, hname⟩
      exact ⟨_, (Store.mem_listDirectory hlisted).mpr (.inl ⟨d, hd, hne, hparent, rfl⟩), rfl, hname⟩
  | false =>
    simp only [Store.listDirectory_of_missing hthere, Except.mapError, namespaceError_notFound]
    exact .inr ⟨trivial, trivial⟩

/-- Nothing passes for the directory of a namespace: it is there, or the namespace is not the root
and no table lies at its path. -/
def Founded (c : Catalog) (s : Store) (space : List String) : Prop :=
  ∀ link, c.link = some link → s.directories.contains (link.place space) = true ∨
    space ≠ [] ∧ s.tables.contains (link.place space) = false

/-- Without a connection nothing is said of a namespace. -/
theorem namespaceExists_of_unlinked (hlink : c.link = none) (s : Store) (space : List String) :
    c.namespaceExists s space = .error (.notInitialized c.name) ∧
      c.listNamespaces s space = .error (.notInitialized c.name) := by
  have hdirectory : c.directory space = .error (.notInitialized c.name) := by
    rw [directory, database, link?, hlink]
    rfl
  constructor
  · simp [namespaceExists, namespaceMetadata, hdirectory, bind, Except.bind]
  · simp [listNamespaces, hdirectory, bind, Except.bind]

end Catalog

open Store (History Step next)

/-- **Namespace existence.**  In every history of direct calls and of changes by catalogs, a founded
namespace is there when it can be listed, and only then; and it is not there when its listing fails
for want of it.  A namespace that is not founded is there and cannot be listed.  The root of the
store's own database is always founded. -/
theorem namespace_existence {database : String} {s : Store}
    (h : History next (fun _ _ => True) database s) (c : Catalog) (space : List String) :
    (c.Founded s space →
      (c.namespaceExists s space = .ok true ↔ ∃ names, c.listNamespaces s space = .ok names) ∧
      (c.namespaceExists s space = .ok false ↔
        c.listNamespaces s space = .error (.noSuchNamespace space))) ∧
    (¬ c.Founded s space → c.namespaceExists s space = .ok true ∧
      c.listNamespaces s space = .error (.noSuchNamespace space)) ∧
    ∀ link, c.link = some link → link.connector.database = s.database → c.Founded s [] := by
  have hrooted := Store.rooted_of_history h
  refine ⟨?_, ?_, ?_⟩
  · intro hfounded
    cases hlink : c.link with
    | none =>
      obtain ⟨hexists, hlisted⟩ := Catalog.namespaceExists_of_unlinked hlink s space
      simp [hexists, hlisted]
    | some link =>
      have hcases := Catalog.namespaceExists_cases hlink s space
      rw [hrooted.holds_iff] at hcases
      rcases Catalog.listNamespaces_cases hlink s space with
        ⟨hthere, names, hnames, -⟩ | ⟨hmissing, hlisted⟩
      · have hexists : c.namespaceExists s space = .ok true := by
          rcases hcases with ⟨-, hexists⟩ | ⟨-, hnone, -⟩
          · exact hexists
          · exact absurd (.inl hthere) hnone
        simp [hexists, hnames]
      · have hexists : c.namespaceExists s space = .ok false := by
          rcases hfounded link hlink with hthere | ⟨hroot, htable⟩
          · cases hmissing.symm.trans hthere
          · simpa [hroot, hmissing, htable] using hcases
        simp [hexists, hlisted]
  · intro hfounded
    simp only [Catalog.Founded, not_forall] at hfounded
    obtain ⟨link, hlink, hpasses⟩ := hfounded
    simp only [not_or, not_and, Bool.not_eq_true, Bool.not_eq_false] at hpasses
    obtain ⟨hmissing, htable⟩ := hpasses
    have hcases := Catalog.namespaceExists_cases hlink s space
    rw [hrooted.holds_iff] at hcases
    constructor
    · rcases hcases with ⟨-, hexists⟩ | ⟨hroot, hnone, -⟩
      · exact hexists
      · exact absurd (.inr (htable hroot)) hnone
    · rcases Catalog.listNamespaces_cases hlink s space with ⟨hthere, -⟩ | ⟨-, hlisted⟩
      · cases hmissing.symm.trans hthere
      · exact hlisted
  · intro link hlink hdatabase link' hlink'
    cases hlink.symm.trans hlink'
    left
    have hroot := Catalog.database_isRoot link
    rw [CatalogLink.place, Path.below_nil hroot, hroot.trimmed.trimEnd_eq, hdatabase]
    exact hrooted

namespace Catalog

/-- A table of albums is made in a namespace, and a namespace beside it. -/
def labelSteps : List Step :=
  [.change archive (.createTable ⟨["jazz"], "albums"⟩ albumSchema .empty),
    .call (.makeDirectory "/local/jazz/labels")]

def labelStore : Store := labelSteps.foldl next emptyStore

theorem history_labelStore : History next (fun _ _ => True) localLink.connector.database labelStore :=
  History.new.run fun _ _ _ => trivial

end Catalog

/-- The namespace of the labels can be listed, for it is there, and that of the rock albums is not
there, for its listing fails. -/
theorem namespace_existence_labels :
    (∃ names, Catalog.archive.listNamespaces Catalog.labelStore ["jazz", "labels"] = .ok names) ∧
    Catalog.archive.namespaceExists Catalog.labelStore ["rock"] = .ok false := by
  have hlabels : Catalog.archive.Founded Catalog.labelStore ["jazz", "labels"] := by
    intro link hlink
    cases hlink
    left
    decide +kernel
  have hrock : Catalog.archive.Founded Catalog.labelStore ["rock"] := by
    intro link hlink
    cases hlink
    right
    decide +kernel
  constructor
  · refine (((namespace_existence Catalog.history_labelStore _ _).1 hlabels).1).mp ?_
    decide +kernel
  · refine (((namespace_existence Catalog.history_labelStore _ _).1 hrock).2).mpr ?_
    decide +kernel

namespace Catalog

/-- A catalog of a database that is not the store's. -/
def foreign : Catalog :=
  ⟨"kv", some ⟨⟨0, .ofList [("database", "/other")]⟩, .empty, true⟩⟩

end Catalog

/-- The path of a table is there as a namespace that cannot be listed, and so is the root of a
database that is not the store's. -/
theorem namespace_without_listing :
    History next (fun _ _ => True) "/local" Catalog.labelStore ∧
    Catalog.archive.namespaceExists Catalog.labelStore ["jazz", "albums"] = .ok true ∧
    Catalog.archive.listNamespaces Catalog.labelStore ["jazz", "albums"] =
      .error (.noSuchNamespace ["jazz", "albums"]) ∧
    Catalog.foreign.namespaceExists Catalog.labelStore [] = .ok true ∧
    Catalog.foreign.listNamespaces Catalog.labelStore [] = .error (.noSuchNamespace []) := by
  refine ⟨Catalog.history_labelStore, ?_, ?_, ?_, ?_⟩
  all_goals decide +kernel

end ShardScan
