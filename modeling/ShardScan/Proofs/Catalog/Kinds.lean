import ShardScan.Proofs.Catalog.Changes

/-!
# One kind at a path

A table does not come to a path at which a directory is, nor is a directory made
at the path of a table when it is asked for.  But a directory is made with those
around it, and the store looks only at the path that it is asked for: where a
table lies around that path, it becomes a directory as well.  There is no other
way to a path of two kinds.

## Main definitions

* `Store.Mixed` — a path is both a table and a directory.
* `Store.Crossed` — from one store to another a directory came below a table.

## Main results

* `Store.Effect.mixed_iff` — a call makes a path mixed by making a directory below a table.
* `paths_have_one_kind` — a path is of one kind as long as no directory is made below it while it
  is a table.
-/

namespace ShardScan
namespace Store

variable {s s' : Store} {c : SchemeCall} {path : String}

/-- The path is both a table and a directory. -/
def Mixed (s : Store) (path : String) : Prop :=
  s.tables.contains path = true ∧ s.directories.contains path = true

instance (s : Store) (path : String) : Decidable (s.Mixed path) :=
  inferInstanceAs (Decidable (_ ∧ _))

/-- From one store to the other a directory came below a table in the database. -/
def Crossed (s s' : Store) (path : String) : Prop :=
  s.tables.contains path = true ∧ Path.Inside s.database path ∧
    ∃ d, Path.Encloses path (Path.parent d) ∧ s.directories.contains d = false ∧
      s'.directories.contains d = true

theorem not_mixed_new (database path : String) : ¬ Mixed (.new database) path := by
  rintro ⟨htable, -⟩
  cases htable

/-- **A call makes a path mixed** by making a directory below a table, and in no other way. -/
theorem Effect.mixed_iff (h : s.Effect c s') (hnot : ¬ s.Mixed path) :
    s'.Mixed path ↔ s.Crossed s' path := by
  constructor
  · rintro ⟨htable', hdirectory'⟩
    have htable : s.tables.contains path = true := by
      rcases h.tables path htable' with htable | ⟨-, hfree⟩
      · exact htable
      · cases hfree.symm.trans hdirectory'
    have hfree : s.directories.contains path ≠ true := fun hthere => hnot ⟨htable, hthere⟩
    cases h.directories with
    | made asked hcall hmade htables =>
      have hnew := hdirectory'
      rw [hmade, contains_makeDirectory_iff] at hnew
      obtain ⟨htaken, hinside, hencloses⟩ := hnew.resolve_left hfree
      rcases Path.encloses_iff.mp hencloses with hself | haround
      · -- The path that was asked for would have been refused.
        rw [hself] at htaken
        simp [isTaken, htable] at htaken
      · refine ⟨htable, hinside, Path.trimEnd asked, haround, ?_, ?_⟩
        · simp only [isTaken, Bool.or_eq_false_iff] at htaken
          exact htaken.2
        · rw [hmade, contains_makeDirectory_iff]
          exact .inr ⟨htaken, hencloses.inside hinside, .self⟩
    | removed asked hremovable hremoved =>
      rw [hremoved] at hdirectory'
      exact absurd ((Dict.contains_erase ..).mp hdirectory').2 hfree
    | same hsame =>
      rw [hsame] at hdirectory'
      exact absurd hdirectory' hfree
  · rintro ⟨htable, hinside, d, haround, hmissing, hthere⟩
    cases h.directories with
    | made asked hcall hmade htables =>
      rw [hmade, contains_makeDirectory_iff] at hthere
      obtain ⟨htaken, -, hencloses⟩ := hthere.resolve_left (by simp [hmissing])
      refine ⟨htables path htable, ?_⟩
      rw [hmade, contains_makeDirectory_iff]
      exact .inr ⟨htaken, hinside, (Path.Encloses.around haround).trans hencloses⟩
    | removed asked hremovable hremoved =>
      rw [hremoved] at hthere
      cases hmissing.symm.trans ((Dict.contains_erase ..).mp hthere).2
    | same hsame =>
      rw [hsame] at hthere
      cases hmissing.symm.trans hthere

theorem mixed_next_iff (hnot : ¬ s.Mixed path) (step : Step) :
    (s.next step).Mixed path ↔ s.Crossed (s.next step) path := by
  obtain ⟨c, heffect⟩ := s.exists_effect_next step
  exact heffect.mixed_iff hnot

end Store

open Store (History Step next)

/-- **Paths have one kind.**  In every history of direct calls and of changes by catalogs, a path is
not both a table and a directory as long as no directory is made below it in the database while it
is a table.  And whenever one is, it is both. -/
theorem paths_have_one_kind {database path : String} {s : Store}
    (h : History next (fun s step => ¬ s.Crossed (s.next step) path) database s) :
    ¬ s.Mixed path ∧ ∀ step : Step, (s.next step).Mixed path ↔ s.Crossed (s.next step) path := by
  have hnot : ¬ s.Mixed path := by
    apply h.keeps
    · exact Store.not_mixed_new database path
    · intro s step hnot hallowed hmixed
      exact hallowed ((Store.mixed_next_iff hnot step).mp hmixed)
  exact ⟨hnot, Store.mixed_next_iff hnot⟩

namespace Catalog

/-- A catalog makes a table in a namespace. -/
def bandStore : Store := emptyStore.next
  (.change archive (.createTable ⟨["jazz"], "albums"⟩ albumSchema .empty))

end Catalog

/-- A table keeps its kind when directories are made beside it, and not when one is made in its
path. -/
theorem paths_have_one_kind_albums :
    let s := Catalog.bandStore.next (.call (.makeDirectory "/local/jazz/bands/trios"))
    ¬ s.Mixed "/local/jazz/albums" ∧
      s.Crossed (s.next (.call (.makeDirectory "/local/jazz/albums/covers")))
        "/local/jazz/albums" := by
  intro s
  have hnew : ¬ Catalog.emptyStore.Mixed "/local/jazz/albums" := Store.not_mixed_new _ _
  have hbands : ¬ Catalog.bandStore.Mixed "/local/jazz/albums" := by decide +kernel
  have hs : ¬ s.Mixed "/local/jazz/albums" := by decide +kernel
  have hmixed : (s.next (.call (.makeDirectory "/local/jazz/albums/covers"))).Mixed
      "/local/jazz/albums" := by decide +kernel
  have hempty : History next (fun s step => ¬ s.Crossed (s.next step) "/local/jazz/albums")
      Catalog.localLink.connector.database Catalog.emptyStore := .new
  have hcreated := hempty.step fun hcrossed => hbands ((Store.mixed_next_iff hnew _).mpr hcrossed)
  have hmade := hcreated.step fun hcrossed => hs ((Store.mixed_next_iff hbands _).mpr hcrossed)
  obtain ⟨hnot, hnext⟩ := paths_have_one_kind hmade
  exact ⟨hnot, (hnext _).mp hmixed⟩

/-- A table of records is made, and a directory in its path. -/
def Store.coverCalls : List Step :=
  [.call (.table (.create "/local/records" Store.recordLayout)),
    .call (.makeDirectory "/local/records/covers")]

/-- The same by a catalog, with a table of albums. -/
def Catalog.coverChanges : List Step :=
  [.change archive (.createTable ⟨[], "albums"⟩ albumSchema .empty),
    .change archive (.createNamespace ["albums", "covers"])]

/-- A path becomes both a table and a directory, by direct calls and by changes of a catalog; the
catalog then shows it as both. -/
theorem table_made_directory :
    (∃ s, History next (fun _ step => ∃ call, step = .call call) "/local" s ∧
      s.Mixed "/local/records") ∧
    ∃ s, History next (fun _ step => ∃ change, step = .change Catalog.archive change) "/local" s ∧
      s.Mixed "/local/albums" ∧
      Catalog.archive.listTables s [] = .ok [⟨[], "albums"⟩] ∧
      Catalog.archive.listNamespaces s [] = .ok [["albums"]] := by
  constructor
  · refine ⟨Store.coverCalls.foldl next (.new "/local"), History.new.run ?_, by decide +kernel⟩
    intro step hstep s
    simp only [Store.coverCalls, List.mem_cons, List.not_mem_nil, or_false] at hstep
    rcases hstep with rfl | rfl
    · exact ⟨_, rfl⟩
    · exact ⟨_, rfl⟩
  · refine ⟨Catalog.coverChanges.foldl next (.new "/local"), History.new.run ?_,
      by decide +kernel, by decide +kernel, by decide +kernel⟩
    intro step hstep s
    simp only [Catalog.coverChanges, List.mem_cons, List.not_mem_nil, or_false] at hstep
    rcases hstep with rfl | rfl
    · exact ⟨_, rfl⟩
    · exact ⟨_, rfl⟩

end ShardScan
