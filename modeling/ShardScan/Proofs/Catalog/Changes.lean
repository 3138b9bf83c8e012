import ShardScan.Catalog.Tables
import ShardScan.Proofs.Store.Histories

/-!
# Changes as calls of the store

A catalog leaves the store alone or has it make one call, on the directory of a
namespace or on the path of a table.  A history of a store may therefore mix
direct calls with the changes of any number of catalogs: each step has the effect
of one call.

## Main definitions

* `Catalog.Change`, `Catalog.apply` — the changes that a catalog makes.
* `Catalog.Change.Asks` — the call that a change asks for.
* `Store.Step`, `Store.next` — a direct call or a change by a catalog.
* `Catalog.archive` — a catalog of the database that stands where none is named.

## Main results

* `Catalog.apply_asks` — a change does what it asks the store for, or nothing.
* `Store.exists_effect_next` — a step has the effect of a call.
-/

namespace ShardScan
namespace Catalog

open Store (SchemeCall)

/-- The changes that a catalog makes. -/
inductive Change
  | createNamespace (space : List String)
  | dropNamespace (space : List String) (recursive : Bool)
  | createTable (table : TableName) (schema : Schema) (properties : Dict String)
  | alterTable (table : TableName) (changes : List TableChange)
  | renameTable (source target : TableName)
  | dropTable (table : TableName)

/-- The store behind a change, be it successful or not. -/
def apply (c : Catalog) (s : Store) : Change → Store
  | .createNamespace space => (c.createNamespace s space).2
  | .dropNamespace space recursive => (c.dropNamespace s space recursive).2
  | .createTable table schema properties => (c.createTable s table schema properties).2
  | .alterTable table changes => (c.alterTable s table changes).2
  | .renameTable source target => (c.renameTable s source target).2
  | .dropTable table => (c.dropTable s table).2

/-- The call that a change asks a store of some database for. -/
inductive Change.Asks (database : String) : Change → SchemeCall → Prop
  | createNamespace (space : List String) :
    Asks database (.createNamespace space) (.makeDirectory (Path.below database space))
  | dropNamespace (space : List String) (recursive : Bool) :
    Asks database (.dropNamespace space recursive) (.removeDirectory (Path.below database space))
  | createTable (table : TableName) {schema : Schema} {properties : Dict String}
    {layout : TableLayout} (hlayout : TableLayout.ofSchema schema properties = .ok layout) :
    Asks database (.createTable table schema properties)
      (.table (.create (table.path database) layout))
  | alterTable (table : TableName) (changes : List TableChange)
    (operations : List AlterOperation) :
    Asks database (.alterTable table changes) (.table (.alter (table.path database) operations))
  | renameTable (source target : TableName) :
    Asks database (.renameTable source target)
      (.table (.rename (source.path database) (target.path database)))
  | dropTable (table : TableName) :
    Asks database (.dropTable table) (.table (.drop (table.path database)))

variable {c : Catalog} {link : CatalogLink}

theorem directory_eq (hlink : c.link = some link) (space : List String) :
    c.directory space = .ok (Path.below link.connector.database space) := by
  rw [directory, database, link?, hlink]
  rfl

theorem tablePath_eq (hlink : c.link = some link) (table : TableName) :
    c.tablePath table = .ok (table.path link.connector.database) := by
  rw [tablePath, database, link?, hlink]
  rfl

theorem database_isRoot (link : CatalogLink) : Path.IsRoot link.connector.database :=
  link.connector.options.isRoot_database

/-- Without a connection nothing is changed. -/
theorem apply_of_unlinked (hlink : c.link = none) (s : Store) (change : Change) :
    c.apply s change = s := by
  have hdatabase : c.database = .error (.notInitialized c.name) := by
    rw [database, link?, hlink]
    rfl
  cases change with
  | createNamespace space => simp [apply, createNamespace, directory, hdatabase, Except.map]
  | dropNamespace space recursive =>
    simp only [apply, dropNamespace, directory, hdatabase, Except.map]
    split <;> rfl
  | createTable table schema properties =>
    simp only [apply, createTable, tablePath, hdatabase, Except.map]
    split <;> rfl
  | alterTable table changes =>
    simp only [apply, alterTable, tablePath, hdatabase, Except.map]
    split <;> rfl
  | renameTable source target =>
    simp only [apply, renameTable, tablePath, hdatabase, Except.map]
    repeat' split
    all_goals rfl
  | dropTable table =>
    simp only [apply, dropTable, tablePath, hdatabase, Except.map]
    split <;> rfl

section Linked

variable (hlink : c.link = some link) (s : Store)
include hlink

theorem createNamespace_snd (space : List String) : (c.createNamespace s space).2 =
    s.after (.makeDirectory (Path.below link.connector.database space)) := by
  rw [createNamespace, directory_eq hlink]
  dsimp only
  split
  · next heq => rw [Store.after, heq]
  · next heq =>
    rw [Store.after, heq]
    split <;> rfl

theorem dropNamespace_snd (space : List String) : (c.dropNamespace s space false).2 =
    s.after (.removeDirectory (Path.below link.connector.database space)) := by
  rw [dropNamespace, directory_eq hlink]
  dsimp only
  split
  · next h => cases h
  · split <;> next heq => rw [Store.after, heq]

theorem createTable_snd (table : TableName) (schema : Schema) (properties : Dict String) :
    (c.createTable s table schema properties).2 = s ∨
      ∃ layout, TableLayout.ofSchema schema properties = .ok layout ∧
        (c.createTable s table schema properties).2 =
          s.after (.table (.create (table.path link.connector.database) layout)) := by
  rw [createTable, tablePath_eq hlink]
  dsimp only
  split
  · exact .inl rfl
  · split
    · exact .inl rfl
    · next layout hlayout =>
      refine .inr ⟨layout, hlayout, ?_⟩
      split <;> next heq => rw [Store.after, Store.call, heq]

theorem alterTable_snd (table : TableName) (changes : List TableChange) :
    (c.alterTable s table changes).2 = s ∨
      ∃ operations, (c.alterTable s table changes).2 =
        s.after (.table (.alter (table.path link.connector.database) operations)) := by
  rw [alterTable, tablePath_eq hlink]
  dsimp only
  split
  · exact .inl rfl
  · split
    · exact .inl rfl
    · next operations _ =>
      refine .inr ⟨operations, ?_⟩
      split <;> next heq => rw [Store.after, Store.call, heq]

theorem renameTable_snd (source target : TableName) : (c.renameTable s source target).2 = s ∨
    (c.renameTable s source target).2 =
      s.after (.table (.rename (source.path link.connector.database)
        (target.path link.connector.database))) := by
  rw [renameTable, tablePath_eq hlink, tablePath_eq hlink]
  dsimp only
  split
  · exact .inl rfl
  · split
    · exact .inl rfl
    · right
      split <;> next heq => rw [Store.after, Store.call, heq]

theorem dropTable_snd (table : TableName) : (c.dropTable s table).2 = s ∨
    (c.dropTable s table).2 =
      s.after (.table (.drop (table.path link.connector.database))) := by
  rw [dropTable, tablePath_eq hlink]
  dsimp only
  split
  · exact .inl rfl
  · split
    · exact .inl rfl
    · right
      split <;> next heq => rw [Store.after, Store.call, heq]

/-- **A change does what it asks the store for**, or nothing. -/
theorem apply_asks (change : Change) : c.apply s change = s ∨
    ∃ call, change.Asks link.connector.database call ∧ c.apply s change = s.after call := by
  cases change with
  | createNamespace space =>
    exact .inr ⟨_, .createNamespace space, createNamespace_snd hlink s space⟩
  | dropNamespace space recursive =>
    cases recursive with
    | true => exact .inl rfl
    | false => exact .inr ⟨_, .dropNamespace space false, dropNamespace_snd hlink s space⟩
  | createTable table schema properties =>
    rcases createTable_snd hlink s table schema properties with
      hsame | ⟨layout, hlayout, hcreated⟩
    · exact .inl hsame
    · exact .inr ⟨_, .createTable table hlayout, hcreated⟩
  | alterTable table changes =>
    rcases alterTable_snd hlink s table changes with hsame | ⟨operations, haltered⟩
    · exact .inl hsame
    · exact .inr ⟨_, .alterTable table changes operations, haltered⟩
  | renameTable source target =>
    rcases renameTable_snd hlink s source target with hsame | hrenamed
    · exact .inl hsame
    · exact .inr ⟨_, .renameTable source target, hrenamed⟩
  | dropTable table =>
    rcases dropTable_snd hlink s table with hsame | hdropped
    · exact .inl hsame
    · exact .inr ⟨_, .dropTable table, hdropped⟩

end Linked

end Catalog

/-! ### Steps -/

namespace Store

/-- A step of a store: a direct call, or a change by a catalog. -/
inductive Step
  | call (c : SchemeCall)
  | change (c : Catalog) (change : Catalog.Change)

/-- The store behind a step, be it successful or not. -/
def next (s : Store) : Step → Store
  | .call c => s.after c
  | .change c change => c.apply s change

/-- **A step has the effect of a call**, be it made directly or by a catalog.  Where nothing is
changed that is the effect of a removal that is refused. -/
theorem exists_effect_next (s : Store) (step : Step) : ∃ c, s.Effect c (s.next step) := by
  cases step with
  | call c => exact ⟨c, effect_after s c⟩
  | change c change =>
    rw [next]
    cases hlink : c.link with
    | none =>
      rw [Catalog.apply_of_unlinked hlink]
      exact ⟨.removeDirectory s.database, effect_of_eq s _⟩
    | some link =>
      rcases Catalog.apply_asks hlink s change with hsame | ⟨call, -, hcall⟩
      · rw [hsame]
        exact ⟨.removeDirectory s.database, effect_of_eq s _⟩
      · rw [hcall]
        exact ⟨call, effect_after s call⟩

end Store

/-! ### A catalog of records -/

namespace Catalog

/-- A link to the database that stands where none is named. -/
def localLink : CatalogLink := ⟨⟨0, .empty⟩, .empty, true⟩

/-- A catalog of records. -/
def archive : Catalog := ⟨"kv", some localLink⟩

def emptyStore : Store := .new localLink.connector.database

/-- The columns of the albums. -/
def albumSchema : Schema := .ofFields [.plain "id" (.int .int32) false]

end Catalog
end ShardScan
