import ShardScan.Store.Directory

/-!
# Operations on tables

Creating, altering, renaming and dropping tables, and changing their rows and
shards, by path.

## Main definitions

* `Store.view?` — the layout and rows of a table, or of an index under its hidden path.
* `Store.createTable`, `Store.alterTable`, `Store.renameTable`, `Store.dropTable` — the scheme.
* `Store.insertRows`, `Store.splitTable` — the rows and shards.
-/

namespace ShardScan.Store

/-- The layout and rows at a path: those of a table, or of the index of one. -/
def view? (s : Store) (path : String) : Option (TableLayout × List Tuple) :=
  match s.tables.get? path with
  | some table => some (table.description, table.rows)
  | none =>
    if Path.base path = Path.indexTableName then
      let directory := Path.parent path
      (s.tables.get? (Path.parent directory)).bind fun table =>
        (table.layout.index? (Path.base directory)).map table.indexView
    else none

/-- The layout of the table or index at a path. -/
def describeTable (s : Store) (path : String) : Except StoreError TableLayout :=
  match s.view? path with
  | some (layout, _) => .ok layout
  | none => .error (notFound "describe table" path)

/-- Why a layout cannot be one of a table. -/
def layoutFault? (path : String) (layout : TableLayout) : Option String :=
  let unknown := fun name => (layout.column? name).isNone
  if layout.primaryKey.isEmpty then some ("No primary key for table " ++ path)
  else
    match layout.primaryKey.find? unknown with
    | some name => some ("Unknown key column " ++ name)
    | none =>
      (layout.indexes.findSome? fun index => index.columns.find? unknown).map
        ("Unknown index column " ++ ·)

/-- Something lies at the path. -/
def isTaken (s : Store) (path : String) : Bool :=
  s.tables.contains path || s.directories.contains path

/-- Creates a table without rows, and the directories around it. -/
def createTable (s : Store) (path : String) (layout : TableLayout) : StoreOutcome Unit :=
  match layoutFault? path layout with
  | some issue => (.error (.of "create table" .badRequest issue), s)
  | none =>
    match s.makeDirectory (Path.parent path) with
    | (.error e, s) => (.error e, s)
    | (.ok _, s) =>
      if s.isTaken path then
        (.error (.of "create table" .alreadyExists ("Path exists: " ++ path)), s)
      else (.ok (), { s with tables := s.tables.insert path (.empty layout) })

/-- Makes changes of a table; those before one that cannot be made stay. -/
def alterTable (s : Store) (path : String) (operations : List AlterOperation) :
    StoreOutcome Unit :=
  match s.tables.get? path with
  | none => (.error (notFound "alter table" path), s)
  | some table =>
    let (outcome, table) := table.alter operations
    (outcome, { s with tables := s.tables.insert path table })

/-- Drops a table with its rows. -/
def dropTable (s : Store) (path : String) : StoreOutcome Unit :=
  if s.tables.contains path then (.ok (), { s with tables := s.tables.erase path })
  else (.error (notFound "drop table" path), s)

/-- Moves a table to a path at which nothing lies. -/
def renameTable (s : Store) (source target : String) : StoreOutcome Unit :=
  if s.isTaken target then
    (.error (.of "rename table" .alreadyExists ("Path exists: " ++ target)), s)
  else
    match s.tables.get? source with
    | none => (.error (notFound "rename table" source), s)
    | some table => (.ok (), { s with tables := (s.tables.erase source).insert target table })

/-- Puts rows into a table; those before one of the wrong width stay. -/
def insertRows (s : Store) (path : String) (rows : List Tuple) : StoreOutcome Unit :=
  match s.tables.get? path with
  | none => (.error (notFound "insert rows" path), s)
  | some table =>
    let (outcome, table) := table.insertRows rows
    (outcome, { s with tables := s.tables.insert path table })

/-- Cuts a table into shards at some points. -/
def splitTable (s : Store) (path : String) (points : List Tuple) : StoreOutcome Unit :=
  match s.tables.get? path with
  | none => (.error (notFound "split table" path), s)
  | some table => (.ok (), { s with tables := s.tables.insert path (table.split points) })

end ShardScan.Store
