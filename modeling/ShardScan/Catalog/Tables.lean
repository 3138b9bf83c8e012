import ShardScan.Catalog.Table

/-!
# Operations on the tables of a catalog

Listing, loading, creating, altering, dropping and renaming tables by name.
The indexes of a table are listed and loaded like tables, and never changed.

## Main definitions

* `Catalog.listTables` — the tables of a namespace, with their indexes if the catalog lists them.
* `Catalog.loadTable`, `Catalog.tableExists` — a table or an index by its name.
* `Catalog.createTable`, `Catalog.alterTable`, `Catalog.dropTable`, `Catalog.renameTable` — changes.
-/

namespace ShardScan.Catalog

/-- The path of a table. -/
def tablePath (c : Catalog) (table : TableName) : Except CatalogError String :=
  c.database.map fun database => table.path database

/-! ### Reading -/

/-- The names of the indexes of the table at a path; none where it cannot be described. -/
def indexNames (s : Store) (path : String) (table : TableName) : List TableName :=
  match s.describeTable path with
  | .ok layout => layout.indexes.map fun index => .ofIndex table.space table.name index.name
  | .error _ => []

/-- The tables of a namespace, each followed by its indexes if the catalog lists them. -/
def listTables (c : Catalog) (s : Store) (space : List String) :
    Except CatalogError (List TableName) := do
  let link ← c.link?
  let path ← c.directory space
  let entries ← (s.listDirectory path).mapError (namespaceError space)
  return (entries.filter (·.kind.isTable)).flatMap fun e =>
    let table : TableName := ⟨space, e.name⟩
    let indexes :=
      if link.listIndexes && e.kind = .table then
        indexNames s (table.path link.connector.database) table
      else []
    table :: indexes

/-- The table or index of a name. -/
def loadTable (c : Catalog) (s : Store) (table : TableName) : Except CatalogError CatalogTable := do
  let link ← c.link?
  let database := link.connector.database
  if table.isIndex then
    match table.indexParts? with
    | none => throw (.noSuchTable table)
    | some (base, index) =>
      let path := TableName.path database ⟨table.space, base⟩
      (CatalogTable.lookup link s path table.localName (some index)).mapError (tableError table)
  else
    (CatalogTable.lookup link s (table.path database) table.localName none).mapError
      (tableError table)

/-- There is a table or an index of the name. -/
def tableExists (c : Catalog) (s : Store) (table : TableName) : Except CatalogError Bool :=
  match c.loadTable s table with
  | .ok _ => .ok true
  | .error (.noSuchTable _) => .ok false
  | .error e => .error e

/-! ### Changes -/

/-- Creates a table that an engine describes, and loads it. -/
def createTable (c : Catalog) (s : Store) (table : TableName) (schema : Schema)
    (properties : Dict String) : Except CatalogError CatalogTable × Store :=
  if table.isIndex then (.error (.unsupported (.createIndex table)), s)
  else
    match c.tablePath table with
    | .error e => (.error e, s)
    | .ok path =>
      match TableLayout.ofSchema schema properties with
      | .error e => (.error (.coercion e), s)
      | .ok layout =>
        match s.createTable path layout with
        | (.error e, s) =>
          let e := if e.status.code = .alreadyExists then .tableAlreadyExists table else .store e
          (.error e, s)
        | (.ok _, s) => (c.loadTable s table, s)

/-- Makes some changes of a table, and loads it. -/
def alterTable (c : Catalog) (s : Store) (table : TableName) (changes : List TableChange) :
    Except CatalogError CatalogTable × Store :=
  if table.isIndex then (.error (.unsupported (.alterIndex table)), s)
  else
    match c.tablePath table with
    | .error e => (.error e, s)
    | .ok path =>
      match changes.mapM TableChange.operation with
      | .error e => (.error e, s)
      | .ok operations =>
        match s.alterTable path operations with
        | (.error e, s) => (.error (tableError table e), s)
        | (.ok _, s) => (c.loadTable s table, s)

/-- Drops a table; false if there is none. -/
def dropTable (c : Catalog) (s : Store) (table : TableName) : Except CatalogError Bool × Store :=
  if table.isIndex then (.error (.unsupported (.dropIndex table)), s)
  else
    match c.tablePath table with
    | .error e => (.error e, s)
    | .ok path =>
      match s.describeTable path with
      | .error e => (if e.status.code = .schemeError then .ok false else .error (.store e), s)
      | .ok _ =>
        match s.dropTable path with
        | (.error e, s) => (.error (.store e), s)
        | (.ok _, s) => (.ok true, s)

/-- What the failure of a renaming says of the two names. -/
def renameError (source target : TableName) (e : StoreError) : CatalogError :=
  match e.status.code with
  | .schemeError => .noSuchTable source
  | .alreadyExists => .tableAlreadyExists target
  | _ => .store e

/-- Renames a table. -/
def renameTable (c : Catalog) (s : Store) (source target : TableName) :
    Except CatalogError Unit × Store :=
  if source.isIndex then (.error (.unsupported (.renameIndex source)), s)
  else if target.isIndex then (.error (.unsupported (.renameToIndex target)), s)
  else
    match c.tablePath source, c.tablePath target with
    | .ok sourcePath, .ok targetPath =>
      match s.renameTable sourcePath targetPath with
      | (.error e, s) => (.error (renameError source target e), s)
      | (.ok _, s) => (.ok (), s)
    | .error e, _ => (.error e, s)
    | _, .error e => (.error e, s)

end ShardScan.Catalog
