import ShardScan.Catalog.Basic
import ShardScan.Plan.Pushdown
import ShardScan.Store.Scheme

/-!
# Tables of a catalog

A table, or an index read as a table, as it was when it was loaded.

## Main definitions

* `CatalogTable.lookup` — a table or an index of one, by the path of the table.
* `CatalogTable.properties` — its properties for the engine.
* `CatalogTable.target` — what a scan of it reads.
* `TableLayout.ofSchema` — the layout of a table that an engine describes.
* `TableChange.operation` — a change as an operation of the store.
-/

namespace ShardScan

/-- A table, or an index read as a table. -/
structure CatalogTable where
  name : String
  /-- The path that a scan reads. -/
  path : String
  /-- The index that it is. -/
  index : Option String
  layout : TableLayout
  options : ConnectionOptions
  connector : Connector
deriving DecidableEq

/-- The property that names the key columns. -/
def primaryKeyProperty : String := "primary_key"

namespace CatalogTable

/-- The table at a path, or an index of it. -/
def lookup (link : CatalogLink) (s : Store) (path name : String) (index : Option String) :
    Except StoreError CatalogTable :=
  let path := match index with
    | some index => Path.indexTable path index
    | none => path
  (s.describeTable path).map fun layout =>
    ⟨name, path, index, layout, link.options, link.connector⟩

/-- What a scan reads. -/
def target (t : CatalogTable) : ScanTarget := .ofLayout t.name t.path t.layout

/-- The table is an index. -/
def isIndex (t : CatalogTable) : Bool := t.index.isSome

/-- The stored properties with the key columns and the kind of entry. -/
def properties (t : CatalogTable) : Dict String :=
  (t.layout.properties.insert primaryKeyProperty
    (String.intercalate "," t.layout.primaryKey)).insert Catalog.entryTypeKey
      (if t.isIndex then "INDEX" else "TABLE")

/-- A scan of the table with nothing pushed down yet. -/
def scan (t : CatalogTable) : Pushdown := .start t.target t.options

end CatalogTable

/-! ### What engines ask for -/

namespace Field

/-- The store column for a column of an engine. -/
def toColumn (f : Field) : Except CoercionError Column :=
  f.type.toStore.map fun type => ⟨f.name, if f.nullable then type.orNull else type⟩

end Field

namespace TableLayout

/-- The names in a list with commas between them. -/
def keyList (s : String) : List String :=
  (((Text.pieces ',' s.toList).map Text.trim).filter (!·.isEmpty)).map String.ofList

/-- The layout of a table that an engine describes.  A property names the key columns; without it
the first column is the key. -/
def ofSchema (schema : Schema) (properties : Dict String) : Except CoercionError TableLayout :=
  (schema.fields.mapM Field.toColumn).map fun columns =>
    { columns := columns
      primaryKey := match properties.get? primaryKeyProperty with
        | some names => keyList names
        | none => (columns.take 1).map (·.name)
      indexes := []
      properties := properties.erase primaryKeyProperty
      partitions := [] }

end TableLayout

namespace TableChange

/-- A change as an operation of the store.  An added column always admits NULL, for the rows that
are there have no value in it. -/
def operation : TableChange → Except CatalogError AlterOperation
  | addColumn name type =>
    match type.toStore with
    | .ok type => .ok (.addColumn ⟨name, type.orNull⟩)
    | .error e => .error (.coercion e)
  | dropColumn name => .ok (.dropColumn name)
  | setProperty key value => .ok (.setProperty key value)
  | removeProperty key => .ok (.removeProperty key)
  | renameColumn source target => .error (.unsupported (.renameColumn source target))
  | retypeColumn name type => .error (.unsupported (.retypeColumn name type))

end TableChange
end ShardScan
