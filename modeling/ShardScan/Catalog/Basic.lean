import ShardScan.Catalog.Error
import ShardScan.Connection.Registry
import ShardScan.Store.Directory
import ShardScan.Text.Pieces

/-!
# Catalogs

A catalog shows a store to an engine: its namespaces are the directories below
the database, and its tables the tables in them.  It reads and changes the
store over a shared connection, which it holds from the time it is connected.

## Main definitions

* `Catalog` — a catalog; `Catalog.connect` makes one with a connection.
* `Catalog.listNamespaces`, `Catalog.namespaceMetadata`, `Catalog.namespaceExists` — what is there.
* `Catalog.createNamespace`, `Catalog.dropNamespace` — changes of it.
-/

namespace ShardScan

/-- What a connected catalog works with. -/
structure CatalogLink where
  connector : Connector
  options : ConnectionOptions
  /-- Indexes are listed beside the tables. -/
  listIndexes : Bool
deriving DecidableEq

/-- A catalog. -/
structure Catalog where
  name : String
  link : Option CatalogLink
deriving DecidableEq

namespace Catalog

/-- A catalog without a name or a connection. -/
def blank : Catalog := ⟨"", none⟩

/-- The catalog of a name, over the connection for some options. -/
def connect (settings : ScanSettings) (registry : Registry) (name : String)
    (options : ConnectionOptions) (client : ConnectionOptions → Except StoreError Unit) :
    Except CatalogError Catalog × Registry :=
  match registry.acquire options client with
  | (.error e, registry) => (.error (.store e), registry)
  | (.ok acquired, registry) =>
    (.ok ⟨name, some ⟨acquired.connector, options, options.listIndexes settings⟩⟩, registry)

/-- What the catalog works with. -/
def link? (c : Catalog) : Except CatalogError CatalogLink :=
  match c.link with
  | some link => .ok link
  | none => .error (.notInitialized c.name)

/-- The path of the root directory. -/
def database (c : Catalog) : Except CatalogError String :=
  c.link?.map (·.connector.database)

/-- The directory of a namespace. -/
def directory (c : Catalog) (space : List String) : Except CatalogError String :=
  c.database.map fun database => Path.below database space

/-! ### Failures of the store -/

/-- A status has a remark in which a text occurs. -/
def mentions (status : Status) (part : String) : Bool :=
  status.issues.any fun issue => Text.occursIn part.toList issue.toList

/-- What the failure of an operation on a directory says of its namespace. -/
def namespaceError (space : List String) (e : StoreError) : CatalogError :=
  if e.status.code = .schemeError && mentions e.status "Path not found" then
    .noSuchNamespace space
  else .store e

/-- What the failure of an operation on a table says of it. -/
def tableError (table : TableName) (e : StoreError) : CatalogError :=
  if e.status.code = .schemeError then .noSuchTable table else .store e

/-! ### Namespaces -/

/-- The namespaces in a namespace. -/
def listNamespaces (c : Catalog) (s : Store) (space : List String) :
    Except CatalogError (List (List String)) := do
  let path ← c.directory space
  let entries ← (s.listDirectory path).mapError (namespaceError space)
  return (entries.filter fun e => e.kind = .directory).map fun e => space ++ [e.name]

/-- The key of the kind of an entry among its metadata. -/
def entryTypeKey : String := "entry_type"

/-- The key of the owner of an entry among its metadata. -/
def entryOwnerKey : String := "entry_owner"

/-- Kind and owner of the directory of a namespace; the root has none. -/
def namespaceMetadata (c : Catalog) (s : Store) (space : List String) :
    Except CatalogError (Dict String) := do
  let path ← c.directory space
  if space.isEmpty then return .empty
  else
    let entry ← (s.describePath path).mapError (namespaceError space)
    return .ofList [(entryTypeKey, entry.kind.name), (entryOwnerKey, entry.owner)]

/-- The namespace is there. -/
def namespaceExists (c : Catalog) (s : Store) (space : List String) : Except CatalogError Bool :=
  match c.namespaceMetadata s space with
  | .ok _ => .ok true
  | .error (.noSuchNamespace _) => .ok false
  | .error e => .error e

/-- Makes the directory of a namespace. -/
def createNamespace (c : Catalog) (s : Store) (space : List String) :
    Except CatalogError Unit × Store :=
  match c.directory space with
  | .error e => (.error e, s)
  | .ok path =>
    match s.makeDirectory path with
    | (.error e, s) => (.error (.store e), s)
    | (.ok status, s) =>
      if status.isSuccess && mentions status " path exist, request accepts it" then
        (.error (.namespaceAlreadyExists space), s)
      else ((status.expectSuccess ("create namespace " ++ path)).mapError .store, s)

/-- A namespace has nothing to alter. -/
def alterNamespace (space : List String) : CatalogError := .unsupported (.alterNamespace space)

/-- Removes the directory of a namespace; false if the store refuses. -/
def dropNamespace (c : Catalog) (s : Store) (space : List String) (recursive : Bool) :
    Except CatalogError Bool × Store :=
  if recursive then (.error (.unsupported .removeRecursively), s)
  else
    match c.directory space with
    | .error e => (.error e, s)
    | .ok path =>
      match s.removeDirectory path with
      | (.ok _, s) => (.ok true, s)
      | (.error _, s) => (.ok false, s)

end Catalog
end ShardScan
