import ShardScan.Store.Basic

/-!
# Directories

Listing, describing, making and removing directories.

## Main definitions

* `Store.listDirectory`, `Store.describePath` — what lies in a directory, and at a path.
* `Store.makeDirectory`, `Store.removeDirectory` — making a directory with those around it, and
  removing an empty one.
-/

namespace ShardScan

/-- What can lie at a path. -/
inductive EntryKind
  | directory | database | table | columnTable | other
deriving DecidableEq

namespace EntryKind

/-- The written form of a kind. -/
def name : EntryKind → String
  | directory => "DIRECTORY"
  | database => "DATABASE"
  | table => "TABLE"
  | columnTable => "COLUMN_TABLE"
  | other => "OTHER"

/-- The kind is one of tables. -/
def isTable : EntryKind → Bool
  | table => true
  | columnTable => true
  | _ => false

end EntryKind

/-- What lies at a path. -/
structure Entry where
  name : String
  kind : EntryKind
  owner : String
deriving DecidableEq

namespace Path

/-- A path and those around it, from the inside out, as long as they are in the database. -/
def enclosing (database : String) : Nat → String → List String
  | 0, _ => []
  | fuel + 1, path =>
    if 1 < path.utf8ByteSize && database.toList.isPrefixOf path.toList then
      path :: enclosing database fuel (parent path)
    else []

end Path

namespace Store

/-- An entry of the store's owner. -/
def entry (path : String) (kind : EntryKind) : Entry := ⟨Path.base path, kind, owner⟩

/-- The path is a child of a directory. -/
def isChildOf (directory path : String) : Bool := Path.parent path == directory

/-- The directories and then the tables of a directory, each in the order of their paths. -/
def listDirectory (s : Store) (path : String) : Except StoreError (List Entry) :=
  let path := Path.trimEnd path
  if s.directories.contains path then
    let directories := s.directories.keys.filter fun d => d != path && isChildOf path d
    let tables := s.tables.keys.filter (isChildOf path)
    .ok (directories.map (entry · .directory) ++ tables.map (entry · .table))
  else .error (notFound "list directory" path)

/-- What lies at a path. -/
def describePath (s : Store) (path : String) : Except StoreError Entry :=
  let path := Path.trimEnd path
  if path = s.database then .ok (entry path .database)
  else if s.directories.contains path then .ok (entry path .directory)
  else if s.tables.contains path then .ok (entry path .table)
  else .error (notFound "describe path" path)

/-- The remark of a status that the directory to make was there. -/
def existsRemark : String := "Check failed: path exist, request accepts it"

/-- Makes a directory, and those around it up to the database.  One that is there is left as it
is, and the status says so. -/
def makeDirectory (s : Store) (path : String) : StoreOutcome Status :=
  let path := Path.trimEnd path
  if s.tables.contains path then
    (.error (.of "make directory" .schemeError ("Path is a table: " ++ path)), s)
  else if s.directories.contains path then (.ok ⟨.success, [existsRemark]⟩, s)
  else
    let made := Path.enclosing s.database path.utf8ByteSize path
    (.ok .success,
      { s with directories := made.foldl (fun ds d => ds.insert d ()) s.directories })

/-- Removes a directory in which nothing lies, other than the root. -/
def removeDirectory (s : Store) (path : String) : StoreOutcome Unit :=
  let path := Path.trimEnd path
  if !s.directories.contains path || path == s.database then
    (.error (notFound "remove directory" path), s)
  else if s.directories.keys.any (fun d => isChildOf path d && d != path) ||
      s.tables.keys.any (isChildOf path) then
    (.error (.of "remove directory" .preconditionFailed ("Directory is not empty: " ++ path)), s)
  else (.ok (), { s with directories := s.directories.erase path })

end Store
end ShardScan
