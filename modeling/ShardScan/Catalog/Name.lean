import ShardScan.Store.Path
import ShardScan.Text.Affix

/-!
# Names of tables

A table has a name in a namespace, which is a list of components.  Each
component becomes one part of the path under which the store keeps the table.
The indexes of a table are listed beside it under names of their own.

## Main definitions

* `TableName` — a namespace and a name in it.
* `TableName.path` — the path of the table of a name in a database.
* `TableName.indexParts?` — the table and the index that a name stands for.
-/

namespace ShardScan

namespace Path

/-- A name as one part of a path: what would separate parts becomes an underscore. -/
def safe (part : String) : String :=
  String.ofList (part.toList.map fun c => if c = '/' || c = '\\' then '_' else c)

/-- The path of a directory in a database, each component made safe. -/
def below (database : String) (components : List String) : String :=
  components.foldl (fun path part => path ++ "/" ++ safe part) (trimEnd database)

end Path

/-- The name of a table in a namespace. -/
structure TableName where
  /-- The components of the namespace. -/
  space : List String
  name : String
deriving DecidableEq

namespace TableName

/-- How the names of indexes begin. -/
def indexOpening : String := "ix/"

/-- The name under which an index of a table is listed. -/
def ofIndex (space : List String) (table index : String) : TableName :=
  ⟨space, indexOpening ++ table ++ "/" ++ index⟩

/-- The name is one of an index, well-formed or not. -/
def isIndex (t : TableName) : Bool := (Text.after? indexOpening.toList t.name.toList).isSome

/-- The table and the index that a well-formed name of an index stands for. -/
def indexParts? (t : TableName) : Option (String × String) := do
  let rest ← Text.after? indexOpening.toList t.name.toList
  let (table, index) ← Text.cutAt? '/' rest
  if table.isEmpty || index.isEmpty || index.contains '/' then none
  else return (String.ofList table, String.ofList index)

/-- The components and the name, each made safe, with slashes between them. -/
def localName (t : TableName) : String :=
  String.intercalate "/" ((t.space ++ [t.name]).map Path.safe)

/-- The path of the table in a database. -/
def path (database : String) (t : TableName) : String := Path.below database (t.space ++ [t.name])

/-- The components and the name with full stops between them. -/
def display (t : TableName) : String := String.intercalate "." (t.space ++ [t.name])

end TableName
end ShardScan
