import ShardScan.Text.Blank

/-!
# Store paths

Directories and tables lie under paths whose parts are separated by slashes.

## Main definitions

* `Path.parent`, `Path.base` — a path without its last part, and that part.
* `Path.join` — a path and a further part with one slash between them.
* `Path.indexTable` — the path under which the index of a table is read.
-/

namespace ShardScan.Path

/-- The path without the slashes at its end. -/
def trimEnd (path : String) : String :=
  String.ofList (Text.dropEndWhile (· == '/') path.toList)

/-- The characters up to the last slash, and those after it. -/
def splitLast (s : List Char) : Option (List Char × List Char) :=
  let tail := (s.reverse.takeWhile (· != '/')).reverse
  if tail.length = s.length then none else some (s.take (s.length - tail.length - 1), tail)

/-- The path up to its last part; the root for a path of one part. -/
def parent (path : String) : String :=
  match splitLast (Text.dropEndWhile (· == '/') path.toList) with
  | none => "/"
  | some ([], _) => "/"
  | some (before, _) => String.ofList before

/-- The last part of a path. -/
def base (path : String) : String :=
  let trimmed := Text.dropEndWhile (· == '/') path.toList
  match splitLast trimmed with
  | none => String.ofList trimmed
  | some (_, last) => String.ofList last

/-- A path and a further part with exactly one slash between them. -/
def join (parent name : String) : String :=
  String.ofList (Text.dropEndWhile (· == '/') parent.toList ++
    '/' :: name.toList.dropWhile (· == '/'))

/-- The name, under the directory of an index, of the table behind it. -/
def indexTableName : String := "indexImplTable"

/-- The path under which the index of a table is read. -/
def indexTable (table index : String) : String := join (join table index) indexTableName

end ShardScan.Path
