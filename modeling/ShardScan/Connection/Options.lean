import ShardScan.Dict
import ShardScan.Settings.Basic
import ShardScan.Text.Blank
import ShardScan.Text.Numeral
import ShardScan.Text.Quoted

/-!
# Connection options

The options an engine gives with a connection: texts under keys without regard
to ASCII case.  Some of them say which store to connect to, the others tune
scans and catalogs; the former are the snapshot by which connections are told
apart.

## Main definitions

* `ConnectionOptions.get?`, `ConnectionOptions.set` — look-up and update in any case of the key.
* `ConnectionOptions.queueDepth` and its neighbours — the options with a meaning of their own.
* `ConnectionOptions.snapshot` — the options without the tuning ones.
-/

namespace ShardScan

/-- The options of a connection, under keys in lower case. -/
structure ConnectionOptions where
  entries : Dict String
deriving DecidableEq

namespace ConnectionOptions

/-- A key in the form it is kept in: ASCII letters in lower case. -/
def canonicalKey (key : String) : String := String.ofList (key.toList.map Char.toLower)

/-- No options. -/
def empty : ConnectionOptions := ⟨.empty⟩

/-- The options with one of them set. -/
def set (o : ConnectionOptions) (key value : String) : ConnectionOptions :=
  ⟨o.entries.insert (canonicalKey key) value⟩

/-- An option. -/
def get? (o : ConnectionOptions) (key : String) : Option String :=
  o.entries.get? (canonicalKey key)

/-- The options of a list; of two with one key the later counts. -/
def ofList (entries : List (String × String)) : ConnectionOptions :=
  entries.foldl (fun o e => o.set e.1 e.2) empty

/-! ### Options with a meaning -/

def queueDepthKey : String := "scan.queue.depth"
def sessionSecondsKey : String := "scan.session.seconds"
def listIndexesKey : String := "list.indexes"
def databaseKey : String := "database"

/-- The keys of the options that tune scans and catalogs. -/
def tuningKeys : List String := [queueDepthKey, sessionSecondsKey, listIndexesKey]

/-- The least queue depth. -/
def leastQueueDepth : Word .u64 := 2

/-- The queue depth in place of one that is no number. -/
def fallbackQueueDepth : Word .u64 := 3

/-- The database where none is named. -/
def defaultDatabase : String := "/local"

/-- The number of 32 bits that an option's text stands for, white space around it aside. -/
def number? (raw : String) : Option (Word .i32) := Word.ofText? .i32 (Text.trim raw.toList)

/-- The number as a word of 64 bits, if it is not below `least`. -/
def atLeast? (least : Word .u64) (n : Word .i32) : Option (Word .u64) :=
  if least.val ≤ n.val then Word.ofInt? .u64 n.val else none

/-- The blocks that the queue of a shard holds.  A number below the least depth is raised to it. -/
def queueDepth (settings : ScanSettings) (o : ConnectionOptions) : Word .u64 :=
  match o.get? queueDepthKey with
  | none => if settings.queueDepth.val < leastQueueDepth.val then leastQueueDepth
    else settings.queueDepth
  | some raw =>
    match number? raw with
    | some n => (atLeast? leastQueueDepth n).getD leastQueueDepth
    | none => fallbackQueueDepth

/-- The life of a reader's session in seconds: a positive number, or what the settings say. -/
def sessionSeconds (settings : ScanSettings) (o : ConnectionOptions) : Word .u64 :=
  (((o.get? sessionSecondsKey).bind number?).bind (atLeast? 1)).getD
    settings.sessionSeconds

/-- The catalog lists the indexes of tables: the option is `true` in any ASCII case. -/
def listIndexes (settings : ScanSettings) (o : ConnectionOptions) : Bool :=
  match o.get? listIndexesKey with
  | some raw => canonicalKey (String.ofList (Text.trim raw.toList)) == "true"
  | none => settings.listIndexes

/-- The root of the store's paths, with a slash before it and none behind. -/
def database (o : ConnectionOptions) : String :=
  let raw := (o.get? databaseKey).getD defaultDatabase
  match Text.dropEndWhile (· == '/') (Text.trim raw.toList) with
  | [] => defaultDatabase
  | '/' :: rest => String.ofList ('/' :: rest)
  | rest => String.ofList ('/' :: rest)

/-- The options that say which store is meant. -/
def snapshot (o : ConnectionOptions) : ConnectionOptions :=
  ⟨o.entries.filter fun key _ => !tuningKeys.contains key⟩

/-! ### Written forms -/

/-- The options between braces, each as `key=value`. -/
def display (o : ConnectionOptions) : String :=
  "\x7b" ++ String.intercalate ", " (o.entries.entries.map fun e => e.1 ++ "=" ++ e.2) ++ "\x7d"

/-- The options with keys and values quoted. -/
def spelled (o : ConnectionOptions) : String :=
  "ConnectorOptions \x7b entries: " ++ Text.quotedEntries o.entries ++ " \x7d"

end ConnectionOptions
end ShardScan
