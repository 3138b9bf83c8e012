import ShardScan.Floating.Shortest
import ShardScan.Json.Overlay
import ShardScan.Json.Reader
import ShardScan.Settings.Basic
import ShardScan.Text.Affix

/-!
# Loading settings

Settings come in layers: what is built in, and over that a JSON file with
environment variables over it.  A variable is named for the section and the
key it sets.  The layers make one document, from which the settings are read;
numbers and flags may be spelled in several ways there.

## Main definitions

* `Settings.variablePath?` — the path of keys that an environment variable sets.
* `Settings.layers?` — the document that the layers make.
* `Settings.ofDocument?` — the settings in a document.
* `Settings.load` — the settings of a file and an environment.
-/

namespace ShardScan.Settings

/-! ### Reading values -/

/-- The small form of a letter that has one in ASCII; besides the capital letters there, the
Kelvin sign. -/
def smallLetter (c : Char) : Char := if c = '\u212a' then 'k' else c.toLower

/-- A word in small letters. -/
def lowered (s : String) : String := String.ofList (s.toList.map smallLetter)

def trueWords : List String := ["true", "on", "yes"]
def falseWords : List String := ["false", "off", "no"]

/-- The whole number nearest to a finite number, a tie going away from zero, as far as a count
reaches. -/
def nearestCount (x : Binary64) : Word .u64 :=
  let (num, den) := x.ratio
  let n := (2 * num + den) / (2 * den)
  .clamp .u64 (if x.negative then -n else n)

/-- A count: a whole number that is not negative, or what stands for one. -/
def count? : Json → Option (Word .u64)
  | .integer n => Word.ofInt? .u64 n
  | .number x => some (nearestCount x)
  | .bool b => some (if b then 1 else 0)
  | .string s =>
    if trueWords.contains (lowered s) then some 1
    else if falseWords.contains (lowered s) then some 0
    else Word.ofText? .u64 s.toList
  | _ => none

/-- A flag, or what stands for one. -/
def flag? : Json → Option Bool
  | .bool b => some b
  | .integer n => some (n != 0)
  | .number x => some (!x.isZero)
  | .string s =>
    if ("1" :: trueWords).contains (lowered s) then some true
    else if ("0" :: falseWords).contains (lowered s) then some false
    else none
  | _ => none

/-- A text; numbers and flags are texts as they are written. -/
def text? : Json → Option String
  | .string s => some s
  | .bool b => some (if b then "true" else "false")
  | .integer n => some (toString n)
  | .number x => some (x.text .plain)
  | _ => none

/-! ### Reading settings -/

/-- The values of a section in the order of its keys; a list counts as the values themselves. -/
def values? (keys : List String) : Json → Option (List Json)
  | .object members => keys.mapM fun key => members.lookup key
  | .array items => if keys.length ≤ items.length then some (items.take keys.length) else none
  | _ => none

def loggingKeys : List String := ["log_dir", "stdout_level", "file_level"]

def scanKeys : List String :=
  ["queue_depth", "session_seconds", "request_timeout_secs", "poll_interval_ms", "drain_pause_ms",
    "list_indexes"]

/-- The logging settings in a section. -/
def logging? (j : Json) : Option LoggingSettings := do
  match ← values? loggingKeys j with
  | [directory, stdoutLevel, fileLevel] =>
    return ⟨← text? directory, ← text? stdoutLevel, ← text? fileLevel⟩
  | _ => none

/-- The scan settings in a section. -/
def scan? (j : Json) : Option ScanSettings := do
  match ← values? scanKeys j with
  | [queueDepth, sessionSeconds, requestTimeout, pollInterval, drainPause, listIndexes] =>
    return ⟨← count? queueDepth, ← count? sessionSeconds, ← count? requestTimeout,
      ← count? pollInterval, ← count? drainPause, ← flag? listIndexes⟩
  | _ => none

/-- The settings in a document. -/
def ofDocument? (j : Json) : Option Settings := do
  return ⟨← logging? (← j.member? "logging"), ← scan? (← j.member? "scan")⟩

/-! ### Layers -/

/-- The settings as a document. -/
def toDocument (s : Settings) : Json :=
  let count := fun w : Word .u64 => Json.integer w.val
  .object [
    ("logging", .object (loggingKeys.zip
      [.string s.logging.directory, .string s.logging.stdoutLevel, .string s.logging.fileLevel])),
    ("scan", .object (scanKeys.zip
      [count s.scan.queueDepth, count s.scan.sessionSeconds, count s.scan.requestTimeoutSeconds,
        count s.scan.pollIntervalMillis, count s.scan.drainPauseMillis,
        .bool s.scan.listIndexes]))]

/-- The text with a full stop for each pair of underscores. -/
def stopsForPairs : List Char → List Char
  | '_' :: '_' :: s => '.' :: stopsForPairs s
  | c :: s => c :: stopsForPairs s
  | [] => []

/-- What the names of variables that count begin with, in small letters. -/
def variableOpening : String := "kvscan__"

/-- The path of keys that an environment variable sets, if it is one that counts. -/
def variablePath? (name : String) : Option Json.Path :=
  (Text.after? variableOpening.toList (lowered name).toList).map fun key =>
    .ofText (stopsForPairs key)

/-- Environment variables laid over a document. -/
def overlayVariables (j : Json) (env : List (String × String)) : Json :=
  env.foldl
    (fun j (name, value) =>
      match variablePath? name with
      | some path => j.overlayAt (.string value) path
      | none => j)
    j

/-- What a file and the environment say together; none if the file is no JSON document. -/
def overrides? (file : Option String) (env : List (String × String)) : Option Json :=
  let nothing := Json.object []
  let content := match file with
    | some text => Json.parse? text
    | none => some nothing
  content.map fun content => overlayVariables (nothing.overlayDocument content) env

/-- The document that the layers make; none if the file cannot be read.  The file and the
environment are brought together before they are laid over what is built in, so a variable that
makes a section out of something else in the file keeps the other keys of that section. -/
def layers? (file : Option String) (env : List (String × String)) : Option Json :=
  (overrides? file env).map builtin.toDocument.overlayDocument

/-- The settings of a file, if there is one, and an environment. -/
def load (file : Option String) (env : List (String × String)) : Option Settings :=
  (layers? file env).bind ofDocument?

end ShardScan.Settings
