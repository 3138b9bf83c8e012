import ShardScan.Plan.Scan
import ShardScan.Scan.Feed

/-!
# Readers

A reader hands the rows of one shard to the engine, row by row in output column
order.  It opens a session and a range read, takes blocks from its feed, and
finds the columns of each block by their names, for the store may change their
order from block to block.  The first failure ends it.

A reader works on a store that it returns with every outcome.  Wherever it
returns, its producer has been let run until it has to wait, so a failure of
the stream is known as early as it can be.  A call that would have to wait for
a gate has no outcome, and neither has one that asks for a range where the
arithmetic of the plan overflows: the program stops there.

## Main definitions

* `Reader` — the state of a reader; `Reader.new` makes one.
* `Reader.setUp`, `Reader.prepare` — opens the session and the read and starts the producer.
* `Reader.next`, `Reader.get` — moves to the next row, and reads it.
* `Reader.close` — releases everything.
* `Reader.accept` — what becomes of an item taken from the queue.
-/

namespace ShardScan

/-- What a prepared reader holds in the store. -/
structure OpenScan where
  session : Nat
  stream : Nat
deriving DecidableEq

/-- A place in the rows of a block. -/
structure Cursor where
  block : Block
  /-- Where the block has the columns that were asked for. -/
  positions : List Nat
  /-- The current row; none before the first. -/
  row : Option Nat
deriving DecidableEq

/-- The row behind the current one. -/
def Cursor.nextRow (c : Cursor) : Nat :=
  match c.row with
  | some row => row + 1
  | none => 0

/-- A reader of one shard. -/
structure Reader where
  shard : Shard
  /-- The time limit on its range read. -/
  timeoutSeconds : Word .u64
  feed : Feed
  scan : Option OpenScan
  cursor : Option Cursor
  /-- The rows handed over so far. -/
  rowsRead : Nat

/-- What became of an item taken from the queue. -/
inductive Accepted
  /-- The call is answered. -/
  | answers (answer : Except ScanError Bool) (r : Reader)
  /-- Another item is needed. -/
  | goesOn (r : Reader)

namespace Block

/-- Where a block has the named columns, or how it differs from them. -/
def positions (b : Block) (names : List String) : Except SchemaDrift (List Nat) :=
  if b.columns.length = names.length then
    names.mapM fun name =>
      match b.columnIndex? name with
      | some position => .ok position
      | none => .error (.lostColumn name)
  else .error (.columnCount names.length b.columns.length)

end Block

namespace Reader

/-- A reader that holds nothing yet. -/
def new (shard : Shard) (timeoutSeconds : Word .u64) : Reader where
  shard := shard
  timeoutSeconds := timeoutSeconds
  feed :=
    { table := shard.plan.tablePath
      range := shard.effectiveRange
      queue := .bounded shard.plan.queueDepth.val.toNat
      state := .created
      issue := none
      cancelled := false
      producer := .idle }
  scan := none
  cursor := none
  rowsRead := 0

def state (r : Reader) : ReaderState := r.feed.state

/-- The columns of its rows. -/
def outColumns (r : Reader) : List String := r.shard.plan.outColumns

/-- The range read that delivers the rows.  A limit of zero rows is none. -/
def request (r : Reader) : ReadRequest where
  columns := r.outColumns
  lower := side r.feed.range.lower
  upper := side r.feed.range.upper
  rowLimit := r.shard.plan.rowLimit.filter fun limit => 0 < limit.val
  ordered := true
  timeoutSeconds := r.timeoutSeconds
where
  side (b : KeyBound) : Option RequestBound :=
    if b.unrestricted then none else RequestBound.of? b.values b.inclusive

/-! ### Rows -/

/-- The reader at the next row of its block, if there is one. -/
def advance? (r : Reader) : Option Reader :=
  r.cursor.bind fun c =>
    if c.nextRow < c.block.rows.length then
      some { r with cursor := some { c with row := some c.nextRow }, rowsRead := r.rowsRead + 1 }
    else none

/-- The current row as engine values. -/
def get (r : Reader) : Except ScanError (List Scalar) :=
  match r.cursor with
  | some ⟨block, positions, some row⟩ =>
    positions.mapM fun position =>
      match block.value? row position with
      | some v => .ok v.toEngine
      | none => .error .noCurrentRow
  | _ => .error .noCurrentRow

/-! ### Items of the queue -/

/-- The reader has failed and calls the scan off. -/
def fail (r : Reader) (e : ScanError) : Reader :=
  { r with feed := (r.feed.latch e).cancel, cursor := none }

/-- What becomes of an item taken from the queue; no item says that none can come. -/
def accept (r : Reader) : Option QueueItem → Accepted
  | some (.block b) =>
    match b.positions r.outColumns with
    | .error drift =>
      let e := .schemaDrift r.feed.table drift
      .answers (.error e) (r.fail e)
    | .ok positions =>
      let r := { r with cursor := some ⟨b, positions, none⟩ }
      match r.advance? with
      | some r => .answers (.ok true) r
      | none => .goesOn r
  | some .endOfScan =>
    let r := { r with cursor := none }
    match r.feed.issue with
    | some e => .answers (.error e) r
    | none => .answers (.ok false) { r with feed := r.feed.finish }
  | none =>
    let e := .producerLost r.feed.table
    .answers (.error e) (r.fail e)

/-- The failure that ended the reader. -/
def latchedIssue (r : Reader) : ScanError := r.feed.issue.getD (.producerLost r.feed.table)

/-! ### Calls -/

/-- Lets the producer run until it has to wait; the stream of a scan that was called off is
cancelled first. -/
def settle (r : Reader) (s : Store) : Reader × Store :=
  match r.scan with
  | none => (r, s)
  | some scan =>
    let s := if r.feed.cancelled then s.cancelStream scan.stream else s
    let (feed, s) := r.feed.settle s scan.stream
    ({ r with feed := feed }, s)

/-- The reader could not be prepared. -/
def failSetup (r : Reader) (cause : StoreError) : ScanError × Reader :=
  let e := .setup r.feed.table cause
  (e, { r with feed := r.feed.latch e })

/-- The failure to start a producer, for a reason that the operating system gives. -/
def spawnFailure (reason : String) : StoreError :=
  .of "spawn scan producer" .clientInternalError reason

/-- Opens the session and the range read and starts the producer, for which `spawn` says whether a
thread could be had.  Where the scan cannot be set up, what was opened for it is given back, for the
reader does not know of it yet and nobody would return it later. -/
def setUp (r : Reader) (s : Store) (spawn : Except String Unit) :
    Except ScanError Unit × Reader × Store :=
  match s.createSession r.shard.plan.sessionSeconds.val.toNat with
  | (.error cause, s) =>
    let (e, r) := r.failSetup cause
    (.error e, r, s)
  | (.ok session, s) =>
    match s.readTable session r.feed.table r.request with
    | (.error cause, s) =>
      let (e, r) := r.failSetup cause
      (.error e, r, s.closeSession session)
    | (.ok stream, s) =>
      match spawn with
      | .error reason =>
        -- The reader counted as prepared for a moment, which the failure replaces.
        let (e, r) := r.failSetup (spawnFailure reason)
        (.error e, r, (s.cancelStream stream).closeSession session)
      | .ok () =>
        let feed := { r.feed with state := .prepared, producer := .streaming }
        let r := { r with feed := feed, scan := some ⟨session, stream⟩, cursor := none }
        (.ok (), r.settle (s.startStream stream).2)

/-- Sets up the scan of a reader that is freshly created; others have nothing to prepare.  There is
no outcome where the range of the shard does not come about. -/
def prepare (r : Reader) (s : Store) (spawn : Except String Unit) :
    Option (Except ScanError Unit × Reader × Store) :=
  if r.state = .created then
    r.shard.effectiveRange?.map fun _ => r.setUp s spawn
  else some (.ok (), r, s)

/-- Takes items from the queue until the call is answered, at most `items` of them; none if it
would have to wait. -/
def fetch (r : Reader) (s : Store) : Nat → Option (Except ScanError Bool × Reader × Store)
  | 0 => none
  | items + 1 =>
    match r.feed.queue.take with
    | none => none
    | some (item, queue) =>
      match accept { r with feed := { r.feed with queue := queue } } item with
      | .answers answer r => some (answer, r.settle s)
      | .goesOn r =>
        let (r, s) := r.settle s
        r.fetch s items

/-- The number of items that can still come out of the queue. -/
def itemsLeft (r : Reader) (s : Store) : Nat :=
  r.feed.queue.items.length + 3 +
    match r.scan with
    | some scan => s.blocksLeft scan.stream
    | none => 0

/-- Moves to the next row; false behind the last.  There is no outcome where the next row would
have to be waited for, or the reader has to be prepared and that has none. -/
def next (r : Reader) (s : Store) (spawn : Except String Unit) :
    Option (Except ScanError Bool × Reader × Store) :=
  match r.advance? with
  | some r => some (.ok true, r, s)
  | none =>
    match r.state with
    | .prepared => r.fetch s (r.itemsLeft s)
    | .failed => some (.error r.latchedIssue, r, s)
    | .created =>
      match r.prepare s spawn with
      | none => none
      | some (.error e, r, s) => some (.error e, r, s)
      | some (.ok (), r, s) => r.fetch s (r.itemsLeft s)
    | .finished => some (.ok false, r, s)

/-- Ends the scan and releases the session. -/
def close (r : Reader) (s : Store) : Reader × Store :=
  let (r, s) := { r with feed := r.feed.finish.cancel }.settle s
  let s := match r.scan with
    | some scan => s.closeSession scan.session
    | none => s
  -- The producer has come to rest, so what is drained here is all there will be.
  let queue := r.feed.queue.drain.2.closeReceiver
  ({ r with feed := { r.feed with queue := queue }, scan := none, cursor := none }, s)

end Reader
end ShardScan
