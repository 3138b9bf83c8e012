import ShardScan.Store.Scheme

/-!
# Sessions and streaming reads

A read is opened in a session and then runs block by block.  Before each block
it passes the gate, if there is one, and looks whether it is cancelled, whether
its session is alive and whether it is to fail; the rest is up to whoever takes
the blocks.

## Main definitions

* `Store.createSession`, `Store.closeSession` — the life of a session.
* `Store.readTable` — opens a read.
* `Store.advance` — the next event of a read: a block, the end, or the wait for a gate.
* `Store.cancelStream` — cancels a read.
-/

namespace ShardScan

/-- What a running stream does next. -/
inductive StreamEvent
  /-- It stands before a closed gate. -/
  | waits
  | delivers (b : Block)
  | ends (status : Status)
deriving DecidableEq

namespace Store

/-! ### Sessions -/

/-- Seconds that the store's clock can count. -/
def clockSeconds : Nat := Nat.pow 2 63 - 1

/-- Opens a session with a life of some seconds, and returns its number. -/
def createSession (s : Store) (ttlSeconds : Nat) : StoreOutcome Nat :=
  match s.faults.failSession with
  | some status => (.error ⟨"create session", status⟩, s)
  | none =>
    if clockSeconds ≤ ttlSeconds then
      (.error (.of "create session" .badRequest
        ("Session TTL out of range: " ++ toString ttlSeconds ++ "s")), s)
    else
      let leases := s.leases ++ [⟨ttlSeconds == 0, s.epoch, false⟩]
      (.ok leases.length, { s with leases := leases })

/-- The state of a session. -/
def lease? (s : Store) (session : Nat) : Option Lease := s.leases[session - 1]?

/-- Returns a session to the store.  Returning it once more changes nothing but the record of the
calls. -/
def closeSession (s : Store) (session : Nat) : Store :=
  { s with
    leases := s.leases.modify (session - 1) fun l => { l with closed := true }
    closings := s.closings ++ [session] }

/-- Why a session can serve no read. -/
def leaseFault? (s : Store) (session : Nat) : Option Status :=
  match s.lease? session with
  | none => none
  | some l =>
    if l.closed then some (.of .badRequest "Session is closed")
    else if l.expired || l.epoch < s.epoch then some (.of .sessionExpired "Session expired")
    else none

/-! ### Reads -/

/-- The list in pieces of `size` items, the last of which may be shorter. -/
def chunks {α : Type} (size : Nat) (l : List α) : List (List α) :=
  if _h : l.isEmpty ∨ size = 0 then []
  else l.take size :: chunks size (l.drop size)
termination_by l.length
decreasing_by
  have h : ¬l = [] ∧ ¬size = 0 := by simpa [not_or] using ‹¬(l.isEmpty ∨ size = 0)›
  have := List.length_pos_iff.mpr h.1
  rw [List.length_drop]
  omega

/-- The rows of a layout whose keys a request admits, as many as it wants and with the columns at
some positions. -/
def selectRows (layout : TableLayout) (rows : List Tuple) (request : ReadRequest)
    (projection : List Nat) : List Tuple :=
  let positions := keyPositions layout.columns layout.primaryKey
  let admitted := rows.filter fun row => request.range.contains (row.pick positions)
  let wanted := match request.rowLimit with
    | some limit => admitted.take limit.val.toNat
    | none => admitted
  wanted.map (·.pick projection)

/-- The positions of the columns of a request, or a column that there is not. -/
def projection (layout : TableLayout) : List String → Except String (List Nat)
  | [] => .ok []
  | name :: rest =>
    match layout.columns.findIdx? fun c => c.name == name with
    | none => .error name
    | some position => (projection layout rest).map (position :: ·)

/-- What a read of a path delivers, in blocks; or why it cannot be opened. -/
def prepareRead (s : Store) (session : Nat) (path : String) (request : ReadRequest) :
    Except StoreError (List (List Tuple)) :=
  match s.leaseFault? session with
  | some status => .error ⟨"read table", status⟩
  | none =>
    match s.faults.failRead with
    | some status => .error ⟨"read table", status⟩
    | none =>
      match s.view? path with
      | none => .error (notFound "read table" path)
      | some (layout, rows) =>
        if request.columns.isEmpty then
          .error (.of "read table" .badRequest "No columns requested")
        else
          match projection layout request.columns with
          | .error name => .error (.of "read table" .schemeError ("Unknown column " ++ name))
          | .ok positions => .ok (chunks s.blockSize (selectRows layout rows request positions))

/-- Opens a read, which does not run yet, and returns its number.  The request is kept whether the
read can be opened or not. -/
def readTable (s : Store) (session : Nat) (path : String) (request : ReadRequest) :
    StoreOutcome Nat :=
  let s := { s with requests := s.requests ++ [(path, request)] }
  match s.prepareRead session path request with
  | .error e => (.error e, s)
  | .ok blocks =>
    let stream : ReadStream := ⟨session, request.columns, blocks, s.faults, false, .unstarted⟩
    (.ok s.streams.length, { s with streams := s.streams ++ [stream] })

/-- A read in progress. -/
def stream? (s : Store) (stream : Nat) : Option ReadStream := s.streams[stream]?

/-- The number of blocks that a read has still to deliver. -/
def blocksLeft (s : Store) (stream : Nat) : Nat :=
  match s.stream? stream with
  | some r =>
    match r.phase with
    | .running _ rest => rest.length
    | _ => 0
  | none => 0

/-- Changes a read in progress. -/
def modifyStream (s : Store) (stream : Nat) (f : ReadStream → ReadStream) : Store :=
  { s with streams := s.streams.modify stream f }

/-- Cancels a read. -/
def cancelStream (s : Store) (stream : Nat) : Store :=
  s.modifyStream stream fun r => { r with cancelled := true }

/-- Ends a read. -/
def endStream (s : Store) (stream : Nat) : Store :=
  s.modifyStream stream fun r => { r with phase := .done }

/-! ### Running a read -/

/-- A block as the faults of the read shape it: turned round, cut and renamed. -/
def shapeBlock (faults : Faults) (columns : List String) (n : Nat) (rows : List Tuple) : Block :=
  let b : Block := ⟨columns, rows⟩
  let b := if faults.reverseOdd && n % 2 == 1 then
      ⟨b.columns.reverse, b.rows.map List.reverse⟩ else b
  let b := if faults.dropColumnAfter.any (· ≤ n) then
      ⟨b.columns.dropLast, b.rows.map List.dropLast⟩ else b
  if faults.renameColumnAfter.any (· ≤ n) then
    ⟨b.columns.modifyHead (· ++ "_renamed"), b.rows⟩
  else b

/-- The read stands before a closed gate. -/
def isGated (s : Store) (r : ReadStream) (n : Nat) : Bool :=
  match r.faults.gate with
  | some (block, gate) => block == n && s.openGates ≤ gate
  | none => false

/-- The status that the read is to end with in place of block `n`. -/
def scheduledEnd? (r : ReadStream) (n : Nat) : Option Status :=
  match r.faults.failAfter with
  | some (block, status) => if block = n then some status else none
  | none => none

/-- The next event of a running read that stands before block `n`. -/
def nextEvent (s : Store) (r : ReadStream) (n : Nat) (rest : List (List Tuple)) : StreamEvent :=
  if r.cancelled then .ends .cancelled
  else if s.isGated r n then .waits
  else
    match rest with
    -- Behind the last block the session is not looked at any more.
    | [] => .ends ((scheduledEnd? r n).getD .success)
    | rows :: _ =>
      match s.leaseFault? r.session with
      | some status => .ends status
      | none =>
        match scheduledEnd? r n with
        | some status => .ends status
        | none => .delivers (shapeBlock r.faults r.columns n rows)

/-- Starts a read; false if it had been started before. -/
def startStream (s : Store) (stream : Nat) : Bool × Store :=
  match s.stream? stream with
  | some r =>
    if r.phase = .unstarted then
      (true, s.modifyStream stream fun r => { r with phase := .running 0 r.blocks })
    else (false, s)
  | none => (false, s)

/-- The status of a read that is started a second time. -/
def startedBefore : Status := .of .badRequest "Stream already started"

/-- The next event of a read, and the store behind it.  A read that does not run has ended. -/
def advance (s : Store) (stream : Nat) : StreamEvent × Store :=
  match s.stream? stream with
  | none => (.ends startedBefore, s)
  | some r =>
    match r.phase with
    | .running n rest =>
      match s.nextEvent r n rest with
      | .waits => (.waits, s)
      | .delivers b =>
        (.delivers b, s.modifyStream stream fun r => { r with phase := .running (n + 1) rest.tail })
      | .ends status => (.ends status, s.endStream stream)
    | _ => (.ends startedBefore, s)

end Store
end ShardScan
