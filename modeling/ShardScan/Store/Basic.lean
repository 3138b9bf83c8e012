import ShardScan.Store.Block
import ShardScan.Store.Request
import ShardScan.Store.Table

/-!
# The store

An ordered key-value store: directories and tables under paths, sessions with
a limited life, and streaming range reads.  Faults can be arranged for the
sessions and reads that follow.

Every operation is a function of the store that returns its outcome and the
next store, also where it fails, so that what a failure leaves behind is seen.

## Main definitions

* `Store` — the state.
* `Faults` — what is to go wrong.
* `Lease`, `ReadStream` — a session, and a read in progress.
-/

namespace ShardScan

/-- What is to go wrong in sessions and reads opened from now on. -/
structure Faults where
  /-- No session can be opened. -/
  failSession : Option Status
  /-- No read can be opened. -/
  failRead : Option Status
  /-- A stream ends with this status in place of the block of that number. -/
  failAfter : Option (Nat × Status)
  /-- Blocks of odd numbers have their columns the other way round. -/
  reverseOdd : Bool
  /-- Blocks lack their last column from this number on. -/
  dropColumnAfter : Option Nat
  /-- Blocks have another name on their first column from this number on. -/
  renameColumnAfter : Option Nat
  /-- A stream waits before the block of the first number until the gate of the second is open. -/
  gate : Option (Nat × Nat)
deriving DecidableEq

namespace Faults

/-- Nothing goes wrong. -/
def none : Faults := ⟨.none, .none, .none, false, .none, .none, .none⟩

end Faults

/-- The state of a session. -/
structure Lease where
  /-- Its life was over as soon as it began. -/
  expired : Bool
  /-- The number of times all sessions had been expired when it began. -/
  epoch : Nat
  closed : Bool
deriving DecidableEq

/-- The progress of a stream. -/
inductive StreamPhase
  | unstarted
  /-- The number of the next block, and the rows of it and of those that follow. -/
  | running (next : Nat) (rest : List (List Tuple))
  | done
deriving DecidableEq

/-- A range read in progress. -/
structure ReadStream where
  /-- The session it belongs to. -/
  session : Nat
  columns : List String
  /-- The rows of its blocks, in store order. -/
  blocks : List (List Tuple)
  faults : Faults
  cancelled : Bool
  phase : StreamPhase
deriving DecidableEq

namespace ReadStream

def isRunning (s : ReadStream) : Bool :=
  match s.phase with
  | .running _ _ => true
  | _ => false

end ReadStream

/-- The state of a store. -/
structure Store where
  /-- The path of the root directory. -/
  database : String
  directories : Dict Unit
  tables : Dict Table
  faults : Faults
  /-- The rows in a block. -/
  blockSize : Nat
  /-- The number of times all sessions have been expired. -/
  epoch : Nat
  /-- The sessions opened so far; the first has number 1. -/
  leases : List Lease
  /-- A record of the sessions that were returned, call by call, which no call asks for; one that was
  returned twice is in it twice. -/
  closings : List Nat
  /-- The reads opened so far. -/
  streams : List ReadStream
  /-- The requests of all reads that were asked for, with the paths of their tables. -/
  requests : List (String × ReadRequest)
  /-- The gates made so far. -/
  gates : Nat
  /-- Gates of lower numbers are open. -/
  openGates : Nat

/-- What a store operation returns, and the store behind it. -/
abbrev StoreOutcome (α : Type) := Except StoreError α × Store

namespace Store

/-- The owner of all directories and tables. -/
def owner : String := "root@builtin"

/-- An empty store with its root directory. -/
def new (database : String) : Store :=
  let root := Path.trimEnd database
  { database := root
    directories := Dict.empty.insert root ()
    tables := .empty
    faults := .none
    blockSize := 1000
    epoch := 0
    leases := []
    closings := []
    streams := []
    requests := []
    gates := 0
    openGates := 0 }

/-- The failure of an operation on a path where nothing is. -/
def notFound (context path : String) : StoreError :=
  .of context .schemeError ("Path not found: " ++ path)

/-- Sets the rows per block of reads opened from now on; one at least. -/
def setBlockSize (s : Store) (rows : Nat) : Store := { s with blockSize := max rows 1 }

/-- Arranges faults in place of those arranged before. -/
def setFaults (s : Store) (faults : Faults) : Store := { s with faults := faults }

/-- Makes a gate that is closed, and returns its number. -/
def makeGate (s : Store) : Nat × Store := (s.gates, { s with gates := s.gates + 1 })

/-- Opens every gate made so far. -/
def openAllGates (s : Store) : Store := { s with openGates := s.gates }

/-- Ends the life of every session opened so far. -/
def expireSessions (s : Store) : Store := { s with epoch := s.epoch + 1 }

/-- The sessions that are not closed. -/
def openSessions (s : Store) : Nat := s.leases.countP fun l => !l.closed

/-- The streams between their start and their end. -/
def activeStreams (s : Store) : Nat := s.streams.countP ReadStream.isRunning

/-- The streams that have been cancelled. -/
def cancelledStreams (s : Store) : Nat := s.streams.countP (·.cancelled)

/-- The number of rows of a table. -/
def rowCount? (s : Store) (path : String) : Option Nat :=
  (s.tables.get? path).map (·.rows.length)

end Store
end ShardScan
