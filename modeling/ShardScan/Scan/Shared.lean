import ShardScan.Connection.Registry
import ShardScan.Scan.Reader

/-!
# Readers over shared connections

A reader holds the connection that is shared for the options of its plan, from
the time it is opened until it is given up.

## Main definitions

* `Backend` — a store with the connections that are shared to it.
* `SharedReader` — a reader and the connection it holds.
* `Backend.openReader`, `Backend.dropReader` — the life of one.
-/

namespace ShardScan

/-- A store with the connections that are shared to it. -/
structure Backend where
  store : Store
  registry : Registry

/-- A reader and the shared connection it holds. -/
structure SharedReader where
  reader : Reader
  /-- None if the reader was given a connection of its own. -/
  connector : Option Connector

namespace Backend

/-- Gives up a connection, if there is one. -/
def release (b : Backend) (c : Option Connector) : Backend :=
  match c with
  | some c => { b with registry := b.registry.release c }
  | none => b

/-- A reader of a shard with the shared connection for its plan. -/
def openReader (b : Backend) (shard : Shard) (timeoutSeconds : Word .u64)
    (client : ConnectionOptions → Except StoreError Unit) : Except ScanError SharedReader × Backend :=
  let (outcome, registry) := b.registry.acquire shard.plan.connection client
  let b := { b with registry := registry }
  match outcome with
  | .ok acquired => (.ok ⟨.new shard timeoutSeconds, some acquired.connector⟩, b)
  | .error e => (.error (.setup shard.plan.tablePath e), b)

/-- Closes a reader and gives up its connection. -/
def dropReader (b : Backend) (r : SharedReader) : Backend :=
  { b with store := (r.reader.close b.store).2 }.release r.connector

end Backend
end ShardScan
