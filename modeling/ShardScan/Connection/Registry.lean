import ShardScan.Connection.Options
import ShardScan.Store.Status

/-!
# Shared connections

Catalogs and readers that mean the same store share one connection.  The
registry knows the connections by the options that say which store is meant;
a connection lives as long as someone holds it.

## Main definitions

* `Connector` — a connection.
* `Registry.acquireM`, `Registry.acquire` — the connection for some options, opened if there is
  none.
* `Registry.retain`, `Registry.release` — one holder more, and one less.
* `Registry.lookup` — the connection for some options, if there is one.
* `Registry.purge` — forgets the connections that nobody holds.
-/

namespace ShardScan

/-- A connection to a store. -/
structure Connector where
  /-- Its number among the connections opened so far. -/
  handle : Nat
  /-- The options that say which store is meant. -/
  options : ConnectionOptions
deriving DecidableEq

namespace Connector

/-- The path of the root directory of the store. -/
def database (c : Connector) : String := c.options.database

/-- The connection with its options spelled out. -/
def spelled (c : Connector) : String :=
  "Connector \x7b database: " ++ Text.quoted c.database ++ ", options: " ++ c.options.spelled ++
    ", .. \x7d"

end Connector

/-- A connection and the number of those who hold it. -/
structure RegistryEntry where
  connector : Connector
  holders : Nat
deriving DecidableEq

namespace RegistryEntry

/-- Someone holds the connection. -/
def isLive (e : RegistryEntry) : Bool := 0 < e.holders

/-- The entry with its holders counted anew, if it is that of a connection. -/
def recount (e : RegistryEntry) (c : Connector) (f : Nat → Nat) : RegistryEntry :=
  if e.connector.handle = c.handle then { e with holders := f e.holders } else e

end RegistryEntry

/-- The connections that are shared. -/
structure Registry where
  entries : List RegistryEntry
  /-- How often a connection was found. -/
  hits : Nat
  /-- How often a connection was opened. -/
  opened : Nat

/-- How a connection was acquired. -/
inductive Acquired
  | found (c : Connector)
  | opened (c : Connector)
deriving DecidableEq

namespace Acquired

/-- The connection. -/
def connector : Acquired → Connector
  | found c => c
  | opened c => c

end Acquired

namespace Registry

/-- No connections. -/
def empty : Registry := ⟨[], 0, 0⟩

/-- The live connection for options that are stripped to what says which store is meant. -/
def find? (r : Registry) (snapshot : ConnectionOptions) : Option Connector :=
  (r.entries.find? fun e => e.isLive && e.connector.options = snapshot).map (·.connector)

/-- The live connection for some options. -/
def lookup (r : Registry) (options : ConnectionOptions) : Option Connector :=
  r.find? options.snapshot

/-- The number of live connections. -/
def liveCount (r : Registry) : Nat := r.entries.countP RegistryEntry.isLive

/-- Forgets the connections that nobody holds, and says how many there were. -/
def purge (r : Registry) : Nat × Registry :=
  (r.entries.countP fun e => !e.isLive, { r with entries := r.entries.filter RegistryEntry.isLive })

/-- The holders of a connection counted anew. -/
def recount (r : Registry) (c : Connector) (f : Nat → Nat) : Registry :=
  { r with entries := r.entries.map (·.recount c f) }

/-- One holder more of a connection. -/
def retain (r : Registry) (c : Connector) : Registry := r.recount c (· + 1)

/-- One holder less of a connection. -/
def release (r : Registry) (c : Connector) : Registry := r.recount c (· - 1)

/-- Registers a new connection, with its opener as the one holder. -/
def add (r : Registry) (snapshot : ConnectionOptions) : Connector × Registry :=
  let c : Connector := ⟨r.opened, snapshot⟩
  (c, { r with entries := r.entries ++ [⟨c, 1⟩], opened := r.opened + 1 })

/-- The connection for some options, with the caller as a holder.  One that is not there is opened
by the action `connect`; if that fails nothing is registered. -/
def acquireM {m : Type → Type} [Monad m] (r : Registry) (options : ConnectionOptions)
    (connect : ConnectionOptions → m (Except StoreError Unit)) :
    m (Except StoreError Acquired × Registry) :=
  let snapshot := options.snapshot
  let (_, r) := r.purge
  match r.find? snapshot with
  | some c => pure (.ok (.found c), { r with hits := r.hits + 1 }.retain c)
  | none => do
    match ← connect snapshot with
    | .error e => pure (.error e, r)
    | .ok () =>
      let (c, r) := r.add snapshot
      pure (.ok (.opened c), r)

/-- The connection for some options, opened by a `connect` that only says whether it succeeds. -/
def acquire (r : Registry) (options : ConnectionOptions)
    (connect : ConnectionOptions → Except StoreError Unit) :
    Except StoreError Acquired × Registry :=
  Id.run (r.acquireM options fun o => pure (connect o))

end Registry
end ShardScan
