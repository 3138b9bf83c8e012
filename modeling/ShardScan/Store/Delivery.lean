import ShardScan.Store.Session

/-!
# Delivery

A read is run by handing its blocks, one after another, to a sink.  The sink
keeps what it gathers, may change the store while it has a block in hands, and
may break the read off.

## Main definitions

* `Sink` — what takes the blocks of a read.
* `Store.runStream` — starts a read and hands over its blocks until it ends.
* `Store.isHeldUp` — the read has a gate before it that is still closed.
-/

namespace ShardScan

/-- What takes blocks: it is given the number of a block, the block, what it has gathered so far and
the store, and says whether it wants another. -/
abbrev Sink (σ : Type) := Nat → Block → σ × Store → Bool × σ × Store

namespace Store

variable {σ : Type}

/-- Hands over blocks from number `n` on, at most `blocks` of them, until the read ends; the status
is none where it has to wait. -/
def deliver (sink : Sink σ) (stream : Nat) : (blocks n : Nat) → σ × Store → Option Status × σ × Store
  | 0, _, state => (none, state)
  | blocks + 1, n, (gathered, s) =>
    match s.advance stream with
    | (.waits, s) => (none, gathered, s)
    | (.ends status, s) => (some status, gathered, s)
    | (.delivers b, s) =>
      match sink n b (gathered, s) with
      | (true, state) => deliver sink stream blocks (n + 1) state
      | (false, gathered, s) => (some .cancelled, gathered, s.endStream stream)

/-- Starts a read and hands over its blocks until it ends. -/
def runStream (s : Store) (stream : Nat) (sink : Sink σ) (gathered : σ) :
    Option Status × σ × Store :=
  let s := (s.startStream stream).2
  deliver sink stream (s.blocksLeft stream + 1) 0 (gathered, s)

/-- The read has a gate before it that is still closed. -/
def isHeldUp (s : Store) (stream : Nat) : Bool :=
  (s.stream? stream).any fun r => r.faults.gate.any fun (_, gate) => s.openGates ≤ gate

end Store
end ShardScan
