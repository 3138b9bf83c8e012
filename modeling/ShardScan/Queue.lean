import ShardScan.Store.Block

/-!
# The queue between a shard's producer and its reader

A bounded queue of result blocks, ended by a marker.  It counts what goes
through it.  An operation that would have to wait gives no outcome and leaves
the queue as it is.

## Main definitions

* `Queue.tryOffer`, `Queue.offer` — the sending half.
* `Queue.tryTake`, `Queue.take`, `Queue.drain` — the receiving half.
* `Queue.closeSender`, `Queue.closeReceiver` — the end of either half.
-/

namespace ShardScan

/-- What travels through a queue. -/
inductive QueueItem
  | block (b : Block)
  /-- No block follows. -/
  | endOfScan
deriving DecidableEq

/-- The counts of a queue.  Blocks and rows count result blocks; the other counts include the
marker. -/
structure QueueMetrics where
  sentBlocks : Nat
  sentRows : Nat
  receivedBlocks : Nat
  receivedRows : Nat
  /-- Items thrown away unread. -/
  discarded : Nat
  /-- Items sent and neither received nor thrown away. -/
  pending : Nat
  /-- The greatest number of items in the queue behind a send. -/
  peak : Nat
  /-- Items that found the queue full. -/
  backpressure : Nat
deriving DecidableEq

namespace QueueMetrics

/-- Nothing counted. -/
def zero : QueueMetrics := ⟨0, 0, 0, 0, 0, 0, 0, 0⟩

/-- An item was sent, and the queue then held `queued`. -/
def onSend (m : QueueMetrics) (item : QueueItem) (queued : Nat) : QueueMetrics :=
  let m := { m with pending := m.pending + 1, peak := max m.peak queued }
  match item with
  | .block b =>
    { m with sentBlocks := m.sentBlocks + 1, sentRows := m.sentRows + b.rows.length }
  | .endOfScan => m

/-- An item was received. -/
def onReceive (m : QueueMetrics) (item : QueueItem) : QueueMetrics :=
  let m := { m with pending := m.pending - 1 }
  match item with
  | .block b =>
    { m with receivedBlocks := m.receivedBlocks + 1,
             receivedRows := m.receivedRows + b.rows.length }
  | .endOfScan => m

/-- Some items were thrown away. -/
def onDiscard (m : QueueMetrics) (count : Nat) : QueueMetrics :=
  { m with discarded := m.discarded + count, pending := m.pending - count }

/-- An item found the queue full. -/
def onFull (m : QueueMetrics) : QueueMetrics := { m with backpressure := m.backpressure + 1 }

end QueueMetrics

/-- A bounded queue with its two halves. -/
structure Queue where
  capacity : Nat
  /-- The items, the oldest first. -/
  items : List QueueItem
  senderOpen : Bool
  receiverOpen : Bool
  metrics : QueueMetrics
deriving DecidableEq

/-- How an offer ended. -/
inductive Offer
  | sent
  /-- The queue is full, and the item was not taken. -/
  | full
  /-- The queue was full and the scan is cancelled. -/
  | cancelled
  /-- There is no receiving half any more. -/
  | disconnected
deriving DecidableEq

namespace Queue

/-- An empty queue with both halves open. -/
def bounded (capacity : Nat) : Queue := ⟨capacity, [], true, true, .zero⟩

def isFull (q : Queue) : Bool := q.capacity ≤ q.items.length

/-- Puts an item behind the others. -/
def push (q : Queue) (item : QueueItem) : Queue :=
  { q with items := q.items ++ [item], metrics := q.metrics.onSend item (q.items.length + 1) }

/-- Offers an item and does not wait. -/
def tryOffer (q : Queue) (item : QueueItem) : Offer × Queue :=
  if !q.receiverOpen then (.disconnected, q)
  else if q.isFull then (.full, { q with metrics := q.metrics.onFull })
  else (.sent, q.push item)

/-- How an offer that does not wait can go. -/
theorem tryOffer_cases (q : Queue) (item : QueueItem) :
    q.receiverOpen = false ∧ q.tryOffer item = (.disconnected, q) ∨
      q.isFull = true ∧ q.tryOffer item = (.full, { q with metrics := q.metrics.onFull }) ∨
      q.isFull = false ∧ q.tryOffer item = (.sent, q.push item) := by
  unfold tryOffer
  cases q.receiverOpen with
  | false => exact .inl ⟨rfl, rfl⟩
  | true =>
    cases q.isFull with
    | true => exact .inr (.inl ⟨rfl, rfl⟩)
    | false => exact .inr (.inr ⟨rfl, rfl⟩)

/-- Offers an item until it is taken or the scan is cancelled; no outcome while neither is so. -/
def offer (q : Queue) (item : QueueItem) (cancelled : Bool) : Option (Offer × Queue) :=
  match q.tryOffer item with
  | (.full, q') => if cancelled then some (.cancelled, q') else none
  | outcome => some outcome

/-- The oldest item, if there is one. -/
def tryTake (q : Queue) : Option QueueItem × Queue :=
  match q.items with
  | [] => (none, q)
  | item :: rest => (some item, { q with items := rest, metrics := q.metrics.onReceive item })

/-- Waits for the oldest item: no outcome while one can still come, and an outcome without an item
when none can. -/
def take (q : Queue) : Option (Option QueueItem × Queue) :=
  if q.items.isEmpty && q.senderOpen then none else some q.tryTake

/-- Throws every item away, and says how many there were. -/
def drain (q : Queue) : Nat × Queue :=
  (q.items.length, { q with items := [], metrics := q.metrics.onDiscard q.items.length })

/-- Ends the sending half. -/
def closeSender (q : Queue) : Queue := { q with senderOpen := false }

/-- Ends the receiving half; what is queued goes with it. -/
def closeReceiver (q : Queue) : Queue := { q with items := [], receiverOpen := false }

end Queue
end ShardScan
