import Mathlib.Algebra.GroupWithZero.Nat
import ShardScan.Queue

/-!
# What goes through a queue

Items are offered to a queue, received from it and thrown away unread, in any
order of calls.  Beside the queue a history is kept of what the calls answered:
the items that were sent, those that left and how, the lengths of the queue
behind the sends.

The queue and its counts say no more than that history.  What was sent is what
left, followed by what is queued; and each of the eight counts is a number that
can be read off the history.  Every call keeps this, so it holds behind all calls.

## Main definitions

* `QueueCall` — the calls on a queue.
* `QueueHistory`, `QueueHistory.run` — a queue, and what has gone through it.
* `QueueHistory.counts` — the counts as the history has them.
* `QueueHistory.Balanced` — the queue and its counts agree with the history.

## Main results

* `Queue.offer_cases` — how an offer that waits can go.
* `QueueHistory.balanced_after`, `QueueHistory.balanced_run` — calls keep the balance.
* `queue_conservation` — order, capacity and counts behind any calls.
-/

namespace ShardScan

/-! ### Items -/

namespace QueueItem

/-- The number of result blocks that an item is. -/
def blocks : QueueItem → Nat
  | block _ => 1
  | endOfScan => 0

/-- The number of rows in an item. -/
def rowCount : QueueItem → Nat
  | block b => b.rows.length
  | endOfScan => 0

end QueueItem

/-- The result blocks among some items. -/
def blockTotal (items : List QueueItem) : Nat := (items.map QueueItem.blocks).sum

/-- The rows in some items. -/
def rowTotal (items : List QueueItem) : Nat := (items.map QueueItem.rowCount).sum

/-- How an item left a queue. -/
inductive Departure
  | received (item : QueueItem)
  /-- It was thrown away unread. -/
  | discarded (item : QueueItem)

namespace Departure

/-- The item that left. -/
def item : Departure → QueueItem
  | received item => item
  | discarded item => item

/-- The item, if it was received. -/
def received? : Departure → Option QueueItem
  | received item => some item
  | discarded _ => none

/-- The item, if it was thrown away. -/
def discarded? : Departure → Option QueueItem
  | received _ => none
  | discarded item => some item

theorem map_item_discarded (items : List QueueItem) : (items.map discarded).map item = items := by
  rw [List.map_map]
  exact List.map_id items

theorem filterMap_received?_discarded (items : List QueueItem) :
    (items.map discarded).filterMap received? = [] := by
  rw [List.filterMap_map]
  exact List.filterMap_eq_nil_iff.mpr fun _ _ => rfl

theorem filterMap_discarded?_discarded (items : List QueueItem) :
    (items.map discarded).filterMap discarded? = items := by
  rw [List.filterMap_map]
  exact List.filterMap_some

end Departure

/-- Items that left were received or thrown away. -/
theorem sum_departures (weight : QueueItem → Nat) (gone : List Departure) :
    ((gone.map Departure.item).map weight).sum =
      ((gone.filterMap Departure.received?).map weight).sum +
        ((gone.filterMap Departure.discarded?).map weight).sum := by
  induction gone with
  | nil => rfl
  | cons departure gone ih =>
    rw [List.map_cons, List.map_cons, List.sum_cons, ih]
    cases departure with
    | received item => exact (Nat.add_assoc ..).symm
    | discarded item => exact Nat.add_left_comm ..

/-! ### Metrics -/

namespace QueueMetrics

variable (m : QueueMetrics) (item : QueueItem)

theorem onSend_eq (queued : Nat) : m.onSend item queued =
    { m with
      sentBlocks := m.sentBlocks + item.blocks
      sentRows := m.sentRows + item.rowCount
      pending := m.pending + 1
      peak := max m.peak queued } := by
  cases item <;> rfl

theorem onReceive_eq : m.onReceive item =
    { m with
      receivedBlocks := m.receivedBlocks + item.blocks
      receivedRows := m.receivedRows + item.rowCount
      pending := m.pending - 1 } := by
  cases item <;> rfl

end QueueMetrics

/-! ### Offers that wait -/

namespace Queue

/-- How an offer that waits can go, if it comes to an end. -/
theorem offer_cases {q q' : Queue} {item : QueueItem} {cancelled : Bool} {outcome : Offer}
    (h : q.offer item cancelled = some (outcome, q')) :
    outcome = .disconnected ∧ q' = q ∨
      outcome = .cancelled ∧ q' = { q with metrics := q.metrics.onFull } ∨
      q.isFull = false ∧ outcome = .sent ∧ q' = q.push item := by
  unfold offer at h
  rcases q.tryOffer_cases item with ⟨-, hoffer⟩ | ⟨-, hoffer⟩ | ⟨hroom, hoffer⟩ <;> rw [hoffer] at h
  · cases h
    exact .inl ⟨rfl, rfl⟩
  · cases cancelled with
    | false => cases h
    | true =>
      cases h
      exact .inr (.inl ⟨rfl, rfl⟩)
  · cases h
    exact .inr (.inr ⟨hroom, rfl, rfl⟩)

/-- An offer that did not send its item changed nothing, or the count of items that found the queue
full, which is one more. -/
theorem unsent_cases {q q' : Queue} {item : QueueItem} {cancelled : Bool} {outcome : Offer}
    (h : q.tryOffer item = (outcome, q') ∨ q.offer item cancelled = some (outcome, q'))
    (hunsent : outcome ≠ .sent) :
    outcome = .disconnected ∧ q' = q ∨
      (outcome = .full ∨ outcome = .cancelled) ∧ q' = { q with metrics := q.metrics.onFull } := by
  rcases h with h | h
  · rcases q.tryOffer_cases item with ⟨-, hoffer⟩ | ⟨-, hoffer⟩ | ⟨-, hoffer⟩ <;>
      cases hoffer.symm.trans h
    · exact .inl ⟨rfl, rfl⟩
    · exact .inr ⟨.inl rfl, rfl⟩
    · exact absurd rfl hunsent
  · rcases offer_cases h with ⟨rfl, rfl⟩ | ⟨rfl, rfl⟩ | ⟨-, rfl, -⟩
    · exact .inl ⟨rfl, rfl⟩
    · exact .inr ⟨.inr rfl, rfl⟩
    · exact absurd rfl hunsent

end Queue

/-! ### Histories -/

/-- A call on a queue whose receiving half is held. -/
inductive QueueCall
  | tryOffer (item : QueueItem)
  /-- An offer that waits, in a scan that is cancelled or not. -/
  | offer (item : QueueItem) (cancelled : Bool)
  | tryTake
  | take
  | drain
  /-- The sending half is let go. -/
  | closeSender

/-- A queue, and what has gone through it. -/
structure QueueHistory where
  queue : Queue
  /-- The items that were sent. -/
  accepted : List QueueItem
  /-- The items that left, in the order in which they did. -/
  gone : List Departure
  /-- The lengths of the queue behind the sends. -/
  depths : List Nat
  /-- What the calls that throw items away have said there were. -/
  drained : Nat
  /-- How many offers were turned down. -/
  refused : Nat

namespace QueueHistory

/-- Nothing has gone through the queue yet. -/
def start (capacity : Nat) : QueueHistory := ⟨.bounded capacity, [], [], [], 0, 0⟩

/-- The items that were received. -/
def received (h : QueueHistory) : List QueueItem := h.gone.filterMap Departure.received?

/-- The items that were thrown away. -/
def discarded (h : QueueHistory) : List QueueItem := h.gone.filterMap Departure.discarded?

/-- What an offer that came to an end adds. -/
def offered (h : QueueHistory) (item : QueueItem) : Offer × Queue → QueueHistory
  | (.sent, q) =>
    { h with queue := q, accepted := h.accepted ++ [item], depths := h.depths ++ [q.items.length] }
  | (.disconnected, q) => { h with queue := q }
  | (_, q) => { h with queue := q, refused := h.refused + 1 }

/-- What taking an item adds; there may have been none. -/
def taken (h : QueueHistory) : Option QueueItem × Queue → QueueHistory
  | (some item, q) => { h with queue := q, gone := h.gone ++ [.received item] }
  | (none, q) => { h with queue := q }

/-- What throwing items away adds: as many of the oldest are gone as the call says. -/
def emptied (h : QueueHistory) : Nat × Queue → QueueHistory
  | (count, q) =>
    { h with
      queue := q
      gone := h.gone ++ (h.queue.items.take count).map .discarded
      drained := h.drained + count }

/-- What follows on a call.  One that would have to wait is not made. -/
def after (h : QueueHistory) : QueueCall → QueueHistory
  | .tryOffer item => h.offered item (h.queue.tryOffer item)
  | .offer item cancelled => (h.queue.offer item cancelled).elim h (h.offered item)
  | .tryTake => h.taken h.queue.tryTake
  | .take => h.queue.take.elim h h.taken
  | .drain => h.emptied h.queue.drain
  | .closeSender => { h with queue := h.queue.closeSender }

/-- What follows on some calls, one after the other. -/
def run (h : QueueHistory) (calls : List QueueCall) : QueueHistory := calls.foldl after h

/-- The counts as the history has them. -/
def counts (h : QueueHistory) : QueueMetrics where
  sentBlocks := blockTotal h.accepted
  sentRows := rowTotal h.accepted
  receivedBlocks := blockTotal h.received
  receivedRows := rowTotal h.received
  discarded := h.discarded.length
  pending := h.queue.items.length
  peak := h.depths.foldl max 0
  backpressure := h.refused

/-- The queue and its counts agree with the history. -/
structure Balanced (capacity : Nat) (h : QueueHistory) : Prop where
  size : h.queue.capacity = capacity
  /-- What was sent is what left, followed by what is queued. -/
  flow : h.gone.map Departure.item ++ h.queue.items = h.accepted
  room : h.queue.items.length ≤ capacity
  drained : h.discarded.length = h.drained
  counts : h.queue.metrics = h.counts

variable {capacity : Nat} {h : QueueHistory}

theorem balanced_start (capacity : Nat) : (start capacity).Balanced capacity :=
  ⟨rfl, rfl, Nat.zero_le _, rfl, rfl⟩

/-! ### What one call adds -/

/-- An item that is sent goes behind the others. -/
theorem Balanced.push (hh : h.Balanced capacity) (hroom : h.queue.isFull = false)
    (item : QueueItem) : (h.offered item (.sent, h.queue.push item)).Balanced capacity := by
  have hlength : h.queue.items.length < capacity := by
    rw [Queue.isFull, decide_eq_false_iff_not, Nat.not_le, hh.size] at hroom
    exact hroom
  refine ⟨hh.size, ?_, ?_, hh.drained, ?_⟩
  · simp only [offered, Queue.push, ← hh.flow, List.append_assoc]
  · simpa [offered, Queue.push] using Nat.succ_le_of_lt hlength
  · simp only [offered, Queue.push, QueueMetrics.onSend_eq, hh.counts, QueueHistory.counts,
      received, discarded, blockTotal, rowTotal, List.map_append, List.sum_append,
      List.foldl_append, List.length_append, List.length_singleton, List.map_singleton,
      List.sum_singleton, List.foldl_cons, List.foldl_nil]

/-- An item that is turned down is counted. -/
theorem Balanced.full (hh : h.Balanced capacity) :
    Balanced capacity { h with
      queue := { h.queue with metrics := h.queue.metrics.onFull }
      refused := h.refused + 1 } := by
  refine ⟨hh.size, hh.flow, hh.room, hh.drained, ?_⟩
  simp only [QueueMetrics.onFull, hh.counts, QueueHistory.counts, received, discarded]

theorem Balanced.tryTake (hh : h.Balanced capacity) :
    (h.taken h.queue.tryTake).Balanced capacity := by
  cases hitems : h.queue.items with
  | nil =>
    rw [Queue.tryTake, hitems]
    exact hh
  | cons item rest =>
    -- The item moves from the front of the queue to the end of what left, so the flow is the same.
    have hlength : h.queue.items.length = rest.length + 1 := by rw [hitems, List.length_cons]
    rw [Queue.tryTake, hitems]
    refine ⟨hh.size, ?_, ?_, ?_, ?_⟩
    · simpa [taken, Departure.item, hitems] using hh.flow
    · have := hh.room
      simp only [taken]
      omega
    · simpa [taken, discarded, List.filterMap_cons, Departure.discarded?] using hh.drained
    · simp [taken, QueueMetrics.onReceive_eq, hh.counts, QueueHistory.counts, received, discarded,
        blockTotal, rowTotal, List.filterMap_cons, Departure.received?, Departure.discarded?,
        hlength]

theorem Balanced.drain (hh : h.Balanced capacity) :
    (h.emptied h.queue.drain).Balanced capacity := by
  have hall : h.queue.items.take h.queue.items.length = h.queue.items := List.take_length
  refine ⟨hh.size, ?_, Nat.zero_le _, ?_, ?_⟩
  · simp only [emptied, Queue.drain, hall, List.map_append, Departure.map_item_discarded,
      List.append_nil]
    exact hh.flow
  · simp only [emptied, Queue.drain, hall, discarded, List.filterMap_append,
      Departure.filterMap_discarded?_discarded, List.length_append]
    exact congrArg (· + h.queue.items.length) hh.drained
  · simp only [emptied, Queue.drain, hall, QueueMetrics.onDiscard, hh.counts, QueueHistory.counts,
      received, discarded, List.filterMap_append, Departure.filterMap_received?_discarded,
      Departure.filterMap_discarded?_discarded, List.length_append, List.append_nil, Nat.sub_self,
      List.length_nil]

/-! ### Any calls -/

/-- An offer keeps the balance, however it goes. -/
theorem Balanced.offered (hh : h.Balanced capacity) {item : QueueItem} {outcome : Offer} {q : Queue}
    (hcases : outcome = .disconnected ∧ q = h.queue ∨
      (outcome = .full ∨ outcome = .cancelled) ∧
        q = { h.queue with metrics := h.queue.metrics.onFull } ∨
      h.queue.isFull = false ∧ outcome = .sent ∧ q = h.queue.push item) :
    (h.offered item (outcome, q)).Balanced capacity := by
  rcases hcases with ⟨rfl, rfl⟩ | ⟨rfl | rfl, rfl⟩ | ⟨hroom, rfl, rfl⟩
  · exact hh
  · exact hh.full
  · exact hh.full
  · exact hh.push hroom item

/-- **Every call keeps the balance.** -/
theorem balanced_after (hh : h.Balanced capacity) (c : QueueCall) :
    (h.after c).Balanced capacity := by
  cases c with
  | tryOffer item =>
    rw [after]
    rcases h.queue.tryOffer_cases item with ⟨-, hoffer⟩ | ⟨-, hoffer⟩ | ⟨hroom, hoffer⟩ <;>
      rw [hoffer]
    · exact hh.offered (.inl ⟨rfl, rfl⟩)
    · exact hh.offered (.inr (.inl ⟨.inl rfl, rfl⟩))
    · exact hh.offered (.inr (.inr ⟨hroom, rfl, rfl⟩))
  | offer item cancelled =>
    rw [after]
    cases hoffer : h.queue.offer item cancelled with
    | none => exact hh
    | some result =>
      refine hh.offered ((Queue.offer_cases hoffer).imp_right (Or.imp_left ?_))
      exact And.imp_left .inr
  | tryTake => exact hh.tryTake
  | take =>
    rw [after, Queue.take]
    split
    · exact hh
    · exact hh.tryTake
  | drain => exact hh.drain
  | closeSender => exact ⟨hh.size, hh.flow, hh.room, hh.drained, hh.counts⟩

/-- **So they keep it one after the other.** -/
theorem balanced_run (hh : h.Balanced capacity) (calls : List QueueCall) :
    (h.run calls).Balanced capacity := by
  induction calls generalizing h with
  | nil => exact hh
  | cons c calls ih => exact ih (balanced_after hh c)

/-- What was sent was received, or thrown away, or is queued. -/
theorem Balanced.total (hh : h.Balanced capacity) (weight : QueueItem → Nat) :
    (h.accepted.map weight).sum = (h.received.map weight).sum + (h.discarded.map weight).sum +
      (h.queue.items.map weight).sum := by
  rw [← hh.flow, List.map_append, List.sum_append, sum_departures]
  rfl

end QueueHistory

theorem foldl_max_eq_max?_getD (depths : List Nat) : depths.foldl max 0 = depths.max?.getD 0 := by
  cases depths with
  | nil => rfl
  | cons depth depths => rw [List.foldl_cons, Nat.zero_max, List.max?_cons', Option.getD_some]

/-- **Conservation and order.**  Behind any calls on a queue, what was received or thrown away is a
beginning of what was sent, in order; the queue has no more items than its capacity; the items
pending are those queued; the blocks sent, and the rows in them, are those received, those thrown
away and those queued; the items thrown away are those that the calls for it have counted; the peak
is the greatest length behind a send; and the items that found the queue full are the offers that
were turned down.  An offer that does not send its item leaves all as it is, but for that last
count. -/
theorem queue_conservation :
    (∀ (capacity : Nat) (calls : List QueueCall),
      let h := (QueueHistory.start capacity).run calls
      let m := h.queue.metrics
      h.gone.map Departure.item <+: h.accepted ∧
      h.queue.items.length ≤ capacity ∧
      m.pending = h.queue.items.length ∧
      m.receivedBlocks = blockTotal h.received ∧
      m.receivedRows = rowTotal h.received ∧
      m.sentBlocks = m.receivedBlocks + blockTotal h.discarded + blockTotal h.queue.items ∧
      m.sentRows = m.receivedRows + rowTotal h.discarded + rowTotal h.queue.items ∧
      m.discarded = h.drained ∧
      m.peak = h.depths.max?.getD 0 ∧
      m.backpressure = h.refused) ∧
    ∀ (q : Queue) item cancelled outcome q',
      (q.tryOffer item = (outcome, q') ∨ q.offer item cancelled = some (outcome, q')) →
      outcome ≠ .sent →
      q' = { q with metrics := { q.metrics with backpressure := q'.metrics.backpressure } } := by
  refine ⟨?_, ?_⟩
  · intro capacity calls h m
    have hh : h.Balanced capacity :=
      QueueHistory.balanced_run (QueueHistory.balanced_start capacity) calls
    have hm : m = h.counts := hh.counts
    rw [hm]
    exact ⟨⟨_, hh.flow⟩, hh.room, rfl, rfl, rfl, hh.total QueueItem.blocks,
      hh.total QueueItem.rowCount, hh.drained, foldl_max_eq_max?_getD h.depths, rfl⟩
  · intro q item cancelled outcome q' hoffer hunsent
    rcases Queue.unsent_cases hoffer hunsent with ⟨-, rfl⟩ | ⟨-, rfl⟩ <;> rfl

/-- Calls on a queue of two items: an offer finds it full, one of the items is received, and the
rest is thrown away. -/
def fullQueueCalls : List QueueCall :=
  [.offer (.block ⟨["id"], [[.bool true], [.bool false]]⟩) false, .tryOffer .endOfScan,
    .offer .endOfScan true, .take, .tryOffer (.block ⟨["id"], [[.null]]⟩), .drain, .closeSender,
    .take]

/-- What the history of these calls says. -/
theorem queue_conservation_full :
    let h := (QueueHistory.start 2).run fullQueueCalls
    h.gone.map Departure.item <+: h.accepted ∧ h.queue.metrics.receivedRows = 2 ∧
      h.queue.metrics.sentBlocks = 2 ∧ h.queue.metrics.discarded = 2 ∧ h.queue.metrics.peak = 2 ∧
      h.queue.metrics.backpressure = 1 ∧
      ∃ q, ((Queue.bounded 1).push .endOfScan).offer .endOfScan true = some (.cancelled, q) ∧
        q.items = [.endOfScan] ∧ q.metrics.pending = 1 := by
  obtain ⟨hruns, hunsent⟩ := queue_conservation
  obtain ⟨horder, -, -, hblocks, hrows, hsent, -, hdiscarded, hpeak, hfull⟩ :=
    hruns 2 fullQueueCalls
  have hoffer := hunsent ((Queue.bounded 1).push .endOfScan) .endOfScan true _ _ (.inr rfl) nofun
  intro h
  refine ⟨horder, hrows.trans (by decide), ?_, hdiscarded.trans (by decide),
    hpeak.trans (by decide), hfull.trans (by decide), ?_⟩
  · rw [hsent, hblocks]
    decide
  · exact ⟨_, rfl, congrArg Queue.items hoffer, congrArg (fun q => q.metrics.pending) hoffer⟩

end ShardScan
