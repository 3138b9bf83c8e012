import ShardScan.Queue
import ShardScan.Scan.Error
import ShardScan.Store.Session

/-!
# The feed of a reader

A producer takes blocks from the stream of one shard and offers them to the
reader's bounded queue; behind the last it offers a marker.  The feed is what
the producer and the reader share: the queue, a latch that keeps the first
failure, and the flag by which the reader calls the scan off.

The producer advances in steps, one stream event or one offer at a time, and
waits where it has nothing to do.  Every step uses up room in the queue or
brings the producer closer to its end, so a producer left alone comes to rest.

## Main definitions

* `Feed` — the shared state, with what the producer is about to do.
* `Feed.latch` — keeps a failure unless there is one already.
* `Feed.step?` — the next step of the producer, none while it has to wait.
* `Feed.settle` — the producer's steps over a store until it has to wait.

## Main statements

* `Feed.weight_step` — a step of the producer lowers `Feed.weight`.
-/

namespace ShardScan

/-- How far a reader has come. -/
inductive ReaderState
  | created
  | prepared
  | finished
  | failed
deriving DecidableEq

namespace ReaderState

/-- The word for a state. -/
def word : ReaderState → String
  | created => "Created"
  | prepared => "Prepared"
  | finished => "Finished"
  | failed => "Failed"

end ReaderState

/-- What the producer of a shard is about to do. -/
inductive Producer
  /-- It has not been started. -/
  | idle
  /-- It takes the next event of its stream. -/
  | streaming
  /-- It found the queue full and waits for room. -/
  | waiting (item : QueueItem)
  /-- Its stream has ended, and it takes in how. -/
  | ending (status : Status)
  /-- It offers the marker. -/
  | marking
  /-- It has ended. -/
  | exited
deriving DecidableEq

/-- What a reader shares with its producer. -/
structure Feed where
  /-- The path of the table that is read. -/
  table : String
  /-- The keys that are read. -/
  range : KeyRange
  queue : Queue
  state : ReaderState
  /-- The first failure. -/
  issue : Option ScanError
  /-- The reader has called the scan off. -/
  cancelled : Bool
  producer : Producer
deriving DecidableEq

namespace Queue

/-- The number of items that a queue still takes. -/
def room (q : Queue) : Nat := q.capacity - q.items.length

theorem room_push {q : Queue} (h : q.isFull = false) (item : QueueItem) :
    (q.push item).room + 1 = q.room := by
  simp only [isFull, decide_eq_false_iff_not] at h
  simp only [room, push, List.length_append, List.length_singleton]
  omega

end Queue

namespace Feed

/-! ### The latch -/

/-- Keeps a failure and fails the reader, unless a failure is kept already. -/
def latch (f : Feed) (e : ScanError) : Feed :=
  match f.issue with
  | some _ => f
  | none => { f with issue := some e, state := .failed }

/-- Finishes the reader unless it has failed. -/
def finish (f : Feed) : Feed :=
  if f.state = .failed then f else { f with state := .finished }

/-- Calls the scan off. -/
def cancel (f : Feed) : Feed := { f with cancelled := true }

/-! ### Steps of the producer -/

/-- The producer has ended, and with it the sending half of the queue. -/
def exit (f : Feed) : Feed := { f with queue := f.queue.closeSender, producer := .exited }

/-- The stream has ended. -/
def endStream (f : Feed) (status : Status) : Feed := { f with producer := .ending status }

/-- Takes in how the stream ended.  A failure is kept unless the scan was called off. -/
def record (f : Feed) (status : Status) : Feed :=
  if status.isSuccess || status.isCancelled || f.cancelled then f
  else f.latch (.failed f.table f.range status)

/-- Offers the marker, and ends if that needs no waiting. -/
def offerMarker (f : Feed) : Feed :=
  match f.queue.tryOffer .endOfScan with
  | (.full, queue) => { f with queue := queue, producer := .waiting .endOfScan }
  | (_, queue) => { f with queue := queue }.exit

/-- Offers a block, and goes on streaming if that needs no waiting.  Without a reader the stream is
broken off. -/
def offerBlock (f : Feed) (b : Block) : Feed :=
  match f.queue.tryOffer (.block b) with
  | (.sent, queue) => { f with queue := queue, producer := .streaming }
  | (.full, queue) => { f with queue := queue, producer := .waiting (.block b) }
  | (_, queue) => { f with queue := queue }.endStream .cancelled

/-- Puts the item that was waiting into the queue. -/
def enqueue (f : Feed) (item : QueueItem) : Feed :=
  let f' := { f with queue := f.queue.push item }
  match item with
  | .block _ => { f' with producer := .streaming }
  | .endOfScan => f'.exit

/-- Gives up the item that was waiting.  A stream with a block given up is broken off. -/
def giveUp (f : Feed) : QueueItem → Feed
  | .block _ => f.endStream .cancelled
  | .endOfScan => f.exit

/-- The next step of the producer, where `event` is what its stream has next; none while the
producer has to wait, and none where there is no producer. -/
def step? (f : Feed) (event : StreamEvent) : Option Feed :=
  match f.producer with
  | .idle => none
  | .exited => none
  | .streaming =>
    match event with
    | .waits => none
    | .delivers b => some (f.offerBlock b)
    | .ends status => some (f.endStream status)
  | .waiting item =>
    -- Calling off wins over room: the item is given up even if it would fit.
    if f.cancelled || !f.queue.receiverOpen then some (f.giveUp item)
    else if f.queue.isFull then none
    else some (f.enqueue item)
  | .ending status => some { f.record status with producer := .marking }
  | .marking => some f.offerMarker

/-! ### Coming to rest -/

/-- How much a producer can still do before it has to wait. -/
def weight (f : Feed) : Nat :=
  6 * f.queue.room +
    match f.producer with
    | .idle => 0
    | .exited => 0
    | .waiting .endOfScan => 1
    | .marking => 2
    | .ending _ => 3
    | .waiting (.block _) => 4
    | .streaming => 5

theorem queue_latch (f : Feed) (e : ScanError) : (f.latch e).queue = f.queue := by
  unfold latch
  split <;> rfl

theorem queue_record (f : Feed) (status : Status) : (f.record status).queue = f.queue := by
  unfold record
  split
  · rfl
  · exact queue_latch ..

theorem weight_exit (f : Feed) : f.exit.weight = 6 * f.queue.room := rfl

theorem weight_endStream (f : Feed) (status : Status) :
    (f.endStream status).weight = 6 * f.queue.room + 3 := rfl

/-- Only an offer that is sent changes the room of a queue. -/
theorem room_tryOffer (q : Queue) (item : QueueItem) : (q.tryOffer item).2.room ≤ q.room := by
  unfold Queue.tryOffer
  split
  · exact Nat.le_refl _
  · split
    · exact Nat.le_refl _
    · next h =>
      have := Queue.room_push (by simpa using h) item
      simp only
      omega

theorem room_tryOffer_sent {q : Queue} {item : QueueItem} (h : (q.tryOffer item).1 = .sent) :
    (q.tryOffer item).2.room < q.room := by
  unfold Queue.tryOffer at h ⊢
  split
  · next closed => simp [closed] at h
  · next opened =>
    split
    · next full => simp [opened, full] at h
    · next free =>
      have := Queue.room_push (by simpa using free) item
      simp only
      omega

theorem weight_offerMarker (f : Feed) : f.offerMarker.weight ≤ 6 * f.queue.room + 1 := by
  have room := room_tryOffer f.queue .endOfScan
  unfold offerMarker
  split
  · next queue offer =>
    rw [offer] at room
    simp only [weight] at *
    omega
  · next queue _ offer =>
    rw [offer] at room
    rw [weight_exit]
    simp only at *
    omega

theorem weight_offerBlock (f : Feed) (b : Block) :
    (f.offerBlock b).weight < 6 * f.queue.room + 5 := by
  have room := room_tryOffer f.queue (.block b)
  have sent := @room_tryOffer_sent f.queue (.block b)
  unfold offerBlock
  split
  · next queue offer =>
    rw [offer] at sent
    have := sent rfl
    simp only [weight] at *
    omega
  · next queue offer =>
    rw [offer] at room
    simp only [weight] at *
    omega
  · next queue _ _ offer =>
    rw [offer] at room
    rw [weight_endStream]
    simp only at *
    omega

/-- A step of the producer lowers its weight. -/
theorem weight_step {f f' : Feed} {event : StreamEvent} (h : f.step? event = some f') :
    f'.weight < f.weight := by
  unfold step? at h
  split at h
  · cases h
  · cases h
  · next streaming =>
    have own : f.weight = 6 * f.queue.room + 5 := by simp [weight, streaming]
    split at h
    · cases h
    · cases h
      rw [own]
      exact weight_offerBlock ..
    · next status =>
      cases h
      rw [own, weight_endStream]
      omega
  · next item waiting =>
    split at h
    · cases h
      cases item with
      | block b => simp [weight, waiting, giveUp, endStream]
      | endOfScan => simp [weight, waiting, giveUp, exit, Queue.closeSender, Queue.room]
    · split at h
      · cases h
      · next free =>
        cases h
        have := Queue.room_push (by simpa using free) item
        cases item with
        | block b =>
          simp only [weight, waiting, enqueue] at *
          omega
        | endOfScan =>
          have exited := weight_exit { f with queue := f.queue.push .endOfScan }
          simp only [weight, waiting, enqueue] at *
          omega
  · next status ending =>
    cases h
    simp [weight, ending, queue_record]
  · next marking =>
    cases h
    have := weight_offerMarker f
    simp only [weight, marking] at *
    omega

/-- The producer is still handing over blocks of its stream. -/
def isStreaming (f : Feed) : Bool :=
  match f.producer with
  | .streaming => true
  | .waiting (.block _) => true
  | _ => false

/-- The producer's steps over a store, where `stream` is its stream, until it has to wait.  A stream
that the producer turns away from has ended. -/
def settle (f : Feed) (s : Store) (stream : Nat) : Feed × Store :=
  let next := if f.producer = .streaming then s.advance stream else (.waits, s)
  match _h : f.step? next.1 with
  | none => (f, s)
  | some f' => f'.settle (if f'.isStreaming then next.2 else next.2.endStream stream) stream
termination_by f.weight
decreasing_by exact weight_step ‹_›

end Feed
end ShardScan
