import ShardScan.Proofs.Scan.Settling

/-!
# The schedule of a reader

A reader makes each of its calls in one piece, and lets the producer run in
between as far as it gets.  That is one of the interleavings of the two,
whatever stores the calls find.  The call that closes the reader waits for the
end of the producer, which comes because a stream that was cancelled does not
make its producer wait.

## Main definitions

* `Reader.Tied` — a reader that holds no scan has no producer.
* `Reader.calledOff`, `Reader.letGo` — a reader at the beginning and at the end of its closing.
* `ScanWorld.Reaches` — a run to a place of the reader that answers some calls.
* `Reader.History` — a reader and the calls that it has answered, on any stores.

## Main results

* `Reader.prepare_cases`, `Reader.close_eq` — what preparing and closing a reader comes to.
* `Reader.settle_exits` — a producer that is called off comes to its end.
* `Reader.History.run` — every history of calls is a run.
-/

namespace ShardScan

/-! ### Streams that were cancelled -/

namespace Store

variable {s : Store} {stream : Nat}

/-- A read that does not make anybody wait: if there is one, it was cancelled. -/
def Stopped (s : Store) (stream : Nat) : Prop := ∀ r ∈ s.stream? stream, r.cancelled = true

theorem stopped_cancelStream (s : Store) (stream : Nat) :
    (s.cancelStream stream).Stopped stream := by
  intro r hr
  rw [cancelStream, stream?, modifyStream, List.getElem?_modify_eq] at hr
  obtain ⟨r', -, rfl⟩ := Option.map_eq_some_iff.mp hr
  rfl

theorem Stopped.modifyStream (h : s.Stopped stream) {f : ReadStream → ReadStream}
    (hkeeps : ∀ r, (f r).cancelled = r.cancelled) : (s.modifyStream stream f).Stopped stream := by
  intro r hr
  rw [stream?, Store.modifyStream, List.getElem?_modify_eq] at hr
  obtain ⟨r', hr', rfl⟩ := Option.map_eq_some_iff.mp hr
  rw [hkeeps]
  exact h r' hr'

theorem Stopped.endStream (h : s.Stopped stream) : (s.endStream stream).Stopped stream :=
  h.modifyStream fun _ => rfl

/-- A stream that was cancelled ends. -/
theorem Stopped.advance (h : s.Stopped stream) :
    ∃ status s', s.advance stream = (.ends status, s') ∧ s'.Stopped stream := by
  cases hfound : s.stream? stream with
  | none => exact ⟨startedBefore, s, by simp only [Store.advance, hfound], h⟩
  | some r =>
    cases hphase : r.phase with
    | running n rest =>
      have hevent : s.nextEvent r n rest = .ends .cancelled := by
        simp only [nextEvent, h r hfound, if_true]
      refine ⟨.cancelled, s.endStream stream, ?_, h.endStream⟩
      simp only [Store.advance, hfound, hphase, hevent]
    | _ => exact ⟨startedBefore, s, by simp only [Store.advance, hfound, hphase], h⟩

end Store

/-! ### The end of the producer -/

namespace Feed

variable {f : Feed} {s : Store} {stream : Nat}

/-- A producer that is called off can go on until it has ended. -/
theorem ended_of_step?_none {event : StreamEvent} (hcancelled : f.cancelled = true)
    (hevent : f.producer = .streaming → ∃ status, event = .ends status)
    (h : f.step? event = none) : f.producer = .idle ∨ f.producer = .exited := by
  cases hproducer : f.producer with
  | idle => exact .inl rfl
  | exited => exact .inr rfl
  | streaming =>
    obtain ⟨status, rfl⟩ := hevent hproducer
    simp [step?, hproducer] at h
  | waiting item => simp [step?, hproducer, hcancelled] at h
  | ending status => simp [step?, hproducer] at h
  | marking => simp [step?, hproducer] at h

/-- **A producer that is called off comes to its end** if its stream was cancelled. -/
theorem settle_exits (hcancelled : f.cancelled = true) (hstopped : s.Stopped stream) :
    (f.settle s stream).1.producer = .idle ∨ (f.settle s stream).1.producer = .exited := by
  induction hweight : f.weight using Nat.strongRecOn generalizing f s with
  | ind weight ih =>
    let next := if f.producer = .streaming then s.advance stream else (.waits, s)
    have hnext : next.2.Stopped stream ∧
        (f.producer = .streaming → ∃ status, next.1 = .ends status) := by
      by_cases hproducer : f.producer = .streaming
      · obtain ⟨status, s', hadvance, hstopped'⟩ := hstopped.advance
        simp only [next, if_pos hproducer, hadvance]
        exact ⟨hstopped', fun _ => ⟨status, rfl⟩⟩
      · simp only [next, if_neg hproducer]
        exact ⟨hstopped, fun h => absurd h hproducer⟩
    cases hstep : f.step? next.1 with
    | none =>
      rw [settle_of_none hstep]
      exact ended_of_step?_none hcancelled hnext.2 hstep
    | some f' =>
      -- Neither the producer nor the end of its stream takes the cancellation back.
      rw [settle_of_some hstep]
      refine ih f'.weight (hweight ▸ weight_step hstep) ((cancelled_step hstep).trans hcancelled)
        ?_ rfl
      split
      · exact hnext.1
      · exact hnext.1.endStream

end Feed

namespace Reader

variable {r : Reader}

/-- A reader that holds no scan has no producer. -/
def Tied (r : Reader) : Prop :=
  r.scan = none → r.feed.producer = .idle ∨ r.feed.producer = .exited

/-- The scan is held as before, and the producer is where it was. -/
def SameScan (r r' : Reader) : Prop := r'.scan = r.scan ∧ r'.feed.producer = r.feed.producer

theorem Tied.same {r' : Reader} (h : r.Tied) (hsame : r.SameScan r') : r'.Tied := by
  intro hscan
  rw [hsame.2]
  exact h (hsame.1.symm.trans hscan)

/-- A producer that has something to do belongs to a scan that is held. -/
theorem Tied.feed (h : r.Tied) (hidle : r.feed.producer ≠ .idle)
    (hexited : r.feed.producer ≠ .exited) (f : Feed) : Tied { r with feed := f } := by
  intro hscan
  rcases h hscan with hproducer | hproducer
  · exact absurd hproducer hidle
  · exact absurd hproducer hexited

theorem Tied.step (h : r.Tied) {event : StreamEvent} {f : Feed}
    (hstep : r.feed.step? event = some f) : Tied { r with feed := f } := by
  refine h.feed ?_ ?_ f
  · intro hproducer
    simp [Feed.step?, hproducer] at hstep
  · intro hproducer
    simp [Feed.step?, hproducer] at hstep

theorem sameScan_failSetup (r : Reader) (cause : StoreError) :
    r.SameScan (r.failSetup cause).2 := ⟨rfl, r.feed.producer_latch _⟩

theorem sameScan_fail (r : Reader) (e : ScanError) : r.SameScan (r.fail e) :=
  ⟨rfl, r.feed.producer_latch e⟩

theorem sameScan_finish (r : Reader) : r.SameScan { r with feed := r.feed.finish } :=
  ⟨rfl, r.feed.producer_finish⟩

theorem sameScan_advance? {r' : Reader} (h : r.advance? = some r') : r.SameScan r' := by
  obtain ⟨c, -, hc⟩ := Option.bind_eq_some_iff.mp h
  split at hc
  · cases hc
    exact ⟨rfl, rfl⟩
  · cases hc

/-- The reader that is left when an item was accepted. -/
theorem sameScan_accept {item : Option QueueItem} {r' : Reader}
    (h : (∃ answer, r.accept item = .answers answer r') ∨ r.accept item = .goesOn r') :
    r.SameScan r' := by
  cases item with
  | none =>
    rcases h with ⟨answer, h⟩ | h <;> cases h
    exact r.sameScan_fail _
  | some item =>
    cases item with
    | endOfScan =>
      rw [accept_endOfScan] at h
      split at h
      · rcases h with ⟨answer, h⟩ | h <;> cases h
        exact ⟨rfl, rfl⟩
      · rcases h with ⟨answer, h⟩ | h <;> cases h
        exact r.sameScan_finish
    | block b =>
      cases hpositions : b.positions r.outColumns with
      | error drift =>
        simp only [accept, hpositions] at h
        rcases h with ⟨answer, h⟩ | h <;> cases h
        exact r.sameScan_fail _
      | ok positions =>
        rw [accept_block hpositions] at h
        split at h
        · next hrow =>
          rcases h with ⟨answer, h⟩ | h <;> cases h
          have hsame := sameScan_advance? hrow
          exact ⟨hsame.1, hsame.2⟩
        · rcases h with ⟨answer, h⟩ | h <;> cases h
          exact ⟨rfl, rfl⟩

/-- Letting the producer run changes nothing but the feed. -/
theorem settle_eq (r : Reader) (s : Store) :
    ∃ f, (r.settle s).1 = { r with feed := f } := by
  unfold settle
  split
  · exact ⟨r.feed, rfl⟩
  · exact ⟨_, rfl⟩

/-- A scan cannot be set up, or the producer is let run. -/
theorem setUp_cases (r : Reader) (s : Store) (spawn : Except String Unit) :
    (∃ cause s', r.setUp s spawn = (.error (r.failSetup cause).1, (r.failSetup cause).2, s')) ∨
      ∃ scan s', r.setUp s spawn = (.ok (), (r.opened scan).settle s') := by
  unfold setUp
  split
  · next cause s₁ _ => exact .inl ⟨cause, s₁, rfl⟩
  · next session s₁ _ =>
    split
    · next cause s₂ _ => exact .inl ⟨cause, s₂.closeSession session, rfl⟩
    · next stream s₂ _ =>
      cases spawn with
      | error reason => exact .inl ⟨spawnFailure reason, (s₂.cancelStream stream).closeSession session, rfl⟩
      | ok => exact .inr ⟨⟨session, stream⟩, (s₂.startStream stream).2, rfl⟩

/-- **A call that prepares a reader** sets up its scan if it is freshly created, and does nothing if
not. -/
theorem prepare_cases {r : Reader} {s : Store} {spawn : Except String Unit}
    {outcome : Except ScanError Unit × Reader × Store} (h : r.prepare s spawn = some outcome) :
    r.state = .created ∧ r.setUp s spawn = outcome ∨ r.state ≠ .created ∧ (.ok (), r, s) = outcome := by
  unfold prepare at h
  split at h
  · next hstate =>
    obtain ⟨-, -, houtcome⟩ := Option.map_eq_some_iff.mp h
    exact .inl ⟨hstate, houtcome⟩
  · next hstate => exact .inr ⟨hstate, Option.some.inj h⟩

variable {r' : Reader} {s s' : Store} {spawn : Except String Unit}

/-- A freshly created reader that cannot be prepared has failed, and opened nothing. -/
theorem failSetup_of_prepare {e : ScanError} (hcreated : r.state = .created)
    (h : r.prepare s spawn = some (.error e, r', s')) : ∃ cause, r.failSetup cause = (e, r') := by
  obtain ⟨-, hsetUp⟩ := (prepare_cases h).resolve_right (·.1 hcreated)
  rcases r.setUp_cases s spawn with ⟨cause, s₁, hfails⟩ | ⟨scan, s₁, hopens⟩
  · cases hfails.symm.trans hsetUp
    exact ⟨cause, rfl⟩
  · cases hopens.symm.trans hsetUp

/-- A freshly created reader that is prepared holds a scan, and its producer has been let run. -/
theorem opened_of_prepare (hcreated : r.state = .created)
    (h : r.prepare s spawn = some (.ok (), r', s')) :
    ∃ scan s₁, (r.opened scan).settle s₁ = (r', s') := by
  obtain ⟨-, hsetUp⟩ := (prepare_cases h).resolve_right (·.1 hcreated)
  rcases r.setUp_cases s spawn with ⟨cause, s₁, hfails⟩ | ⟨scan, s₁, hopens⟩
  · cases hfails.symm.trans hsetUp
  · exact ⟨scan, s₁, congrArg Prod.snd (hopens.symm.trans hsetUp)⟩

/-- A reader that has begun has nothing to prepare. -/
theorem prepare_of_begun (h : r.state ≠ .created) (s : Store) (spawn : Except String Unit) :
    r.prepare s spawn = some (.ok (), r, s) := if_neg h

theorem get_settle (r : Reader) (s : Store) : (r.settle s).1.get = r.get := by
  obtain ⟨f, hsettle⟩ := r.settle_eq s
  rw [hsettle]
  rfl

/-- The reader with its scan called off. -/
def calledOff (r : Reader) : Reader := { r with feed := r.feed.finish.cancel }

/-- The reader without its scan and its rows, behind whose queue nobody stands any more. -/
def letGo (r : Reader) : Reader :=
  { r with feed := { r.feed with queue := r.feed.queue.drain.2.closeReceiver }, scan := none,
           cursor := none }

/-- **Closing a reader** calls its scan off, lets the producer come to rest, and returns the
session. -/
theorem close_eq (r : Reader) (s : Store) :
    r.close s = ((r.calledOff.settle s).1.letGo,
      r.scan.elim (r.calledOff.settle s).2 fun scan =>
        (r.calledOff.settle s).2.closeSession scan.session) := by
  obtain ⟨f, hsettle⟩ := r.calledOff.settle_eq s
  have hscan : (r.calledOff.settle s).1.scan = r.scan := by
    rw [hsettle]
    rfl
  rw [← hscan, close, show { r with feed := r.feed.finish.cancel } = r.calledOff from rfl]
  dsimp only
  cases (r.calledOff.settle s).1.scan <;> rfl

/-- The producer of a reader that called its scan off comes to its end. -/
theorem settle_exits (htied : r.Tied) (hcancelled : r.feed.cancelled = true) (s : Store) :
    (r.settle s).1.feed.producer = .idle ∨ (r.settle s).1.feed.producer = .exited := by
  unfold settle
  cases hscan : r.scan with
  | none => exact htied hscan
  | some scan =>
    simp only [hcancelled, if_true]
    exact Feed.settle_exits hcancelled (s.stopped_cancelStream scan.stream)

end Reader

/-! ### Runs that answer calls -/

/-- One run behind another. -/
theorem ScanRun.trans {w w' w'' : ScanWorld} (h : ScanRun w w') (h' : ScanRun w' w'') :
    ScanRun w w'' := by
  induction h' with
  | refl => exact h
  | tail _ hstep ih => exact ih.tail hstep

namespace ScanWorld

variable {w w' : ScanWorld}

/-- A run leads to a reader at some place of a call, and answers some calls on the way. -/
def Reaches (w : ScanWorld) (r : Reader) (consumer : Consumer) (calls : List Call) : Prop :=
  ∃ w', ScanRun w w' ∧ w'.reader = r ∧ w'.consumer = consumer ∧ w'.log = w.log ++ calls

theorem Reaches.refl {r : Reader} {consumer : Consumer} (hreader : w.reader = r)
    (hconsumer : w.consumer = consumer) : w.Reaches r consumer [] :=
  ⟨w, .refl w, hreader, hconsumer, (List.append_nil _).symm⟩

/-- One run behind another. -/
theorem Reaches.trans {r r' : Reader} {consumer consumer' : Consumer} {calls calls' : List Call}
    (h : w.Reaches r consumer calls)
    (hnext : ∀ w₁ : ScanWorld, w₁.reader = r → w₁.consumer = consumer →
      w₁.Reaches r' consumer' calls') :
    w.Reaches r' consumer' (calls ++ calls') := by
  obtain ⟨w₁, hrun, hreader, hconsumer, hlog⟩ := h
  obtain ⟨w₂, hrun', hreader', hconsumer', hlog'⟩ := hnext w₁ hreader hconsumer
  refine ⟨w₂, hrun.trans hrun', hreader', hconsumer', ?_⟩
  rw [hlog', hlog, List.append_assoc]

/-- A run behind a step. -/
theorem Reaches.head {r : Reader} {consumer : Consumer} {calls calls' : List Call}
    (hstep : ScanStep w w') (hlog : w'.log = w.log ++ calls) (h : w'.Reaches r consumer calls') :
    w.Reaches r consumer (calls ++ calls') := by
  obtain ⟨w₂, hrun, hreader, hconsumer, hlog'⟩ := h
  refine ⟨w₂, ((ScanRun.refl w).tail hstep).trans hrun, hreader, hconsumer, ?_⟩
  rw [hlog', hlog, List.append_assoc]

/-- A step of the feed is a step of the producer. -/
theorem exists_step_of_feed {f : Feed} {event : StreamEvent} (h : w.feed.step? event = some f)
    (hown : w.feed.producer ≠ .streaming → event = .waits) :
    ∃ w', ScanStep w w' ∧ w'.reader = { w.reader with feed := f } ∧ w'.consumer = w.consumer ∧
      w'.log = w.log := by
  by_cases hproducer : w.feed.producer = .streaming
  · cases event with
    | waits => simp [Feed.step?, hproducer] at h
    | delivers b => exact ⟨_, .hand hproducer h, rfl, rfl, rfl⟩
    | ends status => exact ⟨_, .stop hproducer h, rfl, rfl, rfl⟩
  · obtain rfl := hown hproducer
    exact ⟨_, .proceed h, rfl, rfl, rfl⟩

/-- The producer, let run as far as it gets. -/
theorem reaches_feed_settle (w : ScanWorld) (s : Store) (stream : Nat) :
    w.Reaches { w.reader with feed := (w.feed.settle s stream).1 } w.consumer [] := by
  induction hweight : w.feed.weight using Nat.strongRecOn generalizing w s with
  | ind weight ih =>
    let next := if w.feed.producer = .streaming then s.advance stream else (.waits, s)
    cases hstep : w.feed.step? next.1 with
    | none =>
      rw [Feed.settle_of_none hstep]
      exact .refl rfl rfl
    | some f =>
      have hown : w.feed.producer ≠ .streaming → next.1 = .waits := by
        intro hproducer
        simp only [next, if_neg hproducer]
      obtain ⟨w₁, hscan, hreader, hconsumer, hlog⟩ := exists_step_of_feed hstep hown
      have hfeed : w₁.feed = f := by rw [feed, hreader]
      have hlighter : w₁.feed.weight < weight := by
        rw [hfeed, ← hweight]
        exact Feed.weight_step hstep
      have hrest := ih _ hlighter w₁ (if f.isStreaming then next.2 else next.2.endStream stream) rfl
      rw [hfeed, hreader, hconsumer] at hrest
      rw [Feed.settle_of_some hstep]
      exact .head hscan (hlog.trans (List.append_nil _).symm) hrest

/-- The producer of a reader, let run between two steps of a call. -/
theorem reaches_settle {r : Reader} {consumer : Consumer} (hreader : w.reader = r)
    (hconsumer : w.consumer = consumer) (s : Store) :
    w.Reaches (r.settle s).1 consumer [] := by
  subst hreader hconsumer
  unfold Reader.settle
  split
  · exact .refl rfl rfl
  · next scan _ => exact reaches_feed_settle w _ scan.stream

theorem tied_step (htied : w.reader.Tied) (hstep : ScanStep w w') : w'.reader.Tied := by
  cases hstep with
  | hand _ hstep => exact htied.step hstep
  | stop _ hstep => exact htied.step hstep
  | proceed hstep => exact htied.step hstep
  | send hproducer =>
    refine htied.feed ?_ ?_ _ <;> intro hother <;> cases hproducer.symm.trans hother
  | breakOff hproducer =>
    refine htied.feed ?_ ?_ _ <;> intro hother <;> cases hproducer.symm.trans hother
  | prepare => intro hscan; cases hscan
  | prepareFails => exact htied.same (w.reader.sameScan_failSetup _)
  | firstNext => intro hscan; cases hscan
  | firstNextFails => exact htied.same (w.reader.sameScan_failSetup _)
  | advance _ hrow => exact htied.same (Reader.sameScan_advance? hrow)
  | fetch => exact htied
  | refuse => exact htied
  | noMore => exact htied
  | take => exact htied.same ⟨rfl, rfl⟩
  | answer _ haccept => exact htied.same (Reader.sameScan_accept (.inl ⟨_, haccept⟩))
  | goOn _ haccept => exact htied.same (Reader.sameScan_accept (.inr haccept))
  | close => exact htied.same w.reader.sameScan_finish
  | cancel => exact htied.same ⟨rfl, rfl⟩
  | drain => exact htied.same ⟨rfl, rfl⟩
  | closed _ hproducer => exact fun _ => hproducer

/-- **In every run a reader that holds no scan has no producer.** -/
theorem tied_run (htied : w.reader.Tied) (hrun : ScanRun w w') : w'.reader.Tied := by
  induction hrun with
  | refl => exact htied
  | tail _ hstep ih => exact tied_step ih hstep

/-! ### Calls -/

/-- Taking items until the call is answered. -/
theorem reaches_fetch {r r' : Reader} {s s' : Store} {items : Nat} {answer : Except ScanError Bool}
    (hreader : w.reader = r) (hfetching : w.consumer = .fetching)
    (h : r.fetch s items = some (answer, r', s')) :
    w.Reaches r' .idle [.next answer r'.get] := by
  induction items generalizing w r s with
  | zero => cases h
  | succ items ih =>
    rw [Reader.fetch] at h
    split at h
    · cases h
    · next item queue htake =>
      subst hreader
      have htaken := ScanStep.take hfetching htake
      refine .head htaken (List.append_nil _).symm ?_
      split at h
      · next answer' r₁ haccept =>
        -- The answer is given before the producer goes on, and the current row is the same then.
        rw [Option.some.injEq, Prod.mk.injEq] at h
        obtain ⟨rfl, hsettle⟩ := h
        obtain rfl : (r₁.settle s).1 = r' := by rw [hsettle]
        rw [Reader.get_settle]
        exact .head (.answer rfl haccept) rfl (reaches_settle rfl rfl s)
      · next r₁ haccept =>
        refine .head (.goOn rfl haccept) (List.append_nil _).symm ?_
        refine (reaches_settle rfl rfl s).trans ?_
        intro w₁ hreader₁ hconsumer₁
        exact ih hreader₁ hconsumer₁ h

theorem reaches_prepare {r r' : Reader} {s s' : Store} {spawn : Except String Unit}
    {answer : Except ScanError Unit} (hreader : w.reader = r) (hidle : w.consumer = .idle)
    (h : r.prepare s spawn = some (answer, r', s')) : w.Reaches r' .idle [] := by
  subst hreader
  by_cases hstate : w.reader.state = .created
  · cases answer with
    | error e =>
      obtain ⟨cause, hfails⟩ := Reader.failSetup_of_prepare hstate h
      cases hfails
      exact .head (@ScanStep.prepareFails w cause hidle hstate) (List.append_nil _).symm
        (.refl rfl hidle)
    | ok =>
      obtain ⟨scan, s₁, hopens⟩ := Reader.opened_of_prepare hstate h
      obtain rfl : ((w.reader.opened scan).settle s₁).1 = r' := by rw [hopens]
      exact .head (@ScanStep.prepare w scan hidle hstate) (List.append_nil _).symm
        (@reaches_settle { w with reader := w.reader.opened scan } _ _ rfl hidle s₁)
  · cases (Reader.prepare_of_begun hstate s spawn).symm.trans h
    exact .refl rfl hidle

theorem reaches_next {r r' : Reader} {s s' : Store} {spawn : Except String Unit}
    {answer : Except ScanError Bool} (hreader : w.reader = r) (hidle : w.consumer = .idle)
    (h : r.next s spawn = some (answer, r', s')) : w.Reaches r' .idle [.next answer r'.get] := by
  subst hreader
  rw [Reader.next] at h
  split at h
  · next r₁ hrow =>
    cases h
    exact .head (.advance hidle hrow) rfl (.refl rfl rfl)
  · next hrow =>
    split at h
    · next hstate =>
      exact .head (.fetch hidle hrow hstate) (List.append_nil _).symm (reaches_fetch rfl rfl h)
    · next hstate =>
      cases h
      exact .head (.refuse hidle hrow hstate) rfl (.refl rfl rfl)
    · next hstate =>
      split at h
      · cases h
      · next e r₁ s₁ hprepare =>
        cases h
        obtain ⟨cause, hfails⟩ := Reader.failSetup_of_prepare hstate hprepare
        cases hfails
        exact .head (@ScanStep.firstNextFails w cause hidle hrow hstate) rfl (.refl rfl rfl)
      · next r₁ s₁ hprepare =>
        obtain ⟨scan, s₂, hopens⟩ := Reader.opened_of_prepare hstate hprepare
        refine .head (@ScanStep.firstNext w scan hidle hrow hstate) (List.append_nil _).symm ?_
        refine (reaches_settle rfl rfl s₂).trans ?_
        intro w₁ hreader₁ hconsumer₁
        exact reaches_fetch (hreader₁.trans (congrArg Prod.fst hopens)) hconsumer₁ h
    · next hstate =>
      cases h
      exact .head (.noMore hidle hrow hstate) rfl (.refl rfl rfl)

/-- A reader that is closed has waited for the end of its producer. -/
theorem reaches_close {r : Reader} (htied : r.Tied) (hreader : w.reader = r)
    (hidle : w.consumer = .idle) (s : Store) : w.Reaches (r.close s).1 .idle [.close] := by
  subst hreader
  have hoff : w.reader.SameScan w.reader.calledOff := ⟨rfl, w.reader.feed.producer_finish⟩
  have hexits := Reader.settle_exits (htied.same hoff) rfl s
  refine .head (.close hidle) rfl ?_
  refine .head (.cancel rfl) (List.append_nil _).symm ?_
  refine (reaches_settle (r := w.reader.calledOff) rfl rfl s).trans ?_
  intro w₁ hreader₁ hdraining
  refine .head (.drain hdraining) (List.append_nil _).symm ?_
  have hclosed := ScanStep.closed (w := w₁.withFeed { w₁.feed with queue := w₁.feed.queue.drain.2 })
    hdraining (by rw [← hreader₁] at hexits; exact hexits)
  refine .head hclosed (List.append_nil _).symm (.refl ?_ rfl)
  rw [Reader.close_eq, ← hreader₁]
  rfl

end ScanWorld

namespace Reader

/-- A reader of a shard and the calls that it has answered.  Each call may find another store, and a
thread for the producer or none. -/
inductive History (shard : Shard) (timeoutSeconds : Word .u64) : Reader → List Call → Prop
  | new : History shard timeoutSeconds (.new shard timeoutSeconds) []
  | prepare {r r' : Reader} {calls : List Call} {s s' : Store} {spawn : Except String Unit}
    {answer : Except ScanError Unit} (h : History shard timeoutSeconds r calls)
    (hprepare : r.prepare s spawn = some (answer, r', s')) : History shard timeoutSeconds r' calls
  | next {r r' : Reader} {calls : List Call} {s s' : Store} {spawn : Except String Unit}
    {answer : Except ScanError Bool} (h : History shard timeoutSeconds r calls)
    (hnext : r.next s spawn = some (answer, r', s')) :
    History shard timeoutSeconds r' (calls ++ [.next answer r'.get])
  /-- The producer goes on, for what it waited for may have come. -/
  | settle {r : Reader} {calls : List Call} (h : History shard timeoutSeconds r calls) (s : Store) :
    History shard timeoutSeconds (r.settle s).1 calls
  | close {r : Reader} {calls : List Call} (h : History shard timeoutSeconds r calls) (s : Store) :
    History shard timeoutSeconds (r.close s).1 (calls ++ [.close])

/-- **Every history of calls is a run**: what the reader answers, it can answer in the relation. -/
theorem History.run {shard : Shard} {timeoutSeconds : Word .u64} {r : Reader} {calls : List Call}
    (h : History shard timeoutSeconds r calls) :
    ∃ w, ScanRun (.start shard timeoutSeconds) w ∧ w.reader = r ∧ w.consumer = .idle ∧
      w.log = calls := by
  have hreaches : (ScanWorld.start shard timeoutSeconds).Reaches r .idle calls := by
    induction h with
    | new => exact .refl rfl rfl
    | prepare _ hprepare ih =>
      have hrest := ih.trans fun w hreader hidle => w.reaches_prepare hreader hidle hprepare
      rwa [List.append_nil] at hrest
    | next _ hnext ih => exact ih.trans fun w hreader hidle => w.reaches_next hreader hidle hnext
    | settle _ s ih =>
      have hrest := ih.trans fun w hreader hidle => w.reaches_settle hreader hidle s
      rwa [List.append_nil] at hrest
    | @close r _ _ s ih =>
      -- The run so far says that a producer to wait for has a stream to cancel.
      have htied : r.Tied := by
        obtain ⟨w, hrun, hreader, -⟩ := ih
        rw [← hreader]
        exact ScanWorld.tied_run (fun _ => .inl rfl) hrun
      exact ih.trans fun w hreader hidle => w.reaches_close htied hreader hidle s
  exact hreaches

end Reader
end ShardScan
