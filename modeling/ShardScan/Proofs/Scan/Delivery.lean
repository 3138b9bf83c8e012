import ShardScan.Proofs.Scan.Closed

/-!
# What a reader delivers

A reader is live until it is closed, and closed from then on; every step of
either side keeps it so.  Of a run of any length it follows what the caller has
seen: a first part of the rows that were handed over, and all of them where the
reader said that there are no more.

## Main definitions

* `ScanWorld.Loads` — a step loads no block but one with the columns of the reader.

## Main results

* `ScanWorld.live_or_closed_step` — every step leaves a world live or closed.
* `reader_delivery` — what a reader delivers, over all interleavings.
-/

namespace ShardScan
namespace ScanWorld

section Steps

variable {w w' : ScanWorld} {names : List String}

/-- Steps do not take back what was handed over. -/
theorem handed_step (h : ScanStep w w') : w.handed <+: w'.handed := by
  cases h with
  | hand => exact List.prefix_append _ _
  | _ => exact List.prefix_rfl

theorem Stage.issue_of_failed {f : Feed} {status : Option Status} {items : List QueueItem}
    {resting : Prop} (h : Stage f status items resting) (hstate : f.state = .failed) :
    ∃ e, f.issue = some e ∧ e.isLost = false := by
  rcases h.ended_finish with ⟨hfinished, -⟩ | ⟨-, hissue⟩
  · rw [Feed.finish, if_pos hstate, hstate] at hfinished
    cases hfinished
  · rwa [Feed.finish, if_pos hstate] at hissue

/-- A reader that is not closed is not in the call that closes it. -/
theorem Live.not_closing (h : w.Live names) :
    w.consumer ≠ .closing ∧ w.consumer ≠ .draining := by
  rcases h.fetches with hidle | ⟨hfetching | ⟨item, hholding⟩, -⟩
  · simp [hidle]
  · simp [hfetching]
  · simp [hholding]

/-- A block in hands was handed over. -/
theorem Live.handed_of_holding (h : w.Live names) {b : Block}
    (hholding : w.consumer = .holding (some (.block b))) : b ∈ w.handed := by
  refine h.carried b ?_
  rw [inFlight_of_holding hholding]
  exact List.mem_cons_self

/-- A reader that loads only blocks with its columns has such a block in hands, or the marker. -/
theorem Live.held (h : w.Live names) {item : Option QueueItem}
    (hholding : w.consumer = .holding item)
    (hloads : ∀ b, item = some (.block b) → b.Conforms names) :
    (∃ b, item = some (.block b) ∧ ∃ positions, b.Conforms names ∧
      b.positions names = .ok positions) ∨ item = some .endOfScan := by
  have hsome : ∃ i, item = some i := by
    rcases h.fetches with hc | ⟨hc | ⟨i, hc⟩, -⟩ <;> rw [hholding] at hc <;> cases hc
    exact ⟨i, rfl⟩
  obtain ⟨i, rfl⟩ := hsome
  cases i with
  | endOfScan => exact .inr rfl
  | block b => exact .inl ⟨b, rfl, _, hloads b rfl, Block.positions_eq_ok (hloads b rfl)⟩

/-- The step takes no block out of the reader's hands but one with the columns. -/
def Loads (w w' : ScanWorld) (names : List String) : Prop :=
  ∀ b, w.consumer = .holding (some (.block b)) → w'.consumer = w.consumer ∨ b.Conforms names

theorem Live.loads (h : w.Live names) (hconforms : ∀ b ∈ w.handed, b.Conforms names)
    (w' : ScanWorld) : w.Loads w' names :=
  fun b hholding => .inr (hconforms b (h.handed_of_holding hholding))

theorem Loads.conforms (h : w.Loads w' names) {item : Option QueueItem}
    (hholding : w.consumer = .holding item) (hleft : ∀ b, w'.consumer ≠ .holding (some (.block b))) :
    ∀ b, item = some (.block b) → b.Conforms names := by
  rintro b rfl
  refine (h b hholding).resolve_left fun hsame => hleft b ?_
  rw [hsame, hholding]

/-- A step of a reader that is not closed. -/
theorem Live.step (h : w.Live names) (hstep : ScanStep w w') (hloads : w.Loads w' names) :
    w'.Live names ∨ w'.Closed names := by
  cases hstep with
  | hand hproducer hstep => exact .inl (h.hand hproducer hstep)
  | stop hproducer hstep => exact .inl (h.stop hproducer hstep)
  | proceed hstep => exact .inl (h.proceed hstep)
  | send hproducer => exact .inl (h.send hproducer)
  | breakOff hproducer hoff => simp [h.uncancelled, h.receiver] at hoff
  | prepare hidle hstate => exact .inl (h.opening hidle hstate _)
  | prepareFails hidle hstate => exact .inl (h.setupFails hstate _)
  | firstNext hidle hrow hstate =>
    exact .inl ((h.opening hidle hstate _).fetching hidle rfl (.inr rfl))
  | firstNextFails hidle hrow hstate =>
    refine .inl ((h.setupFails hstate _).answered hidle (by simp) ?_ (by simp))
    rintro e heq
    cases heq
    rfl
  | advance hidle hrow => exact .inl (h.advance hidle hrow)
  | fetch hidle hrow hstate =>
    exact .inl (h.fetching hidle ((Reader.advance?_eq_none_iff names).mp hrow) (.inr hstate))
  | refuse hidle hrow hstate =>
    refine .inl (h.answered hidle (by simp) ?_ (by simp))
    rintro e heq
    cases heq
    obtain ⟨e, hissue, he⟩ := h.stage.issue_of_failed hstate
    rw [Reader.latchedIssue, show w.reader.feed.issue = some e from hissue]
    exact he
  | noMore hidle hrow hstate =>
    exact .inl (h.answered hidle answer_false.1 answer_false.2 fun _ => hstate)
  | take hfetching htake => exact .inl (h.take hfetching htake)
  | @answer item answer r hholding haccept =>
    rcases h.held hholding (hloads.conforms hholding (by simp [ScanWorld.answered])) with
      ⟨b, rfl, positions, hb, hpositions⟩ | rfl
    · rw [Reader.accept_block (h.columns ▸ hpositions)] at haccept
      split at haccept
      · -- The first row of the block answers the call.
        next hrow =>
        cases haccept
        exact .inl ((h.load hholding hb hpositions).advance rfl hrow)
      · cases haccept
    · rcases h.meetMarker hholding with ⟨hprepared, hissue, hlive⟩ | ⟨e, hissue, he, hlive⟩
      · rw [Reader.accept_endOfScan, show w.reader.feed.issue = none from hissue] at haccept
        cases haccept
        refine .inl (hlive.answered rfl answer_false.1 answer_false.2 fun _ => ?_)
        show w.feed.finish.state = .finished
        rw [Feed.finish, hprepared, if_neg (by simp)]
      · rw [Reader.accept_endOfScan, show w.reader.feed.issue = some e from hissue] at haccept
        cases haccept
        refine .inl (hlive.answered rfl ?_ ?_ ?_)
        · simp
        · rintro e' heq
          cases heq
          exact he
        · simp
  | @goOn item r hholding haccept =>
    rcases h.held hholding (hloads.conforms hholding (by simp)) with
      ⟨b, rfl, positions, hb, hpositions⟩ | rfl
    · rw [Reader.accept_block (h.columns ▸ hpositions)] at haccept
      split at haccept
      · cases haccept
      · -- A block without rows is passed over.
        next hrow =>
        cases haccept
        exact .inl ((h.load hholding hb hpositions).fetching rfl
          ((Reader.advance?_eq_none_iff names).mp hrow) (.inl (by simp)))
    · rw [Reader.accept_endOfScan] at haccept
      split at haccept <;> cases haccept
  | close hidle => exact .inr h.close
  | cancel hclosing => exact absurd hclosing h.not_closing.1
  | drain hdraining => exact absurd hdraining h.not_closing.2
  | closed hdraining => exact absurd hdraining h.not_closing.2

/-- A step of a reader that is closed. -/
theorem Closed.step (h : w.Closed names) (hstep : ScanStep w w') : w'.Closed names := by
  have hstate : w.feed.state = .finished ∨ w.feed.state = .failed := h.latch.imp (·.1) (·.1)
  cases hstep with
  | hand hproducer hstep => exact h.produce _ (h.latch.step hstep) (by simp [hproducer])
  | stop hproducer hstep => exact h.produce_nothing (h.latch.step hstep) (by simp [hproducer])
  | proceed hstep =>
    refine h.produce_nothing (h.latch.step hstep) ?_
    intro hexited
    rw [Feed.step?_exited hexited] at hstep
    cases hstep
  | @send item hproducer =>
    refine h.produce_nothing ?_ (by simp [hproducer])
    cases item <;> exact h.latch.congr rfl rfl
  | breakOff hproducer => exact h.produce_nothing (h.latch.congr rfl rfl) (by simp [hproducer])
  | prepare hidle hcreated =>
    rcases hstate with hstate | hstate <;> cases hcreated.symm.trans hstate
  | prepareFails hidle hcreated =>
    rcases hstate with hstate | hstate <;> cases hcreated.symm.trans hstate
  | firstNext hidle hrow hcreated =>
    rcases hstate with hstate | hstate <;> cases hcreated.symm.trans hstate
  | firstNextFails hidle hrow hcreated =>
    rcases hstate with hstate | hstate <;> cases hcreated.symm.trans hstate
  | advance hidle hrow =>
    rw [Reader.advance?, h.cursor_eq_none hidle] at hrow
    cases hrow
  | fetch hidle hrow hprepared =>
    rcases hstate with hstate | hstate <;> cases hprepared.symm.trans hstate
  | refuse hidle hrow hfailed =>
    refine h.answered hidle (by simp) ?_
    rintro e heq
    cases heq
    rcases h.latch with ⟨hfinished, -⟩ | ⟨-, e, hissue, he⟩
    · cases hfailed.symm.trans hfinished
    · rw [Reader.latchedIssue, show w.reader.feed.issue = some e from hissue]
      exact he
  | noMore hidle hrow hfinished =>
    exact h.answered hidle answer_false.1 answer_false.2
  | take hfetching => exact absurd hfetching h.not_fetching
  | answer hholding => exact absurd hholding (h.not_holding _)
  | goOn hholding => exact absurd hholding (h.not_holding _)
  | close hidle =>
    have hlogged : Closed { w with log := w.log ++ [.close] } names := by
      refine h.logged (fun row heq => ?_) (fun e row heq => ?_) <;> cases heq
    exact hlogged.same (r := { w.reader with feed := w.feed.finish }) rfl h.latch.finish
      w.feed.producer_finish (.inl rfl)
  | cancel hclosing => exact h.same rfl (h.latch.congr rfl rfl) rfl (.inr (.inl rfl))
  | drain hdraining =>
    have hsame := h.same (r := (w.withFeed { w.feed with queue := w.feed.queue.drain.2 }).reader)
      rfl (h.latch.congr rfl rfl) rfl (.inr (.inl hdraining))
    exact hsame
  | closed hdraining => exact h.same rfl (h.latch.congr rfl rfl) rfl (.inr (.inr ⟨rfl, rfl⟩))

/-- **Every step leaves a world live or closed**, if the blocks handed over have the columns of the
reader. -/
theorem live_or_closed_step (h : w.Live names ∨ w.Closed names) (hstep : ScanStep w w')
    (hconforms : ∀ b ∈ w'.handed, b.Conforms names) : w'.Live names ∨ w'.Closed names := by
  rcases h with h | h
  · exact h.step hstep (h.loads (fun b hb => hconforms b ((handed_step hstep).subset hb)) w')
  · exact .inr (h.step hstep)

/-- A new reader is not closed. -/
theorem live_start (shard : Shard) (timeoutSeconds : Word .u64) :
    (start shard timeoutSeconds).Live shard.plan.outColumns where
  columns := rfl
  opened := List.not_mem_nil
  uncancelled := rfl
  receiver := rfl
  sender := ⟨fun _ hexited => Producer.noConfusion hexited, fun _ => rfl⟩
  bound := Reader.bound_of_cursor_eq_none rfl
  carried := fun _ hmem => absurd hmem List.not_mem_nil
  count := rfl
  flow := ⟨[], rfl, rfl⟩
  fetches := .inl rfl
  kept := fun _ _ h => absurd h List.not_mem_nil
  ended := fun _ h => absurd h List.not_mem_nil
  stage := .created rfl rfl rfl rfl ⟨rfl, rfl⟩

theorem live_or_closed_run {shard : Shard} {timeoutSeconds : Word .u64}
    (hrun : ScanRun (start shard timeoutSeconds) w)
    (hconforms : ∀ b ∈ w.handed, b.Conforms shard.plan.outColumns) :
    w.Live shard.plan.outColumns ∨ w.Closed shard.plan.outColumns := by
  generalize hstart : start shard timeoutSeconds = w₀ at hrun
  induction hrun with
  | refl =>
    rw [← hstart]
    exact .inl (live_start shard timeoutSeconds)
  | tail _ hstep ih =>
    have hbefore := ih fun b hb => hconforms b ((handed_step hstep).subset hb)
    exact live_or_closed_step hbefore hstep hconforms

end Steps

end ScanWorld

/-- **What a reader delivers**, over all interleavings of its calls with the steps of its producer
and over all streams whose blocks have the columns of the reader in some order.  Behind every
answer that there is a row, `get` gives one, and these are the first rows that the stream handed
over, in their order; as many are counted.  If the reader answered that there are no more rows and
had not been closed, it delivered every row and the stream ended well or was cancelled.  It never
claims that the producer was lost. -/
theorem reader_delivery (shard : Shard) (timeoutSeconds : Word .u64) (w : ScanWorld)
    (hrun : ScanRun (.start shard timeoutSeconds) w)
    (hconforms : ∀ b ∈ w.handed, b.Conforms shard.plan.outColumns) :
    (∃ delivered, w.rows = delivered.map .ok ∧ delivered <+: w.handedRows shard.plan.outColumns) ∧
      w.reader.rowsRead = w.rows.length ∧
      (w.EndsOpen → w.rows = (w.handedRows shard.plan.outColumns).map .ok ∧
        ∃ s, w.status = some s ∧ (s.isSuccess = true ∨ s.isCancelled = true)) ∧
      ∀ table row, .next (.error (.producerLost table)) row ∉ w.log := by
  have hcomplete : ∀ {names : List String}, w.Complete names →
      w.rows = (w.handedRows names).map .ok ∧
        ∃ s, w.status = some s ∧ (s.isSuccess = true ∨ s.isCancelled = true) := by
    intro names h
    obtain ⟨s, hstatus, hs⟩ := h.status
    exact ⟨h.rows, s, hstatus, Bool.or_eq_true_iff.mp hs⟩
  rcases ScanWorld.live_or_closed_run hrun hconforms with h | h
  · obtain ⟨delivered, hdelivered, hflow⟩ := h.flow
    refine ⟨⟨delivered, hdelivered, _, hflow.symm⟩, h.count, fun hends => ?_, ?_⟩
    · exact hcomplete (h.complete hends)
    · intro table row hlost
      cases h.kept _ row hlost
  · refine ⟨h.delivered, h.count, fun hends => hcomplete (h.ended hends), ?_⟩
    intro table row hlost
    cases h.kept _ row hlost

/-- A scan of two columns without bounds. -/
def albumShard : Shard where
  plan :=
    { connection := .ofList [("endpoint", "local"), ("Database", "/local")]
      tableName := "albums"
      tablePath := "/local/albums"
      tableSchema := .ofFields [.plain "id" (.int .int32) true, .plain "title" .utf8 false]
      outSchema := .ofFields [.plain "id" (.int .int32) true, .plain "title" .utf8 false]
      keyColumns := ["id"]
      keyTypes := [.optional (.int .int32)]
      planned := ⟨[], []⟩
      partitions := []
      queueDepth := 1
      sessionSeconds := 60
      rowLimit := none }
  index := 0
  range := .all

/-- A block with the columns of the scan the other way round. -/
def albumBlock : Block :=
  ⟨["title", "id"], [[.text "Blue", .int .int32 3], [.text "Hejira", .null]]⟩

/-- The stream hands over one block and ends well; the marker has to wait for room, and is sent
once the reader has taken the block. -/
theorem reader_delivery_album :
    ∃ w, ScanRun (.start albumShard 60) w ∧ w.handed = [albumBlock] ∧ w.EndsOpen ∧
      w.rows = [.ok [.int .int32 3, .utf8 "Blue"], .ok [.null, .utf8 "Hejira"]] := by
  have hrun : ∃ w, ScanRun (.start albumShard 60) w ∧ w.handed = [albumBlock] ∧
      w.log = [.next (.ok true) (.ok [.int .int32 3, .utf8 "Blue"]),
        .next (.ok true) (.ok [.null, .utf8 "Hejira"]), .next (.ok false) (.error .noCurrentRow)] :=
    ⟨_, ScanRun.refl _
      |>.tail (@ScanStep.prepare _ ⟨1, 0⟩ rfl rfl)
      |>.tail (@ScanStep.hand _ albumBlock _ rfl rfl)
      |>.tail (.fetch rfl rfl rfl)
      |>.tail (@ScanStep.stop _ .success _ rfl rfl)
      |>.tail (.proceed rfl)
      |>.tail (.proceed rfl)
      |>.tail (.take rfl rfl)
      |>.tail (.answer rfl rfl)
      |>.tail (.proceed rfl)
      |>.tail (.advance rfl rfl)
      |>.tail (.fetch rfl rfl rfl)
      |>.tail (.take rfl rfl)
      |>.tail (.answer rfl rfl), rfl, rfl⟩
  obtain ⟨w, hrun, hhanded, hlog⟩ := hrun
  have hconforms : albumBlock.Conforms albumShard.plan.outColumns := by
    refine ⟨.swap _ _ _, ?_⟩
    decide
  obtain ⟨-, -, hcomplete, -⟩ := reader_delivery albumShard 60 w hrun fun b hb =>
    List.mem_singleton.mp (hhanded ▸ hb) ▸ hconforms
  have hends : w.EndsOpen := by
    refine ⟨[.next (.ok true) _, .next (.ok true) _], _, [], hlog, ?_⟩
    intro hclose
    rcases List.mem_pair.mp hclose with h | h <;> cases h
  refine ⟨w, hrun, hhanded, hends, ?_⟩
  rw [(hcomplete hends).1, ScanWorld.handedRows, hhanded]
  rfl

end ShardScan
