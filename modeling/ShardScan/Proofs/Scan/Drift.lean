import Mathlib.Data.List.Perm.Subperm
import ShardScan.Proofs.Scan.Progress

/-!
# Blocks with other columns

A block drifts if its columns are not those of the reader in some order.  The
reader looks at the columns when it loads a block, before it hands over any row
of it, so what the caller has seen by then are the rows of the blocks in front,
and from then on there is the failure and no current row.

A reader that is not closed is in one of two states.  It is steady as long as
every block that it loaded had its columns; nothing has been lost then, and the
latch keeps no drift.  Loading the first block that drifts halts it, and it stays
so: unless the stream has failed before, the drift is latched, the current block
is gone, and every call is answered with the drift.

## Main definitions

* `Block.Drifts` — how the columns of a block differ from those of the reader.
* `ScanWorld.Steady`, `ScanWorld.Halted` — before and behind the first block that drifts.

## Main results

* `Block.exists_drifts_iff` — the blocks that drift are those with other columns.
* `ScanWorld.steady_or_halted_run` — a reader that is not closed is steady or halted.
* `schema_drift` — **what is delivered in front of a drift, and what is answered behind it.**
-/

namespace ShardScan

namespace Block

/-! ### How blocks drift -/

/-- How the columns of a block differ from the named ones: in their number, or else in the first name
that is not among them. -/
inductive Drifts (b : Block) (names : List String) : SchemaDrift → Prop
  | columnCount (hlength : b.columns.length ≠ names.length) :
    Drifts b names (.columnCount names.length b.columns.length)
  | lostColumn {before : List String} {name : String} {after : List String}
    (hlength : b.columns.length = names.length) (hnames : names = before ++ name :: after)
    (hfound : ∀ n ∈ before, n ∈ b.columns) (hlost : name ∉ b.columns) :
    Drifts b names (.lostColumn name)

variable {b : Block} {names : List String}

theorem columnIndex?_eq_none_iff {name : String} :
    b.columnIndex? name = none ↔ name ∉ b.columns := by
  rw [columnIndex?, List.findIdx?_eq_none_iff]
  constructor
  · intro hnone hmem
    exact absurd (hnone name hmem) (by simp)
  · rintro hlost c hc
    rw [beq_eq_false_iff_ne]
    rintro rfl
    exact hlost hc

/-- The columns are looked up in their order, and the first that is not there is reported. -/
theorem positions_eq_error_iff {drift : SchemaDrift} :
    b.positions names = .error drift ↔ b.Drifts names drift := by
  unfold positions
  split
  · next hlength =>
    rw [mapM_eq_error_iff]
    constructor
    · rintro ⟨before, name, after, hnames, hbefore, hfailed⟩
      split at hfailed
      · cases hfailed
      · next hnone =>
        cases hfailed
        refine .lostColumn hlength hnames (fun n hn => ?_) (columnIndex?_eq_none_iff.mp hnone)
        by_contra hlost
        obtain ⟨position, hposition⟩ := hbefore n hn
        rw [columnIndex?_eq_none_iff.mpr hlost] at hposition
        cases hposition
    · intro hdrifts
      cases hdrifts with
      | columnCount hne => exact absurd hlength hne
      | @lostColumn before name after _ hnames hfound hlost =>
        refine ⟨before, name, after, hnames, fun n hn => ?_, ?_⟩
        · exact ⟨_, by rw [columnIndex?_of_mem (hfound n hn)]⟩
        · rw [columnIndex?_eq_none_iff.mpr hlost]
  · next hlength =>
    constructor
    · rintro ⟨⟩
      exact .columnCount hlength
    · intro hdrifts
      cases hdrifts with
      | columnCount => rfl
      | lostColumn heq => exact absurd heq hlength

theorem Drifts.unique {drift drift' : SchemaDrift} (h : b.Drifts names drift)
    (h' : b.Drifts names drift') : drift = drift' := by
  have hpositions := positions_eq_error_iff.mpr h
  exact Except.error.inj (hpositions.symm.trans (positions_eq_error_iff.mpr h'))

/-- **A block drifts** just when its columns are not those of the reader in some order. -/
theorem exists_drifts_iff (hnodup : names.Nodup) :
    (∃ drift, b.Drifts names drift) ↔ ¬ b.columns.Perm names := by
  constructor
  · rintro ⟨drift, hdrifts⟩ hperm
    cases hdrifts with
    | columnCount hlength => exact hlength hperm.length_eq
    | lostColumn _ hnames _ hlost =>
      refine hlost (hperm.mem_iff.mpr ?_)
      rw [hnames]
      exact List.mem_append_right _ List.mem_cons_self
  · intro hother
    by_cases hlength : b.columns.length = names.length
    · cases hfirst : names.find? fun name => name ∉ b.columns with
      | some name =>
        obtain ⟨hlost, before, after, hnames, hfound⟩ := List.find?_eq_some_iff_append.mp hfirst
        exact ⟨_, .lostColumn hlength hnames (by simpa using hfound) (by simpa using hlost)⟩
      | none =>
        -- All names are there, and without repetition they are as many as the columns.
        have hsubset : names ⊆ b.columns := by
          intro name hname
          simpa using List.find?_eq_none.mp hfirst name hname
        have hperm := (List.subperm_of_subset hnodup hsubset).perm_of_length_le hlength.le
        exact absurd hperm.symm hother
    · exact ⟨_, .columnCount hlength⟩

/-- A block whose rows are as wide as it has columns conforms or drifts. -/
theorem conforms_or_drifts (hnodup : names.Nodup)
    (hwidth : ∀ row ∈ b.rows, row.length = b.columns.length) :
    b.Conforms names ∨ ∃ drift, b.positions names = .error drift := by
  by_cases hperm : b.columns.Perm names
  · exact .inl ⟨hperm, hwidth⟩
  · obtain ⟨drift, hdrifts⟩ := (exists_drifts_iff hnodup).mpr hperm
    exact .inr ⟨drift, positions_eq_error_iff.mpr hdrifts⟩

end Block

/-! ### The first item without a property -/

/-- Items that all have a property end before the first one without it. -/
theorem prefix_of_first {α : Type} {P : α → Prop} {front rest before after : List α} {a : α}
    (h : front ++ rest = before ++ a :: after) (hfront : ∀ x ∈ front, P x) (ha : ¬ P a) :
    front <+: before := by
  rcases List.append_eq_append_iff.mp h with ⟨between, hbefore, -⟩ | ⟨between, hsplit, hrest⟩
  · exact ⟨between, hbefore.symm⟩
  · cases between with
    | nil => exact ⟨[], by rw [hsplit, List.append_nil, List.append_nil]⟩
    | cons first between =>
      rw [List.cons_append, List.cons.injEq] at hrest
      refine absurd (hfront a ?_) ha
      rw [hsplit, hrest.1]
      exact List.mem_append_right _ List.mem_cons_self

/-- There is only one first item without a property. -/
theorem eq_of_first {α : Type} {P : α → Prop} {before before' after after' : List α} {a a' : α}
    (h : before' ++ a' :: after' = before ++ a :: after) (hbefore : ∀ x ∈ before, P x)
    (ha : ¬ P a) (hbefore' : ∀ x ∈ before', P x) (ha' : ¬ P a') : before' = before ∧ a' = a := by
  have hle := prefix_of_first h hbefore' ha
  have hge := prefix_of_first h.symm hbefore ha'
  obtain rfl := hle.eq_of_length_le hge.length_le
  exact ⟨rfl, (List.cons.inj (List.append_cancel_left h)).1⟩

/-! ### Calls -/

namespace Call

/-- A call is answered with a row. -/
def delivers (row : List Scalar) : Call := .next (.ok true) (.ok row)

/-- A call is answered with a failure, and there is no current row. -/
def fails (e : ScanError) : Call := .next (.error e) (.error .noCurrentRow)

end Call

namespace ScanWorld

variable {w w' : ScanWorld} {shard : Shard} {names : List String}

/-- Calls that are answered neither with a failure nor with the end of the rows are answered with
rows. -/
theorem log_eq_map_rows (hopen : .close ∉ w.log) (herrors : w.errors = [])
    (hends : ∀ row, .next (.ok false) row ∉ w.log) : w.log = w.rows.map (.next (.ok true)) := by
  unfold errors at herrors
  unfold rows
  revert hopen herrors hends
  induction w.log with
  | nil => exact fun _ _ _ => rfl
  | cons call log ih =>
    intro hopen herrors hends
    rw [List.mem_cons, not_or] at hopen
    match call, hopen, herrors, hends with
    | .close, hopen, _, _ => exact absurd rfl hopen.1
    | .next (.error e) row, _, herrors, _ => cases herrors
    | .next (.ok false) row, _, _, hends => exact absurd List.mem_cons_self (hends row)
    | .next (.ok true) row, hopen, herrors, hends =>
      refine congrArg (List.cons _) (ih hopen.2 herrors fun row' hrow' => ?_)
      exact hends row' (List.mem_cons_of_mem _ hrow')

/-- Steps do not take back how the stream ended. -/
theorem status_step (h : w.Tells shard) (hstep : ScanStep w w') {s : Status}
    (hstatus : w.status = some s) : w'.status = some s := by
  have hunended : w.feed.isStreaming = true → False := by
    intro hstreaming
    cases hstatus.symm.trans (h.agrees.unended hstreaming)
  cases hstep with
  | stop hproducer => exact (hunended (by simp [Feed.isStreaming, hproducer])).elim
  | breakOff hproducer => exact (hunended (by simp [Feed.isStreaming, hproducer])).elim
  | _ => exact hstatus

/-! ### The latch -/

/-- The producer finds no block to drift. -/
theorem drift_of_produces {f f' : Feed} {blocks : List Block} {ended : Option Status}
    (h : f.Produces blocks ended f') {table : String} {drift : SchemaDrift}
    (hissue : f'.issue = some (.schemaDrift table drift)) :
    f.issue = some (.schemaDrift table drift) := by
  rcases h.latch with ⟨hsame, -⟩ | ⟨s, -, -, -, hfailed, -⟩
  · exact hsame.symm.trans hissue
  · cases hfailed.symm.trans hissue

/-- Whoever finds a block to drift calls the scan off. -/
theorem drift_step (hstep : ScanStep w w') {table : String} {drift : SchemaDrift}
    (hissue : w'.feed.issue = some (.schemaDrift table drift)) :
    w.feed.issue = some (.schemaDrift table drift) ∨ w'.feed.cancelled = true := by
  have hsetup : ∀ {cause : StoreError},
      (w.reader.failSetup cause).2.feed.issue = some (.schemaDrift table drift) →
      w.feed.issue = some (.schemaDrift table drift) := by
    intro cause hlatch
    cases hbefore : w.reader.feed.issue with
    | none =>
      rw [Reader.failSetup, Feed.latch_of_none hbefore] at hlatch
      cases hlatch
    | some e =>
      rw [Reader.failSetup, Feed.latch_of_some hbefore] at hlatch
      exact hlatch
  cases hstep with
  | hand hproducer hstep =>
    rw [Feed.step?, hproducer] at hstep
    cases hstep
    exact .inl (drift_of_produces (Feed.produces_offerBlock hproducer _) hissue)
  | stop hproducer hstep =>
    rw [Feed.step?, hproducer] at hstep
    cases hstep
    exact .inl hissue
  | proceed hstep => exact .inl (drift_of_produces (Feed.produces_step? hstep) hissue)
  | send hproducer => exact .inl (drift_of_produces (Feed.produces_enqueue hproducer) hissue)
  | prepareFails => exact .inl (hsetup hissue)
  | firstNextFails => exact .inl (hsetup hissue)
  | advance _ hrow =>
    obtain ⟨cursor, rfl⟩ := Reader.eq_of_advance? hrow
    exact .inl hissue
  | @answer item answer r _ haccept =>
    rcases item with - | (b | -)
    · cases haccept
      exact .inr rfl
    · cases hpositions : b.positions w.reader.outColumns with
      | error drift =>
        rw [Reader.accept_drift hpositions] at haccept
        cases haccept
        exact .inr rfl
      | ok positions =>
        rw [Reader.accept_block hpositions] at haccept
        split at haccept <;> cases haccept
        next hrow =>
        obtain ⟨cursor, rfl⟩ := Reader.eq_of_advance? hrow
        exact .inl hissue
    · rw [Reader.accept_endOfScan] at haccept
      split at haccept
      · cases haccept
        exact .inl hissue
      · cases haccept
        exact .inl (w.feed.issue_finish.symm.trans hissue)
  | goOn _ haccept =>
    exact .inl ((congrArg Feed.issue (Reader.feed_of_goesOn haccept)).symm.trans hissue)
  | close => exact .inl (w.feed.issue_finish.symm.trans hissue)
  | _ => exact .inl hissue

/-! ### In front of a drift -/

/-- What holds of an open reader that has loaded no block with other columns. -/
structure Steady (w : ScanWorld) (names : List String) : Prop where
  live : w.Live names
  loaded : ∃ loaded, w.handed = loaded ++ w.blocksInFlight ∧ ∀ b ∈ loaded, b.Conforms names
  undrifted : ∀ table drift, w.feed.issue ≠ some (.schemaDrift table drift)

theorem steady_start (shard : Shard) (timeoutSeconds : Word .u64) :
    (start shard timeoutSeconds).Steady shard.plan.outColumns where
  live := live_start shard timeoutSeconds
  loaded := ⟨[], rfl, fun _ hb => absurd hb List.not_mem_nil⟩
  undrifted := fun _ _ => by simp [start, Reader.new, feed]

/-- A step that loads no block with other columns. -/
theorem Steady.step (h : w.Steady names) (hstep : ScanStep w w') (hopen : .close ∉ w'.log)
    (hloads : w.Loads w' names) : w'.Steady names := by
  have hlive : w'.Live names :=
    (h.live.step hstep hloads).resolve_right fun hclosed => hopen hclosed.closed
  obtain ⟨loaded, hhanded, hconforms⟩ := h.loaded
  refine ⟨hlive, ?_, fun table drift hissue => ?_⟩
  · cases h.live.moves_step hstep hopen hloads with
    | puts added hadded hflight =>
      refine ⟨loaded, ?_, hconforms⟩
      rw [hadded, hhanded, hflight, List.append_assoc]
    | @loads b hholding hleft hsame hflight =>
      refine ⟨loaded ++ [b], ?_, fun b' hb' => ?_⟩
      · rw [hsame, hhanded, hflight, List.append_assoc]
        rfl
      · rcases List.mem_append.mp hb' with hb' | hb'
        · exact hconforms b' hb'
        · cases List.mem_singleton.mp hb'
          exact (hloads b hholding).resolve_left hleft
  · rcases drift_step hstep hissue with hbefore | hcancelled
    · exact h.undrifted table drift hbefore
    · cases hcancelled.symm.trans hlive.uncancelled

/-- A reader that is finished has met the marker. -/
theorem Live.of_finished (h : w.Live names) (hfinished : w.feed.state = .finished) :
    w.inFlight = [] ∧ w.consumer = .idle ∧ ∃ s, w.status = some s := by
  have hstage := h.stage
  cases hstage with
  | met _ hverdict hitems hresting =>
    cases hverdict with
    | harmless _ _ hstatus => exact ⟨hitems, hresting.1, _, hstatus⟩
    | failed hstate => cases hfinished.symm.trans hstate
  | created _ h => cases hfinished.symm.trans h
  | refused _ h => cases hfinished.symm.trans h
  | flowing _ _ h => cases hfinished.symm.trans h
  | ending _ _ h => cases hfinished.symm.trans h
  | marking _ _ h => rcases h.state_eq with h | h <;> cases hfinished.symm.trans h
  | marked _ _ h => rcases h.state_eq with h | h <;> cases hfinished.symm.trans h

/-- **What was answered in front of a drift**: the rows of the blocks loaded, but for the pending
ones of the last. -/
theorem Steady.log_eq (h : w.Steady names) (htells : w.Tells shard) (hissue : w.feed.issue = none)
    (hunfinished : w.feed.state ≠ .finished) {loaded : List Block}
    (hhanded : w.handed = loaded ++ w.blocksInFlight) :
    ∃ delivered, w.log = delivered.map Call.delivers ∧
      loaded.flatMap (·.projected names) = delivered ++ w.reader.pending names := by
  have hlog := log_eq_map_rows h.live.opened (htells.reported.errors_eq_nil hissue)
    fun row hrow => hunfinished (h.live.ended row hrow)
  obtain ⟨delivered, hdelivered, hflow⟩ := h.live.flow
  refine ⟨delivered, ?_, ?_⟩
  · rw [hlog, hdelivered, List.map_map]
    rfl
  · rw [QueueItem.flatMap_rows, handedRows, hhanded, List.flatMap_append,
      ← List.append_assoc] at hflow
    exact List.append_cancel_right hflow

/-! ### Behind a drift -/

/-- What holds of an open reader that has found a block to drift: the rows of the blocks before it
were delivered, and every other call was answered with the drift. -/
structure Halted (w : ScanWorld) (shard : Shard) (before : List Block) (b : Block)
    (drift : SchemaDrift) : Prop where
  handed : before ++ [b] <+: w.handed
  conforms : ∀ c ∈ before, c.Conforms shard.plan.outColumns
  drifts : b.Drifts shard.plan.outColumns drift
  idle : w.consumer = .idle
  cursor : w.reader.cursor = none
  state : w.feed.state = .failed
  issue : w.feed.issue = some (.schemaDrift shard.plan.tablePath drift)
  log : ∃ n, w.log =
    (before.flatMap (·.projected shard.plan.outColumns)).map Call.delivers ++
      List.replicate n (Call.fails (.schemaDrift shard.plan.tablePath drift))

variable {before : List Block} {b : Block} {drift : SchemaDrift}

/-- Loading a block with other columns halts a reader whose stream has not failed. -/
theorem Steady.halts (h : w.Steady shard.plan.outColumns) (htells : w.Tells shard)
    (hharmless : ∀ s ∈ w.status, s.isHarmless = true)
    (hholding : w.consumer = .holding (some (.block b)))
    (hdrifts : b.Drifts shard.plan.outColumns drift) :
    ∃ before, (w.answered (.error (.schemaDrift w.feed.table drift))
      (w.reader.fail (.schemaDrift w.feed.table drift))).Halted shard before b drift := by
  -- In the call that took the block nothing has failed but the stream, and that has not.
  have hissue : w.feed.issue = none := by
    by_contra hne
    have hplace := htells.place
    rw [hholding] at hplace
    obtain ⟨table, range, s, hs⟩ := hplace.2.2 hne
    obtain ⟨-, -, hstatus, hharmful⟩ := (htells.cause _ hs).of_failed
    cases hharmful.symm.trans (hharmless s hstatus)
  have hunfinished : w.feed.state ≠ .finished := by
    intro hfinished
    obtain ⟨-, hidle, -⟩ := h.live.of_finished hfinished
    cases hidle.symm.trans hholding
  obtain ⟨loaded, hhanded, hconforms⟩ := h.loaded
  obtain ⟨delivered, hlog, hdelivered⟩ := h.log_eq htells hissue hunfinished hhanded
  rw [h.live.pending_eq_nil (by simp [hholding]), List.append_nil] at hdelivered
  have hflight : w.blocksInFlight =
      b :: (w.feed.queue.items ++ w.feed.producer.waitingItems).filterMap QueueItem.block? := by
    rw [blocksInFlight, inFlight_of_holding hholding]
    rfl
  have hfail : (w.reader.fail (.schemaDrift w.feed.table drift)).feed =
      { w.feed with
        issue := some (.schemaDrift w.feed.table drift), state := .failed, cancelled := true } := by
    have hnone : w.reader.feed.issue = none := hissue
    rw [Reader.fail, Feed.latch_of_none hnone]
    rfl
  refine ⟨loaded,
    { handed := ?_, conforms := hconforms, drifts := hdrifts, idle := rfl, cursor := rfl
      state := congrArg Feed.state hfail, issue := ?_, log := ⟨1, ?_⟩ }⟩
  · refine ⟨(w.feed.queue.items ++ w.feed.producer.waitingItems).filterMap QueueItem.block?, ?_⟩
    show _ = w.handed
    rw [hhanded, hflight, List.append_assoc]
    rfl
  · rw [← htells.table]
    exact congrArg Feed.issue hfail
  · rw [hdelivered, ← hlog, ← htells.table]
    rfl

/-- **A halted reader stays so** until it is closed. -/
theorem Halted.step (h : w.Halted shard before b drift) (hstep : ScanStep w w')
    (hopen : .close ∉ w'.log) : w'.Halted shard before b drift := by
  have hhanded := h.handed.trans (handed_step hstep)
  have hissue := (remembers_step hstep).issue _ h.issue
  have hstate := (remembers_step hstep).failed h.state
  -- The producer changes neither the reader's place nor what was answered.
  have hproduce : w'.consumer = w.consumer → w'.reader.cursor = w.reader.cursor →
      w'.log = w.log → w'.Halted shard before b drift := by
    intro hconsumer hcursor hlog
    exact
      { handed := hhanded, conforms := h.conforms, drifts := h.drifts
        idle := hconsumer.trans h.idle, cursor := hcursor.trans h.cursor, state := hstate
        issue := hissue, log := by rw [hlog]; exact h.log }
  have hbusy : ∀ {consumer : Consumer}, w.consumer = consumer → consumer ≠ .idle →
      w'.Halted shard before b drift :=
    fun hconsumer hne => absurd (hconsumer.symm.trans h.idle) hne
  have hfailed : ∀ {state : ReaderState}, w.reader.state = state → state ≠ .failed →
      w'.Halted shard before b drift :=
    fun heq hne => absurd (heq.symm.trans h.state) hne
  cases hstep with
  | hand => exact hproduce rfl rfl rfl
  | stop => exact hproduce rfl rfl rfl
  | proceed => exact hproduce rfl rfl rfl
  | send => exact hproduce rfl rfl rfl
  | breakOff => exact hproduce rfl rfl rfl
  | prepare _ hcreated => exact hfailed hcreated (by simp)
  | prepareFails _ hcreated => exact hfailed hcreated (by simp)
  | firstNext _ _ hcreated => exact hfailed hcreated (by simp)
  | firstNextFails _ _ hcreated => exact hfailed hcreated (by simp)
  | advance _ hrow =>
    rw [Reader.advance?, h.cursor] at hrow
    cases hrow
  | fetch _ _ hprepared => exact hfailed hprepared (by simp)
  | refuse =>
    obtain ⟨n, hlog⟩ := h.log
    refine
      { handed := hhanded, conforms := h.conforms, drifts := h.drifts, idle := rfl
        cursor := h.cursor, state := h.state, issue := h.issue, log := ⟨n + 1, ?_⟩ }
    have hlatched : w.reader.latchedIssue = .schemaDrift shard.plan.tablePath drift := by
      rw [Reader.latchedIssue, show w.reader.feed.issue = _ from h.issue]
      rfl
    have hget : w.reader.get = .error .noCurrentRow := by rw [Reader.get, h.cursor]
    rw [ScanWorld.answered, hlog, hlatched, hget, List.replicate_succ', ← List.append_assoc]
    rfl
  | noMore _ _ hfinished => exact hfailed hfinished (by simp)
  | take hfetching => exact hbusy hfetching (by simp)
  | answer hholding => exact hbusy hholding (by simp)
  | goOn hholding => exact hbusy hholding (by simp)
  | close => exact absurd (List.mem_append_right _ List.mem_cons_self) hopen
  | cancel hclosing => exact hbusy hclosing (by simp)
  | drain hdraining => exact hbusy hdraining (by simp)
  | closed hdraining => exact hbusy hdraining (by simp)

/-! ### Runs -/

/-- A steady reader stays so or halts. -/
theorem Steady.step_or_halts (h : w.Steady shard.plan.outColumns) (htells : w.Tells shard)
    (hstep : ScanStep w w') (hopen : .close ∉ w'.log) (hnodup : shard.plan.outColumns.Nodup)
    (hwidth : ∀ b ∈ w.handed, ∀ row ∈ b.rows, row.length = b.columns.length)
    (hharmless : ∀ s ∈ w.status, s.isHarmless = true) :
    w'.Steady shard.plan.outColumns ∨ ∃ before b drift, w'.Halted shard before b drift := by
  by_cases hloads : w.Loads w' shard.plan.outColumns
  · exact .inl (h.step hstep hopen hloads)
  · unfold Loads at hloads
    push Not at hloads
    obtain ⟨b, hholding, hleft, hother⟩ := hloads
    obtain ⟨drift, hdrift⟩ := (Block.conforms_or_drifts hnodup
      (hwidth b (h.live.handed_of_holding hholding))).resolve_left hother
    have haccept := Reader.accept_drift (h.live.columns ▸ hdrift)
    have hidle : w.consumer ≠ .idle := by simp [hholding]
    -- The step takes the block out of the reader's hands, so it answers the call with the drift.
    cases hstep with
    | answer hholding' haccept' =>
      cases hholding.symm.trans hholding'
      cases haccept.symm.trans haccept'
      obtain ⟨before, hhalted⟩ := h.halts htells hharmless hholding
        (Block.positions_eq_error_iff.mp hdrift)
      exact .inr ⟨before, b, drift, hhalted⟩
    | goOn hholding' haccept' =>
      cases hholding.symm.trans hholding'
      cases haccept.symm.trans haccept'
    | firstNext h' => exact absurd h' hidle
    | firstNextFails h' => exact absurd h' hidle
    | advance h' => exact absurd h' hidle
    | fetch h' => exact absurd h' hidle
    | refuse h' => exact absurd h' hidle
    | noMore h' => exact absurd h' hidle
    | take hfetching => cases hholding.symm.trans hfetching
    | close h' => exact absurd h' hidle
    | cancel hclosing => cases hholding.symm.trans hclosing
    | closed hdraining => cases hholding.symm.trans hdraining
    | _ => exact absurd rfl hleft

/-- **A reader that is not closed is steady or halted**, if its stream does not fail. -/
theorem steady_or_halted_run {timeoutSeconds : Word .u64} (hnodup : shard.plan.outColumns.Nodup)
    (hrun : ScanRun (start shard timeoutSeconds) w) (hopen : .close ∉ w.log)
    (hwidth : ∀ b ∈ w.handed, ∀ row ∈ b.rows, row.length = b.columns.length)
    (hharmless : ∀ s ∈ w.status, s.isHarmless = true) :
    w.Steady shard.plan.outColumns ∨ ∃ before b drift, w.Halted shard before b drift := by
  generalize hstart : start shard timeoutSeconds = w₀ at hrun
  induction hrun with
  | refl =>
    rw [← hstart]
    exact .inl (steady_start shard timeoutSeconds)
  | tail hbefore hstep ih =>
    have htells := tells_run (hstart ▸ hbefore)
    have hopen' := fun hclose => hopen ((log_step hstep).subset hclose)
    have hwidth' := fun b hb => hwidth b ((handed_step hstep).subset hb)
    have hharmless' := fun s hs => hharmless s (status_step htells hstep hs)
    rcases ih hopen' hwidth' hharmless' with h | ⟨before, b, drift, h⟩
    · exact h.step_or_halts htells hstep hopen hnodup hwidth' hharmless'
    · exact .inr ⟨before, b, drift, h.step hstep hopen⟩

/-- A steady reader whose scan was set up and whose stream does not fail knows of no failure. -/
theorem Steady.issue_eq_none (h : w.Steady names) (htells : w.Tells shard)
    {blocks : List Block} (hstream : w.Streams blocks) : w.feed.issue = none := by
  by_contra hne
  obtain ⟨e, hissue⟩ := Option.ne_none_iff_exists'.mp hne
  cases htells.cause e hissue with
  | setup cause => exact hstream.setUp _ _ hissue
  | stream hstatus hharmful => cases hharmful.symm.trans (hstream.status _ hstatus).1
  | drift hdrifted =>
    obtain ⟨b, -, drift, -, rfl⟩ := hdrifted
    exact h.undrifted _ _ hissue

/-- Without a block that drifts no drift is reported. -/
theorem Tells.notMem_log (h : w.Tells shard)
    (hfits : ∀ b ∈ w.handed, ∀ drift, ¬ b.Drifts shard.plan.outColumns drift) (table : String)
    (drift : SchemaDrift) (row : Except ScanError (List Scalar)) :
    .next (.error (.schemaDrift table drift)) row ∉ w.log := by
  intro hlog
  have hnone : ∀ e, ¬ w.Drifted shard e := by
    rintro e ⟨b, hb, drift, hdrift, -⟩
    exact hfits b hb drift (Block.positions_eq_error_iff.mp hdrift)
  have herror : .schemaDrift table drift ∈ w.errors := List.mem_filterMap.mpr ⟨_, hlog, rfl⟩
  have hissue := h.reported.latched (fun e _ => hnone e) _ herror
  cases h.cause _ hissue with
  | drift hdrifted => exact hnone _ hdrifted

/-- A steady reader has delivered rows of the blocks in front of one with other columns, and nothing
else. -/
theorem Steady.log_begins (h : w.Steady names) (htells : w.Tells shard) {blocks after : List Block}
    (hstream : w.Streams blocks) (hblocks : blocks = before ++ b :: after)
    (hother : ¬ b.Conforms names) :
    w.log <+: (before.flatMap (·.projected names)).map Call.delivers := by
  obtain ⟨loaded, hhanded, hconforms⟩ := h.loaded
  obtain ⟨rest, hrest⟩ := hstream.handed
  rw [hhanded, List.append_assoc, hblocks] at hrest
  -- At the end of the stream the other block would have been loaded.
  have hunfinished : w.feed.state ≠ .finished := by
    intro hfinished
    obtain ⟨hflight, -, s, hstatus⟩ := h.live.of_finished hfinished
    have hall := (h.live.status_of_streams hstream s hstatus).2
    rw [hhanded, blocksInFlight, hflight, List.filterMap_nil, List.append_nil, hblocks] at hall
    refine hother (hconforms b ?_)
    rw [hall]
    exact List.mem_append_right _ List.mem_cons_self
  obtain ⟨delivered, hlog, hdelivered⟩ :=
    h.log_eq htells (h.issue_eq_none htells hstream) hunfinished hhanded
  obtain ⟨others, rfl⟩ := prefix_of_first hrest hconforms hother
  refine ⟨(w.reader.pending names ++ others.flatMap (·.projected names)).map Call.delivers, ?_⟩
  rw [hlog, ← List.map_append, List.flatMap_append, hdelivered, List.append_assoc]

/-- A halted reader has halted at the first block with other columns. -/
theorem Halted.eq_first (h : w.Halted shard before b drift) {blocks : List Block}
    (hhanded : w.handed <+: blocks) {before' after' : List Block} {b' : Block}
    (hblocks : blocks = before' ++ b' :: after')
    (hconforms : ∀ c ∈ before', c.Conforms shard.plan.outColumns)
    (hother : ¬ b'.Conforms shard.plan.outColumns) : before = before' ∧ b = b' := by
  obtain ⟨after, hafter⟩ := h.handed.trans hhanded
  rw [List.append_assoc, List.singleton_append, hblocks] at hafter
  refine eq_of_first hafter hconforms hother h.conforms fun hb => ?_
  have hpositions := Block.positions_eq_error_iff.mpr h.drifts
  cases hpositions.symm.trans (Block.positions_eq_ok hb)

end ScanWorld

/-- **Blocks with other columns**, over all interleavings of a reader that is not closed with the
producer of a stream that ends well, for output columns without repetition and blocks whose rows are
as wide as the block has columns.  If every block has the columns in some order, no drift is ever
reported.  Otherwise let `b` be the first block that has not: the calls are answered with the rows
of the blocks in front of it, each value under its own name, and from then on with the drift of `b`
and without a current row.  And every call is answered, whichever side makes the next step, if the
queue takes an item at all. -/
theorem schema_drift (shard : Shard) (timeoutSeconds : Word .u64) (blocks : List Block)
    (w : ScanWorld) (hnodup : shard.plan.outColumns.Nodup)
    (hwidth : ∀ b ∈ blocks, ∀ row ∈ b.rows, row.length = b.columns.length)
    (hrun : ScanRun (.start shard timeoutSeconds) w) (hopen : .close ∉ w.log)
    (hstream : w.Streams blocks) :
    ((∀ b ∈ blocks, b.columns.Perm shard.plan.outColumns) →
      ∀ table drift row, .next (.error (.schemaDrift table drift)) row ∉ w.log) ∧
    (∀ before b after, blocks = before ++ b :: after →
      (∀ c ∈ before, c.columns.Perm shard.plan.outColumns) →
      ¬ b.columns.Perm shard.plan.outColumns →
      ∃ drift, b.Drifts shard.plan.outColumns drift ∧ ∃ n, w.log <+:
        (before.flatMap (·.projected shard.plan.outColumns)).map Call.delivers ++
          List.replicate n (Call.fails (.schemaDrift shard.plan.tablePath drift))) ∧
    (0 < shard.plan.queueDepth.val → w.InevitablyAnswered blocks) := by
  have hsteady : ∀ {w : ScanWorld}, ScanRun (.start shard timeoutSeconds) w → .close ∉ w.log →
      w.Streams blocks → w.Steady shard.plan.outColumns ∨
        ∃ before b drift, w.Halted shard before b drift := by
    intro w hrun hopen hstream
    exact ScanWorld.steady_or_halted_run hnodup hrun hopen
      (fun b hb => hwidth b (hstream.handed.subset hb)) fun s hs => (hstream.status s hs).1
  have htells := ScanWorld.tells_run hrun
  refine ⟨fun hfits table drift row hlog => ?_, fun before b after hblocks hbefore hother => ?_,
    fun hdepth => ?_⟩
  · refine htells.notMem_log (fun b hb drift hdrifts => ?_) table drift row hlog
    exact (Block.exists_drifts_iff hnodup).mp ⟨drift, hdrifts⟩ (hfits b (hstream.handed.subset hb))
  · obtain ⟨drift, hdrifts⟩ := (Block.exists_drifts_iff hnodup).mpr hother
    refine ⟨drift, hdrifts, ?_⟩
    have hconforms : ∀ c ∈ before, c.Conforms shard.plan.outColumns := by
      intro c hc
      refine ⟨hbefore c hc, hwidth c ?_⟩
      rw [hblocks]
      exact List.mem_append_left _ hc
    have hother' : ¬ b.Conforms shard.plan.outColumns := fun hb => hother hb.columns
    rcases hsteady hrun hopen hstream with h | ⟨before', b', drift', h⟩
    · exact ⟨0, by simpa using h.log_begins htells hstream hblocks hother'⟩
    · obtain ⟨rfl, rfl⟩ := h.eq_first hstream.handed hblocks hconforms hother'
      obtain ⟨n, hlog⟩ := h.log
      rw [Block.Drifts.unique hdrifts h.drifts]
      exact ⟨n, hlog ▸ List.prefix_rfl⟩
  · refine ScanWorld.inevitablyAnswered hdepth ?_ hrun hopen hstream
    intro w' hrun' hopen' hstream'
    rcases hsteady hrun' hopen' hstream' with h | ⟨before, b, drift, h⟩
    · exact .inr h.live
    · exact .inl h.idle

/-- A block of which a column was renamed. -/
def renamedBlock : Block := ⟨["title", "number"], [[.text "Clouds", .int .int32 7]]⟩

/-- The stream hands over an album block and one with a renamed column, and ends well.  The reader
reports the column twice, and its call is answered in the middle of the scan as well. -/
theorem schema_drift_album :
    ∃ w, ScanRun (.start albumShard 60) w ∧ w.Streams [albumBlock, renamedBlock] ∧
      w.rows = [.ok [.int .int32 3, .utf8 "Blue"], .ok [.null, .utf8 "Hejira"]] ∧
      w.errors.length = 2 ∧
      (∀ e ∈ w.errors, e = .schemaDrift "/local/albums" (.lostColumn "id")) ∧
      w.InevitablyAnswered [albumBlock, renamedBlock] := by
  have hrun : ∃ w, ScanRun (.start albumShard 60) w ∧ w.handed = [albumBlock, renamedBlock] ∧
      w.status = some .success ∧ (∀ table cause, w.feed.issue ≠ some (.setup table cause)) ∧
      .close ∉ w.log ∧ w.errors.length = 2 ∧
      w.rows = [.ok [.int .int32 3, .utf8 "Blue"], .ok [.null, .utf8 "Hejira"]] :=
    ⟨_, ScanRun.refl _
      |>.tail (@ScanStep.firstNext _ ⟨1, 0⟩ rfl rfl rfl)
      |>.tail (@ScanStep.hand _ albumBlock _ rfl rfl)
      |>.tail (.take rfl rfl)
      |>.tail (.answer rfl rfl)
      |>.tail (@ScanStep.hand _ renamedBlock _ rfl rfl)
      |>.tail (.advance rfl rfl)
      |>.tail (.fetch rfl rfl rfl)
      |>.tail (@ScanStep.stop _ .success _ rfl rfl)
      |>.tail (.proceed rfl)
      |>.tail (.proceed rfl)
      |>.tail (.take rfl rfl)
      |>.tail (.answer rfl rfl)
      |>.tail (.refuse rfl rfl rfl), rfl, rfl, fun _ _ => nofun, by
        simp [ScanWorld.answered, ScanWorld.withFeed, ScanWorld.start], rfl, rfl⟩
  obtain ⟨w, hrun, hhanded, hstatus, hsetUp, hopen, hcount, hrows⟩ := hrun
  have hstream : w.Streams [albumBlock, renamedBlock] := by
    refine ⟨hhanded ▸ List.prefix_rfl, fun s hs => ?_, hsetUp⟩
    cases hstatus.symm.trans hs
    exact ⟨rfl, fun _ => hhanded⟩
  obtain ⟨-, hfirst, hanswered⟩ := schema_drift albumShard 60 [albumBlock, renamedBlock] w
    (by decide) (by decide) hrun hopen hstream
  obtain ⟨drift, hdrifts, n, hlog⟩ := hfirst [albumBlock] renamedBlock [] rfl (by decide) (by decide)
  have hdrift : drift = .lostColumn "id" :=
    hdrifts.unique (@Block.Drifts.lostColumn _ _ [] "id" ["title"] rfl rfl (by decide) (by decide))
  refine ⟨w, hrun, hstream, hrows, hcount, fun e he => ?_, hanswered (by decide)⟩
  obtain ⟨call, hcall, he⟩ := List.mem_filterMap.mp he
  rcases List.mem_append.mp (hlog.subset hcall) with hrow | hfails
  · obtain ⟨row, -, rfl⟩ := List.mem_map.mp hrow
    cases he
  · rw [List.eq_of_mem_replicate hfails, hdrift] at he
    exact (Option.some.inj he).symm

end ShardScan
