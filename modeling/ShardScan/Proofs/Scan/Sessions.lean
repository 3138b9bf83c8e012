import ShardScan.Proofs.Scan.Latch
import ShardScan.Proofs.Scan.Schedule
import ShardScan.Scan.Shared

/-!
# The session of a reader

What the calls of a reader do to the sessions and the reads of a store.  Only
two calls touch sessions at all: the one that prepares a reader opens one, and
returns it at once where the read cannot be opened or no thread can be had for the
producer; the one that closes it returns what is held.  All else advances the reads
that there are, and a read that was cancelled stays so.

## Main definitions

* `Store.GoesOn` — no session was opened or returned, and reads have advanced.
* `Reader.Carries` — a reader goes on with the scan it holds.
* `Reader.Opens`, `Reader.Refuses` — a reader is prepared, or cannot be.
* `Reader.Effect` — all that a call can do to a reader and a store, unless it closes the reader.
* `Reader.Releases` — what closing a reader does.

## Main results

* `Reader.refuses_or_opens` — what becomes of a scan that is set up.
* `Reader.effect_prepare`, `Reader.effect_next`, `Reader.releases_close` — what each call does.
-/

namespace ShardScan

/-- The scan could not be set up. -/
def ScanError.isSetup : ScanError → Bool
  | .setup .. => true
  | _ => false

/-- The failure that a call was answered with. -/
def failureOf {α : Type} : Except ScanError α → Option ScanError
  | .error e => some e
  | .ok _ => none

/-! ### Sessions and reads of a store -/

namespace Store

/-- A read that was opened and has been cancelled. -/
def Cancelled (s : Store) (stream : Nat) : Prop :=
  ∃ r, s.stream? stream = some r ∧ r.cancelled = true

/-- No session was opened or returned, and reads have advanced. -/
structure GoesOn (s s' : Store) : Prop where
  leases : s'.leases = s.leases
  closings : s'.closings = s.closings
  count : s'.streams.length = s.streams.length
  cancelled : ∀ n, s.Cancelled n → s'.Cancelled n

variable {s s' s'' : Store}

theorem GoesOn.refl (s : Store) : s.GoesOn s := ⟨rfl, rfl, rfl, fun _ => id⟩

theorem GoesOn.trans (h : s.GoesOn s') (h' : s'.GoesOn s'') : s.GoesOn s'' where
  leases := h'.leases.trans h.leases
  closings := h'.closings.trans h.closings
  count := h'.count.trans h.count
  cancelled n hn := h'.cancelled n (h.cancelled n hn)

theorem goesOn_modifyStream (s : Store) (stream : Nat) {f : ReadStream → ReadStream}
    (hkeeps : ∀ r, r.cancelled = true → (f r).cancelled = true) :
    s.GoesOn (s.modifyStream stream f) where
  leases := rfl
  closings := rfl
  count := List.length_modify ..
  cancelled n hn := by
    obtain ⟨r, hr, hcancelled⟩ := hn
    rw [Cancelled, stream?, modifyStream, List.getElem?_modify]
    by_cases hsame : stream = n
    · exact ⟨f r, by simp [hsame, show s.streams[n]? = some r from hr], hkeeps r hcancelled⟩
    · exact ⟨r, by simp [hsame, show s.streams[n]? = some r from hr], hcancelled⟩

theorem goesOn_endStream (s : Store) (stream : Nat) : s.GoesOn (s.endStream stream) :=
  s.goesOn_modifyStream stream fun _ => id

theorem goesOn_cancelStream (s : Store) (stream : Nat) : s.GoesOn (s.cancelStream stream) :=
  s.goesOn_modifyStream stream fun _ _ => rfl

theorem cancelled_cancelStream {stream : Nat} (h : stream < s.streams.length) :
    (s.cancelStream stream).Cancelled stream := by
  refine ⟨{ s.streams[stream] with cancelled := true }, ?_, rfl⟩
  rw [cancelStream, stream?, modifyStream, List.getElem?_modify_eq, List.getElem?_eq_getElem h]
  rfl

theorem goesOn_startStream (s : Store) (stream : Nat) : s.GoesOn (s.startStream stream).2 := by
  unfold startStream
  split
  · split
    · exact s.goesOn_modifyStream stream fun _ => id
    · exact .refl s
  · exact .refl s

theorem goesOn_advance (s : Store) (stream : Nat) : s.GoesOn (s.advance stream).2 := by
  unfold advance
  split
  · exact .refl s
  · split
    · split
      · exact .refl s
      · exact s.goesOn_modifyStream stream fun _ => id
      · exact s.goesOn_endStream stream
    · exact .refl s

end Store

/-! ### The producer -/

namespace Feed

variable {f f' : Feed} {s : Store} {stream : Nat}

/-- What every step of the producer keeps, it keeps until it has to wait. -/
theorem settle_keeps {P : Feed → Prop}
    (hstep : ∀ f f' event, f.step? event = some f' → P f → P f') (h : P f) (s : Store)
    (stream : Nat) : P (f.settle s stream).1 := by
  induction hweight : f.weight using Nat.strongRecOn generalizing f s with
  | ind weight ih =>
    let next := if f.producer = .streaming then s.advance stream else (.waits, s)
    cases hnext : f.step? next.1 with
    | none =>
      rw [settle_of_none hnext]
      exact h
    | some f' =>
      rw [settle_of_some hnext]
      exact ih f'.weight (hweight ▸ weight_step hnext) (hstep f f' _ hnext h) _ rfl

/-- The producer touches no session. -/
theorem goesOn_settle (f : Feed) (s : Store) (stream : Nat) :
    s.GoesOn (f.settle s stream).2 := by
  induction hweight : f.weight using Nat.strongRecOn generalizing f s with
  | ind weight ih =>
    let next := if f.producer = .streaming then s.advance stream else (.waits, s)
    have hnext : s.GoesOn next.2 := by
      by_cases hproducer : f.producer = .streaming
      · simp only [next, if_pos hproducer]
        exact s.goesOn_advance stream
      · simp only [next, if_neg hproducer]
        exact .refl s
    cases hstep : f.step? next.1 with
    | none =>
      rw [settle_of_none hstep]
      exact .refl s
    | some f' =>
      rw [settle_of_some hstep]
      have hrest : s.GoesOn (if f'.isStreaming then next.2 else next.2.endStream stream) := by
        split
        · exact hnext
        · exact hnext.trans (next.2.goesOn_endStream stream)
      exact hrest.trans (ih f'.weight (hweight ▸ weight_step hstep) f' _ rfl)

/-- No failure to set up the scan is latched. -/
def SetUp (f : Feed) : Prop := ∀ e ∈ f.issue, e.isSetup = false

theorem SetUp.latch (h : f.SetUp) {e : ScanError} (he : e.isSetup = false) : (f.latch e).SetUp := by
  cases hissue : f.issue with
  | some e' =>
    rw [latch_of_some hissue]
    exact h
  | none =>
    rw [latch_of_none hissue]
    rintro e' ⟨⟩
    exact he

theorem SetUp.step {event : StreamEvent} (hstep : f.step? event = some f') (h : f.SetUp) :
    f'.SetUp := by
  rcases step?_cases hstep with ⟨queue, producer, rfl⟩ | ⟨s, rfl⟩
  · exact h
  · show (f.record s).SetUp
    unfold record
    split
    · exact h
    · exact h.latch rfl

/-- A reader that is freshly created knows of no failure. -/
def Unlatched (f : Feed) : Prop := f.state = .created → f.issue = none

theorem Unlatched.latch (h : f.Unlatched) (e : ScanError) : (f.latch e).Unlatched := by
  cases hissue : f.issue with
  | some e' =>
    rw [latch_of_some hissue]
    exact h
  | none =>
    rw [latch_of_none hissue]
    exact fun hstate => by cases hstate

theorem Unlatched.step {event : StreamEvent} (hstep : f.step? event = some f')
    (h : f.Unlatched) : f'.Unlatched := by
  rcases step?_cases hstep with ⟨queue, producer, rfl⟩ | ⟨s, rfl⟩
  · exact h
  · show (f.record s).Unlatched
    unfold record
    split
    · exact h
    · exact h.latch _

/-- A reader that has begun does not become freshly created again. -/
theorem begun_latch (h : f.state ≠ .created) (e : ScanError) : (f.latch e).state ≠ .created := by
  cases hissue : f.issue with
  | some e' => rwa [latch_of_some hissue]
  | none => simp [latch_of_none hissue]

theorem begun_step {event : StreamEvent} (hstep : f.step? event = some f')
    (h : f.state ≠ .created) : f'.state ≠ .created := by
  rcases step?_cases hstep with ⟨queue, producer, rfl⟩ | ⟨s, rfl⟩
  · exact h
  · show (f.record s).state ≠ .created
    unfold record
    split
    · exact h
    · exact begun_latch h _

theorem begun_finish (f : Feed) : f.finish.state ≠ .created := by
  rcases f.state_finish with h | h <;> simp [h]

end Feed

/-! ### Going on with a scan -/

namespace Reader

variable {r r' r'' : Reader} {s s' s'' : Store}

/-- A reader goes on with the scan it holds. -/
structure Carries (r : Reader) (s : Store) (r' : Reader) (s' : Store) : Prop where
  scan : r'.scan = r.scan
  begun : r.state ≠ .created → r'.state ≠ .created
  setUp : r.feed.SetUp → r'.feed.SetUp
  unlatched : r.feed.Unlatched → r'.feed.Unlatched
  remembers : r.feed.Remembers r'.feed
  store : s.GoesOn s'

theorem Carries.refl (r : Reader) (s : Store) : r.Carries s r s :=
  ⟨rfl, id, id, id, Feed.remembers_of_eq rfl rfl, .refl s⟩

theorem Carries.trans (h : r.Carries s r' s') (h' : r'.Carries s' r'' s'') :
    r.Carries s r'' s'' where
  scan := h'.scan.trans h.scan
  begun hstate := h'.begun (h.begun hstate)
  setUp hissue := h'.setUp (h.setUp hissue)
  unlatched hfresh := h'.unlatched (h.unlatched hfresh)
  remembers := h.remembers.trans h'.remembers
  store := h.store.trans h'.store

/-- What moves neither the latch nor the scan. -/
theorem carries_of_eq (hscan : r'.scan = r.scan) (hissue : r'.feed.issue = r.feed.issue)
    (hstate : r'.feed.state = r.feed.state) : r.Carries s r' s where
  scan := hscan
  begun h := by rwa [state, hstate]
  setUp h := by rwa [Feed.SetUp, hissue]
  unlatched h := by rwa [Feed.Unlatched, hissue, hstate]
  remembers := Feed.remembers_of_eq hissue hstate
  store := .refl s

theorem carries_settle (r : Reader) (s : Store) :
    r.Carries s (r.settle s).1 (r.settle s).2 := by
  unfold settle
  split
  · exact .refl r s
  · next scan _ =>
    -- A reader that was called off has its read cancelled before the producer goes on.
    let s₁ := if r.feed.cancelled then s.cancelStream scan.stream else s
    have hstore : s.GoesOn s₁ := by
      simp only [s₁]
      split
      · exact s.goesOn_cancelStream scan.stream
      · exact .refl s
    exact
      { scan := rfl
        begun := fun h => Feed.settle_keeps (fun _ _ _ hstep => Feed.begun_step hstep) h s₁ _
        setUp := fun h => Feed.settle_keeps (fun _ _ _ hstep => Feed.SetUp.step hstep) h s₁ _
        unlatched := fun h => Feed.settle_keeps (fun _ _ _ hstep => Feed.Unlatched.step hstep) h s₁ _
        remembers := Feed.settle_keeps (P := r.feed.Remembers)
          (fun _ _ _ hstep h => h.trans (Feed.remembers_step hstep))
          (Feed.remembers_of_eq rfl rfl) s₁ scan.stream
        store := hstore.trans (r.feed.goesOn_settle s₁ scan.stream) }

theorem carries_advance? (h : r.advance? = some r') (s : Store) : r.Carries s r' s := by
  obtain ⟨cursor, rfl⟩ := eq_of_advance? h
  exact carries_of_eq rfl rfl rfl

theorem carries_fail (r : Reader) {e : ScanError} (he : e.isSetup = false) (s : Store) :
    r.Carries s (r.fail e) s where
  scan := rfl
  begun h := Feed.begun_latch h e
  setUp h := h.latch he
  unlatched h := h.latch e
  remembers := r.remembers_fail e
  store := .refl s

/-- An item that answers a call.  No item brings a failure to set up the scan. -/
theorem carries_answers {item : Option QueueItem} {answer : Except ScanError Bool}
    (h : r.accept item = .answers answer r') (s : Store) :
    r.Carries s r' s ∧ (r.feed.SetUp → ∀ e ∈ failureOf answer, e.isSetup = false) := by
  match item with
  | none =>
    cases h
    exact ⟨r.carries_fail rfl s, fun _ e he => by cases he; rfl⟩
  | some .endOfScan =>
    rw [accept_endOfScan] at h
    split at h <;> cases h
    · next e he =>
      refine ⟨carries_of_eq rfl rfl rfl, fun hsetUp e' he' => ?_⟩
      cases he'
      exact hsetUp e he
    · refine ⟨?_, fun _ e he => by cases he⟩
      exact
        { scan := rfl, begun := fun _ => r.feed.begun_finish
          setUp := fun h => by rwa [Feed.SetUp, r.feed.issue_finish]
          unlatched := fun _ hcreated => absurd hcreated r.feed.begun_finish
          remembers := r.feed.remembers_finish, store := .refl s }
  | some (.block b) =>
    cases hpositions : b.positions r.outColumns with
    | error drift =>
      rw [accept_drift hpositions] at h
      cases h
      exact ⟨r.carries_fail rfl s, fun _ e he => by cases he; rfl⟩
    | ok positions =>
      rw [accept_block hpositions] at h
      split at h
      · next r' hrow =>
        cases h
        obtain ⟨cursor, rfl⟩ := eq_of_advance? hrow
        exact ⟨carries_of_eq rfl rfl rfl, fun _ e he => by cases he⟩
      · cases h

theorem carries_goesOn {item : Option QueueItem} (h : r.accept item = .goesOn r') (s : Store) :
    r.Carries s r' s := by
  have hfeed := feed_of_goesOn h
  exact carries_of_eq (sameScan_accept (.inr h)).1 (congrArg Feed.issue hfeed)
    (congrArg Feed.state hfeed)

/-- Taking items goes on with the scan. -/
theorem carries_fetch {items : Nat} {answer : Except ScanError Bool}
    (h : r.fetch s items = some (answer, r', s')) :
    r.Carries s r' s' ∧ (r.feed.SetUp → ∀ e ∈ failureOf answer, e.isSetup = false) := by
  induction items generalizing r s with
  | zero => cases h
  | succ items ih =>
    rw [fetch] at h
    split at h
    · cases h
    · next item queue htake =>
      have htaken : r.Carries s { r with feed := { r.feed with queue := queue } } s :=
        carries_of_eq rfl rfl rfl
      split at h
      · next answer' r₁ haccept =>
        obtain ⟨hcarries, hanswer⟩ := carries_answers haccept s
        have hsettled := r₁.carries_settle s
        rw [Option.some.injEq, Prod.mk.injEq] at h
        obtain ⟨rfl, hsettle⟩ := h
        rw [hsettle] at hsettled
        exact ⟨(htaken.trans hcarries).trans hsettled, hanswer⟩
      · next r₁ haccept =>
        have hon := (htaken.trans (carries_goesOn haccept s)).trans (r₁.carries_settle s)
        obtain ⟨hcarries, hanswer⟩ := ih h
        exact ⟨hon.trans hcarries, fun hsetUp => hanswer (hon.setUp hsetUp)⟩

end Reader

/-! ### Opening a session and a read -/

namespace Store

theorem createSession_cases (s : Store) (ttlSeconds : Nat) :
    (∃ cause, s.createSession ttlSeconds = (.error cause, s)) ∨
      ∃ l, s.createSession ttlSeconds =
        (.ok (s.leases.length + 1), { s with leases := s.leases ++ [l] }) := by
  unfold createSession
  split
  · exact .inl ⟨_, rfl⟩
  · split
    · exact .inl ⟨_, rfl⟩
    · refine .inr ⟨⟨ttlSeconds == 0, s.epoch, false⟩, ?_⟩
      simp only [List.length_append, List.length_singleton]

theorem readTable_cases (s : Store) (session : Nat) (path : String) (request : ReadRequest) :
    ∃ s', s'.leases = s.leases ∧ s'.closings = s.closings ∧
      ((∃ cause, s.readTable session path request = (.error cause, s') ∧
          s'.streams = s.streams) ∨
        s.readTable session path request = (.ok s.streams.length, s') ∧
          s'.streams.length = s.streams.length + 1) := by
  unfold readTable
  simp only
  split
  · next cause _ =>
    refine ⟨{ s with requests := s.requests ++ [(path, request)] }, rfl, rfl, ?_⟩
    exact .inl ⟨cause, rfl, rfl⟩
  · next blocks _ =>
    let stream : ReadStream := ⟨session, request.columns, blocks, s.faults, false, .unstarted⟩
    refine ⟨{ s with requests := s.requests ++ [(path, request)], streams := s.streams ++ [stream] },
      rfl, rfl, ?_⟩
    exact .inr ⟨rfl, List.length_append⟩

/-- Returning a session opens none. -/
theorem length_leases_closeSession (s : Store) (session : Nat) :
    (s.closeSession session).leases.length = s.leases.length := List.length_modify ..

end Store

namespace Reader

variable {r r' r'' : Reader} {s s' s'' : Store}

/-- A session and a read are opened for a reader. -/
structure Opens (r : Reader) (s : Store) (r' : Reader) (s' : Store) : Prop where
  created : r.state = .created
  begun : r'.state ≠ .created
  scan : r'.scan = some ⟨s.leases.length + 1, s.streams.length⟩
  setUp : r.feed.SetUp → r'.feed.SetUp
  leases : s'.leases.length = s.leases.length + 1
  closings : s'.closings = s.closings
  count : s'.streams.length = s.streams.length + 1

theorem Opens.carries (h : r.Opens s r' s') (h' : r'.Carries s' r'' s'') :
    r.Opens s r'' s'' where
  created := h.created
  begun := h'.begun h.begun
  scan := h'.scan.trans h.scan
  setUp hissue := h'.setUp (h.setUp hissue)
  leases := by rw [h'.store.leases]; exact h.leases
  closings := h'.store.closings.trans h.closings
  count := h'.store.count.trans h.count

end Reader

/-- What is left in a store of a scan that could not be set up: nothing where no session could be
opened; a session that was returned once where the read could not be opened; and a read that was
cancelled besides where no thread could be had for the producer. -/
inductive Store.GivesBack (s s' : Store) : Prop
  | nothing (h : s.GoesOn s')
  | session (hleases : s'.leases.length = s.leases.length + 1)
    (hclosings : s'.closings = s.closings ++ [s.leases.length + 1])
    (hcount : s'.streams.length = s.streams.length)
  | read (hleases : s'.leases.length = s.leases.length + 1)
    (hclosings : s'.closings = s.closings ++ [s.leases.length + 1])
    (hcount : s'.streams.length = s.streams.length + 1) (hcancelled : s'.Cancelled s.streams.length)

namespace Reader

variable {r r' r'' : Reader} {s s' s'' : Store}

/-- A reader cannot be prepared, and what was opened for it is given back. -/
structure Refuses (r : Reader) (s : Store) (r' : Reader) (s' : Store) : Prop where
  created : r.state = .created
  begun : r.feed.issue = none → r'.state ≠ .created
  scan : r'.scan = r.scan
  store : s.GivesBack s'

theorem refuses_failSetup (hcreated : r.state = .created) (cause : StoreError)
    (hstore : s.GivesBack s') : r.Refuses s (r.failSetup cause).2 s' where
  created := hcreated
  begun hissue := by
    have hlatch := Feed.latch_of_none hissue (.setup r.feed.table cause)
    simp [failSetup, state, hlatch]
  scan := rfl
  store := hstore

/-- **A reader that is freshly created is refused, or a session and a read are opened for it.** -/
theorem refuses_or_opens (hcreated : r.state = .created) (s : Store) (spawn : Except String Unit) :
    (∃ cause s', r.setUp s spawn = (.error (r.failSetup cause).1, (r.failSetup cause).2, s') ∧
      r.Refuses s (r.failSetup cause).2 s') ∨
    ∃ r' s', r.setUp s spawn = (.ok (), r', s') ∧ r.Opens s r' s' := by
  unfold setUp
  rcases s.createSession_cases r.shard.plan.sessionSeconds.val.toNat with
    ⟨cause, hsession⟩ | ⟨l, hsession⟩
  · simp only [hsession]
    exact .inl ⟨cause, s, rfl, refuses_failSetup hcreated cause (.nothing (.refl s))⟩
  · simp only [hsession]
    obtain ⟨s₂, hleases, hclosings, hread⟩ :=
      Store.readTable_cases { s with leases := s.leases ++ [l] } (s.leases.length + 1) r.feed.table
        r.request
    have hopened : s₂.leases.length = s.leases.length + 1 := by rw [hleases, List.length_append]; rfl
    have hreturned : s₂.closings ++ [s.leases.length + 1] = s.closings ++ [s.leases.length + 1] :=
      congrArg (· ++ _) hclosings
    rcases hread with ⟨cause, hread, hstreams⟩ | ⟨hread, hcount⟩
    · simp only [hread]
      refine .inl ⟨cause, _, rfl, refuses_failSetup hcreated cause ?_⟩
      exact .session ((s₂.length_leases_closeSession _).trans hopened) hreturned
        (congrArg List.length hstreams)
    · simp only [hread]
      have hlast : s.streams.length < s₂.streams.length := by
        rw [hcount]
        exact Nat.lt_succ_self _
      cases spawn with
      | error reason =>
        -- The read is cancelled before the session is returned, which leaves the read as it is.
        let s₃ := s₂.cancelStream s.streams.length
        have hcancelled : s₂.GoesOn s₃ := s₂.goesOn_cancelStream s.streams.length
        refine .inl ⟨spawnFailure reason, _, rfl, refuses_failSetup hcreated _ ?_⟩
        exact .read ((s₃.length_leases_closeSession _).trans (hcancelled.leases ▸ hopened)) hreturned
          (hcancelled.count.trans hcount) (Store.cancelled_cancelStream hlast)
      | ok =>
        let s₃ := (s₂.startStream s.streams.length).2
        let r₃ := r.opened ⟨s.leases.length + 1, s.streams.length⟩
        have hstarted : s₂.GoesOn s₃ := s₂.goesOn_startStream s.streams.length
        have hopens : r.Opens s r₃ s₃ :=
          { created := hcreated
            begun := by simp [r₃, opened, state]
            scan := rfl
            setUp := id
            leases := by rw [hstarted.leases, hopened]
            closings := hstarted.closings.trans hclosings
            count := hstarted.count.trans hcount }
        exact .inr ⟨(r₃.settle s₃).1, (r₃.settle s₃).2, rfl, hopens.carries (r₃.carries_settle s₃)⟩

/-! ### Calls -/

/-- All that a call which does not close the reader can do to it and to a store, with the failure
that it reports. -/
inductive Effect (r : Reader) (s : Store) (e : Option ScanError) (r' : Reader) (s' : Store) : Prop
  /-- It goes on with the scan that is held, if there is one. -/
  | carries (h : r.Carries s r' s') (he : r.feed.SetUp → ∀ e' ∈ e, e'.isSetup = false)
  | refuses (h : r.Refuses s r' s')
  | opens (h : r.Opens s r' s') (he : r.feed.SetUp → ∀ e' ∈ e, e'.isSetup = false)

variable {spawn : Except String Unit}

theorem refuses_of_prepare {e : ScanError} (hcreated : r.state = .created)
    (h : r.prepare s spawn = some (.error e, r', s')) : r.Refuses s r' s' := by
  obtain ⟨-, hsetUp⟩ := (prepare_cases h).resolve_right (·.1 hcreated)
  rcases refuses_or_opens hcreated s spawn with ⟨cause, s₁, hfails, h₁⟩ | ⟨r₁, s₁, hopens, -⟩
  · cases hfails.symm.trans hsetUp
    exact h₁
  · cases hopens.symm.trans hsetUp

theorem opens_of_prepare (hcreated : r.state = .created)
    (h : r.prepare s spawn = some (.ok (), r', s')) : r.Opens s r' s' := by
  obtain ⟨-, hsetUp⟩ := (prepare_cases h).resolve_right (·.1 hcreated)
  rcases refuses_or_opens hcreated s spawn with ⟨cause, s₁, hfails, -⟩ | ⟨r₁, s₁, hopens, h₁⟩
  · cases hfails.symm.trans hsetUp
  · cases hopens.symm.trans hsetUp
    exact h₁

theorem effect_prepare {answer : Except ScanError Unit}
    (h : r.prepare s spawn = some (answer, r', s')) : r.Effect s (failureOf answer) r' s' := by
  by_cases hcreated : r.state = .created
  · cases answer with
    | error e => exact .refuses (refuses_of_prepare hcreated h)
    | ok => exact .opens (opens_of_prepare hcreated h) fun _ e he => by cases he
  · cases (prepare_of_begun hcreated s spawn).symm.trans h
    exact .carries (.refl r s) fun _ e he => by cases he

theorem effect_next {answer : Except ScanError Bool}
    (h : r.next s spawn = some (answer, r', s')) : r.Effect s (failureOf answer) r' s' := by
  rw [next] at h
  split at h
  · next r₁ hrow =>
    cases h
    exact .carries (carries_advance? hrow s) fun _ e he => by cases he
  · split at h
    · obtain ⟨hcarries, hanswer⟩ := carries_fetch h
      exact .carries hcarries hanswer
    · cases h
      refine .carries (.refl r s) fun hsetUp e he => ?_
      cases he
      rw [latchedIssue]
      cases hissue : r.feed.issue with
      | none => rfl
      | some e => exact hsetUp e hissue
    · next hcreated =>
      split at h
      · cases h
      · next hprepare =>
        cases h
        exact .refuses (refuses_of_prepare hcreated hprepare)
      · next hprepare =>
        have hopens := opens_of_prepare hcreated hprepare
        obtain ⟨hcarries, hanswer⟩ := carries_fetch h
        exact .opens (hopens.carries hcarries) fun hsetUp => hanswer (hopens.setUp hsetUp)
    · cases h
      exact .carries (.refl r s) fun _ e he => by cases he

/-- What a reader holds is returned, and its read is cancelled. -/
structure Releases (r : Reader) (s : Store) (r' : Reader) (s' : Store) : Prop where
  begun : r'.state ≠ .created
  scan : r'.scan = none
  remembers : r.feed.Remembers r'.feed
  leases : s'.leases.length = s.leases.length
  closings : s'.closings = s.closings ++ (r.scan.map (·.session)).toList
  count : s'.streams.length = s.streams.length
  cancelled : ∀ n, s.Cancelled n → s'.Cancelled n
  stopped : ∀ scan ∈ r.scan, scan.stream < s.streams.length → s'.Cancelled scan.stream

/-- **Closing a reader returns what it holds.** -/
theorem releases_close (r : Reader) (s : Store) : r.Releases s (r.close s).1 (r.close s).2 := by
  have hoff : r.feed.Remembers r.calledOff.feed :=
    r.feed.remembers_finish.trans (Feed.remembers_of_eq rfl rfl)
  have hsettled := r.calledOff.carries_settle s
  rw [close_eq]
  refine
    { begun := hsettled.begun r.feed.begun_finish, scan := rfl
      remembers := (hoff.trans hsettled.remembers).trans (Feed.remembers_of_eq rfl rfl)
      leases := ?_, closings := ?_, count := ?_, cancelled := fun n hn => ?_
      stopped := fun scan hheld hopen => ?_ }
  · rw [← hsettled.store.leases]
    cases r.scan with
    | none => rfl
    | some scan => exact Store.length_leases_closeSession _ _
  · rw [← hsettled.store.closings]
    cases r.scan with
    | none => exact (List.append_nil _).symm
    | some scan => rfl
  · cases r.scan <;> exact hsettled.store.count
  · have hkept := hsettled.store.cancelled n hn
    cases r.scan <;> exact hkept
  · -- The read is cancelled before the producer goes on.
    have hkept : (r.calledOff.settle s).2.Cancelled scan.stream := by
      have hheld' : r.calledOff.scan = some scan := hheld
      unfold settle
      simp only [hheld']
      refine (Feed.goesOn_settle _ _ _).cancelled _ ?_
      exact Store.cancelled_cancelStream hopen
    cases r.scan <;> exact hkept

end Reader
end ShardScan
