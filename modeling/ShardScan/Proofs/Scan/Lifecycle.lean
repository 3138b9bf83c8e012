import Mathlib.Data.List.Nodup
import ShardScan.Proofs.Outcome
import ShardScan.Proofs.Scan.Delivery
import ShardScan.Proofs.Scan.Sessions

/-!
# The life of a reader

A reader is made, called any number of times in any order, and given up; in
between its producer goes on, and others use the store.  Over its whole life it
opens one session at most.  A session that it has opened is closed once, by the
call that ends its use: the one that could not set up the scan, the one that
closes the reader, or the one that gives it up.

A reader is in one of three phases: it has not begun, it holds a session and a
read, or it is over.  Each call either stays in a phase or goes on to a later
one.

## Main definitions

* `Visit` — a call of a reader, with what it found and what it left.
* `Life` — all that can happen to a reader and its store.
* `Phase` — how far a reader has come, with the sessions it has opened and closed so far.

## Main results

* `Phase.visit` — what a call does to the phase of a reader.
* `session_lifecycle` — the sessions and reads of a reader over its whole life.
-/

namespace ShardScan

namespace Store

/-- The sessions that were opened from one store to a later one. -/
def openedSince (s s' : Store) : List Nat :=
  List.range' (s.leases.length + 1) (s'.leases.length - s.leases.length)

/-- The sessions that were returned from one store to a later one, call by call. -/
def closedSince (s s' : Store) : List Nat := s'.closings.drop s.closings.length

/-- The reads that were opened from one store to a later one. -/
def readsSince (s s' : Store) : List Nat :=
  List.range' s.streams.length (s'.streams.length - s.streams.length)

variable {s s' : Store}

theorem openedSince_of_eq (h : s'.leases.length = s.leases.length) : s.openedSince s' = [] := by
  simp [openedSince, h]

theorem openedSince_of_succ (h : s'.leases.length = s.leases.length + 1) :
    s.openedSince s' = [s.leases.length + 1] := by
  simp [openedSince, h]

theorem closedSince_of_append {sessions : List Nat} (h : s'.closings = s.closings ++ sessions) :
    s.closedSince s' = sessions := by
  rw [closedSince, h, List.drop_left]

theorem closedSince_of_eq (h : s'.closings = s.closings) : s.closedSince s' = [] :=
  closedSince_of_append (h.trans (List.append_nil _).symm)

theorem readsSince_of_eq (h : s'.streams.length = s.streams.length) : s.readsSince s' = [] := by
  simp [readsSince, h]

theorem readsSince_of_succ (h : s'.streams.length = s.streams.length + 1) :
    s.readsSince s' = [s.streams.length] := by
  simp [readsSince, h]

end Store

/-! ### Calls -/

/-- The calls of a reader. -/
inductive ReaderCall
  | prepare
  | next
  | get
  | close
  /-- The reader is given up. -/
  | drop

/-- A call of a reader, with what it found and what it left. -/
structure Visit where
  call : ReaderCall
  /-- The failure that it was answered with. -/
  error : Option ScanError
  reader : Reader
  store : Store
  /-- The reader behind the call; none if it was given up. -/
  left : Option Reader
  storeLeft : Store

namespace Visit

/-- A call is answered so, whether a thread could be had for the producer or not.  A call for the next
row that has to wait has not been answered; if it has prepared the reader before, it counts as a call
that prepares it and another one behind that.  Where the range of the shard does not come about there
is no answer either. -/
inductive Happens : Visit → Prop
  | prepare {r r' : Reader} {s s' : Store} {spawn : Except String Unit}
    {answer : Except ScanError Unit} (h : r.prepare s spawn = some (answer, r', s')) :
    Happens ⟨.prepare, failureOf answer, r, s, some r', s'⟩
  | next {r r' : Reader} {s s' : Store} {spawn : Except String Unit}
    {answer : Except ScanError Bool} (h : r.next s spawn = some (answer, r', s')) :
    Happens ⟨.next, failureOf answer, r, s, some r', s'⟩
  | get (r : Reader) (s : Store) : Happens ⟨.get, failureOf r.get, r, s, some r, s⟩
  | close (r : Reader) (s : Store) :
    Happens ⟨.close, none, r, s, some (r.close s).1, (r.close s).2⟩
  | drop (r : Reader) (s : Store) (registry : Registry) (connector : Option Connector) :
    Happens ⟨.drop, none, r, s, none, (Backend.dropReader ⟨s, registry⟩ ⟨r, connector⟩).store⟩

/-- The call ends the use of the reader: it could not set up the scan, closes the reader, or gives
it up. -/
def Ends (v : Visit) : Prop :=
  v.call = .close ∨ v.call = .drop ∨ ∃ e ∈ v.error, e.isSetup = true

/-- The sessions that a call opens. -/
def opened (v : Visit) : List Nat := v.store.openedSince v.storeLeft

/-- The sessions that a call returns, as often as it returns them. -/
def closed (v : Visit) : List Nat := v.store.closedSince v.storeLeft

/-- The reads that a call opens. -/
def reads (v : Visit) : List Nat := v.store.readsSince v.storeLeft

/-- The reader in front of a call and behind it. -/
def readers (v : Visit) : List Reader := v.reader :: v.left.toList

end Visit

/-- What others may do to a store.  Reads are not forgotten, and stay cancelled. -/
structure Others (s s' : Store) : Prop where
  count : s.streams.length ≤ s'.streams.length
  cancelled : ∀ n, s.Cancelled n → s'.Cancelled n

/-- All that can happen to a reader of a shard and its store, with the calls so far. -/
inductive Life (shard : Shard) (timeoutSeconds : Word .u64) :
    Option Reader → Store → List Visit → Prop
  | new (s : Store) : Life shard timeoutSeconds (some (.new shard timeoutSeconds)) s []
  | visit {v : Visit} {visits : List Visit}
    (h : Life shard timeoutSeconds (some v.reader) v.store visits) (hv : v.Happens) :
    Life shard timeoutSeconds v.left v.storeLeft (visits ++ [v])
  /-- The producer goes on. -/
  | settle {r : Reader} {s : Store} {visits : List Visit}
    (h : Life shard timeoutSeconds (some r) s visits) :
    Life shard timeoutSeconds (some (r.settle s).1) (r.settle s).2 visits
  | others {r : Option Reader} {s s' : Store} {visits : List Visit}
    (h : Life shard timeoutSeconds r s visits) (hothers : Others s s') :
    Life shard timeoutSeconds r s' visits

/-- A row that cannot be read is not there. -/
theorem Reader.get_eq_error {r : Reader} {e : ScanError} (h : r.get = .error e) :
    e = .noCurrentRow := by
  unfold get at h
  split at h
  · obtain ⟨position, -, hposition⟩ := exists_of_mapM_eq_error h
    split at hposition <;> cases hposition
    rfl
  · cases h
    rfl

/-- What a call does: it has one of the effects, or returns what the reader holds. -/
theorem Visit.Happens.cases {v : Visit} (hv : v.Happens) :
    (∃ r', v.left = some r' ∧ v.reader.Effect v.store v.error r' v.storeLeft ∧
      v.call ≠ .close ∧ v.call ≠ .drop) ∨
    ∃ r', (∀ held ∈ v.left, held = r') ∧ v.reader.Releases v.store r' v.storeLeft ∧
      (v.call = .close ∨ v.call = .drop) := by
  cases hv with
  | prepare h => exact .inl ⟨_, rfl, Reader.effect_prepare h, by simp, by simp⟩
  | next h => exact .inl ⟨_, rfl, Reader.effect_next h, by simp, by simp⟩
  | get r s =>
    refine .inl ⟨r, rfl, .carries (.refl r s) fun _ e he => ?_, by simp, by simp⟩
    cases hget : r.get with
    | ok row =>
      rw [hget] at he
      cases he
    | error e' =>
      rw [hget] at he
      cases he
      rw [Reader.get_eq_error hget]
      rfl
  | close r s => exact .inr ⟨_, fun _ h => by cases h; rfl, r.releases_close s, .inl rfl⟩
  | drop r s registry connector =>
    have hstore : (Backend.dropReader ⟨s, registry⟩ ⟨r, connector⟩).store = (r.close s).2 := by
      cases connector <;> rfl
    rw [hstore]
    exact .inr ⟨(r.close s).1, fun _ h => (by cases h), r.releases_close s, .inr rfl⟩

/-! ### Phases -/

/-- A reader that is of no more use, or none. -/
def Over (r : Option Reader) : Prop := ∀ held ∈ r, held.scan = none ∧ held.state ≠ .created

/-- How far a reader has come, with the sessions that it has opened and closed so far and the reads
that it has opened. -/
inductive Phase : Option Reader → Store → List Nat → List Nat → List Nat → Prop
  | fresh {r : Reader} {s : Store} (hcreated : r.state = .created) (hscan : r.scan = none)
    (hissue : r.feed.issue = none) : Phase (some r) s [] [] []
  | holding {r : Reader} {s : Store} {scan : OpenScan} (hscan : r.scan = some scan)
    (hbegun : r.state ≠ .created) (hsetUp : r.feed.SetUp) (hstream : scan.stream < s.streams.length) :
    Phase (some r) s [scan.session] [] [scan.stream]
  | ended {r : Option Reader} {s : Store} {sessions reads : List Nat} (hover : Over r)
    (hlength : sessions.length ≤ 1) (hcancelled : ∀ n ∈ reads, s.Cancelled n) :
    Phase r s sessions sessions reads

section Phases

variable {r r' : Reader} {s s' : Store} {opened closed reads : List Nat}

/-- A reader that is over goes on being so. -/
theorem Over.carries (hover : Over (some r)) (hcarries : r.Carries s r' s') : Over (some r') := by
  obtain ⟨hscan, hbegun⟩ := hover r rfl
  rintro held ⟨⟩
  exact ⟨hcarries.scan.trans hscan, hcarries.begun hbegun⟩

/-- A reader goes on with what it holds. -/
theorem Phase.carries (h : Phase (some r) s opened closed reads) (hcarries : r.Carries s r' s') :
    Phase (some r') s' opened closed reads := by
  cases h with
  | fresh hcreated hscan hissue =>
    by_cases hcreated' : r'.state = .created
    · exact .fresh hcreated' (hcarries.scan.trans hscan)
        (hcarries.unlatched (fun _ => hissue) hcreated')
    · refine .ended ?_ (Nat.zero_le _) fun _ hn => absurd hn List.not_mem_nil
      rintro held ⟨⟩
      exact ⟨hcarries.scan.trans hscan, hcreated'⟩
  | holding hscan hbegun hsetUp hstream =>
    exact .holding (hcarries.scan.trans hscan) (hcarries.begun hbegun) (hcarries.setUp hsetUp)
      (hcarries.store.count ▸ hstream)
  | ended hover hlength hcancelled =>
    exact .ended (hover.carries hcarries) hlength fun n hn =>
      hcarries.store.cancelled n (hcancelled n hn)

/-- Others do not change the phase of a reader. -/
theorem Phase.others {r : Option Reader} (h : Phase r s opened closed reads)
    (hothers : Others s s') : Phase r s' opened closed reads := by
  cases h with
  | fresh hcreated hscan hissue => exact .fresh hcreated hscan hissue
  | holding hscan hbegun hsetUp hstream =>
    exact .holding hscan hbegun hsetUp (hstream.trans_le hothers.count)
  | ended hover hlength hcancelled =>
    exact .ended hover hlength fun n hn => hothers.cancelled n (hcancelled n hn)

/-- Only a reader that has not begun is freshly created. -/
theorem Phase.of_created (h : Phase (some r) s opened closed reads) (hcreated : r.state = .created) :
    r.scan = none ∧ r.feed.issue = none ∧ opened = [] ∧ closed = [] ∧ reads = [] := by
  cases h with
  | fresh _ hscan hissue => exact ⟨hscan, hissue, rfl, rfl, rfl⟩
  | holding _ hbegun => exact absurd hcreated hbegun
  | ended hover => exact absurd hcreated (hover r rfl).2

/-- In no phase more than one session was opened. -/
theorem Phase.length_le {r : Option Reader} (h : Phase r s opened closed reads) :
    opened.length ≤ 1 := by
  cases h with
  | fresh => exact Nat.zero_le _
  | holding => exact Nat.le_refl _
  | ended _ hlength => exact hlength

/-- A reader that is over has closed what it opened. -/
theorem Phase.of_over {r : Option Reader} (h : Phase r s opened closed reads) (hover : Over r) :
    closed = opened ∧ ∀ n ∈ reads, s.Cancelled n := by
  cases h with
  | fresh hcreated => exact absurd hcreated (hover _ rfl).2
  | holding hscan => cases hscan.symm.trans (hover _ rfl).1
  | ended _ _ hcancelled => exact ⟨rfl, hcancelled⟩

/-- A reader that could be set up, or has not begun, reports no failure to set up. -/
theorem Phase.setUp (h : Phase (some r) s opened closed reads) :
    r.feed.SetUp ∨ Over (some r) := by
  cases h with
  | fresh _ _ hissue =>
    left
    intro e he
    rw [hissue] at he
    cases he
  | holding _ _ hsetUp => exact .inl hsetUp
  | ended hover => exact .inr hover

/-- A reader cannot be set up. -/
theorem Phase.refuses (h : Phase (some r) s opened closed reads) (hrefuses : r.Refuses s r' s') :
    Phase (some r') s' (opened ++ s.openedSince s') (closed ++ s.closedSince s')
        (reads ++ s.readsSince s') ∧ Over (some r') := by
  obtain ⟨hscan, hissue, rfl, rfl, rfl⟩ := h.of_created hrefuses.created
  have hover : Over (some r') := by
    rintro held ⟨⟩
    exact ⟨hrefuses.scan.trans hscan, hrefuses.begun hissue⟩
  refine ⟨?_, hover⟩
  -- What was opened is among what was given back.
  cases hrefuses.store with
  | nothing hsame =>
    rw [Store.openedSince_of_eq (congrArg _ hsame.leases), Store.closedSince_of_eq hsame.closings,
      Store.readsSince_of_eq hsame.count]
    exact .ended hover (Nat.zero_le _) fun _ hn => absurd hn List.not_mem_nil
  | session hleases hclosings hcount =>
    rw [Store.openedSince_of_succ hleases, Store.closedSince_of_append hclosings,
      Store.readsSince_of_eq hcount]
    exact .ended hover (Nat.le_refl _) fun _ hn => absurd hn List.not_mem_nil
  | read hleases hclosings hcount hcancelled =>
    rw [Store.openedSince_of_succ hleases, Store.closedSince_of_append hclosings,
      Store.readsSince_of_succ hcount]
    refine .ended hover (Nat.le_refl _) fun n hn => ?_
    rwa [List.mem_singleton.mp hn]

/-- A session and a read are opened for a reader. -/
theorem Phase.opens (h : Phase (some r) s opened closed reads) (hopens : r.Opens s r' s') :
    Phase (some r') s' (opened ++ s.openedSince s') (closed ++ s.closedSince s')
      (reads ++ s.readsSince s') := by
  obtain ⟨-, hissue, rfl, rfl, rfl⟩ := h.of_created hopens.created
  rw [Store.openedSince_of_succ hopens.leases, Store.closedSince_of_eq hopens.closings,
    Store.readsSince_of_succ hopens.count]
  refine .holding hopens.scan hopens.begun (hopens.setUp ?_) ?_
  · intro e he
    rw [hissue] at he
    cases he
  · simp [hopens.count]

/-- What a reader holds is returned. -/
theorem Phase.releases (h : Phase (some r) s opened closed reads) (hreleases : r.Releases s r' s')
    {left : Option Reader} (hleft : ∀ held ∈ left, held = r') :
    Phase left s' (opened ++ s.openedSince s') (closed ++ s.closedSince s')
        (reads ++ s.readsSince s') ∧ Over left := by
  have hover : Over left := by
    intro held hheld
    rw [hleft held hheld]
    exact ⟨hreleases.scan, hreleases.begun⟩
  refine ⟨?_, hover⟩
  rw [Store.readsSince_of_eq hreleases.count, Store.openedSince_of_eq hreleases.leases,
    Store.closedSince_of_append hreleases.closings, List.append_nil, List.append_nil]
  cases h with
  | fresh _ hscan _ =>
    rw [hscan]
    exact .ended hover (Nat.zero_le _) fun _ hn => absurd hn List.not_mem_nil
  | @holding _ _ scan hscan _ _ hstream =>
    rw [hscan]
    refine .ended hover (Nat.le_refl _) fun n hn => ?_
    rw [List.mem_singleton.mp hn]
    exact hreleases.stopped scan hscan hstream
  | ended hover' hlength hcancelled =>
    rw [(hover' r rfl).1, Option.map_none, Option.toList_none, List.append_nil]
    exact .ended hover hlength fun n hn => hreleases.cancelled n (hcancelled n hn)

end Phases

/-- **What a call does to the phase of a reader.**  A call that ends its use leaves it over. -/
theorem Phase.visit {v : Visit} {opened closed reads : List Nat}
    (h : Phase (some v.reader) v.store opened closed reads) (hv : v.Happens) :
    Phase v.left v.storeLeft (opened ++ v.opened) (closed ++ v.closed) (reads ++ v.reads) ∧
      (v.Ends → Over v.left) := by
  rcases hv.cases with ⟨r', hleft, heffect, hclose, hdrop⟩ | ⟨r', hleft, hreleases, -⟩
  · -- Of these calls only one that fails to set up the scan ends the use of the reader.
    have hends : (v.reader.feed.SetUp → ∀ e ∈ v.error, e.isSetup = false) →
        (Over (some v.reader) → Over v.left) → v.Ends → Over v.left := by
      rintro herror hstays (hcall | hcall | ⟨e, he, hsetup⟩)
      · exact absurd hcall hclose
      · exact absurd hcall hdrop
      · refine hstays (h.setUp.resolve_left fun hsetUp => ?_)
        cases (herror hsetUp e he).symm.trans hsetup
    cases heffect with
    | carries hcarries herror =>
      have hphase := h.carries hcarries
      rw [Visit.opened, Visit.closed, Visit.reads,
        Store.openedSince_of_eq (congrArg _ hcarries.store.leases),
        Store.closedSince_of_eq hcarries.store.closings,
        Store.readsSince_of_eq hcarries.store.count, List.append_nil, List.append_nil,
        List.append_nil, hleft]
      refine ⟨hphase, fun hend => hleft ▸ hends herror (fun hover => ?_) hend⟩
      rw [hleft]
      exact hover.carries hcarries
    | refuses hrefuses =>
      rw [hleft]
      obtain ⟨hphase, hover⟩ := h.refuses hrefuses
      exact ⟨hphase, fun _ => hover⟩
    | opens hopens herror =>
      refine ⟨?_, hends herror fun hover => absurd hopens.created (hover _ rfl).2⟩
      rw [hleft]
      exact h.opens hopens
  · obtain ⟨hphase, hover⟩ := h.releases hreleases hleft
    exact ⟨hphase, fun _ => hover⟩

/-! ### Whole lives -/

section Lives

variable {shard : Shard} {timeoutSeconds : Word .u64} {r : Option Reader} {s : Store}
  {visits : List Visit}

/-- A reader that is over stays so, and neither opens nor returns a session any more. -/
theorem Over.visit {v : Visit} (hover : Over (some v.reader)) (hv : v.Happens) :
    Over v.left ∧ v.opened = [] ∧ v.closed = [] := by
  obtain ⟨hscan, hbegun⟩ := hover _ rfl
  rcases hv.cases with ⟨r', hleft, heffect, -, -⟩ | ⟨r', hleft, hreleases, -⟩
  · cases heffect with
    | carries hcarries =>
      rw [hleft]
      exact ⟨hover.carries hcarries, Store.openedSince_of_eq (congrArg _ hcarries.store.leases),
        Store.closedSince_of_eq hcarries.store.closings⟩
    | refuses hrefuses => exact absurd hrefuses.created hbegun
    | opens hopens => exact absurd hopens.created hbegun
  · refine ⟨fun held hheld => ?_, Store.openedSince_of_eq hreleases.leases,
      Store.closedSince_of_append (hreleases.closings.trans ?_)⟩
    · rw [hleft held hheld]
      exact ⟨hreleases.scan, hreleases.begun⟩
    · rw [hscan]
      rfl

/-- A call does not make a reader that has failed forget it. -/
theorem Visit.Happens.failed {v : Visit} (hv : v.Happens) :
    ∀ held ∈ v.left, v.reader.state = .failed → held.state = .failed := by
  intro held hheld hfailed
  rcases hv.cases with ⟨r', hleft, heffect, -, -⟩ | ⟨r', hleft, hreleases, -⟩
  · rw [hleft] at hheld
    cases hheld
    cases heffect with
    | carries hcarries => exact hcarries.remembers.failed hfailed
    | refuses hrefuses => cases hrefuses.created.symm.trans hfailed
    | opens hopens => cases hopens.created.symm.trans hfailed
  · rw [hleft held hheld]
    exact hreleases.remembers.failed hfailed

/-- In front of each of its calls a reader has lived so far. -/
theorem Life.before (h : Life shard timeoutSeconds r s visits) {before after : List Visit}
    {v : Visit} (hvisits : visits = before ++ v :: after) :
    Life shard timeoutSeconds (some v.reader) v.store before ∧ v.Happens := by
  induction h generalizing after with
  | new => simp at hvisits
  | visit hlife hv ih =>
    -- The last call is this one, or one of those behind it.
    rcases List.eq_nil_or_concat after with rfl | ⟨after', last, rfl⟩
    · obtain ⟨rfl, rfl⟩ := List.append_singleton_inj.mp hvisits
      exact ⟨hlife, hv⟩
    · rw [List.concat_eq_append, ← List.cons_append, ← List.append_assoc,
        List.append_singleton_inj] at hvisits
      exact ih hvisits.1
  | settle _ ih => exact ih hvisits
  | others _ _ ih => exact ih hvisits

/-- The phase of a reader at any time of its life. -/
theorem Life.phase (h : Life shard timeoutSeconds r s visits) :
    Phase r s (visits.flatMap Visit.opened) (visits.flatMap Visit.closed)
        (visits.flatMap Visit.reads) ∧ ((∃ v ∈ visits, v.Ends) → Over r) := by
  induction h with
  | new s => exact ⟨.fresh rfl rfl rfl, fun ⟨_, hv, _⟩ => absurd hv List.not_mem_nil⟩
  | @visit v visits _ hv ih =>
    obtain ⟨hphase, hends⟩ := ih.1.visit hv
    simp only [List.flatMap_append, List.flatMap_cons, List.flatMap_nil, List.append_nil]
    refine ⟨hphase, ?_⟩
    rintro ⟨v', hv', hend⟩
    rcases List.mem_append.mp hv' with hv' | hv'
    · exact (ih.2 ⟨v', hv', hend⟩).visit hv |>.1
    · exact hends (List.mem_singleton.mp hv' ▸ hend)
  | @settle r s _ _ ih =>
    exact ⟨ih.1.carries (r.carries_settle s), fun hend =>
      (ih.2 hend).carries (r.carries_settle s)⟩
  | others _ hothers ih => exact ⟨ih.1.others hothers, ih.2⟩

/-- A reader that has failed stays so, from call to call. -/
theorem Life.failed (h : Life shard timeoutSeconds r s visits) :
    (visits.flatMap Visit.readers).Pairwise (fun r₁ r₂ => r₁.state = .failed → r₂.state = .failed) ∧
      ∀ held ∈ r, ∀ r₁ ∈ visits.flatMap Visit.readers,
        r₁.state = .failed → held.state = .failed := by
  induction h with
  | new s => exact ⟨.nil, fun _ _ _ hmem => absurd hmem List.not_mem_nil⟩
  | @visit v visits _ hv ih =>
    obtain ⟨hpairs, hnow⟩ := ih
    have hfront : (visits.flatMap Visit.readers ++ [v.reader]).Pairwise
        fun r₁ r₂ => r₁.state = .failed → r₂.state = .failed := by
      refine List.pairwise_append.mpr ⟨hpairs, List.pairwise_singleton _ _, fun r₁ hr₁ r₂ hr₂ => ?_⟩
      rw [List.mem_singleton.mp hr₂]
      exact hnow v.reader rfl r₁ hr₁
    have hbehind : ∀ held ∈ v.left, ∀ r₁ ∈ visits.flatMap Visit.readers ++ [v.reader],
        r₁.state = .failed → held.state = .failed := by
      intro held hheld r₁ hr₁ hfailed
      refine hv.failed held hheld ?_
      rcases List.mem_append.mp hr₁ with hr₁ | hr₁
      · exact hnow v.reader rfl r₁ hr₁ hfailed
      · rwa [← List.mem_singleton.mp hr₁]
    have hreaders : (visits ++ [v]).flatMap Visit.readers =
        visits.flatMap Visit.readers ++ [v.reader] ++ v.left.toList := by
      simp [Visit.readers]
    rw [hreaders]
    refine ⟨List.pairwise_append.mpr ⟨hfront, ?_, fun r₁ hr₁ r₂ hr₂ => ?_⟩, ?_⟩
    · cases v.left with
      | none => exact .nil
      | some held => exact List.pairwise_singleton _ _
    · exact hbehind r₂ (Option.mem_toList.mp hr₂) r₁ hr₁
    · intro held hheld r₁ hr₁ hfailed
      rcases List.mem_append.mp hr₁ with hr₁ | hr₁
      · exact hbehind held hheld r₁ hr₁ hfailed
      · cases (Option.mem_toList.mp hr₁).symm.trans hheld
        exact hfailed
  | @settle r s _ _ ih =>
    refine ⟨ih.1, ?_⟩
    rintro held ⟨⟩ r₁ hr₁ hfailed
    exact (r.carries_settle s).remembers.failed (ih.2 r rfl r₁ hr₁ hfailed)
  | others _ _ ih => exact ih

end Lives

/-- **The sessions and reads of a reader over its whole life**, whatever its calls find, in
whatever order they come, and whether threads can be had or not.  It opens one session at most.
Behind a call that could not set up the scan, closed the reader or gave it up, the calls that
returned a session are one for each session opened so far, every read that was opened is cancelled,
and no later call opens or returns a session.  Nor does the producer in between.  A reader that has
failed stays so, from call to call and over all interleavings. -/
theorem session_lifecycle (shard : Shard) (timeoutSeconds : Word .u64) (r : Option Reader)
    (s : Store) (visits : List Visit) (h : Life shard timeoutSeconds r s visits) :
    (visits.flatMap Visit.opened).length ≤ 1 ∧
      (∀ before v after, visits = before ++ v :: after → v.Ends →
        (before ++ [v]).flatMap Visit.closed = (before ++ [v]).flatMap Visit.opened ∧
          (∀ n ∈ (before ++ [v]).flatMap Visit.reads, v.storeLeft.Cancelled n) ∧
          ∀ v' ∈ after, v'.opened = [] ∧ v'.closed = []) ∧
      (∀ (held : Reader) (s' : Store), (held.settle s').2.leases = s'.leases ∧
        (held.settle s').2.closings = s'.closings) ∧
      (visits.flatMap Visit.readers).Pairwise
        (fun r₁ r₂ => r₁.state = .failed → r₂.state = .failed) ∧
      ∀ w w' : ScanWorld, ScanRun w w' → w.feed.state = .failed → w'.feed.state = .failed := by
  refine ⟨h.phase.1.length_le, fun before v after hvisits hend => ?_, fun held s' => ?_, h.failed.1,
    fun w w' hrun => (ScanWorld.remembers_run hrun).failed⟩
  · -- Behind a call that ends its use a reader is over, with what was opened returned and cancelled.
    obtain ⟨hbefore, hv⟩ := h.before hvisits
    obtain ⟨hphase, hover⟩ := (hbefore.visit hv).phase
    have hmem : v ∈ before ++ [v] := List.mem_append_right _ List.mem_cons_self
    obtain ⟨hclosed, hcancelled⟩ := hphase.of_over (hover ⟨v, hmem, hend⟩)
    refine ⟨hclosed, hcancelled, fun v' hv' => ?_⟩
    obtain ⟨middle, rest, rfl⟩ := List.append_of_mem hv'
    have hvisits' : visits = (before ++ v :: middle) ++ v' :: rest := by
      rw [hvisits, List.append_assoc, List.cons_append]
    obtain ⟨hlife, hcall⟩ := h.before hvisits'
    have hended := hlife.phase.2 ⟨v, List.mem_append_right _ List.mem_cons_self, hend⟩
    exact (hended.visit hcall).2
  · have hsettled := held.carries_settle s'
    exact ⟨hsettled.store.leases, hsettled.store.closings⟩

/-- A store with the albums, whose reads wait at a gate that nobody opens. -/
def gatedStore : Store :=
  let layout : TableLayout :=
    { columns := [⟨"id", .optional (.int .int32)⟩, ⟨"title", .text⟩]
      primaryKey := ["id"]
      indexes := []
      properties := .empty
      partitions := [] }
  let s := ((Store.new "/local").createTable "/local/albums" layout).2
  let s := (s.insertRows "/local/albums" [[.int .int32 3, .text "Blue"]]).2
  { s with faults := { Faults.none with gate := some (0, 0) }, gates := 1 }

/-- A reader is closed while its read waits, and called twice more before it is given up.  For
another one there is no thread to be had, and it is given up behind that. -/
theorem session_lifecycle_album :
    (∃ s visits, Life albumShard 60 none s visits ∧
      visits.map (·.call) = [.prepare, .close, .prepare, .next, .drop] ∧
      visits.flatMap Visit.opened = [1] ∧ visits.flatMap Visit.closed = [1] ∧
      visits.flatMap Visit.reads = [0] ∧ s.Cancelled 0) ∧
    ∃ s visits, Life albumShard 60 none s visits ∧
      visits.map (·.call) = [.prepare, .drop] ∧
      visits.map (·.error) =
        [some (.setup "/local/albums" (Reader.spawnFailure "no thread")), none] ∧
      visits.flatMap Visit.opened = [1] ∧ visits.flatMap Visit.closed = [1] ∧
      visits.flatMap Visit.reads = [0] ∧ s.Cancelled 0 := by
  have hnew : Life albumShard 60 (some (.new albumShard 60)) gatedStore [] := .new gatedStore
  have hrange : albumShard.effectiveRange?.isSome = true := by decide +kernel
  have hprepare (spawn : Except String Unit) : (Reader.new albumShard 60).prepare gatedStore spawn =
      some ((Reader.new albumShard 60).setUp gatedStore spawn) := by
    obtain ⟨range, hsome⟩ := Option.isSome_iff_exists.mp hrange
    rw [Reader.prepare, if_pos (show (Reader.new albumShard 60).state = .created from rfl)]
    exact congrArg _ hsome
  constructor
  · have hprepared := hnew.visit (.prepare (hprepare (.ok ())))
    have hclosed := hprepared.visit (.close _ _)
    -- A closed reader has nothing to prepare, and no row.
    let shut := ((Reader.new albumShard 60).setUp gatedStore (.ok ())).2
    let closed := shut.1.close shut.2
    have hstate : closed.1.state = .finished := by decide +kernel
    have hrow : closed.1.advance? = none := rfl
    have hagain := hclosed.visit (@Visit.Happens.prepare closed.1 closed.1 closed.2 closed.2 (.ok ())
      _ (Reader.prepare_of_begun (by simp [hstate]) _ _))
    have hnext := hagain.visit (@Visit.Happens.next closed.1 closed.1 closed.2 closed.2 (.ok ())
      (.ok false) (by simp only [Reader.next, hrow, hstate]))
    have hlife := hnext.visit (.drop _ _ .empty none)
    obtain ⟨-, hsessions, -⟩ := session_lifecycle albumShard 60 _ _ _ hlife
    obtain ⟨hreturned, hcancelled, -⟩ := hsessions _ _ [] rfl (.inr (.inl rfl))
    refine ⟨_, _, hlife, rfl, ?_, hreturned.trans ?_, ?_, hcancelled 0 ?_⟩ <;> decide +kernel
  · have hprepared := hnew.visit (.prepare (hprepare (.error "no thread")))
    have hlife := hprepared.visit (.drop _ _ .empty none)
    obtain ⟨-, hsessions, -⟩ := session_lifecycle albumShard 60 _ _ _ hlife
    obtain ⟨hreturned, hcancelled, -⟩ := hsessions _ _ [] rfl (.inr (.inl rfl))
    refine ⟨_, _, hlife, rfl, ?_, ?_, hreturned.trans ?_, ?_, hcancelled 0 ?_⟩ <;> decide +kernel

end ShardScan
