import ShardScan.Proofs.Connection.Counting

/-!
# A registry in use

Handles are acquired, looked up, passed on and dropped in any order, by a
client factory that may fail at any call.  The calls of the factory are written
down as they are made, so that they can be compared with what the registry
counts.

## Main definitions

* `Usage` — a registry, the handles that are held and the calls of the factory.
* `UsageAction`, `Usage.act`, `Usage.run` — what can be done with it, in any order.
* `Usage.Sound` — the counters of the registry are right.

## Main results

* `Usage.acquire_held`, `Usage.acquire_opened`, `Usage.acquire_failed` — the three outcomes of an
  acquisition.
* `Usage.acquire_free` — what follows on an acquisition for which no handle was held.
* `Usage.sound_act`, `Usage.sound_run` — the counters stay right.
-/

namespace ShardScan

/-! ### Acquisition -/

namespace Registry

variable {r : Registry} {options : ConnectionOptions} {c : Connector} {m : Type → Type} [Monad m]

/-- The outcome of an acquisition for which `connect` had to be called. -/
def settle (r : Registry) (snapshot : ConnectionOptions) :
    Except StoreError Unit → Except StoreError Acquired × Registry
  | .error e => (.error e, r)
  | .ok () => (.ok (.opened (r.add snapshot).1), (r.add snapshot).2)

/-- A live connection is found, and nothing is called. -/
theorem acquireM_of_some (h : r.lookup options = some c)
    (connect : ConnectionOptions → m (Except StoreError Unit)) :
    r.acquireM options connect =
      pure (.ok (.found c), { r.purge.2 with hits := r.hits + 1 }.retain c) := by
  have hfind : r.purge.2.find? options.snapshot = some c := (r.find?_purge _).trans h
  rw [acquireM]
  dsimp only
  rw [hfind]
  rfl

/-- Without a live connection there is one call, of which the outcome depends. -/
theorem acquireM_of_none (h : r.lookup options = none)
    (connect : ConnectionOptions → m (Except StoreError Unit)) :
    r.acquireM options connect =
      connect options.snapshot >>= fun outcome =>
        pure (r.purge.2.settle options.snapshot outcome) := by
  have hfind : r.purge.2.find? options.snapshot = none := (r.find?_purge _).trans h
  rw [acquireM]
  dsimp only
  rw [hfind]
  refine congrArg (connect options.snapshot >>= ·) (funext fun outcome => ?_)
  cases outcome <;> rfl

end Registry

/-! ### A registry in use -/

/-- A call of the client factory. -/
structure FactoryCall where
  options : ConnectionOptions
  succeeded : Bool
deriving DecidableEq

/-- A registry and those who use it. -/
structure Usage where
  registry : Registry
  /-- The handles that are held, each as often as it is held. -/
  held : List Connector
  /-- The calls of the client factory so far. -/
  calls : List FactoryCall
  /-- How many acquisitions there were for which a handle was held. -/
  served : Nat

/-- What can be done with a registry. -/
inductive UsageAction
  /-- Acquires a handle, with a client factory that may fail. -/
  | acquire (options : ConnectionOptions) (connect : ConnectionOptions → Except StoreError Unit)
  /-- Looks a handle up and keeps it. -/
  | get (options : ConnectionOptions)
  /-- Forgets what nobody holds. -/
  | purge
  /-- Passes a handle on. -/
  | share (c : Connector)
  /-- Drops a handle. -/
  | drop (c : Connector)

namespace Usage

variable {u : Usage} {options : ConnectionOptions} {c : Connector}
  {connect : ConnectionOptions → Except StoreError Unit} {e : StoreError}

/-- Nothing has been done yet. -/
def start : Usage := ⟨.empty, [], [], 0⟩

/-- A client factory that writes its calls down. -/
def recorded (connect : ConnectionOptions → Except StoreError Unit) (options : ConnectionOptions) :
    StateM (List FactoryCall) (Except StoreError Unit) := do
  modify (· ++ [⟨options, (connect options).isOk⟩])
  return connect options

/-- Acquires a handle, which is held from then on. -/
def acquire (u : Usage) (options : ConnectionOptions)
    (connect : ConnectionOptions → Except StoreError Unit) : Except StoreError Acquired × Usage :=
  let ((outcome, registry), calls) := (u.registry.acquireM options (recorded connect)).run u.calls
  (outcome,
    { registry := registry
      held := match outcome with
        | .ok acquired => acquired.connector :: u.held
        | .error _ => u.held
      calls := calls
      served := if u.held.any (·.options = options.snapshot) then u.served + 1 else u.served })

/-- Looks a handle up, which is held from then on. -/
def get (u : Usage) (options : ConnectionOptions) : Option Connector × Usage :=
  match u.registry.lookup options with
  | some c => (some c, { u with registry := u.registry.retain c, held := c :: u.held })
  | none => (none, u)

/-- Passes a handle on, if it is held. -/
def share (u : Usage) (c : Connector) : Usage :=
  if c ∈ u.held then { u with registry := u.registry.retain c, held := c :: u.held } else u

/-- Drops a handle, if it is held. -/
def drop (u : Usage) (c : Connector) : Usage :=
  if c ∈ u.held then { u with registry := u.registry.release c, held := u.held.erase c } else u

/-- What follows on an action. -/
def act (u : Usage) : UsageAction → Usage
  | .acquire options connect => (u.acquire options connect).2
  | .get options => (u.get options).2
  | .purge => { u with registry := u.registry.purge.2 }
  | .share c => u.share c
  | .drop c => u.drop c

/-- What follows on some actions, one after the other. -/
def run (u : Usage) (actions : List UsageAction) : Usage := actions.foldl act u

/-- The registry counts its holders, the connections it opened and how often it found one. -/
structure Sound (u : Usage) : Prop where
  tracks : u.registry.Tracks u.held
  opened : u.registry.opened = u.calls.countP (·.succeeded)
  hits : u.registry.hits = u.served

theorem sound_start : start.Sound where
  tracks := Registry.tracks_empty
  opened := rfl
  hits := rfl

/-! ### The outcomes of an acquisition -/

/-- A held handle with the snapshot is handed out again. -/
theorem acquire_held (h : u.Sound) (hc : c ∈ u.held) (hoptions : c.options = options.snapshot) :
    u.acquire options connect = (.ok (.found c),
      { u with
        registry := { u.registry.purge.2 with hits := u.registry.hits + 1 }.retain c
        held := c :: u.held
        served := u.served + 1 }) := by
  have hlookup := h.tracks.lookup_eq_some_iff.mpr ⟨hc, hoptions⟩
  have hany : u.held.any (·.options = options.snapshot) = true :=
    List.any_eq_true.mpr ⟨c, hc, decide_eq_true hoptions⟩
  rw [acquire, Registry.acquireM_of_some hlookup, hany]
  rfl

/-- Where no handle with the snapshot is held, the factory is called once. -/
theorem acquire_settled (h : u.Sound) (hfree : ∀ c ∈ u.held, c.options ≠ options.snapshot) :
    u.acquire options connect =
      (let outcome := u.registry.purge.2.settle options.snapshot (connect options.snapshot)
      (outcome.1,
        { u with
          registry := outcome.2
          held := match outcome.1 with
            | .ok acquired => acquired.connector :: u.held
            | .error _ => u.held
          calls := u.calls ++ [⟨options.snapshot, (connect options.snapshot).isOk⟩] })) := by
  have hlookup := h.tracks.lookup_eq_none_iff.mpr hfree
  have hany : u.held.any (·.options = options.snapshot) = false :=
    List.any_eq_false.mpr fun c hc => by simpa using hfree c hc
  rw [acquire, Registry.acquireM_of_none hlookup, hany]
  rfl

/-- A factory that succeeds makes a new handle. -/
theorem acquire_opened (h : u.Sound) (hfree : ∀ c ∈ u.held, c.options ≠ options.snapshot)
    (hconnect : connect options.snapshot = .ok ()) :
    u.acquire options connect =
      (.ok (.opened (u.registry.purge.2.add options.snapshot).1),
        { u with
          registry := (u.registry.purge.2.add options.snapshot).2
          held := (u.registry.purge.2.add options.snapshot).1 :: u.held
          calls := u.calls ++ [⟨options.snapshot, true⟩] }) := by
  rw [acquire_settled h hfree, hconnect]
  rfl

/-- A factory that fails changes nothing, but that the registry is purged. -/
theorem acquire_failed (h : u.Sound) (hfree : ∀ c ∈ u.held, c.options ≠ options.snapshot)
    (hconnect : connect options.snapshot = .error e) :
    u.acquire options connect =
      (.error e,
        { u with
          registry := u.registry.purge.2
          calls := u.calls ++ [⟨options.snapshot, false⟩] }) := by
  rw [acquire_settled h hfree, hconnect]
  rfl

/-- Where no handle with the snapshot is held, an acquisition calls the factory once; then a new
handle is held, or the failure is handed on and all that is live is as it was. -/
theorem acquire_free (h : u.Sound) (connect : ConnectionOptions → Except StoreError Unit)
    (hfree : ∀ c ∈ u.held, c.options ≠ options.snapshot) :
    (u.acquire options connect).2.calls =
        u.calls ++ [⟨options.snapshot, (connect options.snapshot).isOk⟩] ∧
      (connect options.snapshot = .ok () → ∃ c, c ∉ u.held ∧ c.options = options.snapshot ∧
        (u.acquire options connect).1 = .ok (.opened c) ∧
        (u.acquire options connect).2.held = c :: u.held) ∧
      ∀ e, connect options.snapshot = .error e →
        (u.acquire options connect).1 = .error e ∧
        (u.acquire options connect).2.held = u.held ∧
        (u.acquire options connect).2.registry.live = u.registry.live := by
  refine ⟨?_, ?_, ?_⟩
  · rw [acquire_settled h hfree]
  · intro hconnect
    rw [acquire_opened h hfree hconnect]
    exact ⟨_, fun hmem => hfree _ hmem rfl, rfl, rfl, rfl⟩
  · intro e hconnect
    rw [acquire_failed h hfree hconnect]
    exact ⟨rfl, rfl, u.registry.live_purge⟩

/-- Writing the calls of the factory down has no influence on the outcome. -/
theorem acquire_eq (u : Usage) (options : ConnectionOptions)
    (connect : ConnectionOptions → Except StoreError Unit) :
    u.registry.acquire options connect =
      ((u.acquire options connect).1, (u.acquire options connect).2.registry) := by
  cases hlookup : u.registry.lookup options with
  | some c =>
    rw [Registry.acquire, acquire, Registry.acquireM_of_some hlookup,
      Registry.acquireM_of_some hlookup]
    rfl
  | none =>
    rw [Registry.acquire, acquire, Registry.acquireM_of_none hlookup,
      Registry.acquireM_of_none hlookup]
    rfl

/-! ### The counters stay right -/

/-- No connection of a purged registry has a snapshot under which no handle is held. -/
theorem Sound.fresh_purge (h : u.Sound) (hfree : ∀ c ∈ u.held, c.options ≠ options.snapshot) :
    ∀ e ∈ u.registry.purge.2.entries, e.connector.options ≠ options.snapshot := by
  intro e he
  obtain ⟨hmem, hlive⟩ := List.mem_filter.mp he
  exact hfree _ ((h.tracks.isLive_iff hmem).mp hlive)

theorem sound_acquire (h : u.Sound) (options : ConnectionOptions)
    (connect : ConnectionOptions → Except StoreError Unit) :
    (u.acquire options connect).2.Sound := by
  by_cases hheld : ∃ c ∈ u.held, c.options = options.snapshot
  · obtain ⟨c, hc, hoptions⟩ := hheld
    rw [acquire_held h hc hoptions]
    exact ⟨(h.tracks.purge.withHits _).retain hc, h.opened, congrArg (· + 1) h.hits⟩
  · push Not at hheld
    cases hconnect : connect options.snapshot with
    | error e =>
      rw [acquire_failed h hheld hconnect]
      refine ⟨h.tracks.purge, ?_, h.hits⟩
      rw [List.countP_append]
      exact h.opened
    | ok =>
      rw [acquire_opened h hheld hconnect]
      refine ⟨h.tracks.purge.add options.snapshot_snapshot (h.fresh_purge hheld), ?_, h.hits⟩
      rw [List.countP_append]
      exact congrArg (· + 1) h.opened

theorem sound_retain (h : u.Sound) (hc : c ∈ u.held) :
    ({ u with registry := u.registry.retain c, held := c :: u.held } : Usage).Sound :=
  ⟨h.tracks.retain hc, h.opened, h.hits⟩

/-- Every action keeps the counters right. -/
theorem sound_act (h : u.Sound) (action : UsageAction) : (u.act action).Sound := by
  cases action with
  | acquire options connect => exact sound_acquire h options connect
  | get options =>
    rw [act, get]
    split
    · next c hlookup => exact sound_retain h (h.tracks.lookup_eq_some_iff.mp hlookup).1
    · exact h
  | purge => exact ⟨h.tracks.purge, h.opened, h.hits⟩
  | share c =>
    rw [act, share]
    split
    · next hc => exact sound_retain h hc
    · exact h
  | drop c =>
    rw [act, drop]
    split
    · next hc => exact ⟨h.tracks.release hc, h.opened, h.hits⟩
    · exact h

/-- The counters stay right, whatever is done. -/
theorem sound_run (h : u.Sound) (actions : List UsageAction) : (u.run actions).Sound := by
  induction actions generalizing u with
  | nil => exact h
  | cons action actions ih => exact ih (sound_act h action)

end Usage
end ShardScan
