import Mathlib.Data.List.Nodup
import ShardScan.Connection.Registry
import ShardScan.Proofs.Connection.Snapshots

/-!
# The registry counts the holders of connections

The holders of a connection are the handles of it that someone has.  As long as
the registry counts them right, the connections that are live in it are those
that are held, and no two of them have the same snapshot.

## Main definitions

* `Registry.live` — the connections that are live.
* `Registry.Tracks r held` — `r` counts the holders right if the handles in `held` are held.

## Main results

* `Registry.Tracks.purge`, `Registry.Tracks.retain`, `Registry.Tracks.release`,
  `Registry.Tracks.add` — each change keeps the counts right.
* `Registry.Tracks.mem_live` — live is what is held.
* `Registry.Tracks.lookup_eq_some_iff` — a look-up finds the held connection with the snapshot.
-/

namespace ShardScan

/-- One more element in a list under images without repetition. -/
theorem nodup_map_concat {α β : Type} {f : α → β} {l : List α} {a : α} (hl : (l.map f).Nodup)
    (ha : ∀ b ∈ l, f b ≠ f a) : ((l ++ [a]).map f).Nodup := by
  rw [List.map_append, List.map_singleton, List.nodup_append]
  refine ⟨hl, List.nodup_singleton _, List.forall_mem_map.mpr fun b hb => ?_⟩
  simpa using ha b hb

theorem RegistryEntry.connector_recount (e : RegistryEntry) (c : Connector) (f : Nat → Nat) :
    (e.recount c f).connector = e.connector := by
  unfold recount
  split <;> rfl

namespace Registry

variable {r : Registry} {held held' : List Connector} {c : Connector}

/-- The live connections. -/
def live (r : Registry) : List Connector :=
  (r.entries.filter RegistryEntry.isLive).map (·.connector)

/-- Every handle that is held is a connection of the registry, which counts its holders; the
connections are numbered as they were opened, each with a snapshot of its own. -/
structure Tracks (r : Registry) (held : List Connector) : Prop where
  numbered : ∀ e ∈ r.entries, e.connector.handle < r.opened
  handles : (r.entries.map (·.connector.handle)).Nodup
  snapshots : (r.entries.map (·.connector.options)).Nodup
  stripped : ∀ e ∈ r.entries, e.connector.options.snapshot = e.connector.options
  holders : ∀ e ∈ r.entries, e.holders = held.count e.connector
  registered : ∀ c ∈ held, ∃ e ∈ r.entries, e.connector = c

theorem tracks_empty : empty.Tracks [] where
  numbered := nofun
  handles := .nil
  snapshots := .nil
  stripped := nofun
  holders := nofun
  registered := nofun

/-! ### What the counts say -/

theorem find?_eq_find?_live (r : Registry) (snapshot : ConnectionOptions) :
    r.find? snapshot = r.live.find? fun c => c.options = snapshot := by
  rw [find?, live, List.find?_map, List.find?_filter]
  simp

@[simp]
theorem live_purge (r : Registry) : r.purge.2.live = r.live := by
  simp [purge, live]

@[simp]
theorem find?_purge (r : Registry) (snapshot : ConnectionOptions) :
    r.purge.2.find? snapshot = r.find? snapshot := by
  rw [find?_eq_find?_live, find?_eq_find?_live, live_purge]

namespace Tracks

/-- Two connections of the registry with one handle are the same. -/
theorem handle_inj (h : r.Tracks held) {e e' : RegistryEntry} (he : e ∈ r.entries)
    (he' : e' ∈ r.entries) (hhandle : e.connector.handle = e'.connector.handle) : e = e' :=
  List.inj_on_of_nodup_map h.handles he he' hhandle

theorem isLive_iff (h : r.Tracks held) {e : RegistryEntry} (he : e ∈ r.entries) :
    e.isLive = true ↔ e.connector ∈ held := by
  rw [RegistryEntry.isLive, decide_eq_true_iff, h.holders e he, List.count_pos_iff]

/-- The live connections are those that someone holds. -/
theorem mem_live (h : r.Tracks held) : c ∈ r.live ↔ c ∈ held := by
  simp only [live, List.mem_map, List.mem_filter]
  constructor
  · rintro ⟨e, ⟨he, hlive⟩, rfl⟩
    exact (h.isLive_iff he).mp hlive
  · intro hc
    obtain ⟨e, he, rfl⟩ := h.registered c hc
    exact ⟨e, ⟨he, (h.isLive_iff he).mpr hc⟩, rfl⟩

/-- No two live connections have one snapshot. -/
theorem nodup_live (h : r.Tracks held) : (r.live.map (·.options)).Nodup := by
  rw [live, List.map_map]
  exact h.snapshots.sublist (List.filter_sublist.map _)

theorem eq_of_options_eq (h : r.Tracks held) {c c' : Connector} (hc : c ∈ held) (hc' : c' ∈ held)
    (heq : c.options = c'.options) : c = c' :=
  List.inj_on_of_nodup_map h.nodup_live (h.mem_live.mpr hc) (h.mem_live.mpr hc') heq

theorem options_snapshot (h : r.Tracks held) (hc : c ∈ held) : c.options.snapshot = c.options := by
  obtain ⟨e, he, rfl⟩ := h.registered c hc
  exact h.stripped e he

/-- A look-up finds the held connection with the snapshot of the options, and no other. -/
theorem lookup_eq_some_iff (h : r.Tracks held) {options : ConnectionOptions} :
    r.lookup options = some c ↔ c ∈ held ∧ c.options = options.snapshot := by
  rw [lookup, find?_eq_find?_live]
  constructor
  · intro hfind
    have hmem := List.mem_of_find?_eq_some hfind
    exact ⟨h.mem_live.mp hmem, by simpa using List.find?_some hfind⟩
  · rintro ⟨hc, hoptions⟩
    cases hfind : r.live.find? fun c => c.options = options.snapshot with
    | none => simpa [hoptions] using List.find?_eq_none.mp hfind c (h.mem_live.mpr hc)
    | some c' =>
      have hmem := h.mem_live.mp (List.mem_of_find?_eq_some hfind)
      have hoptions' : c'.options = options.snapshot := by simpa using List.find?_some hfind
      rw [h.eq_of_options_eq hmem hc (hoptions'.trans hoptions.symm)]

theorem lookup_eq_none_iff (h : r.Tracks held) {options : ConnectionOptions} :
    r.lookup options = none ↔ ∀ c ∈ held, c.options ≠ options.snapshot := by
  rw [Option.eq_none_iff_forall_ne_some]
  simp only [ne_eq, h.lookup_eq_some_iff, not_and]

/-! ### What keeps the counts right -/

/-- How often a connection was found has nothing to do with its holders. -/
theorem withHits (h : r.Tracks held) (hits : Nat) : Tracks { r with hits := hits } held :=
  ⟨h.numbered, h.handles, h.snapshots, h.stripped, h.holders, h.registered⟩

theorem purge (h : r.Tracks held) : r.purge.2.Tracks held where
  numbered e he := h.numbered e (List.mem_of_mem_filter he)
  handles := h.handles.sublist (List.filter_sublist.map _)
  snapshots := h.snapshots.sublist (List.filter_sublist.map _)
  stripped e he := h.stripped e (List.mem_of_mem_filter he)
  holders e he := h.holders e (List.mem_of_mem_filter he)
  registered c hc := by
    obtain ⟨e, he, rfl⟩ := h.registered c hc
    exact ⟨e, List.mem_filter.mpr ⟨he, (h.isLive_iff he).mpr hc⟩, rfl⟩

/-- The counts stay right if the holders of one connection change and are counted anew. -/
theorem recount (h : r.Tracks held) (hc : c ∈ held) {f : Nat → Nat}
    (hself : held'.count c = f (held.count c))
    (hother : ∀ c', c' ≠ c → held'.count c' = held.count c') (hsub : held' ⊆ held) :
    (r.recount c f).Tracks held' := by
  obtain ⟨e₀, he₀, rfl⟩ := h.registered c hc
  have hentries : (r.recount e₀.connector f).entries =
      r.entries.map (·.recount e₀.connector f) := rfl
  -- The entries keep their connections, so what is said of these carries over.
  refine ⟨?_, ?_, ?_, ?_, ?_, ?_⟩
  · rw [hentries, List.forall_mem_map]
    intro e he
    rw [RegistryEntry.connector_recount]
    exact h.numbered e he
  · rw [hentries, List.map_map]
    simpa only [Function.comp_def, RegistryEntry.connector_recount] using h.handles
  · rw [hentries, List.map_map]
    simpa only [Function.comp_def, RegistryEntry.connector_recount] using h.snapshots
  · rw [hentries, List.forall_mem_map]
    intro e he
    rw [RegistryEntry.connector_recount]
    exact h.stripped e he
  · rw [hentries, List.forall_mem_map]
    intro e he
    rw [RegistryEntry.connector_recount, RegistryEntry.recount]
    split
    · next hhandle =>
      obtain rfl := h.handle_inj he he₀ hhandle
      rw [hself, ← h.holders e he]
    · next hhandle =>
      rw [h.holders e he, hother]
      exact fun heq => hhandle (congrArg Connector.handle heq)
  · intro c' hc'
    obtain ⟨e, he, rfl⟩ := h.registered c' (hsub hc')
    exact ⟨_, List.mem_map_of_mem he, e.connector_recount _ _⟩

theorem retain (h : r.Tracks held) (hc : c ∈ held) : (r.retain c).Tracks (c :: held) :=
  h.recount hc List.count_cons_self (fun _ hne => List.count_cons_of_ne hne.symm)
    (List.cons_subset.mpr ⟨hc, List.Subset.refl held⟩)

theorem release (h : r.Tracks held) (hc : c ∈ held) : (r.release c).Tracks (held.erase c) :=
  h.recount hc List.count_erase_self (fun _ hne => List.count_erase_of_ne hne)
    List.erase_subset

/-- A connection is added under a snapshot that no other one has. -/
theorem add (h : r.Tracks held) {snapshot : ConnectionOptions}
    (hsnapshot : snapshot.snapshot = snapshot)
    (hfresh : ∀ e ∈ r.entries, e.connector.options ≠ snapshot) :
    (r.add snapshot).2.Tracks ((r.add snapshot).1 :: held) := by
  have hentries : (r.add snapshot).2.entries = r.entries ++ [⟨(r.add snapshot).1, 1⟩] := rfl
  have hnumber : ∀ e ∈ r.entries, e.connector.handle ≠ r.opened := fun e he => (h.numbered e he).ne
  have hnew : (r.add snapshot).1 ∉ held := by
    intro hc
    obtain ⟨e, he, heq⟩ := h.registered _ hc
    exact hnumber e he (congrArg Connector.handle heq)
  refine ⟨?_, ?_, ?_, ?_, ?_, ?_⟩
  · rw [hentries, List.forall_mem_append, List.forall_mem_singleton]
    exact ⟨fun e he => (h.numbered e he).trans (Nat.lt_succ_self _), Nat.lt_succ_self _⟩
  · rw [hentries]
    exact nodup_map_concat h.handles hnumber
  · rw [hentries]
    exact nodup_map_concat h.snapshots hfresh
  · rw [hentries, List.forall_mem_append, List.forall_mem_singleton]
    exact ⟨h.stripped, hsnapshot⟩
  · rw [hentries, List.forall_mem_append, List.forall_mem_singleton]
    constructor
    · intro e he
      rw [h.holders e he, List.count_cons_of_ne]
      exact fun heq => hnumber e he (congrArg Connector.handle heq).symm
    · rw [List.count_cons_self, List.count_eq_zero.mpr hnew]
  · rw [hentries, List.forall_mem_cons]
    refine ⟨⟨_, List.mem_concat_self, rfl⟩, fun c hc => ?_⟩
    obtain ⟨e, he, heq⟩ := h.registered c hc
    exact ⟨e, List.mem_append_left _ he, heq⟩

end Tracks
end Registry
end ShardScan
