import ShardScan.Connection.Options
import ShardScan.Proofs.Dict

/-!
# Which options mean the same store

Connections are told apart by the snapshots of their options.  A snapshot
forgets the case of the keys and the options that tune scans and catalogs, and
nothing else.

## Main results

* `ConnectionOptions.ofList_congr` — the case of the keys does not matter.
* `ConnectionOptions.snapshot_ofList_eq_iff` — two lists of options have one snapshot iff they give
  the same value to every key that tunes nothing.
* `ConnectionOptions.snapshot_snapshot` — a snapshot is its own snapshot.
-/

namespace ShardScan
namespace ConnectionOptions

/-! ### Keys -/

/-- Two keys are equal but for the case of ASCII letters. -/
def SameKey (key key' : String) : Prop := canonicalKey key = canonicalKey key'

instance (key key' : String) : Decidable (SameKey key key') := inferInstanceAs (Decidable (_ = _))

theorem toLower_toLower (c : Char) : c.toLower.toLower = c.toLower := by
  have hother : ∀ d : Char, ¬(d.val ≥ 'A'.val ∧ d.val ≤ 'Z'.val) → d.toLower = d := by
    intro d h
    exact dif_neg h
  by_cases h : c.val ≥ 'A'.val ∧ c.val ≤ 'Z'.val
  · -- The small letters lie behind the capital ones.
    have hval : c.toLower.val = c.val + ('a'.val - 'A'.val) := congrArg Char.val (dif_pos h)
    refine hother _ ?_
    rw [hval]
    grind
  · rw [hother c h, hother c h]

theorem canonicalKey_canonicalKey (key : String) :
    canonicalKey (canonicalKey key) = canonicalKey key := by
  have htwice : Char.toLower ∘ Char.toLower = Char.toLower := funext toLower_toLower
  rw [canonicalKey, canonicalKey, String.toList_ofList, List.map_map, htwice]

theorem set_congr {key key' : String} (h : SameKey key key') (o : ConnectionOptions)
    (value : String) : o.set key value = o.set key' value := by
  rw [set, set, h]

/-- The case of the keys does not matter. -/
theorem ofList_congr {l l' : List (String × String)}
    (h : List.Forall₂ (fun e e' => SameKey e.1 e'.1 ∧ e.2 = e'.2) l l') : ofList l = ofList l' := by
  unfold ofList
  generalize empty = o
  induction h generalizing o with
  | nil => rfl
  | cons he _ ih => rw [List.foldl_cons, List.foldl_cons, he.2, set_congr he.1, ih]

/-- The options of a list are kept under canonical keys. -/
theorem get?_entries_ofList {l : List (String × String)} {key : String}
    (h : canonicalKey key ≠ key) : (ofList l).entries.get? key = none := by
  induction l using List.reverseRecOn with
  | nil => rfl
  | append_singleton l e ih =>
    have hkey : key ≠ canonicalKey e.1 := by
      rintro rfl
      exact h (canonicalKey_canonicalKey e.1)
    rw [ofList, List.foldl_append]
    show ((ofList l).set e.1 e.2).entries.get? key = none
    rw [set, Dict.get?_insert, if_neg hkey, ih]

/-! ### Snapshots -/

/-- A snapshot is seen under the keys that tune nothing. -/
theorem get?_entries_snapshot (o : ConnectionOptions) (key : String) :
    o.snapshot.entries.get? key = if tuningKeys.contains key then none else o.entries.get? key := by
  rw [snapshot, Dict.get?_filter_key o.entries (!tuningKeys.contains ·)]
  cases tuningKeys.contains key <;> rfl

/-- A snapshot is its own snapshot. -/
@[simp]
theorem snapshot_snapshot (o : ConnectionOptions) : o.snapshot.snapshot = o.snapshot := by
  simp [snapshot, Dict.filter]

/-- Snapshots are equal iff the options agree on every key they are kept under, the tuning ones
apart. -/
theorem snapshot_eq_iff {o o' : ConnectionOptions} :
    o.snapshot = o'.snapshot ↔
      ∀ key, key ∉ tuningKeys → o.entries.get? key = o'.entries.get? key := by
  constructor
  · intro h key hkey
    have hget := congrArg (·.entries.get? key) h
    have hfree : tuningKeys.contains key = false := by simpa using hkey
    simpa only [get?_entries_snapshot, hfree, Bool.false_eq_true, if_false] using hget
  · intro h
    have hentries : o.snapshot.entries = o'.snapshot.entries := by
      refine Dict.ext_get? fun key => ?_
      rw [get?_entries_snapshot, get?_entries_snapshot]
      split
      · rfl
      · next hkey => exact h key (by simpa using hkey)
    exact congrArg mk hentries

/-- Two lists of options have one snapshot iff they give the same value to every key that tunes
nothing, in whatever case it is written. -/
theorem snapshot_ofList_eq_iff {l l' : List (String × String)} :
    (ofList l).snapshot = (ofList l').snapshot ↔
      ∀ key, canonicalKey key ∉ tuningKeys → (ofList l).get? key = (ofList l').get? key := by
  rw [snapshot_eq_iff]
  constructor
  · intro h key hkey
    exact h (canonicalKey key) hkey
  · intro h key hkey
    by_cases hcanonical : canonicalKey key = key
    · have hget := h key (hcanonical.symm ▸ hkey)
      rwa [get?, get?, hcanonical] at hget
    · rw [get?_entries_ofList hcanonical, get?_entries_ofList hcanonical]

end ConnectionOptions
end ShardScan
