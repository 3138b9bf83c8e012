/-!
# Dictionaries

Values under text keys, kept in ascending order of the keys.  The order is
part of the type, so two dictionaries with the same content are equal.

## Main definitions

* `Dict.get?`, `Dict.insert`, `Dict.erase`, `Dict.filter` — look-up and update.
* `Dict.ofList` — the dictionary of a list of entries, a later one replacing an earlier one.

## Main statements

* `Dict.get?_insert`, `Dict.get?_filter_key`, `Dict.get?_erase` — what look-up sees of an update.
-/

namespace ShardScan

/-- The key of an entry lies before that of another. -/
def KeyBefore {α : Type} (a b : String × α) : Prop := compare a.1 b.1 = .lt

/-- Values under text keys, in ascending order of the keys. -/
structure Dict (α : Type) where
  entries : List (String × α)
  ascending : entries.Pairwise KeyBefore
deriving DecidableEq

namespace Dict

variable {α β : Type}

/-- No entries. -/
def empty : Dict α := ⟨[], .nil⟩

instance : Inhabited (Dict α) := ⟨empty⟩

/-- The value under a key. -/
def get? (d : Dict α) (key : String) : Option α := d.entries.lookup key

/-- There is a value under the key. -/
def contains (d : Dict α) (key : String) : Bool := (d.get? key).isSome

/-- The keys in ascending order. -/
def keys (d : Dict α) : List String := d.entries.map (·.1)

/-- The number of entries. -/
def size (d : Dict α) : Nat := d.entries.length

/-- An ascending list of entries with the value under a key set. -/
def insertEntry (key : String) (value : α) : List (String × α) → List (String × α)
  | [] => [(key, value)]
  | e :: rest =>
    match compare key e.1 with
    | .lt => (key, value) :: e :: rest
    | .eq => (key, value) :: rest
    | .gt => e :: insertEntry key value rest

theorem mem_insertEntry {key : String} {value : α} {e : String × α} {l : List (String × α)}
    (h : e ∈ insertEntry key value l) : e = (key, value) ∨ e ∈ l := by
  induction l with
  | nil => simpa [insertEntry] using h
  | cons e' rest ih =>
    unfold insertEntry at h
    split at h
    · simpa using h
    · simp only [List.mem_cons] at h ⊢
      rcases h with h | h
      · exact .inl h
      · exact .inr (.inr h)
    · simp only [List.mem_cons] at h ⊢
      rcases h with h | h
      · exact .inr (.inl h)
      · exact (ih h).imp id .inr

theorem pairwise_insertEntry {key : String} {value : α} {l : List (String × α)}
    (h : l.Pairwise KeyBefore) : (insertEntry key value l).Pairwise KeyBefore := by
  induction l with
  | nil => simp [insertEntry]
  | cons e rest ih =>
    obtain ⟨before, tail⟩ := List.pairwise_cons.mp h
    unfold insertEntry
    split
    · next lt =>
      refine List.pairwise_cons.mpr ⟨?_, h⟩
      intro e' he'
      rcases List.mem_cons.mp he' with rfl | he'
      · exact lt
      · exact Std.TransCmp.lt_trans lt (before e' he')
    · next eq =>
      refine List.pairwise_cons.mpr ⟨?_, tail⟩
      intro e' he'
      have : key = e.1 := Std.LawfulEqCmp.eq_of_compare eq
      exact (this ▸ before e' he' : compare key e'.1 = .lt)
    · next gt =>
      refine List.pairwise_cons.mpr ⟨?_, ih tail⟩
      intro e' he'
      rcases mem_insertEntry he' with rfl | he'
      · exact Std.OrientedCmp.gt_iff_lt.mp gt
      · exact before e' he'

/-- The dictionary with the value under a key set. -/
def insert (d : Dict α) (key : String) (value : α) : Dict α :=
  ⟨insertEntry key value d.entries, pairwise_insertEntry d.ascending⟩

/-- The entries of which `p` holds. -/
def filter (d : Dict α) (p : String → α → Bool) : Dict α :=
  ⟨d.entries.filter (fun e => p e.1 e.2), d.ascending.filter _⟩

/-- The dictionary without a key. -/
def erase (d : Dict α) (key : String) : Dict α := d.filter fun k _ => k != key

/-- The dictionary with every value replaced. -/
def map (d : Dict α) (f : α → β) : Dict β :=
  ⟨d.entries.map (fun e => (e.1, f e.2)), by
    rw [List.pairwise_map]
    exact d.ascending⟩

/-- The dictionary of some entries; of two with one key the later counts. -/
def ofList (entries : List (String × α)) : Dict α :=
  entries.foldl (fun d e => d.insert e.1 e.2) empty

/-! ### Look-up after an update -/

@[simp]
theorem get?_empty (key : String) : (empty : Dict α).get? key = none := rfl

theorem lookup_cons_ite (key : String) (e : String × α) (l : List (String × α)) :
    (e :: l).lookup key = if key = e.1 then some e.2 else l.lookup key := by
  obtain ⟨k, value⟩ := e
  rw [List.lookup_cons]
  by_cases h : key = k
  · simp [h]
  · simp [h, beq_false_of_ne h]

theorem lookup_insertEntry (key key' : String) (value : α) (l : List (String × α)) :
    (insertEntry key value l).lookup key' = if key' = key then some value else l.lookup key' := by
  induction l with
  | nil => simp [insertEntry, lookup_cons_ite]
  | cons e rest ih =>
    unfold insertEntry
    split
    · simp [lookup_cons_ite]
    · next eq =>
      have same : key = e.1 := Std.LawfulEqCmp.eq_of_compare eq
      simp only [lookup_cons_ite, ← same]
      split <;> rfl
    · next gt =>
      have different : e.1 ≠ key := by
        intro same
        have : compare key key = .gt := same ▸ gt
        rw [Std.ReflOrd.compare_self] at this
        exact absurd this (by decide)
      simp only [lookup_cons_ite, ih]
      by_cases h : key' = e.1
      · simp [h, different]
      · simp [h]

/-- An insertion is seen under its own key only. -/
theorem get?_insert (d : Dict α) (key key' : String) (value : α) :
    (d.insert key value).get? key' = if key' = key then some value else d.get? key' :=
  lookup_insertEntry key key' value d.entries

/-- Leaving some keys out is seen under these keys only. -/
theorem get?_filter_key (d : Dict α) (p : String → Bool) (key : String) :
    (d.filter fun k _ => p k).get? key = if p key then d.get? key else none := by
  simp only [filter, get?]
  induction d.entries with
  | nil => simp
  | cons e rest ih =>
    rw [List.filter_cons, lookup_cons_ite]
    by_cases he : p e.1
    · rw [if_pos he, lookup_cons_ite, ih]
      by_cases h : key = e.1 <;> simp [h, he]
    · rw [if_neg he, ih]
      by_cases h : key = e.1 <;> simp [h, he]

/-- An erasure is seen under its own key only. -/
theorem get?_erase (d : Dict α) (key key' : String) :
    (d.erase key).get? key' = if key' = key then none else d.get? key' := by
  rw [erase, get?_filter_key d (· != key)]
  by_cases h : key' = key <;> simp [h]

end Dict
end ShardScan
