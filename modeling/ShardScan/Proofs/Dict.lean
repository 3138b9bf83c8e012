import Mathlib.Data.List.Induction
import Mathlib.Data.List.Sort
import ShardScan.Dict

/-!
# Dictionaries and their entries

A dictionary is determined by its entries in ascending order, and entries that
ascend already are those of their dictionary.

## Main results

* `Dict.entries_ofList` — ascending entries come back from the dictionary made of them.
* `Dict.ofList_entries` — a dictionary is made of its own entries.
* `Dict.ext_get?` — a dictionary is determined by what look-up sees of it.
* `Dict.insert_get?` — setting a key to the value that it has changes nothing.
* `Dict.contains_insert`, `Dict.contains_erase` — the keys behind an update.
-/

namespace ShardScan
namespace Dict

variable {α : Type}

theorem insert_ne_empty (d : Dict α) (key : String) (value : α) : d.insert key value ≠ empty := by
  intro h
  have hget := get?_insert d key key value
  rw [h, if_pos rfl] at hget
  cases hget

/-- An entry that is there already is put in its own place. -/
theorem insertEntry_eq_self {key : String} {value : α} {l : List (String × α)}
    (hl : l.Pairwise KeyBefore) (h : l.lookup key = some value) : insertEntry key value l = l := by
  induction l with
  | nil => cases h
  | cons e rest ih =>
    obtain ⟨hbefore, hrest⟩ := List.pairwise_cons.mp hl
    rw [lookup_cons_ite] at h
    split at h
    · next heq =>
      cases h
      subst heq
      rw [insertEntry, Std.ReflOrd.compare_self]
    · -- The entry is among the others, behind the first.
      have hmem : (key, value) ∈ rest := by
        obtain ⟨before, after, rfl, -⟩ := List.lookup_eq_some_iff.mp h
        exact List.mem_append_right _ List.mem_cons_self
      have hgt : compare key e.1 = .gt := Std.OrientedCmp.gt_iff_lt.mpr (hbefore _ hmem)
      rw [insertEntry, hgt]
      dsimp only
      rw [ih hrest h]

/-- Setting a key to the value that it has changes nothing. -/
theorem insert_get? {d : Dict α} {key : String} {value : α} (h : d.get? key = some value) :
    d.insert key value = d := by
  cases d with
  | mk entries ascending =>
    have hentries := insertEntry_eq_self ascending h
    simp only [insert, hentries]

/-- Of two settings of a key the later counts. -/
theorem insert_insert (d : Dict α) (key : String) (value value' : α) :
    (d.insert key value).insert key value' = d.insert key value' := by
  have hentries : ∀ l : List (String × α),
      insertEntry key value' (insertEntry key value l) = insertEntry key value' l := by
    intro l
    induction l with
    | nil => simp [insertEntry]
    | cons e rest ih =>
      cases hcompare : compare key e.1 with
      | lt => simp [insertEntry, hcompare]
      | eq => simp [insertEntry, hcompare]
      | gt => simp [insertEntry, hcompare, ih]
  simp only [insert, hentries]

theorem contains_insert (d : Dict α) (key key' : String) (value : α) :
    (d.insert key value).contains key' = true ↔ key' = key ∨ d.contains key' = true := by
  rw [contains, get?_insert, contains]
  by_cases h : key' = key <;> simp [h]

theorem contains_erase (d : Dict α) (key key' : String) :
    (d.erase key).contains key' = true ↔ key' ≠ key ∧ d.contains key' = true := by
  rw [contains, get?_erase, contains]
  by_cases h : key' = key <;> simp [h]

/-- Setting some keys one after the other adds these keys. -/
theorem contains_foldl_insert {d : Dict α} {keys : List String} {value : α} {key : String} :
    (keys.foldl (fun d k => d.insert k value) d).contains key = true ↔
      key ∈ keys ∨ d.contains key = true := by
  induction keys generalizing d with
  | nil => simp
  | cons k keys ih =>
    rw [List.foldl_cons, ih, contains_insert, List.mem_cons, or_left_comm, or_assoc]

theorem mem_keys {d : Dict α} {key : String} : key ∈ d.keys ↔ d.contains key = true := by
  rw [contains, get?, List.lookup_isSome_iff, keys, List.mem_map]
  refine exists_congr fun e => and_congr_right fun _ => ?_
  rw [beq_iff_eq, eq_comm]

/-- Only no entries make the empty dictionary. -/
theorem eq_nil_of_ofList_eq_empty {entries : List (String × α)} (h : ofList entries = empty) :
    entries = [] := by
  induction entries using List.reverseRecOn with
  | nil => rfl
  | append_singleton l e _ =>
    rw [ofList, List.foldl_append] at h
    exact absurd h (insert_ne_empty (ofList l) e.1 e.2)

/-- Insertion behind all keys adds an entry at the end. -/
theorem insertEntry_eq_append {key : String} {value : α} {l : List (String × α)}
    (h : ∀ e ∈ l, KeyBefore e (key, value)) : insertEntry key value l = l ++ [(key, value)] := by
  induction l with
  | nil => rfl
  | cons e rest ih =>
    have hgt : compare key e.1 = .gt := Std.OrientedCmp.gt_iff_lt.mpr (h e List.mem_cons_self)
    rw [insertEntry, hgt]
    dsimp only
    rw [ih fun e' he' => h e' (List.mem_cons_of_mem e he'), List.cons_append]

/-- Entries that ascend already are the entries of their dictionary. -/
theorem entries_ofList {entries : List (String × α)} (h : entries.Pairwise KeyBefore) :
    (ofList entries).entries = entries := by
  induction entries using List.reverseRecOn with
  | nil => rfl
  | append_singleton l e ih =>
    obtain ⟨hl, -, hbefore⟩ := List.pairwise_append.mp h
    rw [ofList, List.foldl_append]
    show insertEntry e.1 e.2 (ofList l).entries = l ++ [e]
    rw [ih hl]
    exact insertEntry_eq_append fun e' he' => hbefore e' he' e (List.mem_singleton.mpr rfl)

theorem ofList_entries (d : Dict α) : ofList d.entries = d := by
  have h := entries_ofList d.ascending
  cases hd : ofList d.entries
  cases d
  simp_all

/-! ### Look-up and the entries -/

/-- Under ascending keys an entry is found under its key. -/
theorem lookup_eq_some_iff_mem {l : List (String × α)} (hl : l.Pairwise KeyBefore) {key : String}
    {value : α} : l.lookup key = some value ↔ (key, value) ∈ l := by
  induction l with
  | nil => simp
  | cons e rest ih =>
    obtain ⟨hbefore, hrest⟩ := List.pairwise_cons.mp hl
    rw [lookup_cons_ite, List.mem_cons]
    split
    · next heq =>
      -- Another entry with the key of the first would have to come before itself.
      have hnot : (key, value) ∉ rest := by
        intro hmem
        have hlt : compare e.1 key = .lt := hbefore _ hmem
        rw [heq, Std.ReflOrd.compare_self] at hlt
        cases hlt
      rw [or_iff_left hnot, Prod.ext_iff, Option.some_inj, and_iff_right heq]
      exact eq_comm
    · next hne =>
      have hdifferent : (key, value) ≠ e := fun h => hne (congrArg Prod.fst h)
      rw [ih hrest]
      simp only [hdifferent, false_or]

instance : Std.Irrefl (KeyBefore (α := α)) where
  irrefl e h := by
    rw [KeyBefore, Std.ReflOrd.compare_self] at h
    cases h

instance : Std.Antisymm (KeyBefore (α := α)) where
  antisymm a b hab hba := by
    have hgt : compare a.1 b.1 = .gt := Std.OrientedCmp.gt_iff_lt.mpr hba
    rw [KeyBefore] at hab
    cases hab.symm.trans hgt

/-- A dictionary is determined by what look-up sees of it. -/
theorem ext_get? {d d' : Dict α} (h : ∀ key, d.get? key = d'.get? key) : d = d' := by
  have hentries : d.entries = d'.entries := by
    refine d.ascending.eq_of_mem_iff d'.ascending ?_
    rintro ⟨key, value⟩
    rw [← lookup_eq_some_iff_mem d.ascending, ← lookup_eq_some_iff_mem d'.ascending]
    exact Eq.congr_left (h key)
  rw [← ofList_entries d, hentries, ofList_entries]

end Dict
end ShardScan
