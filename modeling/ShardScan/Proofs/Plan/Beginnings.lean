import ShardScan.Proofs.Plan.Exact

/-!
# Texts with a given beginning

The texts that begin with a given one are those that do not lie below it and lie
below the text in which its last character is replaced by the next.  That there is
nothing else between the two is seen character by character: in front of the last
one the text has to agree with both, and for the last one itself there is no third
choice, for the numbers that are left out between a character and the next belong
to no character.

## Main results

* `nextChar?_eq_none_iff`, `le_of_lt_nextChar?` — the next character is the least above one.
* `Text.begins_of_between` — what lies between the two texts begins with the first.
* `prefixSuccessor?_between` — the successor of a text is exact.
-/

namespace ShardScan

/-! ### The next character -/

/-- The last character has none behind it. -/
theorem nextChar?_eq_none_iff {c : Char} : nextChar? c = none ↔ c = Char.ofNat 0x10ffff := by
  constructor
  · intro hnone
    by_contra hne
    obtain ⟨d, hd⟩ := exists_nextChar? hne
    simp [hnone] at hd
  · rintro rfl
    decide

/-- No character lies between one and the next. -/
theorem le_of_lt_nextChar? {c d : Char} (h : nextChar? c = some d) {e : Char}
    (he : e.toNat < d.toNat) : e.toNat ≤ c.toNat := by
  unfold nextChar? at h
  dsimp only at h
  split at h
  · next hgap =>
    -- The numbers of the gap are not those of characters.
    cases h
    have hd : (Char.ofNat 0xe000).toNat = 0xe000 := by decide
    have hvalid := e.valid
    have hval : e.val.toNat = e.toNat := rfl
    simp only [UInt32.isValidChar, Nat.isValidChar, hval] at hvalid
    omega
  · split at h
    · next hvalid =>
      cases h
      have hd : (Char.ofNat (c.toNat + 1)).toNat = c.toNat + 1 := by
        rw [Char.ofNat, dif_pos hvalid]
        rfl
      omega
    · cases h

/-- A text has a successor unless it is empty or ends in the last character. -/
theorem prefixSuccessor?_eq_none_iff {s : List Char} :
    prefixSuccessor? s = none ↔ s = [] ∨ s.getLast? = some (Char.ofNat 0x10ffff) := by
  cases hlast : s.getLast? with
  | none => simp [prefixSuccessor?, List.getLast?_eq_none_iff.mp hlast]
  | some last =>
    have hne : s ≠ [] := by
      rintro rfl
      cases hlast
    have hform : prefixSuccessor? s = (nextChar? last).map fun next => s.dropLast ++ [next] := by
      simp [prefixSuccessor?, hlast, Option.map_eq_bind]
    rw [hform, Option.map_eq_none_iff, nextChar?_eq_none_iff]
    simp [hne]

/-- A text and its successor differ in the last character only. -/
theorem exists_of_prefixSuccessor? {s next : List Char} (h : prefixSuccessor? s = some next) :
    ∃ front c d, s = front ++ [c] ∧ next = front ++ [d] ∧ nextChar? c = some d := by
  simp only [prefixSuccessor?, Option.bind_eq_bind, Option.bind_eq_some_iff] at h
  obtain ⟨c, hlast, d, hd, hform⟩ := h
  cases hform
  obtain ⟨front, rfl⟩ := List.getLast?_eq_some_iff.mp hlast
  exact ⟨front, c, d, rfl, by simp, hd⟩

/-! ### Between a text and its successor -/

namespace Text

/-- **What lies between two texts that differ in the last character** begins with the first of them,
if no character lies between those two. -/
theorem begins_of_between {front t : List Char} {c d : Char}
    (hnext : ∀ e : Char, e.toNat < d.toNat → e.toNat ≤ c.toNat)
    (hlow : compare (codes (front ++ [c])) (codes t) ≠ .gt)
    (hhigh : compare (codes t) (codes (front ++ [d])) = .lt) : front ++ [c] <+: t := by
  induction front generalizing t with
  | nil =>
    cases t with
    | nil => exact absurd rfl hlow
    | cons e t =>
      rw [List.nil_append, codes_cons, codes_cons, List.compare_cons_cons] at hlow hhigh
      rcases Nat.lt_trichotomy c.toNat e.toNat with hlt | heq | hgt
      · -- Beyond the first character there are only those from the second on.
        have hge : d.toNat ≤ e.toNat := by
          by_contra hlt'
          have := hnext e (by omega)
          omega
        rcases Nat.lt_or_eq_of_le hge with hgt | heq
        · simp [Nat.compare_eq_gt.mpr hgt] at hhigh
        · cases t <;> simp [codes, Nat.compare_eq_eq.mpr heq.symm] at hhigh
      · rw [Char.toNat_inj.mp heq]
        exact ⟨t, rfl⟩
      · simp [Nat.compare_eq_gt.mpr hgt] at hlow
  | cons a front ih =>
    cases t with
    | nil => exact absurd rfl hlow
    | cons e t =>
      rw [List.cons_append, codes_cons, codes_cons, List.compare_cons_cons] at hlow hhigh
      rcases Nat.lt_trichotomy a.toNat e.toNat with hlt | heq | hgt
      · simp [Nat.compare_eq_gt.mpr hlt] at hhigh
      · rw [heq, Nat.compare_eq_eq.mpr rfl] at hlow hhigh
        rw [List.cons_append, Char.toNat_inj.mp heq, List.cons_prefix_cons]
        exact ⟨rfl, ih hlow hhigh⟩
      · simp [Nat.compare_eq_gt.mpr hgt] at hlow

/-- A text below another lies below what is not below that. -/
theorem compareText_lt_trans {s t u : String} (h : compareText s t = .lt)
    (h' : compareText t u ≠ .gt) : compareText s u = .lt := by
  rw [compareText_eq_compare] at h h' ⊢
  exact Std.TransCmp.lt_of_lt_of_isLE h (Ordering.isLE_iff_ne_gt.mpr h')

end Text

open Text (compareText)

/-- **The successor of a text is exact.**  There is none if the text is empty or ends in the last
character of all.  Otherwise the texts that begin with the text are those from it on, in the order of
bytes, that lie below the successor; so a text lies above all of them if and only if it does not lie
below the successor, which is the least such text. -/
theorem prefixSuccessor?_between (p : String) :
    (prefixSuccessor? p.toList = none ↔
      p.toList = [] ∨ p.toList.getLast? = some (Char.ofNat 0x10ffff)) ∧
    ∀ s : String, prefixSuccessor? p.toList = some s.toList →
      (∀ t : String, p.toList <+: t.toList ↔ compareText p t ≠ .gt ∧ compareText t s = .lt) ∧
      ∀ u : String, (∀ t : String, p.toList <+: t.toList → compareText t u = .lt) ↔
        compareText s u ≠ .gt := by
  refine ⟨prefixSuccessor?_eq_none_iff, ?_⟩
  intro s hs
  have hbegins : ∀ t : String, p.toList <+: t.toList ↔
      compareText p t ≠ .gt ∧ compareText t s = .lt := by
    intro t
    constructor
    · intro ht
      constructor
      · intro hgt
        apply Text.compareText_ne_lt_of_begins ht
        rw [← Text.compareText_swap, hgt]
        rfl
      · have hlt := compareText_prefixSuccessor hs ht
        rwa [String.ofList_toList] at hlt
    · rintro ⟨hlow, hhigh⟩
      obtain ⟨front, c, d, hp, hnext, hd⟩ := exists_of_prefixSuccessor? hs
      rw [Text.compareText_eq_compare, hp] at hlow
      rw [Text.compareText_eq_compare, hnext] at hhigh
      rw [hp]
      exact Text.begins_of_between (fun e => le_of_lt_nextChar? hd) hlow hhigh
  refine ⟨hbegins, ?_⟩
  intro u
  constructor
  · intro habove hgt
    -- Below the successor, `u` would itself begin with the text.
    have hlow : compareText p u ≠ .gt := by simp [habove p List.prefix_rfl]
    have hhigh : compareText u s = .lt := by
      rw [← Text.compareText_swap, hgt]
      rfl
    have hself := habove u ((hbegins u).mpr ⟨hlow, hhigh⟩)
    rw [Text.compareText_eq_eq_iff.mpr rfl] at hself
    cases hself
  · intro hle t ht
    exact Text.compareText_lt_trans ((hbegins t).mp ht).2 hle

/-- The last character in front of the gap is followed by the first one behind it. -/
theorem prefixSuccessor?_between_gap :
    compareText "no\ud7ff" "no\ud7ff7" ≠ .gt ∧ compareText "no\ud7ff7" "no\ue000" = .lt := by
  have hs : prefixSuccessor? "no\ud7ff".toList = some "no\ue000".toList := by decide
  exact (((prefixSuccessor?_between "no\ud7ff").2 "no\ue000" hs).1 "no\ud7ff7").mp (by decide)

end ShardScan
