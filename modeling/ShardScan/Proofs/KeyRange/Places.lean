import ShardScan.Proofs.KeyRange.Bounds

/-!
# Bounds as places among the keys

All that begins with one tuple lies together among the keys, so a bound has a
place beside it: before it all or behind it all, depending on whether the bound
is inclusive and on which side of a range it stands.  Without values there is
nothing to lie beside, and the place is before or behind every key.

Places are lists of numbers, the ranks of the values and then a side, and the
comparisons of bounds with bounds and with keys are the order of such lists.  A
range contains the keys between its two places, and the rest is the order of a
line: the later of two starts, the earlier of two ends.

## Main definitions

* `Tuple.place` — the place beside all that begins with a tuple.
* `KeyBound.startPlace`, `KeyBound.endPlace` — the place of a bound on either side of a range.
* `KeyBound.IsBuilt`, `KeyRange.IsBuilt` — the bounds that have been built by a constructor.
* `Tuple.MutuallyComparable` — the values at each position are comparable.

## Main results

* `KeyBound.cmpAsLower_eq`, `KeyBound.cmpAsUpper_eq` — bounds compare as their places.
* `KeyRange.contains_iff` — a range contains the keys between its places.
* `KeyRange.isEmpty_iff` — a range is empty if it does not start before it ends.
* `KeyRange.contains_inter_and_isEmpty` — the common part of two ranges contains what both contain,
  and an empty range contains nothing.
-/

namespace ShardScan

/-! ### Places -/

/-- The order of two places beside tuples that agree as far as both go: of the sides if the tuples
are of one length, and else of the side of the shorter one to what lies in the middle. -/
def sideOrder (j k : Nat) (m n : Int) : Ordering :=
  match compare j k with
  | .eq => compare m n
  | .lt => compare m 0
  | .gt => compare 0 n

theorem sideOrder_succ (j k : Nat) (m n : Int) :
    sideOrder (j + 1) (k + 1) m n = sideOrder j k m n := by
  rw [sideOrder, compare_succ_succ, sideOrder]

theorem sideOrder_zero_succ (k : Nat) (m n : Int) : sideOrder 0 (k + 1) m n = compare m 0 := by
  rw [sideOrder, Nat.compare_eq_lt.mpr (Nat.succ_pos k)]

theorem sideOrder_succ_zero (j : Nat) (m n : Int) : sideOrder (j + 1) 0 m n = compare 0 n := by
  rw [sideOrder, Nat.compare_eq_gt.mpr (Nat.succ_pos j)]

theorem compare_zero_then {m : Int} (h : m ≠ 0) (o : Ordering) :
    (compare m 0).then o = compare m 0 := by
  rcases Int.lt_or_lt_of_ne h with hlt | hgt
  · rw [Int.compare_eq_lt.mpr hlt]
    rfl
  · rw [Int.compare_eq_gt.mpr hgt]
    rfl

/-- A side lies off the middle, so that what follows there does not matter. -/
theorem compare_side {m : Int} (h : m ≠ 0) (l : List Int) : compare [m] (0 :: l) = compare m 0 := by
  rw [List.compare_cons_cons, compare_zero_then h]

namespace Tuple

/-- The place beside all that begins with the tuple: before it for a negative side, behind it for a
positive one, and that of the tuple itself for zero. -/
def place (t : Tuple) (side : Int) : List (List Int) := t.map (fun v => 0 :: v.rank) ++ [[side]]

@[simp] theorem place_nil (side : Int) : place [] side = [[side]] := rfl

@[simp]
theorem place_cons (v : Value) (t : Tuple) (side : Int) :
    place (v :: t) side = (0 :: v.rank) :: place t side := rfl

/-- **Places are ordered as their tuples**, and by their sides where these agree. -/
theorem Comparable.compare_place {s t : Tuple} (h : s.Comparable t) {m n : Int}
    (hm : s.length < t.length → m ≠ 0) (hn : t.length < s.length → n ≠ 0) :
    compare (s.place m) (t.place n) =
      (compareKeys s t).then (sideOrder s.length t.length m n) := by
  induction s generalizing t with
  | nil =>
    cases t with
    | nil => simp [List.compare_cons_cons, sideOrder, Ordering.then_eq]
    | cons w t =>
      have hside := hm (Nat.succ_pos _)
      rw [place_nil, place_cons, List.compare_cons_cons, compare_side hside,
        compare_zero_then hside, compareKeys_nil_left, List.length_nil, List.length_cons,
        sideOrder_zero_succ]
      rfl
  | cons v s ih =>
    cases t with
    | nil =>
      have hside := hn (Nat.succ_pos _)
      rw [Std.OrientedOrd.eq_swap, place_nil, place_cons, List.compare_cons_cons, compare_side hside,
        compare_zero_then hside, compareKeys_nil_right, List.length_nil, List.length_cons,
        sideOrder_succ_zero, ← Std.OrientedOrd.eq_swap]
      rfl
    | cons w t =>
      obtain ⟨hv, hrest⟩ := comparable_cons.mp h
      have htail := ih hrest (fun hlt => hm (Nat.succ_lt_succ hlt))
        (fun hlt => hn (Nat.succ_lt_succ hlt))
      rw [place_cons, place_cons, List.compare_cons_cons, compare_cons_same, htail, compareKeys_cons,
        hv.cmp_eq, Option.getD_some, Ordering.then_assoc, List.length_cons, List.length_cons,
        sideOrder_succ]

end Tuple

namespace KeyBound

/-- The bound admits all that begins with its values. -/
def reaches (b : KeyBound) : Bool := b.inclusive || b.unrestricted

/-- The place of the bound as the start of a range. -/
def startPlace (b : KeyBound) : List (List Int) := b.values.place (if b.reaches then -1 else 1)

/-- The place of the bound as the end of a range. -/
def endPlace (b : KeyBound) : List (List Int) := b.values.place (if b.reaches then 1 else -1)

/-- The bound has been built by a constructor. -/
inductive IsBuilt : KeyBound → Prop
  | all : IsBuilt .all
  | ofTuple (values : Tuple) (inclusive : Bool) : IsBuilt (.ofTuple values inclusive)

/-- A bound without values is unrestricted. -/
theorem IsBuilt.eq_or {b : KeyBound} (h : b.IsBuilt) :
    b = .all ∨ ∃ v values inclusive, b = ⟨v :: values, inclusive, false⟩ := by
  cases h with
  | all => exact .inl rfl
  | ofTuple values inclusive =>
    cases values with
    | nil => exact .inl rfl
    | cons v values => exact .inr ⟨v, values, inclusive, rfl⟩

/-! ### Bounds against bounds -/

theorem startSide_ne_zero (b : KeyBound) : (if b.reaches then (-1 : Int) else 1) ≠ 0 := by
  split <;> decide

theorem endSide_ne_zero (b : KeyBound) : (if b.reaches then (1 : Int) else -1) ≠ 0 := by
  split <;> decide

theorem compare_startPlace {a b : KeyBound} (h : a.values.Comparable b.values) :
    compare a.startPlace b.startPlace = (compareKeys a.values b.values).then
      (sideOrder a.values.length b.values.length (if a.reaches then -1 else 1)
        (if b.reaches then -1 else 1)) :=
  h.compare_place (fun _ => a.startSide_ne_zero) (fun _ => b.startSide_ne_zero)

theorem compare_endPlace {a b : KeyBound} (h : a.values.Comparable b.values) :
    compare a.endPlace b.endPlace = (compareKeys a.values b.values).then
      (sideOrder a.values.length b.values.length (if a.reaches then 1 else -1)
        (if b.reaches then 1 else -1)) :=
  h.compare_place (fun _ => a.endSide_ne_zero) (fun _ => b.endSide_ne_zero)

/-- **Starts compare as their places.** -/
theorem cmpAsLower_eq {a b : KeyBound} (ha : a.IsBuilt) (hb : b.IsBuilt)
    (h : a.values.Comparable b.values) : a.cmpAsLower b = compare a.startPlace b.startPlace := by
  rw [compare_startPlace h]
  rcases ha.eq_or with rfl | ⟨v, as, ia, rfl⟩ <;> rcases hb.eq_or with rfl | ⟨w, bs, ib, rfl⟩
  · rfl
  · rfl
  · rfl
  · rw [cmpAsLower, tieOrder, sideOrder]
    cases compare (v :: as).length (w :: bs).length <;> cases ia <;> cases ib <;> rfl

/-- **Ends compare as their places.** -/
theorem cmpAsUpper_eq {a b : KeyBound} (ha : a.IsBuilt) (hb : b.IsBuilt)
    (h : a.values.Comparable b.values) : a.cmpAsUpper b = compare a.endPlace b.endPlace := by
  rw [compare_endPlace h]
  rcases ha.eq_or with rfl | ⟨v, as, ia, rfl⟩ <;> rcases hb.eq_or with rfl | ⟨w, bs, ib, rfl⟩
  · rfl
  · rfl
  · rfl
  · rw [cmpAsUpper, tieOrder, sideOrder]
    cases compare (v :: as).length (w :: bs).length <;> cases ia <;> cases ib <;> rfl

/-! ### Bounds against keys -/

section Keys

variable {b : KeyBound} {key : Tuple} (hb : b.IsBuilt) (hkey : key.Comparable b.values)
  (hlength : b.values.length ≤ key.length)

include hkey hlength

/-- A key that is not shorter lies on the side of a place that its values do, and beside the middle
of all that begins with them. -/
theorem compare_key_place {side : Int} (hside : side ≠ 0) :
    compare (key.place 0) (b.values.place side) =
      (compareKeys key b.values).then (compare 0 side) := by
  rw [hkey.compare_place (fun hlt => absurd hlt (Nat.not_lt.mpr hlength)) (fun _ => hside), sideOrder]
  rcases Nat.lt_or_eq_of_le hlength with hlt | heq
  · rw [Nat.compare_eq_gt.mpr hlt]
  · rw [heq, Std.ReflOrd.compare_self]

include hb

theorem admitsAbove_iff : b.admitsAbove key = true ↔ compare b.startPlace (key.place 0) = .lt := by
  rw [← Std.OrientedCmp.gt_iff_lt, startPlace, compare_key_place hkey hlength b.startSide_ne_zero,
    admitsAbove]
  rcases hb.eq_or with rfl | ⟨v, values, inclusive, rfl⟩
  · rw [show KeyBound.all.values = [] from rfl, compareKeys_nil_right]
    exact ⟨fun _ => rfl, fun _ => rfl⟩
  · cases inclusive <;> cases compareKeys key (v :: values) <;> exact of_decide_eq_true rfl

theorem admitsBelow_iff : b.admitsBelow key = true ↔ compare (key.place 0) b.endPlace = .lt := by
  rw [endPlace, compare_key_place hkey hlength b.endSide_ne_zero, admitsBelow]
  rcases hb.eq_or with rfl | ⟨v, values, inclusive, rfl⟩
  · rw [show KeyBound.all.values = [] from rfl, compareKeys_nil_right]
    exact ⟨fun _ => rfl, fun _ => rfl⟩
  · cases inclusive <;> cases compareKeys key (v :: values) <;> exact of_decide_eq_true rfl

end Keys

end KeyBound

/-! ### Ranges -/

/-- The values of the tuples at each position are comparable. -/
def Tuple.MutuallyComparable (tuples : List Tuple) : Prop :=
  ∀ s ∈ tuples, ∀ t ∈ tuples, s.Comparable t

instance (tuples : List Tuple) : Decidable (Tuple.MutuallyComparable tuples) :=
  inferInstanceAs (Decidable (∀ s ∈ tuples, ∀ t ∈ tuples, s.Comparable t))

namespace KeyRange

/-- Both bounds have been built by a constructor. -/
structure IsBuilt (r : KeyRange) : Prop where
  lower : r.lower.IsBuilt
  upper : r.upper.IsBuilt

/-- The values that the range is bounded by. -/
def tuples (r : KeyRange) : List Tuple := [r.lower.values, r.upper.values]

theorem lower_mem_tuples (r : KeyRange) : r.lower.values ∈ r.tuples := List.mem_cons_self

theorem upper_mem_tuples (r : KeyRange) : r.upper.values ∈ r.tuples :=
  List.mem_cons_of_mem _ List.mem_cons_self

/-- **A range is empty if it does not start before it ends.** -/
theorem isEmpty_iff {r : KeyRange} (hr : r.IsBuilt) (h : r.lower.values.Comparable r.upper.values) :
    r.isEmpty = true ↔ compare r.lower.startPlace r.upper.endPlace ≠ .lt := by
  obtain ⟨lower, upper⟩ := r
  rw [KeyBound.startPlace, KeyBound.endPlace,
    h.compare_place (fun _ => lower.startSide_ne_zero) (fun _ => upper.endSide_ne_zero), isEmpty,
    sideOrder]
  rcases hr.lower.eq_or with rfl | ⟨v, as, ia, rfl⟩ <;>
    rcases hr.upper.eq_or with rfl | ⟨w, bs, ib, rfl⟩
  · decide
  · exact ⟨nofun, fun hlt => absurd rfl hlt⟩
  · exact ⟨nofun, fun hlt => absurd rfl hlt⟩
  · dsimp only
    cases compareKeys (v :: as) (w :: bs) <;>
      cases compare (v :: as).length (w :: bs).length <;> cases ia <;> cases ib <;>
        exact of_decide_eq_true rfl

/-- **A range contains the keys between its places.** -/
theorem contains_iff {r : KeyRange} (hr : r.IsBuilt) {key : Tuple}
    (hkey : ∀ t ∈ r.tuples, key.Comparable t) (hlength : ∀ t ∈ r.tuples, t.length ≤ key.length) :
    r.contains key = true ↔
      compare r.lower.startPlace (key.place 0) = .lt ∧
        compare (key.place 0) r.upper.endPlace = .lt := by
  have habove := KeyBound.admitsAbove_iff hr.lower (hkey _ r.lower_mem_tuples)
    (hlength _ r.lower_mem_tuples)
  have hbelow := KeyBound.admitsBelow_iff hr.upper (hkey _ r.upper_mem_tuples)
    (hlength _ r.upper_mem_tuples)
  rw [contains, Bool.and_eq_true, habove, hbelow]

/-! ### The common part of two ranges -/

theorem IsBuilt.inter {a b : KeyRange} (ha : a.IsBuilt) (hb : b.IsBuilt) : (a.inter b).IsBuilt := by
  unfold KeyRange.inter
  constructor <;> dsimp only <;> split
  · exact hb.lower
  · exact ha.lower
  · exact hb.upper
  · exact ha.upper

theorem mem_tuples_inter {a b : KeyRange} {t : Tuple} (h : t ∈ (a.inter b).tuples) :
    t ∈ a.tuples ++ b.tuples := by
  have hmem : t = (a.inter b).lower.values ∨ t = (a.inter b).upper.values := by
    simpa [tuples] using h
  rw [List.mem_append]
  unfold KeyRange.inter at hmem
  dsimp only at hmem
  rcases hmem with rfl | rfl
  · split
    · exact .inr b.lower_mem_tuples
    · exact .inl a.lower_mem_tuples
  · split
    · exact .inr b.upper_mem_tuples
    · exact .inl a.upper_mem_tuples

section Inter

variable {a b : KeyRange} (ha : a.IsBuilt) (hb : b.IsBuilt) {p : List (List Int)}

include ha hb

/-- What lies behind the tighter of two starts lies behind both. -/
theorem startPlace_inter_lt_iff (h : a.lower.values.Comparable b.lower.values) :
    compare (a.inter b).lower.startPlace p = .lt ↔
      compare a.lower.startPlace p = .lt ∧ compare b.lower.startPlace p = .lt := by
  unfold KeyRange.inter
  dsimp only
  rw [KeyBound.cmpAsLower_eq ha.lower hb.lower h]
  split
  · next hlt => exact ⟨fun hp => ⟨Std.TransCmp.lt_trans hlt hp, hp⟩, And.right⟩
  · next hge =>
    refine ⟨fun hp => ⟨hp, ?_⟩, And.left⟩
    exact Std.TransCmp.lt_of_isLE_of_lt (isLE_of_not_lt hge) hp

/-- What lies before the tighter of two ends lies before both. -/
theorem lt_endPlace_inter_iff (h : a.upper.values.Comparable b.upper.values) :
    compare p (a.inter b).upper.endPlace = .lt ↔
      compare p a.upper.endPlace = .lt ∧ compare p b.upper.endPlace = .lt := by
  unfold KeyRange.inter
  dsimp only
  rw [KeyBound.cmpAsUpper_eq ha.upper hb.upper h]
  split
  · next hgt =>
    refine ⟨fun hp => ⟨?_, hp⟩, And.right⟩
    exact Std.TransCmp.lt_trans hp (Std.OrientedCmp.gt_iff_lt.mp hgt)
  · next hle =>
    refine ⟨fun hp => ⟨hp, ?_⟩, And.left⟩
    exact Std.TransCmp.lt_of_lt_of_isLE hp (Ordering.isLE_iff_ne_gt.mpr hle)

end Inter

/-- **Range algebra.**  For bounds that have been built by a constructor and keys that are not
shorter than any of them, with NULL or comparable values that are no floating-point numbers at each
position, the common part of two ranges contains the keys that both contain, and an empty range
contains none. -/
theorem contains_inter_and_isEmpty :
    (∀ (a b : KeyRange) (key : Tuple), a.IsBuilt → b.IsBuilt →
      Tuple.MutuallyComparable (key :: (a.tuples ++ b.tuples)) →
      (∀ t ∈ a.tuples ++ b.tuples, t.length ≤ key.length) →
      ((a.inter b).contains key = true ↔ a.contains key = true ∧ b.contains key = true)) ∧
    (∀ (a : KeyRange) (key : Tuple), a.IsBuilt → Tuple.MutuallyComparable (key :: a.tuples) →
      (∀ t ∈ a.tuples, t.length ≤ key.length) → a.isEmpty = true → a.contains key = false) := by
  constructor
  · intro a b key ha hb hvalues hlength
    have hkey : ∀ t ∈ a.tuples ++ b.tuples, key.Comparable t := fun t ht =>
      hvalues key List.mem_cons_self t (List.mem_cons_of_mem key ht)
    have hbounds : ∀ s ∈ a.tuples, ∀ t ∈ b.tuples, s.Comparable t := fun s hs t ht =>
      hvalues s (List.mem_cons_of_mem key (List.mem_append_left _ hs)) t
        (List.mem_cons_of_mem key (List.mem_append_right _ ht))
    rw [contains_iff (ha.inter hb) (fun t ht => hkey t (mem_tuples_inter ht))
        (fun t ht => hlength t (mem_tuples_inter ht)),
      contains_iff ha (fun t ht => hkey t (List.mem_append_left _ ht))
        (fun t ht => hlength t (List.mem_append_left _ ht)),
      contains_iff hb (fun t ht => hkey t (List.mem_append_right _ ht))
        (fun t ht => hlength t (List.mem_append_right _ ht)),
      startPlace_inter_lt_iff ha hb (hbounds _ a.lower_mem_tuples _ b.lower_mem_tuples),
      lt_endPlace_inter_iff ha hb (hbounds _ a.upper_mem_tuples _ b.upper_mem_tuples)]
    exact and_and_and_comm
  · intro a key ha hvalues hlength hempty
    have hbounds := hvalues _ (List.mem_cons_of_mem key a.lower_mem_tuples) _
      (List.mem_cons_of_mem key a.upper_mem_tuples)
    have hkey : ∀ t ∈ a.tuples, key.Comparable t := fun t ht =>
      hvalues key List.mem_cons_self t (List.mem_cons_of_mem key ht)
    rw [Bool.eq_false_iff, ne_eq, contains_iff ha hkey hlength]
    rintro ⟨hstart, hend⟩
    exact (isEmpty_iff ha hbounds).mp hempty (Std.TransCmp.lt_trans hstart hend)

/-- The year 1721 of Bach lies in the common part of a range from him on and one behind his year
1720, and no year of Haydn from 1770 on lies before all of his years. -/
theorem contains_inter_and_isEmpty_years :
    let bach : Tuple := [.text "Bach"]
    let bach1720 : Tuple := [.text "Bach", .int .int16 1720]
    let haydn : Tuple := [.text "Haydn"]
    let haydn1770 : Tuple := [.text "Haydn", .int .int32 1770]
    let a : KeyRange := ⟨.ofTuple bach true, .ofTuple haydn1770 false⟩
    let b : KeyRange := ⟨.ofTuple bach1720 false, .all⟩
    let none : KeyRange := ⟨.ofTuple haydn1770 true, .ofTuple haydn false⟩
    (a.inter b).contains [.text "Bach", .int .int64 1721] = true ∧
      none.contains [.text "Haydn", .optional .null] = false := by
  intro bach bach1720 haydn haydn1770 a b none
  have ha : a.IsBuilt := ⟨.ofTuple bach true, .ofTuple haydn1770 false⟩
  have hb : b.IsBuilt := ⟨.ofTuple bach1720 false, .all⟩
  have hnone : none.IsBuilt := ⟨.ofTuple haydn1770 true, .ofTuple haydn false⟩
  constructor
  · refine (contains_inter_and_isEmpty.1 a b _ ha hb ?_ ?_).mpr ?_ <;> decide +kernel
  · refine contains_inter_and_isEmpty.2 none _ hnone ?_ ?_ ?_ <;> decide +kernel

end KeyRange
end ShardScan
