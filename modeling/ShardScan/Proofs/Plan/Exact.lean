import ShardScan.Proofs.Plan.Literals
import ShardScan.Proofs.Plan.PlannedRange

/-!
# The planned range is exact

Where the key columns hold whole numbers and texts and are compared with literals
of their kind, nothing is lost between the predicates and the range.  The leading
columns that have an equality are fixed by the first one each has, whatever else
is said of them.  The next column lies between all literals that bound it, for
the fold keeps the tightest of them, in whatever order they come.  No column
behind it is restricted.

## Main definitions

* `Comparison.equal?`, `Comparison.lower?`, `Comparison.upper?` — the literal that a comparison
  fixes its column to, or by which it bounds it.
* `Comparison.Suits` — the literal of a comparison can be stored in its column.
* `ColumnRange.Meets` — a key meets what the predicates say of its leading columns.

## Main results

* `ColumnRange.foldl_tighten_iff` — being within the tightest literal is being within all of them.
* `ColumnRange.storeKey_sides_iff` — the stored sides admit the keys that meet the predicates.
* `plannedRange_contains_iff` — the planned range contains just the keys that the first equalities
  and the next column's bounds allow.
-/

namespace ShardScan

/-! ### What comparisons say -/

/-- The text above every text that begins with the literal. -/
def Scalar.successor? : Scalar → Option Scalar
  | .utf8 s => (prefixSuccessor? s.toList).map fun next => .utf8 (String.ofList next)
  | _ => none

namespace Comparison

/-- The literal that the column has to be equal to. -/
def equal? (c : Comparison) : Option Scalar :=
  match c.op with
  | .eq => some c.literal
  | .nullSafeEq => some c.literal
  | _ => none

/-- The literal that the column does not lie below, strictness aside. -/
def lower? (c : Comparison) : Option Scalar :=
  match c.op, c.reversed with
  | .gt, false => some c.literal
  | .gtEq, false => some c.literal
  | .lt, true => some c.literal
  | .ltEq, true => some c.literal
  | .startsWith, false => some c.literal
  | _, _ => none

/-- The literal that the column does not lie above, strictness aside. -/
def upper? (c : Comparison) : Option Scalar :=
  match c.op, c.reversed with
  | .lt, false => some c.literal
  | .ltEq, false => some c.literal
  | .gt, true => some c.literal
  | .gtEq, true => some c.literal
  | .startsWith, false => c.literal.successor?
  | _, _ => none

/-- The comparisons of a column in a conjunction, in order. -/
def ofColumn (predicates : List Expr) (column : String) : List Comparison :=
  (Expr.conjunctsOf predicates).filterMap (of? column)

/-- The literal of the first equality of a column. -/
def firstEqual? (predicates : List Expr) (column : String) : Option Scalar :=
  (ofColumn predicates column).findSome? equal?

/-- The lower literals of a column. -/
def lowers (predicates : List Expr) (column : String) : List Scalar :=
  (ofColumn predicates column).filterMap lower?

/-- The upper literals of a column. -/
def uppers (predicates : List Expr) (column : String) : List Scalar :=
  (ofColumn predicates column).filterMap upper?

/-- The number of leading columns that have an equality. -/
def countFixed (predicates : List Expr) (columns : List String) : Nat :=
  (columns.takeWhile fun column => (firstEqual? predicates column).isSome).length

end Comparison

/-! ### Literals that can be stored -/

/-- The literal is of the kind of the type, which has a value for it. -/
structure Scalar.Suits (l : Scalar) (t : StoreType) : Prop where
  kind : l.OfKind t.base
  stored : ∃ w, l.toStoreKey t = .ok w

/-- The literal of a comparison suits a column of the type, if the comparison is one that the
planner takes in.  A beginning is a text with a successor: it has a last character, and that is not
the last of all. -/
def Comparison.Suits (c : Comparison) (t : StoreType) : Prop :=
  match c.op, c.reversed with
  | .eq, _ => c.literal.Suits t
  | .nullSafeEq, _ => c.literal.Suits t
  | .lt, _ => c.literal.Suits t
  | .ltEq, _ => c.literal.Suits t
  | .gt, _ => c.literal.Suits t
  | .gtEq, _ => c.literal.Suits t
  | .startsWith, false => t.base = .text ∧ ∃ s last, c.literal = .utf8 s ∧
    s.toList.getLast? = some last ∧ last ≠ Char.ofNat 0x10ffff
  | _, _ => True

/-- What the type below the optional layers has a value for can be stored. -/
theorem Scalar.exists_toStore {l : Scalar} {t : StoreType} {c : Value} (hl : l.isNull = false)
    (h : l.toStorePlain t.base = .ok c) : ∃ w, l.toStore t = .ok w := by
  induction t with
  | optional inner ih =>
    obtain ⟨w, hw⟩ := ih h
    refine ⟨w.orNull, ?_⟩
    rw [toStore, hl, hw]
    rfl
  | _ =>
    refine ⟨c, ?_⟩
    rw [toStore, hl]
    · exact h
    · intro inner heq
      cases heq

theorem Scalar.suits_text {t : StoreType} (ht : t.base = .text) (s : String) :
    (Scalar.utf8 s).Suits t := by
  constructor
  · rw [ht]
    exact .text s
  · exact Scalar.exists_toStore rfl
      (show (Scalar.utf8 s).toStorePlain t.orNull.base = .ok (.text s) by
        rw [StoreType.base_orNull, ht]
        rfl)

/-- Every character but the last has one behind it. -/
theorem exists_nextChar? {c : Char} (h : c ≠ Char.ofNat 0x10ffff) : ∃ d, nextChar? c = some d := by
  unfold nextChar?
  dsimp only
  split
  · exact ⟨_, rfl⟩
  · next hgap =>
    have hlast : c.toNat ≠ 0x10ffff := by
      intro heq
      apply h
      rw [← heq, Char.ofNat_toNat]
    have hvalid : (c.toNat + 1).isValidChar := by
      have := c.valid
      have hval : c.val.toNat = c.toNat := rfl
      simp only [UInt32.isValidChar, Nat.isValidChar, hval] at this ⊢
      omega
    exact ⟨_, if_pos hvalid⟩

namespace Comparison

variable {c : Comparison} {t : StoreType} {l : Scalar}

theorem exists_successor? {s : String} {last : Char} (hlast : s.toList.getLast? = some last)
    (hne : last ≠ Char.ofNat 0x10ffff) : ∃ next, prefixSuccessor? s.toList = some next := by
  obtain ⟨d, hd⟩ := exists_nextChar? hne
  refine ⟨s.toList.dropLast ++ [d], ?_⟩
  simp [prefixSuccessor?, hlast, hd]

theorem Suits.equal (hc : c.Suits t) (h : c.equal? = some l) : l.Suits t := by
  obtain ⟨op, literal, reversed⟩ := c
  cases op <;> cases h <;> exact hc

theorem Suits.lower (hc : c.Suits t) (h : c.lower? = some l) : l.Suits t := by
  obtain ⟨op, literal, reversed⟩ := c
  cases op <;> cases reversed <;> cases h
  case startsWith =>
    obtain ⟨ht, s, last, hs, -⟩ := hc
    cases hs
    exact Scalar.suits_text ht s
  all_goals exact hc

theorem Suits.upper (hc : c.Suits t) (h : c.upper? = some l) : l.Suits t := by
  obtain ⟨op, literal, reversed⟩ := c
  cases op <;> cases reversed <;> try cases h
  case startsWith.false =>
    obtain ⟨ht, s, last, hs, -⟩ := hc
    cases hs
    obtain ⟨next, -, rfl⟩ := Option.map_eq_some_iff.mp h
    exact Scalar.suits_text ht _
  all_goals exact hc

end Comparison

/-! ### The fold of comparisons -/

namespace ColumnRange

open Comparison (equal? lower? upper?)

variable {r : ColumnRange} {t : StoreType}

/-- A comparison that suits the column fixes it, or bounds it on either side. -/
theorem narrow_eq {c : Comparison} (hr : r.pinned = false) (hc : c.Suits t) :
    r.narrow c = match c.equal? with
      | some e => ⟨e, e, true⟩
      | none => ⟨c.lower?.elim r.lower (tightenLower r.lower),
          c.upper?.elim r.upper (tightenUpper r.upper), false⟩ := by
  obtain ⟨lower, upper, pinned⟩ := r
  cases hr
  obtain ⟨op, literal, reversed⟩ := c
  cases op <;> cases reversed <;> try rfl
  case startsWith.false =>
    obtain ⟨-, s, last, hs, hlast, hne⟩ := hc
    cases hs
    obtain ⟨next, hnext⟩ := Comparison.exists_successor? hlast hne
    simp [narrow, equal?, lower?, upper?, Scalar.successor?, hnext, raise, reduce]

theorem foldl_narrow_of_pinned (hr : r.pinned = true) (cs : List Comparison) :
    cs.foldl narrow r = r := by
  induction cs with
  | nil => rfl
  | cons c cs ih =>
    rw [List.foldl_cons, narrow, if_pos hr]
    exact ih

/-- **The first equality fixes the column**, whatever stands before or behind it. -/
theorem foldl_narrow_of_equal {cs : List Comparison} (hr : r.pinned = false)
    (hcs : ∀ c ∈ cs, c.Suits t) {e : Scalar} (he : cs.findSome? equal? = some e) :
    cs.foldl narrow r = ⟨e, e, true⟩ := by
  induction cs generalizing r with
  | nil => cases he
  | cons c cs ih =>
    obtain ⟨hc, hcs⟩ := List.forall_mem_cons.mp hcs
    rw [List.foldl_cons, narrow_eq hr hc]
    rw [List.findSome?_cons] at he
    cases hequal : c.equal? with
    | some e' =>
      rw [hequal] at he
      cases he
      exact foldl_narrow_of_pinned rfl cs
    | none =>
      rw [hequal] at he
      exact ih rfl hcs he

/-- Without an equality each side is a fold of its own. -/
theorem foldl_narrow_of_free {cs : List Comparison} (hr : r.pinned = false)
    (hcs : ∀ c ∈ cs, c.Suits t) (he : cs.findSome? equal? = none) :
    cs.foldl narrow r = ⟨(cs.filterMap lower?).foldl tightenLower r.lower,
      (cs.filterMap upper?).foldl tightenUpper r.upper, false⟩ := by
  induction cs generalizing r with
  | nil =>
    obtain ⟨lower, upper, pinned⟩ := r
    cases hr
    rfl
  | cons c cs ih =>
    obtain ⟨hc, hcs⟩ := List.forall_mem_cons.mp hcs
    rw [List.findSome?_cons] at he
    cases hequal : c.equal? with
    | some e =>
      rw [hequal] at he
      cases he
    | none =>
      rw [hequal] at he
      rw [List.foldl_cons, narrow_eq hr hc, hequal, ih rfl hcs he]
      cases hlower : c.lower? <;> cases hupper : c.upper? <;> simp [hlower, hupper]

/-! ### The tightest literal -/

section Fold

variable {tighten : Scalar → Scalar → Scalar} {Kind Within : Scalar → Prop}
  (hkept : ∀ slot l, tighten slot l = slot ∨ tighten slot l = l)
  (htighten : ∀ slot l, Kind slot → Kind l → (Within (tighten slot l) ↔ Within slot ∧ Within l))

include hkept htighten

/-- From a literal on the fold stays one of its kind, and says what all of them say. -/
theorem foldl_tighten_of_kind {slot : Scalar} (hslot : Kind slot) {ls : List Scalar}
    (hls : ∀ l ∈ ls, Kind l) :
    Kind (ls.foldl tighten slot) ∧
      (Within (ls.foldl tighten slot) ↔ Within slot ∧ ∀ l ∈ ls, Within l) := by
  induction ls generalizing slot with
  | nil => simpa using hslot
  | cons l ls ih =>
    obtain ⟨hl, hls⟩ := List.forall_mem_cons.mp hls
    have hnext : Kind (tighten slot l) := by
      rcases hkept slot l with h | h
      · rw [h]
        exact hslot
      · rw [h]
        exact hl
    obtain ⟨hkind, hwithin⟩ := ih hnext hls
    refine ⟨hkind, ?_⟩
    rw [List.foldl_cons, hwithin, htighten slot l hslot hl, List.forall_mem_cons, and_assoc]

/-- **Being within the tightest literal is being within all of them.**  `Within` says that a value
lies on the right side of a literal, and `tighten` keeps the one of two that says more. -/
theorem foldl_tighten_iff (hnull : ∀ l, Kind l → tighten .null l = l) {ls : List Scalar}
    (hls : ∀ l ∈ ls, Kind l) :
    ls.foldl tighten .null = .null ∧ ls = [] ∨
      Kind (ls.foldl tighten .null) ∧
        (Within (ls.foldl tighten .null) ↔ ∀ l ∈ ls, Within l) := by
  cases ls with
  | nil => exact .inl ⟨rfl, rfl⟩
  | cons l ls =>
    obtain ⟨hl, hls⟩ := List.forall_mem_cons.mp hls
    right
    rw [List.foldl_cons, hnull l hl, List.forall_mem_cons]
    exact foldl_tighten_of_kind hkept htighten hl hls

end Fold

variable {v : Value} {slot l : Scalar}

theorem tightenLower_null (hl : l.OfKind t) : tightenLower .null l = l := by
  rw [tightenLower, hl.isNull_eq]
  rfl

theorem tightenUpper_null (hl : l.OfKind t) : tightenUpper .null l = l := by
  rw [tightenUpper, hl.isNull_eq]
  rfl

/-- Of two lower literals the greater is kept. -/
theorem atLeast_tightenLower (hv : t.Admits v) (hslot : slot.OfKind t.base)
    (hl : l.OfKind t.base) :
    v.AtLeast (tightenLower slot l) ↔ v.AtLeast slot ∧ v.AtLeast l := by
  have hless : compare slot.rank l.rank = .lt → v.AtLeast l → v.AtLeast slot := by
    rw [Value.atLeast_iff hv hslot, Value.atLeast_iff hv hl]
    exact fun horder h hlt => h (Std.TransCmp.lt_trans hlt horder)
  have hmore : compare slot.rank l.rank ≠ .lt → v.AtLeast slot → v.AtLeast l := by
    rw [Value.atLeast_iff hv hslot, Value.atLeast_iff hv hl]
    exact fun horder h hlt => h (Std.TransCmp.lt_of_lt_of_isLE hlt (isLE_of_not_lt horder))
  rw [tightenLower, hl.isNull_eq, hslot.naturalCmp_eq hl]
  cases horder : compare slot.rank l.rank with
  | lt => exact ⟨fun h => ⟨hless horder h, h⟩, And.right⟩
  | eq => exact ⟨fun h => ⟨h, hmore (by simp [horder]) h⟩, And.left⟩
  | gt => exact ⟨fun h => ⟨h, hmore (by simp [horder]) h⟩, And.left⟩

/-- Of two upper literals the lesser is kept. -/
theorem atMost_tightenUpper (hv : t.Admits v) (hslot : slot.OfKind t.base)
    (hl : l.OfKind t.base) :
    v.AtMost (tightenUpper slot l) ↔ v.AtMost slot ∧ v.AtMost l := by
  have hmore : compare slot.rank l.rank = .gt → v.AtMost l → v.AtMost slot := by
    rw [Value.atMost_iff hv hslot, Value.atMost_iff hv hl]
    exact fun horder h hgt => h (Std.TransCmp.gt_trans hgt horder)
  have hless : compare slot.rank l.rank ≠ .gt → v.AtMost slot → v.AtMost l := by
    rw [Value.atMost_iff hv hslot, Value.atMost_iff hv hl]
    intro horder h hgt
    have hle : (compare slot.rank l.rank).isLE := by
      cases hcompare : compare slot.rank l.rank <;> simp_all
    exact h (Std.OrientedCmp.gt_of_lt
      (Std.TransCmp.lt_of_isLE_of_lt hle (Std.OrientedCmp.lt_of_gt hgt)))
  rw [tightenUpper, hl.isNull_eq, hslot.naturalCmp_eq hl]
  cases horder : compare slot.rank l.rank with
  | lt => exact ⟨fun h => ⟨h, hless (by simp [horder]) h⟩, And.left⟩
  | eq => exact ⟨fun h => ⟨h, hless (by simp [horder]) h⟩, And.left⟩
  | gt => exact ⟨fun h => ⟨hmore horder h, h⟩, And.right⟩

/-- The lower literals of a column and the one that is left of them. -/
theorem tightest_lower {ls : List Scalar} (hv : t.Admits v) (hls : ∀ l ∈ ls, l.Suits t) :
    ls.foldl tightenLower .null = .null ∧ ls = [] ∨
      (ls.foldl tightenLower .null).Suits t ∧
        (v.AtLeast (ls.foldl tightenLower .null) ↔ ∀ l ∈ ls, v.AtLeast l) :=
  @foldl_tighten_iff tightenLower (·.Suits t) v.AtLeast tightenLower_eq
    (fun _ _ hslot hl => atLeast_tightenLower hv hslot.kind hl.kind)
    (fun _ hl => tightenLower_null hl.kind) ls hls

/-- The upper literals of a column and the one that is left of them. -/
theorem tightest_upper {ls : List Scalar} (hv : t.Admits v) (hls : ∀ l ∈ ls, l.Suits t) :
    ls.foldl tightenUpper .null = .null ∧ ls = [] ∨
      (ls.foldl tightenUpper .null).Suits t ∧
        (v.AtMost (ls.foldl tightenUpper .null) ↔ ∀ l ∈ ls, v.AtMost l) :=
  @foldl_tighten_iff tightenUpper (·.Suits t) v.AtMost tightenUpper_eq
    (fun _ _ hslot hl => atMost_tightenUpper hv hslot.kind hl.kind)
    (fun _ hl => tightenUpper_null hl.kind) ls hls

end ColumnRange

/-! ### The leading columns -/

theorem dropEndWhile_cons {α : Type} {p : α → Bool} {a : α} (h : p a = false) (l : List α) :
    Text.dropEndWhile p (a :: l) = a :: Text.dropEndWhile p l := by
  rw [Text.dropEndWhile, Text.dropEndWhile, List.reverse_cons, List.dropWhile_append]
  split
  · next hempty => simp [List.isEmpty_iff.mp hempty, h]
  · simp

namespace ColumnRange

open Comparison (firstEqual? lowers uppers ofColumn countFixed)
open ScanPlan (storeKey)

variable {predicates : List Expr} {t : StoreType} {v : Value}

/-- A key meets the predicates in its leading columns: it is equal to the literals of those that
have an equality, and within the literals of the first that has none. -/
def Meets (predicates : List Expr) : List String → Tuple → Prop
  | column :: columns, v :: key =>
    match firstEqual? predicates column with
    | some e => v.EqualTo e ∧ Meets predicates columns key
    | none => (∀ l ∈ lowers predicates column, v.AtLeast l) ∧
        ∀ l ∈ uppers predicates column, v.AtMost l
  | _, _ => True

/-- A stored literal of a column decides before all that follow it. -/
theorem compareKeys_storeKey_cons {e : Scalar} (hv : t.Admits v) (he : e.Suits t) (key : Tuple)
    (rest : List Scalar) (types : List StoreType) :
    compareKeys (v :: key) (storeKey (Text.dropEndWhile Scalar.isNull (e :: rest)) (t :: types)) =
      (compare v.rank e.rank).then
        (compareKeys key (storeKey (Text.dropEndWhile Scalar.isNull rest) types)) := by
  obtain ⟨w, hw⟩ := he.stored
  rw [dropEndWhile_cons he.kind.isNull_eq, ScanPlan.storeKey_cons_ok hw, compareKeys_cons,
    Value.cmp_stored hv he.kind hw, Option.getD_some]

/-- One side of a column without an equality. -/
theorem compareKeys_storeKey_iff {bad : Ordering} (hbad : .eq ≠ bad) {Within : Scalar → Prop}
    (hv : t.Admits v)
    (hwithin : ∀ l : Scalar, l.OfKind t.base → (Within l ↔ compare v.rank l.rank ≠ bad))
    {tightest : Scalar} {ls : List Scalar}
    (htightest : tightest = .null ∧ ls = [] ∨
      tightest.Suits t ∧ (Within tightest ↔ ∀ l ∈ ls, Within l))
    (key : Tuple) (types : List StoreType) :
    compareKeys (v :: key) (storeKey (Text.dropEndWhile Scalar.isNull [tightest]) (t :: types)) ≠
      bad ↔ ∀ l ∈ ls, Within l := by
  rcases htightest with ⟨rfl, rfl⟩ | ⟨hsuits, hall⟩
  · rw [show Text.dropEndWhile Scalar.isNull [Scalar.null] = [] from rfl, ScanPlan.storeKey_nil,
      compareKeys_nil_right]
    simpa using hbad
  · rw [compareKeys_storeKey_cons hv hsuits, Text.dropEndWhile_nil, ScanPlan.storeKey_nil,
      compareKeys_nil_right, Ordering.then_eq, ← hwithin tightest hsuits.kind, hall]

/-- **The stored sides admit the keys that meet the predicates**, and no others. -/
theorem storeKey_sides_iff {columns : List String} {types : List StoreType} {key : Tuple}
    (hsuits : List.Forall₂ (fun column type => ∀ c ∈ ofColumn predicates column, c.Suits type)
      columns types) (hkey : key.IsFullKey types) :
    (compareKeys key (storeKey (Text.dropEndWhile Scalar.isNull
        ((leading (Expr.conjunctsOf predicates) columns).map lower)) types) ≠ .lt ∧
      compareKeys key (storeKey (Text.dropEndWhile Scalar.isNull
        ((leading (Expr.conjunctsOf predicates) columns).map upper)) types) ≠ .gt) ↔
      Meets predicates columns key := by
  induction hsuits generalizing key with
  | nil => simp [leading, Meets]
  | @cons column type columns types hcolumn _ ih =>
    cases key with
    | nil => cases hkey.length
    | cons v key =>
      obtain ⟨hv, hfits⟩ := Tuple.fits_cons.mp hkey.fits
      have hrest := ih ⟨hfits, Nat.succ.inj hkey.length⟩
      rw [leading, Meets]
      cases hequal : firstEqual? predicates column with
      | some e =>
        -- Both sides have the literal here, so a key may differ from it in neither direction.
        have hpin : ofPredicates (Expr.conjunctsOf predicates) column = ⟨e, e, true⟩ :=
          foldl_narrow_of_equal rfl hcolumn hequal
        obtain ⟨c, hc, he⟩ := List.exists_of_findSome?_eq_some hequal
        have hsuits : e.Suits type := (hcolumn c hc).equal he
        simp only [hpin, List.map_cons, if_true]
        rw [compareKeys_storeKey_cons hv hsuits, compareKeys_storeKey_cons hv hsuits,
          Value.equalTo_iff hv hsuits.kind, ← hrest]
        cases compare v.rank e.rank <;> simp [Ordering.then]
      | none =>
        -- This column is the last that either side looks at.
        have hfree : ofPredicates (Expr.conjunctsOf predicates) column =
            ⟨(lowers predicates column).foldl tightenLower .null,
              (uppers predicates column).foldl tightenUpper .null, false⟩ :=
          foldl_narrow_of_free rfl hcolumn hequal
        have hlowers : ∀ l ∈ lowers predicates column, l.Suits type := by
          intro l hl
          obtain ⟨c, hc, hlower⟩ := List.mem_filterMap.mp hl
          exact (hcolumn c hc).lower hlower
        have huppers : ∀ l ∈ uppers predicates column, l.Suits type := by
          intro l hl
          obtain ⟨c, hc, hupper⟩ := List.mem_filterMap.mp hl
          exact (hcolumn c hc).upper hupper
        simp only [hfree, List.map_cons, Bool.false_eq_true, if_false, List.map_nil]
        exact and_congr
          (compareKeys_storeKey_iff (by decide : Ordering.eq ≠ .lt) hv
            (fun l hl => Value.atLeast_iff hv hl) (tightest_lower hv hlowers) key types)
          (compareKeys_storeKey_iff (by decide : Ordering.eq ≠ .gt) hv
            (fun l hl => Value.atMost_iff hv hl) (tightest_upper hv huppers) key types)

/-- What the predicates say of the leading columns, by the positions of the columns. -/
theorem meets_iff {columns : List String} {key : Tuple} (hlength : key.length = columns.length) :
    Meets predicates columns key ↔
      (∀ i < countFixed predicates columns, ∀ column ∈ columns[i]?, ∀ v ∈ key[i]?,
        ∀ e ∈ firstEqual? predicates column, v.EqualTo e) ∧
      ∀ column ∈ columns[countFixed predicates columns]?,
        ∀ v ∈ key[countFixed predicates columns]?,
          (∀ l ∈ lowers predicates column, v.AtLeast l) ∧
            ∀ l ∈ uppers predicates column, v.AtMost l := by
  induction columns generalizing key with
  | nil => simp [Meets, countFixed]
  | cons column columns ih =>
    cases key with
    | nil => cases hlength
    | cons v key =>
      have hrest := ih (Nat.succ.inj hlength)
      rw [Meets]
      cases hequal : firstEqual? predicates column with
      | none => simp [countFixed, hequal]
      | some e =>
        have hcount : countFixed predicates (column :: columns) =
            countFixed predicates columns + 1 := by
          simp [countFixed, hequal]
        rw [hcount, List.getElem?_cons_succ, List.getElem?_cons_succ]
        dsimp only
        rw [hrest, ← and_assoc, Nat.forall_lt_succ_left]
        simp [hequal]

end ColumnRange

/-! ### The whole range -/

section Whole

open Comparison (firstEqual? lowers uppers ofColumn countFixed)

/-- **The planned range is exact.**  If the literals suit the key columns, a key with values of the
declared types lies in the planned range if and only if its leading columns, as many as have an
equality, are equal to the literals of their first equalities, and the next column, if there is one,
lies within all of its literals. -/
theorem plannedRange_contains_iff (settings : ScanSettings) (b : Pushdown) (key : Tuple)
    (hsuits : List.Forall₂ (fun column type => ∀ c ∈ ofColumn b.predicates column, c.Suits type)
      b.target.keyColumns b.target.keyTypes)
    (hkey : key.IsFullKey b.target.keyTypes) :
    (b.plan settings).plannedRange.contains key = true ↔
      (∀ i < countFixed b.predicates b.target.keyColumns,
        ∀ column ∈ b.target.keyColumns[i]?, ∀ v ∈ key[i]?,
          ∀ e ∈ firstEqual? b.predicates column, v.EqualTo e) ∧
      ∀ column ∈ b.target.keyColumns[countFixed b.predicates b.target.keyColumns]?,
        ∀ v ∈ key[countFixed b.predicates b.target.keyColumns]?,
          (∀ l ∈ lowers b.predicates column, v.AtLeast l) ∧
            ∀ l ∈ uppers b.predicates column, v.AtMost l := by
  have hlength : key.length = b.target.keyColumns.length := by
    rw [hkey.length, hsuits.length_eq]
  rw [← ColumnRange.meets_iff hlength, ← ColumnRange.storeKey_sides_iff hsuits hkey,
    KeyRange.contains, Bool.and_eq_true]
  exact and_congr KeyBound.admitsAbove_ofTuple KeyBound.admitsBelow_ofTuple

/-- A target with the day and the city of visits as its key. -/
def visitTarget : ScanTarget where
  name := "visits"
  path := "/local/visits"
  schema := .ofFields [.plain "day" (.int .int32) false, .plain "city" .utf8 true]
  keyColumns := ["day", "city"]
  keyTypes := [.int .int32, .optional .text]
  partitions := []

/-- Visits of the seventh day to cities whose names begin like that of Paris and do not lie
behind `Z`.  That the day is not before the third adds nothing. -/
def visitPushdown : Pushdown :=
  ((Pushdown.start visitTarget .empty).pushPredicates
    [.predicate .gtEq [.column ["day"], .literal (.int .int64 3)],
      .predicate .and [.predicate .startsWith [.column ["city"], .literal (.utf8 "Par")],
        .predicate .eq [.literal (.int .int64 7), .column ["day"]]],
      .predicate .gt [.literal (.utf8 "Z"), .column ["city"]]]).2

theorem suits_visitPushdown : List.Forall₂
    (fun column type => ∀ c ∈ ofColumn visitPushdown.predicates column, c.Suits type)
    visitPushdown.target.keyColumns visitPushdown.target.keyTypes := by
  have hday : ofColumn visitPushdown.predicates "day" =
      [⟨.gtEq, .int .int64 3, false⟩, ⟨.eq, .int .int64 7, true⟩] := rfl
  have hcity : ofColumn visitPushdown.predicates "city" =
      [⟨.startsWith, .utf8 "Par", false⟩, ⟨.gt, .utf8 "Z", true⟩] := rfl
  refine .cons ?_ (.cons ?_ .nil)
  · rw [hday, List.forall_mem_cons, List.forall_mem_singleton]
    exact ⟨⟨.int _ _ _, _, rfl⟩, ⟨.int _ _ _, _, rfl⟩⟩
  · rw [hcity, List.forall_mem_cons, List.forall_mem_singleton]
    exact ⟨⟨rfl, "Par", 'r', rfl, rfl, by decide⟩, Scalar.suits_text rfl "Z"⟩

/-- A visit to Paris lies in the planned range, and one to no city does not. -/
theorem plannedRange_contains_iff_visits :
    (visitPushdown.plan Settings.builtin.scan).plannedRange.contains
      [.int .int32 7, .optional (.text "Paris")] = true ∧
    ¬ (visitPushdown.plan Settings.builtin.scan).plannedRange.contains [.int .int32 7, .null] =
      true := by
  have hfull : ∀ v : Value, StoreType.Admits (.optional .text) v →
      Tuple.IsFullKey [.int .int32 7, v] visitPushdown.target.keyTypes := by
    intro v hv
    refine ⟨Tuple.fits_cons.mpr ⟨?_, Tuple.fits_cons.mpr ⟨hv, nofun⟩⟩, rfl⟩
    rintro c ⟨⟩
    exact .int .int32 7
  have hparis : StoreType.Admits (.optional .text) (.optional (.text "Paris")) := by
    rintro c ⟨⟩
    exact .text "Paris"
  have hfixed : countFixed visitPushdown.predicates visitPushdown.target.keyColumns = 1 := rfl
  have hlowers : lowers visitPushdown.predicates "city" = [.utf8 "Par"] := rfl
  have huppers : uppers visitPushdown.predicates "city" = [.utf8 "Pas", .utf8 "Z"] := rfl
  constructor
  · rw [plannedRange_contains_iff _ _ _ suits_visitPushdown (hfull _ hparis), hfixed]
    constructor
    · intro i hi
      obtain rfl : i = 0 := by omega
      rintro column ⟨⟩ v ⟨⟩ e ⟨⟩
      exact congrArg some (compare_eq_iff_eq.mpr rfl)
    · rintro column ⟨⟩ v ⟨⟩
      rw [hlowers, huppers, List.forall_mem_singleton, List.forall_mem_cons,
        List.forall_mem_singleton]
      exact ⟨⟨.gt, by decide +kernel, nofun⟩, .inr ⟨.lt, by decide +kernel, nofun⟩,
        .inr ⟨.lt, by decide +kernel, nofun⟩⟩
  · rw [plannedRange_contains_iff _ _ _ suits_visitPushdown (hfull _ (StoreType.admits_null _)),
      hfixed]
    rintro ⟨-, hcity⟩
    obtain ⟨hlower, -⟩ := hcity "city" rfl .null rfl
    obtain ⟨o, ho, -⟩ := hlower (.utf8 "Par") (hlowers ▸ List.mem_cons_self)
    cases ho

end Whole

end ShardScan
