import Mathlib.Data.List.Basic
import ShardScan.Proofs.Outcome
import ShardScan.StoreType.Name

/-!
# Names that read back

A written name is read as the type it was written for, but for layers that admit
NULL twice over: each is written with a mark of its own, and the reader makes the
marks one layer.  What is read at all has at most one such layer and is therefore
read back from its own written name, whichever spelling it was read from.

The argument follows the reader.  A written name has no white space at its ends,
so nothing is skipped.  With a mark at its end it is the name of the layer below;
without one it is either the name of a decimal, whose arguments are numerals
around the only comma, or one of finitely many words.

## Main definitions

* `StoreType.collapsed` — the type with layers directly around layers made one.

## Main results

* `Text.trim_eq_self` — text without white space at its ends.
* `StoreType.ofNameChars_nameChars` — what a written name is read as.
* `StoreType.layers_of_ofNameChars` — what is read has at most one layer.
* `store_type_names` — **written names and what is read from any text.**
-/

namespace ShardScan

namespace Text

/-! ### White space -/

theorem trimStart_eq_self {s : List Char} (h : ∀ c ∈ s.head?, isBlank c = false) :
    trimStart s = s := by
  cases s with
  | nil => rfl
  | cons c s => exact List.dropWhile_cons_of_neg (by simp [h c rfl])

/-- Nothing is skipped of a text without white space at its ends. -/
theorem trim_eq_self {s : List Char} (hfirst : ∀ c ∈ s.head?, isBlank c = false)
    (hlast : ∀ c ∈ s.getLast?, isBlank c = false) : trim s = s := by
  have hreverse : trimStart s.reverse = s.reverse := by
    refine trimStart_eq_self fun c hc => hlast c ?_
    rwa [List.head?_reverse] at hc
  rw [trim, trimStart_eq_self hfirst, dropEndWhile]
  show (trimStart s.reverse).reverse = s
  rw [hreverse, List.reverse_reverse]

theorem isBlank_of_isDigit {c : Char} (h : c.isDigit = true) : isBlank c = false := by
  have hbounds : 48 ≤ c.toNat ∧ c.toNat ≤ 57 := by
    simpa [Char.isDigit, UInt32.le_iff_toNat_le] using h
  show ((blank.boundaries.takeWhile (· ≤ c.toNat)).length % 2 == 1) = false
  generalize c.toNat = n at hbounds
  obtain ⟨hlow, hhigh⟩ := hbounds
  obtain h | h | h | h | h | h | h | h | h | h : n = 48 ∨ n = 49 ∨ n = 50 ∨ n = 51 ∨ n = 52 ∨
    n = 53 ∨ n = 54 ∨ n = 55 ∨ n = 56 ∨ n = 57 := by omega
  all_goals subst h; rfl

/-! ### Numerals -/

/-- A numeral has digits, and a minus sign before them where the number is negative. -/
theorem isDigit_of_mem_decimal {n : Int} {c : Char} (h : c ∈ decimal n) :
    c.isDigit = true ∨ c = '-' ∧ n < 0 := by
  have hdigits := List.all_eq_true.mp (all_isDigit_toDigits n.natAbs)
  unfold decimal at h
  split at h
  · next hneg =>
    rcases List.mem_cons.mp h with rfl | h
    · exact .inr ⟨rfl, hneg⟩
    · exact .inl (hdigits c h)
  · exact .inl (hdigits c h)

theorem trim_decimal (n : Int) : trim (decimal n) = decimal n := by
  have hblank : ∀ c ∈ decimal n, isBlank c = false := by
    intro c hc
    rcases isDigit_of_mem_decimal hc with hdigit | ⟨rfl, -⟩
    · exact isBlank_of_isDigit hdigit
    · rfl
  exact trim_eq_self (fun c hc => hblank c (List.mem_of_mem_head? hc))
    fun c hc => hblank c (List.mem_of_mem_getLast? hc)

theorem comma_notMem_decimal (n : Int) : ',' ∉ decimal n := by
  intro h
  rcases isDigit_of_mem_decimal h with h | ⟨h, -⟩ <;> exact absurd h (by decide)

end Text

/-- A word reads back from its numeral. -/
theorem Word.ofText?_decimal {f : WordFormat} (w : Word f) :
    Word.ofText? f (Text.decimal w.val) = some w := by
  have hsign : (!f.signed && (Text.decimal w.val).head? == some '-') = false := by
    rw [Bool.and_eq_false_imp]
    intro hunsigned
    rw [beq_eq_false_iff_ne]
    intro hminus
    -- A word without a sign is not negative.
    have hlo : f.lo = 0 := by
      rw [WordFormat.lo, if_neg (by simpa using hunsigned)]
    have hheld := w.holds.1
    rcases Text.isDigit_of_mem_decimal (List.mem_of_mem_head? hminus) with h | ⟨-, h⟩
    · exact absurd h (by decide)
    · omega
  rw [Word.ofText?, hsign, if_neg Bool.false_ne_true, Text.integer?_decimal, Option.bind_some,
    Word.ofInt?_val]

namespace StoreType

open Text (trim before? after? cutAt?)

/-! ### Layers -/

/-- The type with optional layers directly around optional layers made one. -/
def collapsed : StoreType → StoreType
  | optional (optional inner) => (optional inner).collapsed
  | t => t

theorem collapsed_optional (t : StoreType) : (optional t).collapsed = t.collapsed.orNull := by
  induction t with
  | optional inner ih =>
    rw [collapsed, ih, orNull_orNull]
  | _ => rfl

theorem collapsed_of_layers {t : StoreType} (h : t.layers ≤ 1) : t.collapsed = t := by
  cases t with
  | optional inner =>
    cases inner with
    | optional inner => simp [layers] at h
    | _ => rfl
  | _ => rfl

theorem layers_orNull {t : StoreType} (h : t.layers ≤ 1) : t.orNull.layers ≤ 1 := by
  cases t with
  | optional inner => exact h
  | _ => exact Nat.le_refl 1

/-! ### Reading what was written -/

theorem ofNameChars_of_part {s inner : List Char} (h : optionalPart? (trim s) = some inner) :
    ofNameChars s = (ofNameChars inner).map orNull := by
  rw [ofNameChars]
  split
  · next heq =>
    rw [h, Option.some.injEq] at heq
    rw [heq]
  · next heq => cases h.symm.trans heq

theorem ofNameChars_of_plain {s : List Char} {t : StoreType} (hpart : optionalPart? (trim s) = none)
    (hplain : ofPlainName? (trim s) = some t) : ofNameChars s = .ok t := by
  rw [ofNameChars]
  split
  · next heq => cases hpart.symm.trans heq
  · rw [hplain]

@[simp] theorem nameChars_optional (inner : StoreType) :
    (optional inner).nameChars = inner.nameChars ++ ['?'] := rfl

/-- What stands between the word of a decimal and the bracket at its end. -/
def arguments (precision : Word .u8) (scale : Word .i8) : List Char :=
  Text.decimal precision.val ++ ',' :: Text.decimal scale.val

theorem nameChars_decimal (precision : Word .u8) (scale : Word .i8) :
    (decimal precision scale).nameChars =
      "Decimal(".toList ++ (arguments precision scale ++ [')']) := by
  have hwritten : (decimal precision scale).nameChars = "Decimal(".toList ++
      Text.decimal precision.val ++ ',' :: Text.decimal scale.val ++ [')'] := rfl
  rw [hwritten, arguments, List.append_assoc, List.append_assoc, List.append_assoc]

theorem getLast?_nameChars_decimal (precision : Word .u8) (scale : Word .i8) :
    (decimal precision scale).nameChars.getLast? = some ')' := by
  rw [nameChars_decimal, ← List.append_assoc, List.getLast?_append, List.getLast?_singleton,
    Option.some_or]

theorem ofDecimalArguments?_arguments (precision : Word .u8) (scale : Word .i8) :
    ofDecimalArguments? (arguments precision scale) = some (decimal precision scale) := by
  rw [ofDecimalArguments?, arguments, Text.cutAt?_append (Text.comma_notMem_decimal _)]
  simp only [bind, Option.bind, Text.trim_decimal, Word.ofText?_decimal, pure]

theorem ofPlainName?_decimal (precision : Word .u8) (scale : Word .i8) :
    ofPlainName? (decimal precision scale).nameChars = some (decimal precision scale) := by
  rw [ofPlainName?, nameChars_decimal, Text.after?_append, Option.bind_some,
    Text.before?_append_singleton]
  exact ofDecimalArguments?_arguments precision scale

/-- A written name ends with no white space and does not begin with any. -/
theorem trim_nameChars (t : StoreType) : trim t.nameChars = t.nameChars := by
  have hfirst : ∃ c ∈ t.nameChars.head?, Text.isBlank c = false := by
    induction t with
    | optional inner ih =>
      obtain ⟨c, hhead, hc⟩ := ih
      refine ⟨c, ?_, hc⟩
      rw [nameChars_optional, List.head?_append, Option.mem_def.mp hhead]
      rfl
    | decimal precision scale =>
      refine ⟨'D', ?_, rfl⟩
      rw [nameChars_decimal, List.head?_append]
      rfl
    | int kind => cases kind <;> exact ⟨_, rfl, rfl⟩
    | _ => exact ⟨_, rfl, rfl⟩
  have hlast : ∃ c ∈ t.nameChars.getLast?, Text.isBlank c = false := by
    cases t with
    | optional inner => exact ⟨'?', List.getLast?_concat .., rfl⟩
    | decimal precision scale => exact ⟨')', getLast?_nameChars_decimal precision scale, rfl⟩
    | int kind => cases kind <;> exact ⟨_, rfl, rfl⟩
    | _ => exact ⟨_, rfl, rfl⟩
  obtain ⟨c, hhead, hc⟩ := hfirst
  obtain ⟨d, hend, hd⟩ := hlast
  refine Text.trim_eq_self (fun c' hc' => ?_) fun d' hd' => ?_
  · cases (Option.mem_unique hc' hhead)
    exact hc
  · cases (Option.mem_unique hd' hend)
    exact hd

/-- **A written name is read as the type with its layers made one.** -/
theorem ofNameChars_nameChars (t : StoreType) : ofNameChars t.nameChars = .ok t.collapsed := by
  induction t with
  | optional inner ih =>
    have hpart : optionalPart? (trim (optional inner).nameChars) = some inner.nameChars := by
      have hmark : before? '?' (optional inner).nameChars = some inner.nameChars :=
        Text.before?_append_singleton '?' inner.nameChars
      rw [trim_nameChars, optionalPart?, hmark]
      rfl
    rw [ofNameChars_of_part hpart, ih, collapsed_optional]
    rfl
  | decimal precision scale =>
    have hpart : optionalPart? (trim (decimal precision scale).nameChars) = none := by
      have hmark : before? '?' (decimal precision scale).nameChars = none := by
        rw [before?, getLast?_nameChars_decimal, if_neg (by decide)]
      rw [trim_nameChars, optionalPart?, hmark, nameChars_decimal]
      rfl
    rw [ofNameChars_of_plain hpart (t := decimal precision scale)]
    · rfl
    · rw [trim_nameChars, ofPlainName?_decimal]
  | int kind => cases kind <;> exact ofNameChars_of_plain (by decide) (by decide)
  | _ => exact ofNameChars_of_plain (by decide) (by decide)

/-! ### What is read -/

/-- A text without a mark names no optional type. -/
theorem isOptional_of_ofPlainName? {s : List Char} {t : StoreType} (h : ofPlainName? s = some t) :
    t.isOptional = false := by
  unfold ofPlainName? at h
  split at h
  · -- The arguments are those of a decimal.
    rw [ofDecimalArguments?] at h
    obtain ⟨⟨front, behind⟩, -, h⟩ := Option.bind_eq_some_iff.mp h
    obtain ⟨precision, -, h⟩ := Option.bind_eq_some_iff.mp h
    obtain ⟨scale, -, h⟩ := Option.bind_eq_some_iff.mp h
    cases h
    rfl
  · have hplain : ∀ entry ∈ plainNames, entry.2.isOptional = false := by decide
    obtain ⟨front, behind, hnames, -⟩ := List.lookup_eq_some_iff.mp h
    refine hplain (String.ofList s, t) ?_
    rw [hnames]
    exact List.mem_append_right _ List.mem_cons_self

/-- **What is read has at most one layer.** -/
theorem layers_of_ofNameChars {s : List Char} {t : StoreType} (h : ofNameChars s = .ok t) :
    t.layers ≤ 1 := by
  induction s using ofNameChars.induct generalizing t with
  | case1 s inner hpart ih =>
    rw [ofNameChars_of_part hpart] at h
    obtain ⟨below, hbelow, rfl⟩ := Except.exists_of_map_eq_ok h
    exact layers_orNull (ih hbelow)
  | case2 s hpart type hplain =>
    rw [ofNameChars_of_plain hpart hplain] at h
    cases h
    have hbare := isOptional_of_ofPlainName? hplain
    cases type with
    | optional inner => cases hbare
    | _ => exact Nat.zero_le 1
  | case3 s hpart hplain =>
    rw [ofNameChars] at h
    split at h
    · next heq => cases hpart.symm.trans heq
    · rw [hplain] at h
      cases h

end StoreType

/-- **Names of store types.**  The written name of a type is read as the type with optional layers
directly around one another made one.  A text that is read at all, in whichever spelling, is read as
a type with at most one such layer, and the written name of that type is read as the type again. -/
theorem store_type_names :
    (∀ t : StoreType, StoreType.ofName t.name = .ok t.collapsed) ∧
      ∀ (s : String) (t : StoreType), StoreType.ofName s = .ok t →
        t.layers ≤ 1 ∧ StoreType.ofName t.name = .ok t := by
  have hwritten : ∀ t : StoreType, StoreType.ofName t.name = .ok t.collapsed := by
    intro t
    rw [StoreType.ofName, StoreType.name, String.toList_ofList, StoreType.ofNameChars_nameChars]
    rfl
  refine ⟨hwritten, fun s t hread => ?_⟩
  have hlayers := StoreType.layers_of_ofNameChars (Except.of_mapError_eq_ok hread)
  refine ⟨hlayers, ?_⟩
  rw [hwritten t, StoreType.collapsed_of_layers hlayers]

/-- A name with spaces and with layers in two spellings is read as an optional decimal, and written
without either. -/
theorem store_type_names_spelling :
    let price := StoreType.optional (.decimal 5 ⟨-3, by decide⟩)
    StoreType.ofName "\tOptional< Decimal( +5 , -3)?>  ?" = .ok price ∧ price.layers ≤ 1 ∧
      price.name = "Decimal(5,-3)?" ∧ StoreType.ofName price.name = .ok price := by
  have hread : StoreType.ofName "\tOptional< Decimal( +5 , -3)?>  ?" =
      .ok (.optional (.decimal 5 ⟨-3, by decide⟩)) := by decide +kernel
  obtain ⟨hlayers, hagain⟩ := store_type_names.2 _ _ hread
  exact ⟨hread, hlayers, rfl, hagain⟩

end ShardScan
