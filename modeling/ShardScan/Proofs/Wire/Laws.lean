import Mathlib.Algebra.Group.Nat.Defs
import ShardScan.Wire.Basic

/-!
# Laws of the binary transport form

A form is read back from the front of any bytes that begin with it, and bytes
that are accepted are the form of the value that was read.  The first law needs
forms that are short enough for their lengths to be counted in eight bytes; the
second fails for dictionaries, whose entries may be sent in any order.

## Main definitions

* `byteLimit` — the least number that eight bytes cannot count up to.
* `Reads r bytes a` — the reader `r` takes `bytes` from the front and returns `a`.
* `Inverts r w P` — whatever `r` accepts and `P` holds of is the form that `w` writes.
* `LawfulWire`, `CanonicalWire` — the two laws for a type.

## Main results

* `reads_readList`, `inverts_readList` — both laws pass from items to lists of them.
-/

namespace ShardScan
namespace Wire

/-! ### Running readers -/

section Run

variable {α β : Type}

@[simp] theorem run_pure_eq (a : α) (input : List UInt8) :
    (pure a : WireReader α).run input = .ok (a, input) := rfl

@[simp] theorem run_throw_eq (e : WireError) (input : List UInt8) :
    (throw e : WireReader α).run input = .error e := rfl

/-- A reader behind another one goes on where that one stopped. -/
theorem run_bind_of_run {r : WireReader α} {f : α → WireReader β} {input rest : List UInt8} {a : α}
    (h : r.run input = .ok (a, rest)) : (r >>= f).run input = (f a).run rest := by
  rw [StateT.run_bind, h]
  rfl

/-- Two readers one behind the other accept what the first and then the second accepts. -/
theorem run_bind_eq_ok_iff {r : WireReader α} {f : α → WireReader β} {input rest : List UInt8}
    {b : β} :
    (r >>= f).run input = .ok (b, rest) ↔
      ∃ a middle, r.run input = .ok (a, middle) ∧ (f a).run middle = .ok (b, rest) := by
  constructor
  · intro h
    rw [StateT.run_bind] at h
    cases hr : r.run input with
    | error e => rw [hr] at h; cases h
    | ok p => exact ⟨p.1, p.2, rfl, by rw [hr] at h; exact h⟩
  · rintro ⟨a, middle, hr, hf⟩
    rw [run_bind_of_run hr, hf]

end Run

/-! ### The two laws -/

/-- The number of bytes from which on a length does not fit into its eight bytes. -/
def byteLimit : Nat := 256 ^ 8

/-- The reader takes these bytes from the front, whatever follows them, and returns `a`. -/
def Reads {α : Type} (r : WireReader α) (bytes : List UInt8) (a : α) : Prop :=
  ∀ rest, r.run (bytes ++ rest) = .ok (a, rest)

/-- What the reader accepts is what `write` makes of the result, for results with `P`. -/
def Inverts {α : Type} (r : WireReader α) (write : α → List UInt8) (P : α → Prop) : Prop :=
  ∀ ⦃input a rest⦄, r.run input = .ok (a, rest) → P a → input = write a ++ rest

/-- A type of which no form is empty. -/
class SizedWire (α : Type) [Wire α] : Prop where
  length_write_pos : ∀ a : α, 0 < (write a).length

/-- A type of which every form is read back. -/
class LawfulWire (α : Type) [Wire α] : Prop where
  reads_write : ∀ a : α, (write a).length < byteLimit → Reads (read : WireReader α) (write a) a

/-- A type in which bytes that are accepted are the form of the value that was read. -/
class CanonicalWire (α : Type) [Wire α] : Prop where
  inverts_read : Inverts (read : WireReader α) write fun _ => True

export SizedWire (length_write_pos)
export LawfulWire (reads_write)

section Laws

variable {α β : Type}

/-- A value of a canonical type was sent in its own form. -/
theorem eq_write_append [Wire α] [CanonicalWire α] {input rest : List UInt8} {a : α}
    (h : (read : WireReader α).run input = .ok (a, rest)) : input = write a ++ rest :=
  CanonicalWire.inverts_read h trivial

theorem reads_pure (a : α) : Reads (pure a) [] a := fun _ => rfl

/-- One form behind another is read by one reader behind the other. -/
theorem Reads.bind {r : WireReader α} {f : α → WireReader β} {bytes bytes' : List UInt8} {a : α}
    {b : β} (hr : Reads r bytes a) (hf : Reads (f a) bytes' b) :
    Reads (r >>= f) (bytes ++ bytes') b := by
  intro rest
  rw [List.append_assoc, run_bind_of_run (hr _)]
  exact hf rest

/-- Behind the last value of a row nothing more is read. -/
theorem Reads.bind_eq_pure {r : WireReader α} {f : α → WireReader β} {bytes : List UInt8} {a : α}
    {b : β} (hr : Reads r bytes a) (hf : f a = pure b) : Reads (r >>= f) bytes b := by
  intro rest
  rw [run_bind_of_run (hr rest), hf]
  rfl

/-- The last reader of a row only wraps up what it read. -/
theorem Reads.bind_pure {r : WireReader α} {f : α → β} {bytes : List UInt8} {a : α}
    (hr : Reads r bytes a) : Reads (r >>= fun a => pure (f a)) bytes (f a) := hr.bind_eq_pure rfl

/-- A value of a lawful type at the front of a longer form. -/
theorem reads_write_left [Wire α] [LawfulWire α] {a : α} {bytes : List UInt8}
    (h : (write a ++ bytes).length < byteLimit) : Reads (read : WireReader α) (write a) a :=
  reads_write a (by rw [List.length_append] at h; omega)

/-- A value of a lawful type at the end of a longer form. -/
theorem reads_write_right [Wire α] [LawfulWire α] {a : α} {bytes : List UInt8}
    (h : (bytes ++ write a).length < byteLimit) : Reads (read : WireReader α) (write a) a :=
  reads_write a (by rw [List.length_append] at h; omega)

end Laws

/-! ### Bytes and words -/

theorem run_take (bytes rest : List UInt8) :
    (take bytes.length).run (bytes ++ rest) = .ok (bytes, rest) := by
  simp [take, StateT.run]

theorem reads_take {n : Nat} {bytes : List UInt8} (h : bytes.length = n) :
    Reads (take n) bytes bytes := by
  intro rest
  rw [← h]
  exact run_take bytes rest

theorem take_eq_ok {n : Nat} {input bytes rest : List UInt8}
    (h : (take n).run input = .ok (bytes, rest)) : input = bytes ++ rest ∧ bytes.length = n := by
  simp only [take, StateT.run] at h
  split at h
  · next hle =>
    cases h
    exact ⟨(List.take_append_drop n input).symm, List.length_take_of_le hle⟩
  · cases h

@[simp] theorem length_littleEndian (width n : Nat) : (littleEndian width n).length = width := by
  induction width generalizing n with
  | zero => rfl
  | succ width ih => simp [littleEndian, ih]

/-- The digits of a number denote it, if there are enough of them. -/
theorem ofLittleEndian_littleEndian {width n : Nat} (h : n < 256 ^ width) :
    ofLittleEndian (littleEndian width n) = n := by
  induction width generalizing n with
  | zero =>
    have : n = 0 := by simpa using h
    rw [this]
    rfl
  | succ width ih =>
    have hlow : (UInt8.ofNat (n % 256)).toNat = n % 256 := by
      rw [UInt8.toNat_ofNat']
      omega
    have hhigh : n / 256 < 256 ^ width := by
      rw [Nat.pow_succ] at h
      omega
    rw [littleEndian, ofLittleEndian, ih hhigh, hlow]
    omega

theorem ofLittleEndian_lt (bytes : List UInt8) : ofLittleEndian bytes < 256 ^ bytes.length := by
  induction bytes with
  | nil => simp [ofLittleEndian]
  | cons b rest ih =>
    have hb : b.toNat < 256 := UInt8.toNat_lt b
    rw [ofLittleEndian, List.length_cons, Nat.pow_succ]
    omega

/-- Bytes are the digits of the number that they denote. -/
theorem littleEndian_ofLittleEndian (bytes : List UInt8) :
    littleEndian bytes.length (ofLittleEndian bytes) = bytes := by
  induction bytes with
  | nil => rfl
  | cons b rest ih =>
    have hb : b.toNat < 256 := UInt8.toNat_lt b
    have hlow : (b.toNat + 256 * ofLittleEndian rest) % 256 = b.toNat := by omega
    have hhigh : (b.toNat + 256 * ofLittleEndian rest) / 256 = ofLittleEndian rest := by omega
    rw [List.length_cons, ofLittleEndian, littleEndian, hlow, hhigh, ih, UInt8.ofNat_toNat]

theorem reads_readCount {width n : Nat} (h : n < 256 ^ width) :
    Reads (readCount width) (writeCount width n) n := by
  have hread : Reads (readCount width) (writeCount width n)
      (ofLittleEndian (littleEndian width n)) :=
    (reads_take (length_littleEndian width n)).bind_pure
  rwa [ofLittleEndian_littleEndian h] at hread

theorem readCount_eq_ok {width n : Nat} {input rest : List UInt8}
    (h : (readCount width).run input = .ok (n, rest)) :
    input = writeCount width n ++ rest ∧ n < 256 ^ width := by
  rw [readCount, run_bind_eq_ok_iff] at h
  obtain ⟨bytes, middle, htake, hpure⟩ := h
  obtain ⟨rfl, hlen⟩ := take_eq_ok htake
  cases hpure
  subst hlen
  rw [writeCount, littleEndian_ofLittleEndian]
  exact ⟨rfl, ofLittleEndian_lt bytes⟩

theorem length_writeCount (width n : Nat) : (writeCount width n).length = width :=
  length_littleEndian width n

theorem reads_word {f : WordFormat} (w : Word f) : Reads (read : WireReader (Word f)) (write w) w := by
  have hread : Reads (read : WireReader (Word f)) (write w)
      (Word.ofResidue f (ofLittleEndian (littleEndian f.bytes w.residue))) :=
    (reads_take (length_littleEndian f.bytes w.residue)).bind_pure
  rwa [ofLittleEndian_littleEndian w.residue_lt, Word.ofResidue_residue] at hread

instance (f : WordFormat) : LawfulWire (Word f) := ⟨fun w _ => reads_word w⟩

instance (f : WordFormat) : CanonicalWire (Word f) where
  inverts_read := by
    intro input w rest h _
    obtain ⟨bytes, middle, htake, hpure⟩ := run_bind_eq_ok_iff.mp h
    obtain ⟨rfl, hlen⟩ := take_eq_ok htake
    cases hpure
    have hlt : ofLittleEndian bytes < f.size := by
      have := ofLittleEndian_lt bytes
      rwa [hlen] at this
    show bytes ++ rest = littleEndian f.bytes (Word.ofResidue f (ofLittleEndian bytes)).residue ++ rest
    rw [Word.residue_ofResidue hlt, ← hlen, littleEndian_ofLittleEndian]

theorem reads_floating {f : FloatFormat} (x : Floating f) :
    Reads (read : WireReader (Floating f)) (write x) x := (reads_word x.pattern).bind_pure

instance (f : FloatFormat) : LawfulWire (Floating f) := ⟨fun x _ => reads_floating x⟩

instance (f : FloatFormat) : CanonicalWire (Floating f) where
  inverts_read := by
    intro input x rest h _
    obtain ⟨w, middle, hread, hpure⟩ := run_bind_eq_ok_iff.mp h
    cases hpure
    exact eq_write_append (α := Word f.word) hread

instance : SizedWire UInt8 := ⟨fun _ => Nat.one_pos⟩

instance : LawfulWire UInt8 where
  reads_write b _ := by
    have hread : Reads (read : WireReader UInt8) (writeCount 1 b.toNat) (UInt8.ofNat b.toNat) :=
      (reads_readCount (UInt8.toNat_lt b)).bind_pure
    have hform : writeCount 1 b.toNat = write b := by
      show [UInt8.ofNat (b.toNat % 256)] = [b]
      rw [Nat.mod_eq_of_lt (UInt8.toNat_lt b), UInt8.ofNat_toNat]
    rwa [hform, UInt8.ofNat_toNat] at hread

instance : CanonicalWire UInt8 where
  inverts_read := by
    intro input b rest h _
    obtain ⟨n, middle, hread, hpure⟩ := run_bind_eq_ok_iff.mp h
    obtain ⟨rfl, hlt⟩ := readCount_eq_ok hread
    cases hpure
    show [UInt8.ofNat (n % 256)] ++ rest = [UInt8.ofNat n] ++ rest
    rw [Nat.mod_eq_of_lt (by omega)]

theorem reads_bool (b : Bool) : Reads (read : WireReader Bool) (write b) b := by
  intro rest
  cases b <;> rfl

instance : LawfulWire Bool := ⟨fun b _ => reads_bool b⟩

instance : CanonicalWire Bool where
  inverts_read := by
    intro input b rest h _
    obtain ⟨n, middle, hread, hmatch⟩ := run_bind_eq_ok_iff.mp h
    obtain ⟨rfl, -⟩ := readCount_eq_ok hread
    -- Only the marks 0 and 1 are accepted.
    split at hmatch <;> cases hmatch <;> rfl

/-! ### Texts, pairs and optional values -/

instance : SizedWire String where
  length_write_pos s := by
    show 0 < (writeCount 8 _ ++ _).length
    rw [List.length_append, length_writeCount]
    omega

instance : LawfulWire String where
  reads_write s hlen := by
    have hcount : (Text.utf8 s).length < 256 ^ 8 := by
      have : (writeCount 8 (Text.utf8 s).length ++ Text.utf8 s).length < byteLimit := hlen
      rw [List.length_append] at this
      unfold byteLimit at this
      omega
    refine (reads_readCount hcount).bind ?_
    intro rest
    rw [run_bind_of_run (run_take (Text.utf8 s) rest), Text.ofUtf8?_utf8]
    rfl

instance : CanonicalWire String where
  inverts_read := by
    intro input s rest h _
    obtain ⟨n, middle, hcount, h⟩ := run_bind_eq_ok_iff.mp h
    obtain ⟨bytes, middle', htake, hmatch⟩ := run_bind_eq_ok_iff.mp h
    obtain ⟨rfl, -⟩ := readCount_eq_ok hcount
    obtain ⟨rfl, rfl⟩ := take_eq_ok htake
    split at hmatch
    · next s' hs =>
      cases hmatch
      rw [← Text.ofUtf8?_eq_some_iff.mp hs]
      exact (List.append_assoc ..).symm
    · cases hmatch

theorem reads_readOption_none {α : Type} (r : WireReader α) : Reads (readOption r) [0] none :=
  fun _ => rfl

theorem reads_readOption_some {α : Type} {r : WireReader α} {bytes : List UInt8} {a : α}
    (h : Reads r bytes a) : Reads (readOption r) (1 :: bytes) (some a) := by
  have hmark : Reads (readCount 1) [1] 1 := @reads_readCount 1 1 (by decide)
  intro rest
  show (readOption r).run ([1] ++ (bytes ++ rest)) = _
  rw [readOption, run_bind_of_run (hmark _)]
  exact h.bind_pure rest

section Compound

variable {α β : Type} [Wire α] [Wire β]

instance [SizedWire α] : SizedWire (α × β) where
  length_write_pos p := by
    have := length_write_pos p.1
    show 0 < (write p.1 ++ write p.2).length
    rw [List.length_append]
    omega

instance [LawfulWire α] [LawfulWire β] : LawfulWire (α × β) where
  reads_write p hlen := by
    have hlen : (write p.1 ++ write p.2).length < byteLimit := hlen
    exact (reads_write_left hlen).bind (reads_write_right hlen).bind_pure

instance [CanonicalWire α] [CanonicalWire β] : CanonicalWire (α × β) where
  inverts_read := by
    intro input p rest h _
    obtain ⟨a, middle, ha, h⟩ := run_bind_eq_ok_iff.mp h
    obtain ⟨b, middle', hb, hpure⟩ := run_bind_eq_ok_iff.mp h
    cases hpure
    rw [eq_write_append ha, eq_write_append hb]
    exact (List.append_assoc ..).symm

instance [LawfulWire α] : LawfulWire (Option α) where
  reads_write o hlen := by
    cases o with
    | none => exact reads_readOption_none read
    | some a =>
      have hlen : ([1] ++ write a).length < byteLimit := hlen
      exact reads_readOption_some (reads_write_right hlen)

omit [Wire α] in
/-- What is accepted as an optional value is a mark and, behind the mark 1, the value. -/
theorem inverts_readOption {r : WireReader α} {w : α → List UInt8} {P : α → Prop}
    (h : Inverts r w P) :
    Inverts (readOption r) (fun o => match o with | none => [0] | some a => 1 :: w a)
      fun o => ∀ a ∈ o, P a := by
  intro input o rest hread hP
  obtain ⟨n, middle, hcount, hmatch⟩ := run_bind_eq_ok_iff.mp hread
  obtain ⟨rfl, -⟩ := readCount_eq_ok hcount
  split at hmatch
  · cases hmatch
    rfl
  · obtain ⟨a, middle', ha, hpure⟩ := run_bind_eq_ok_iff.mp hmatch
    cases hpure
    rw [h ha (hP a rfl)]
    rfl
  · cases hmatch

instance [CanonicalWire α] : CanonicalWire (Option α) where
  inverts_read := by
    intro input o rest h _
    exact inverts_readOption CanonicalWire.inverts_read h fun _ _ => trivial

end Compound

/-! ### Lists -/

section Lists

variable {α : Type}

theorem reads_readMany {r : WireReader α} {w : α → List UInt8} (l : List α)
    (h : ∀ a ∈ l, Reads r (w a) a) : Reads (readMany r l.length) (l.flatMap w) l := by
  induction l with
  | nil => exact reads_pure []
  | cons a rest ih =>
    rw [List.flatMap_cons]
    exact (h a List.mem_cons_self).bind
      (ih fun b hb => h b (List.mem_cons_of_mem a hb)).bind_pure

/-- A list is no longer than its form, if no item has an empty one. -/
theorem length_le_length_flatMap {w : α → List UInt8} (hpos : ∀ a, 0 < (w a).length)
    (l : List α) : l.length ≤ (l.flatMap w).length := by
  induction l with
  | nil => exact Nat.le_refl 0
  | cons a rest ih =>
    have := hpos a
    rw [List.flatMap_cons, List.length_append, List.length_cons]
    omega

/-- The form of an item is no longer than that of its list. -/
theorem length_le_length_flatMap_of_mem {w : α → List UInt8} {a : α} {l : List α} (h : a ∈ l) :
    (w a).length ≤ (l.flatMap w).length := by
  induction l with
  | nil => cases h
  | cons b rest ih =>
    rw [List.flatMap_cons, List.length_append]
    rcases List.mem_cons.mp h with rfl | h
    · omega
    · have := ih h
      omega

/-- **Lists are read back** from their count and their items. -/
theorem reads_readList {r : WireReader α} {w : α → List UInt8} {l : List α}
    (hcount : l.length < byteLimit) (h : ∀ a ∈ l, Reads r (w a) a) :
    Reads (readList r) (writeCount 8 l.length ++ l.flatMap w) l :=
  (reads_readCount hcount).bind (reads_readMany l h)

theorem inverts_readMany {r : WireReader α} {w : α → List UInt8} {P : α → Prop}
    (h : Inverts r w P) (n : Nat) :
    Inverts (readMany r n) (fun l => l.flatMap w) (fun l => ∀ a ∈ l, P a) ∧
      ∀ ⦃input l rest⦄, (readMany r n).run input = .ok (l, rest) → l.length = n := by
  induction n with
  | zero =>
    constructor
    · intro input l rest hread _
      cases hread
      rfl
    · intro input l rest hread
      cases hread
      rfl
  | succ n ih =>
    constructor
    · intro input l rest hread hP
      obtain ⟨a, middle, ha, hread⟩ := run_bind_eq_ok_iff.mp hread
      obtain ⟨l', middle', hl', hpure⟩ := run_bind_eq_ok_iff.mp hread
      cases hpure
      rw [h ha (hP a List.mem_cons_self), ih.1 hl' fun b hb => hP b (List.mem_cons_of_mem a hb)]
      show w a ++ (l'.flatMap w ++ rest) = (a :: l').flatMap w ++ rest
      rw [List.flatMap_cons, List.append_assoc]
    · intro input l rest hread
      obtain ⟨a, middle, -, hread⟩ := run_bind_eq_ok_iff.mp hread
      obtain ⟨l', middle', hl', hpure⟩ := run_bind_eq_ok_iff.mp hread
      cases hpure
      rw [List.length_cons, ih.2 hl']

/-- **What is accepted as a list** is a count and as many items. -/
theorem inverts_readList {r : WireReader α} {w : α → List UInt8} {P : α → Prop}
    (h : Inverts r w P) :
    Inverts (readList r) (fun l => writeCount 8 l.length ++ l.flatMap w) fun l => ∀ a ∈ l, P a := by
  intro input l rest hread hP
  obtain ⟨n, middle, hcount, hmany⟩ := run_bind_eq_ok_iff.mp hread
  obtain ⟨rfl, -⟩ := readCount_eq_ok hcount
  obtain rfl := (inverts_readMany h n).2 hmany
  obtain rfl := (inverts_readMany h l.length).1 hmany hP
  exact (List.append_assoc ..).symm

variable [Wire α]

instance : SizedWire (List α) where
  length_write_pos l := by
    show 0 < (writeCount 8 _ ++ _).length
    rw [List.length_append, length_writeCount]
    omega

instance [SizedWire α] [LawfulWire α] : LawfulWire (List α) where
  reads_write l hlen := by
    have hlen : (writeCount 8 l.length ++ l.flatMap write).length < byteLimit := hlen
    rw [List.length_append] at hlen
    have hcount := length_le_length_flatMap (w := write) length_write_pos l
    refine reads_readList (by omega) ?_
    intro a ha
    have := length_le_length_flatMap_of_mem (w := write) ha
    exact reads_write a (by omega)

instance [CanonicalWire α] : CanonicalWire (List α) where
  inverts_read := by
    intro input l rest h _
    exact inverts_readList CanonicalWire.inverts_read h fun _ _ => trivial

end Lists

/-! ### Alternatives without members -/

section Alternatives

variable {α : Type}

theorem reads_readAlternative [DecidableEq α] {alternatives : List α} {a : α} (ha : a ∈ alternatives)
    (hlen : alternatives.length < 256 ^ 4) :
    Reads (readAlternative alternatives) (writeCount 4 (alternatives.idxOf a)) a := by
  have hlt := List.idxOf_lt_length_of_mem ha
  intro rest
  rw [readAlternative, run_bind_of_run (reads_readCount (by omega) rest),
    List.getElem?_eq_getElem hlt, List.getElem_idxOf hlt]
  rfl

theorem inverts_readAlternative [DecidableEq α] {alternatives : List α} (hnodup : alternatives.Nodup) :
    Inverts (readAlternative alternatives) (fun a => writeCount 4 (alternatives.idxOf a))
      fun _ => True := by
  intro input a rest hread _
  obtain ⟨n, middle, hcount, hmatch⟩ := run_bind_eq_ok_iff.mp hread
  obtain ⟨rfl, -⟩ := readCount_eq_ok hcount
  split at hmatch
  · next a' ha' =>
    cases hmatch
    obtain ⟨hlt, rfl⟩ := List.getElem?_eq_some_iff.mp ha'
    show writeCount 4 n ++ rest = writeCount 4 (alternatives.idxOf alternatives[n]) ++ rest
    rw [hnodup.idxOf_getElem]
  · cases hmatch

/-- The number of an alternative and then its members are read by a reader that looks at the
number first. -/
theorem reads_alternative {f : Nat → WireReader α} {n : Nat} {bytes : List UInt8} {a : α}
    (hn : n < 256 ^ 4) (h : Reads (f n) bytes a) :
    Reads (readCount 4 >>= f) (writeCount 4 n ++ bytes) a := (reads_readCount hn).bind h

/-- The same for an alternative without members. -/
theorem reads_alternative_pure {f : Nat → WireReader α} {n : Nat} {a : α} (hn : n < 256 ^ 4)
    (h : f n = pure a) : Reads (readCount 4 >>= f) (writeCount 4 n) a :=
  (reads_readCount hn).bind_eq_pure h

end Alternatives

/-! ### Nested values -/

/-- A reader that is given the number of bytes as a bound on the depth. -/
theorem reads_of_depth {α : Type} {r : Nat → WireReader α} {bytes : List UInt8} {a : α}
    (h : ∀ depth, bytes.length ≤ depth → Reads (r (depth + 1)) bytes a) :
    Reads (do r (← get).length.succ) bytes a := by
  intro rest
  exact h (bytes ++ rest).length (by rw [List.length_append]; omega) rest

theorem inverts_of_depth {α : Type} {r : Nat → WireReader α} {w : α → List UInt8} {P : α → Prop}
    (h : ∀ depth, Inverts (r depth) w P) : Inverts (do r (← get).length.succ) w P := by
  intro input a rest hread hP
  exact h input.length.succ hread hP

end Wire
end ShardScan
