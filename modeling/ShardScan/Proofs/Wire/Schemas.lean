import ShardScan.Proofs.Dict
import ShardScan.Proofs.Wire.Values
import ShardScan.Wire.Schema

/-!
# Transport of schemas

Engine types hold fields and fields hold engine types, so both laws are proved
for types, fields and field lists together.  Metadata is a dictionary, which is
read from entries in any order; what is sent without metadata is canonical.

## Main definitions

* `EngineType.IsBare`, `Field.IsBare`, `Schema.IsBare` — there is no metadata at any depth.

## Main results

* `reads_readEngineType` — every engine type is read back.
* `inverts_readEngineType` — an engine type without metadata was sent in its own form.
-/

namespace ShardScan

/-! ### Metadata -/

mutual

/-- No field in the type has metadata. -/
def EngineType.IsBare : EngineType → Prop
  | .list item => item.IsBare
  | .listView item => item.IsBare
  | .fixedSizeList item _ => item.IsBare
  | .largeList item => item.IsBare
  | .largeListView item => item.IsBare
  | .struct members => members.IsBare
  | .union alternatives _ => alternatives.IsBare
  | .dictionary key value => key.IsBare ∧ value.IsBare
  | .map entry _ => entry.IsBare
  | .runEndEncoded ends values => ends.IsBare ∧ values.IsBare
  | _ => True

/-- Neither the field nor a field in its type has metadata. -/
def Field.IsBare : Field → Prop
  | ⟨_, type, _, _, _, metadata⟩ => type.IsBare ∧ metadata = .empty

/-- No field of the list has metadata. -/
def FieldList.IsBare : FieldList → Prop
  | .nil => True
  | .cons field rest => field.IsBare ∧ rest.IsBare

/-- No field of the list has metadata. -/
def TaggedFieldList.IsBare : TaggedFieldList → Prop
  | .nil => True
  | .cons _ field rest => field.IsBare ∧ rest.IsBare

end

/-- Neither the schema nor a field at any depth has metadata. -/
def Schema.IsBare (s : Schema) : Prop := (∀ f ∈ s.fields, f.IsBare) ∧ s.metadata = .empty

/-- The fields of a struct as a list. -/
def FieldList.toList : FieldList → List Field
  | .nil => []
  | .cons field rest => field :: rest.toList

/-- The fields of a union, with their tags, as a list. -/
def TaggedFieldList.toList : TaggedFieldList → List (Word .i8 × Field)
  | .nil => []
  | .cons tag field rest => (tag, field) :: rest.toList

namespace Wire

/-! ### Dictionaries -/

section Dictionaries

variable {α : Type} [Wire α]

instance [LawfulWire α] : LawfulWire (Dict α) where
  reads_write d hlen := by
    have hentries : Reads (read : WireReader (List (String × α))) (write d) d.entries :=
      reads_write d.entries hlen
    exact hentries.bind_eq_pure (congrArg pure d.ofList_entries)

/-- The entries that a dictionary was read from. -/
theorem run_read_dict {input rest : List UInt8} {d : Dict α}
    (h : (read : WireReader (Dict α)).run input = .ok (d, rest)) :
    ∃ entries, (read : WireReader (List (String × α))).run input = .ok (entries, rest) ∧
      d = Dict.ofList entries := by
  obtain ⟨entries, middle, hentries, hpure⟩ := run_bind_eq_ok_iff.mp h
  cases hpure
  exact ⟨entries, hentries, rfl⟩

/-- The empty dictionary was sent in its own form. -/
theorem inverts_read_dict [CanonicalWire α] :
    Inverts (read : WireReader (Dict α)) write (· = .empty) := by
  rintro input d rest hread rfl
  obtain ⟨entries, hentries, hempty⟩ := run_read_dict hread
  rw [eq_write_append hentries, Dict.eq_nil_of_ofList_eq_empty hempty.symm]
  rfl

end Dictionaries

/-! ### Units and modes -/

instance : LawfulWire TimeUnit where
  reads_write u _ := reads_readAlternative (by cases u <;> decide) (by decide)

instance : LawfulWire IntervalUnit where
  reads_write u _ := reads_readAlternative (by cases u <;> decide) (by decide)

instance : LawfulWire UnionMode where
  reads_write m _ := reads_readAlternative (by cases m <;> decide) (by decide)

instance : CanonicalWire TimeUnit := ⟨inverts_readAlternative (by decide)⟩
instance : CanonicalWire IntervalUnit := ⟨inverts_readAlternative (by decide)⟩
instance : CanonicalWire UnionMode := ⟨inverts_readAlternative (by decide)⟩

/-! ### Field lists -/

@[simp] theorem fieldList_toList (l : FieldList) : fieldList l.toList = l := by
  induction l using FieldList.toList.induct with
  | case1 => rfl
  | case2 field rest ih => rw [FieldList.toList, fieldList, ih]

@[simp] theorem taggedFieldList_toList (l : TaggedFieldList) : taggedFieldList l.toList = l := by
  induction l using TaggedFieldList.toList.induct with
  | case1 => rfl
  | case2 tag field rest ih => rw [TaggedFieldList.toList, taggedFieldList, ih]

/-- The form of a tagged field. -/
def writeTagged (p : Word .i8 × Field) : List UInt8 := write p.1 ++ writeField p.2

theorem fieldCount_fieldList (l : List Field) : fieldCount (fieldList l) = l.length := by
  induction l with
  | nil => rfl
  | cons field rest ih => rw [fieldList, fieldCount, ih, List.length_cons]

theorem taggedFieldCount_taggedFieldList (l : List (Word .i8 × Field)) :
    taggedFieldCount (taggedFieldList l) = l.length := by
  induction l with
  | nil => rfl
  | cons p rest ih => rw [taggedFieldList, taggedFieldCount, ih, List.length_cons]

theorem writeFields_fieldList (l : List Field) :
    writeFields (fieldList l) = l.flatMap writeField := by
  induction l with
  | nil => rfl
  | cons field rest ih => rw [fieldList, writeFields, ih, List.flatMap_cons]

theorem writeTaggedFields_taggedFieldList (l : List (Word .i8 × Field)) :
    writeTaggedFields (taggedFieldList l) = l.flatMap writeTagged := by
  induction l with
  | nil => rfl
  | cons p rest ih =>
    rw [taggedFieldList, writeTaggedFields, ih, List.flatMap_cons, writeTagged]

theorem isBare_fieldList {l : List Field} (h : (fieldList l).IsBare) : ∀ f ∈ l, f.IsBare := by
  induction l with
  | nil => exact fun f hf => absurd hf List.not_mem_nil
  | cons field rest ih =>
    rw [fieldList, FieldList.IsBare] at h
    exact List.forall_mem_cons.mpr ⟨h.1, ih h.2⟩

theorem isBare_taggedFieldList {l : List (Word .i8 × Field)} (h : (taggedFieldList l).IsBare) :
    ∀ p ∈ l, p.2.IsBare := by
  induction l with
  | nil => exact fun p hp => absurd hp List.not_mem_nil
  | cons p rest ih =>
    rw [taggedFieldList, TaggedFieldList.IsBare] at h
    exact List.forall_mem_cons.mpr ⟨h.1, ih h.2⟩

theorem length_writeField_pos (f : Field) : 0 < (writeField f).length := by
  obtain ⟨name, type, nullable, dictionaryId, dictionaryOrdered, metadata⟩ := f
  have := length_write_pos name
  simp only [writeField, List.length_append]
  omega

theorem writeFields_eq (l : FieldList) : writeFields l = l.toList.flatMap writeField := by
  rw [← writeFields_fieldList, fieldList_toList]

theorem writeTaggedFields_eq (l : TaggedFieldList) :
    writeTaggedFields l = l.toList.flatMap writeTagged := by
  rw [← writeTaggedFields_taggedFieldList, taggedFieldList_toList]

theorem fieldCount_eq (l : FieldList) : fieldCount l = l.toList.length := by
  rw [← fieldCount_fieldList, fieldList_toList]

theorem taggedFieldCount_eq (l : TaggedFieldList) : taggedFieldCount l = l.toList.length := by
  rw [← taggedFieldCount_taggedFieldList, taggedFieldList_toList]

theorem length_writeTagged_pos (p : Word .i8 × Field) : 0 < (writeTagged p).length := by
  have := length_writeField_pos p.2
  rw [writeTagged, List.length_append]
  omega

/-! ### Reading back -/

theorem reads_readFieldOf {type : WireReader EngineType} {f : Field}
    (hlen : (writeField f).length < byteLimit)
    (htype : Reads type (writeEngineType f.type) f.type) :
    Reads (readFieldOf type) (writeField f) f := by
  obtain ⟨name, t, nullable, dictionaryId, dictionaryOrdered, metadata⟩ := f
  simp only [writeField, List.append_assoc] at hlen ⊢
  simp only [List.length_append] at hlen
  have hname : Reads (read : WireReader String) (write name) name := reads_write name (by omega)
  have hmetadata : Reads (read : WireReader (Dict String)) (write metadata) metadata :=
    reads_write metadata (by omega)
  exact hname.bind (htype.bind ((reads_bool nullable).bind ((reads_word dictionaryId).bind
    ((reads_bool dictionaryOrdered).bind hmetadata.bind_pure))))

mutual

/-- **Every engine type is read back**, if the bound on the depth exceeds the length of its form. -/
theorem reads_readEngineType (t : EngineType) (depth : Nat)
    (hlen : (writeEngineType t).length < byteLimit) (h : (writeEngineType t).length ≤ depth) :
    Reads (readEngineType (depth + 1)) (writeEngineType t) t := by
  match t with
  | .int kind =>
    have := index_lt kind
    refine reads_alternative_pure (by omega) ?_
    rw [intKind?_add_index]
  | .null => exact reads_alternative_pure (by decide) rfl
  | .boolean => exact reads_alternative_pure (by decide) rfl
  | .float16 => exact reads_alternative_pure (by decide) rfl
  | .float32 => exact reads_alternative_pure (by decide) rfl
  | .float64 => exact reads_alternative_pure (by decide) rfl
  | .timestamp unit zone =>
    rw [writeEngineType, List.append_assoc] at hlen ⊢
    have hbody : (write unit ++ write zone).length < byteLimit := by
      rw [List.length_append] at hlen
      omega
    have hunit : Reads (read : WireReader TimeUnit) (write unit) unit := reads_write_left hbody
    exact reads_alternative (by decide) (hunit.bind (reads_write_right hbody).bind_pure)
  | .date32 => exact reads_alternative_pure (by decide) rfl
  | .date64 => exact reads_alternative_pure (by decide) rfl
  | .time32 unit => exact reads_alternative (by decide) (reads_write_right hlen).bind_pure
  | .time64 unit => exact reads_alternative (by decide) (reads_write_right hlen).bind_pure
  | .duration unit => exact reads_alternative (by decide) (reads_write_right hlen).bind_pure
  | .interval unit => exact reads_alternative (by decide) (reads_write_right hlen).bind_pure
  | .binary => exact reads_alternative_pure (by decide) rfl
  | .fixedSizeBinary size => exact reads_alternative (by decide) (reads_word size).bind_pure
  | .largeBinary => exact reads_alternative_pure (by decide) rfl
  | .binaryView => exact reads_alternative_pure (by decide) rfl
  | .utf8 => exact reads_alternative_pure (by decide) rfl
  | .largeUtf8 => exact reads_alternative_pure (by decide) rfl
  | .utf8View => exact reads_alternative_pure (by decide) rfl
  | .list item =>
    rw [writeEngineType, List.length_append, length_alternative] at h hlen
    obtain ⟨depth, rfl⟩ : ∃ d, depth = d + 1 := ⟨depth - 1, by omega⟩
    exact reads_alternative (by decide) (reads_readField item depth (by omega) (by omega)).bind_pure
  | .listView item =>
    rw [writeEngineType, List.length_append, length_alternative] at h hlen
    obtain ⟨depth, rfl⟩ : ∃ d, depth = d + 1 := ⟨depth - 1, by omega⟩
    exact reads_alternative (by decide) (reads_readField item depth (by omega) (by omega)).bind_pure
  | .fixedSizeList item size =>
    rw [writeEngineType, List.append_assoc] at h hlen ⊢
    rw [List.length_append, List.length_append, length_alternative] at h hlen
    obtain ⟨depth, rfl⟩ : ∃ d, depth = d + 1 := ⟨depth - 1, by omega⟩
    exact reads_alternative (by decide)
      ((reads_readField item depth (by omega) (by omega)).bind (reads_word size).bind_pure)
  | .largeList item =>
    rw [writeEngineType, List.length_append, length_alternative] at h hlen
    obtain ⟨depth, rfl⟩ : ∃ d, depth = d + 1 := ⟨depth - 1, by omega⟩
    exact reads_alternative (by decide) (reads_readField item depth (by omega) (by omega)).bind_pure
  | .largeListView item =>
    rw [writeEngineType, List.length_append, length_alternative] at h hlen
    obtain ⟨depth, rfl⟩ : ∃ d, depth = d + 1 := ⟨depth - 1, by omega⟩
    exact reads_alternative (by decide) (reads_readField item depth (by omega) (by omega)).bind_pure
  | .struct members =>
    rw [writeEngineType, List.append_assoc] at h hlen ⊢
    simp only [List.length_append, length_alternative, length_writeCount] at h hlen
    obtain ⟨depth, rfl⟩ : ∃ d, depth = d + 1 := ⟨depth - 1, by omega⟩
    have hmembers := reads_fieldList members depth (by omega) (by omega)
    exact reads_alternative (by decide) (hmembers.bind_eq_pure (by rw [fieldList_toList]))
  | .union alternatives mode =>
    rw [writeEngineType, List.append_assoc, List.append_assoc] at h hlen ⊢
    simp only [List.length_append, length_alternative, length_writeCount] at h hlen
    obtain ⟨depth, rfl⟩ : ∃ d, depth = d + 1 := ⟨depth - 1, by omega⟩
    have halternatives := reads_taggedFieldList alternatives depth (by omega) (by omega)
    have hmode : Reads (read : WireReader UnionMode) (write mode) mode :=
      reads_write mode (by omega)
    rw [← List.append_assoc (writeCount 8 _)]
    refine reads_alternative (by decide) (halternatives.bind ?_)
    exact hmode.bind_eq_pure (by rw [taggedFieldList_toList])
  | .dictionary key value =>
    rw [writeEngineType, List.append_assoc] at h hlen ⊢
    simp only [List.length_append, length_alternative] at h hlen
    obtain ⟨depth, rfl⟩ : ∃ d, depth = d + 1 := ⟨depth - 1, by omega⟩
    have hkey := reads_readEngineType key depth (by omega) (by omega)
    have hvalue := reads_readEngineType value depth (by omega) (by omega)
    exact reads_alternative (by decide) (hkey.bind hvalue.bind_pure)
  | .decimal128 precision scale =>
    rw [writeEngineType, List.append_assoc]
    exact reads_alternative (by decide) ((reads_word precision).bind (reads_word scale).bind_pure)
  | .decimal256 precision scale =>
    rw [writeEngineType, List.append_assoc]
    exact reads_alternative (by decide) ((reads_word precision).bind (reads_word scale).bind_pure)
  | .map entry sorted =>
    rw [writeEngineType, List.append_assoc] at h hlen ⊢
    simp only [List.length_append, length_alternative] at h hlen
    obtain ⟨depth, rfl⟩ : ∃ d, depth = d + 1 := ⟨depth - 1, by omega⟩
    exact reads_alternative (by decide)
      ((reads_readField entry depth (by omega) (by omega)).bind (reads_bool sorted).bind_pure)
  | .runEndEncoded ends values =>
    rw [writeEngineType, List.append_assoc] at h hlen ⊢
    simp only [List.length_append, length_alternative] at h hlen
    obtain ⟨depth, rfl⟩ : ∃ d, depth = d + 1 := ⟨depth - 1, by omega⟩
    have hends := reads_readField ends depth (by omega) (by omega)
    have hvalues := reads_readField values depth (by omega) (by omega)
    exact reads_alternative (by decide) (hends.bind hvalues.bind_pure)

theorem reads_readField (f : Field) (depth : Nat)
    (hlen : (writeField f).length < byteLimit) (h : (writeField f).length ≤ depth) :
    Reads (readFieldOf (readEngineType (depth + 1))) (writeField f) f := by
  match f with
  | ⟨name, type, nullable, dictionaryId, dictionaryOrdered, metadata⟩ =>
    refine reads_readFieldOf hlen ?_
    simp only [writeField, List.length_append] at h hlen
    exact reads_readEngineType type depth (by omega) (by omega)

theorem reads_fieldList (l : FieldList) (depth : Nat)
    (hlen : (writeFields l).length < byteLimit) (h : (writeFields l).length ≤ depth) :
    Reads (readList (readFieldOf (readEngineType (depth + 1))))
      (writeCount 8 (fieldCount l) ++ writeFields l) l.toList := by
  have hcount := length_le_length_flatMap length_writeField_pos l.toList
  rw [← writeFields_eq] at hcount
  rw [writeFields_eq, fieldCount_eq]
  exact reads_readList (by omega) (reads_fields l depth hlen h)

theorem reads_fields (l : FieldList) (depth : Nat)
    (hlen : (writeFields l).length < byteLimit) (h : (writeFields l).length ≤ depth) :
    ∀ f ∈ l.toList, Reads (readFieldOf (readEngineType (depth + 1))) (writeField f) f := by
  match l with
  | .nil => exact fun f hf => absurd hf List.not_mem_nil
  | .cons field rest =>
    rw [writeFields, List.length_append] at h hlen
    rw [FieldList.toList, List.forall_mem_cons]
    exact ⟨reads_readField field depth (by omega) (by omega),
      reads_fields rest depth (by omega) (by omega)⟩

theorem reads_taggedFieldList (l : TaggedFieldList) (depth : Nat)
    (hlen : (writeTaggedFields l).length < byteLimit) (h : (writeTaggedFields l).length ≤ depth) :
    Reads (readList (readTagged (readFieldOf (readEngineType (depth + 1)))))
      (writeCount 8 (taggedFieldCount l) ++ writeTaggedFields l) l.toList := by
  have hcount := length_le_length_flatMap length_writeTagged_pos l.toList
  rw [← writeTaggedFields_eq] at hcount
  rw [writeTaggedFields_eq, taggedFieldCount_eq]
  exact reads_readList (by omega) (reads_taggedFields l depth hlen h)

theorem reads_taggedFields (l : TaggedFieldList) (depth : Nat)
    (hlen : (writeTaggedFields l).length < byteLimit) (h : (writeTaggedFields l).length ≤ depth) :
    ∀ p ∈ l.toList,
      Reads (readTagged (readFieldOf (readEngineType (depth + 1)))) (writeTagged p) p := by
  match l with
  | .nil => exact fun p hp => absurd hp List.not_mem_nil
  | .cons tag field rest =>
    rw [writeTaggedFields, List.length_append, List.length_append] at h hlen
    rw [TaggedFieldList.toList, List.forall_mem_cons]
    have hfield := reads_readField field depth (by omega) (by omega)
    exact ⟨(reads_word tag).bind hfield.bind_pure,
      reads_taggedFields rest depth (by omega) (by omega)⟩

end

/-! ### Bytes that are accepted -/

theorem inverts_readFieldOf {type : WireReader EngineType}
    (htype : Inverts type writeEngineType EngineType.IsBare) :
    Inverts (readFieldOf type) writeField Field.IsBare := by
  intro input f rest hread hbare
  obtain ⟨name, middle₁, hname, h⟩ := run_bind_eq_ok_iff.mp hread
  obtain ⟨t, middle₂, ht, h⟩ := run_bind_eq_ok_iff.mp h
  obtain ⟨nullable, middle₃, hnullable, h⟩ := run_bind_eq_ok_iff.mp h
  obtain ⟨dictionaryId, middle₄, hid, h⟩ := run_bind_eq_ok_iff.mp h
  obtain ⟨dictionaryOrdered, middle₅, hordered, h⟩ := run_bind_eq_ok_iff.mp h
  obtain ⟨metadata, middle₆, hmetadata, h⟩ := run_bind_eq_ok_iff.mp h
  cases h
  obtain ⟨hbaret, hempty⟩ := hbare
  rw [eq_write_append hname, htype ht hbaret, eq_write_append hnullable, eq_write_append hid,
    eq_write_append hordered, inverts_read_dict hmetadata hempty]
  simp only [writeField, List.append_assoc]

theorem inverts_readTagged {field : WireReader Field}
    (hfield : Inverts field writeField Field.IsBare) :
    Inverts (readTagged field) writeTagged fun p => p.2.IsBare := by
  intro input p rest hread hbare
  obtain ⟨tag, middle₁, htag, h⟩ := run_bind_eq_ok_iff.mp hread
  obtain ⟨f, middle₂, hf, h⟩ := run_bind_eq_ok_iff.mp h
  cases h
  rw [eq_write_append htag, hfield hf hbare, writeTagged, List.append_assoc]

/-- **An engine type without metadata was sent in its own form.** -/
theorem inverts_readEngineType (depth : Nat) :
    Inverts (readEngineType depth) writeEngineType EngineType.IsBare := by
  induction depth with
  | zero =>
    intro input t rest h _
    cases h
  | succ depth ih =>
    have hfield := inverts_readFieldOf ih
    intro input t rest hread hbare
    obtain ⟨n, middle, hcount, h⟩ := run_bind_eq_ok_iff.mp hread
    obtain ⟨rfl, -⟩ := readCount_eq_ok hcount
    split at h
    · next kind hkind =>
      cases h
      rw [intKind?_eq_some_iff.mp hkind]
      rfl
    · split at h
      case h_6 =>
        obtain ⟨unit, middle₁, hunit, h⟩ := run_bind_eq_ok_iff.mp h
        obtain ⟨zone, middle₂, hzone, h⟩ := run_bind_eq_ok_iff.mp h
        cases h
        rw [eq_write_append hunit, eq_write_append hzone]
        simp only [writeEngineType, alternative, List.append_assoc]
      -- A single unit or size behind the number.
      case h_9 | h_10 | h_11 | h_12 | h_14 =>
        obtain ⟨a, middle₁, ha, h⟩ := run_bind_eq_ok_iff.mp h
        cases h
        rw [eq_write_append ha]
        simp only [writeEngineType, alternative, List.append_assoc]
      -- A single field.
      case h_20 | h_21 | h_23 | h_24 =>
        obtain ⟨item, middle₁, hitem, h⟩ := run_bind_eq_ok_iff.mp h
        cases h
        rw [hfield hitem hbare]
        simp only [writeEngineType, alternative, List.append_assoc]
      -- A field and a word behind it.
      case h_22 | h_30 =>
        obtain ⟨item, middle₁, hitem, h⟩ := run_bind_eq_ok_iff.mp h
        obtain ⟨a, middle₂, ha, h⟩ := run_bind_eq_ok_iff.mp h
        cases h
        rw [hfield hitem hbare, eq_write_append ha]
        simp only [writeEngineType, alternative, List.append_assoc]
      case h_25 =>
        obtain ⟨members, middle₁, hmembers, h⟩ := run_bind_eq_ok_iff.mp h
        cases h
        rw [inverts_readList hfield hmembers (isBare_fieldList hbare)]
        simp only [writeEngineType, fieldCount_fieldList, writeFields_fieldList, alternative,
          List.append_assoc]
      case h_26 =>
        obtain ⟨alternatives, middle₁, halternatives, h⟩ := run_bind_eq_ok_iff.mp h
        obtain ⟨mode, middle₂, hmode, h⟩ := run_bind_eq_ok_iff.mp h
        cases h
        have hform := inverts_readList (inverts_readTagged hfield) halternatives
          (isBare_taggedFieldList hbare)
        rw [hform, eq_write_append hmode]
        simp only [writeEngineType, taggedFieldCount_taggedFieldList,
          writeTaggedFields_taggedFieldList, alternative, List.append_assoc]
      case h_27 =>
        obtain ⟨key, middle₁, hkey, h⟩ := run_bind_eq_ok_iff.mp h
        obtain ⟨value, middle₂, hvalue, h⟩ := run_bind_eq_ok_iff.mp h
        cases h
        rw [ih hkey hbare.1, ih hvalue hbare.2]
        simp only [writeEngineType, alternative, List.append_assoc]
      case h_28 | h_29 =>
        obtain ⟨precision, middle₁, hprecision, h⟩ := run_bind_eq_ok_iff.mp h
        obtain ⟨scale, middle₂, hscale, h⟩ := run_bind_eq_ok_iff.mp h
        cases h
        rw [eq_write_append hprecision, eq_write_append hscale]
        simp only [writeEngineType, alternative, List.append_assoc]
      case h_31 =>
        obtain ⟨ends, middle₁, hends, h⟩ := run_bind_eq_ok_iff.mp h
        obtain ⟨values, middle₂, hvalues, h⟩ := run_bind_eq_ok_iff.mp h
        cases h
        rw [hfield hends hbare.1, hfield hvalues hbare.2]
        simp only [writeEngineType, alternative, List.append_assoc]
      all_goals cases h
      all_goals rfl

/-! ### Types, fields and schemas -/

instance : LawfulWire EngineType :=
  ⟨fun t hlen => reads_of_depth fun depth h => reads_readEngineType t depth hlen h⟩

theorem inverts_read_engineType :
    Inverts (read : WireReader EngineType) write EngineType.IsBare :=
  inverts_of_depth inverts_readEngineType

instance : SizedWire Field := ⟨length_writeField_pos⟩

instance : LawfulWire Field where
  reads_write f hlen := by
    refine reads_readFieldOf hlen (reads_write f.type ?_)
    obtain ⟨name, type, nullable, dictionaryId, dictionaryOrdered, metadata⟩ := f
    have hform : (writeField ⟨name, type, nullable, dictionaryId, dictionaryOrdered,
      metadata⟩).length < byteLimit := hlen
    simp only [writeField, List.length_append] at hform
    show (writeEngineType type).length < byteLimit
    omega

instance : LawfulWire Schema where
  reads_write s hlen := by
    have hlen : (write s.fields ++ write s.metadata).length < byteLimit := hlen
    exact (reads_write_left hlen).bind (reads_write_right hlen).bind_pure

/-- **A schema without metadata was sent in its own form.** -/
theorem inverts_read_schema : Inverts (read : WireReader Schema) write Schema.IsBare := by
  intro input s rest hread hbare
  obtain ⟨fields, middle₁, hfields, h⟩ := run_bind_eq_ok_iff.mp hread
  obtain ⟨metadata, middle₂, hmetadata, h⟩ := run_bind_eq_ok_iff.mp h
  cases h
  have hform := inverts_readList (inverts_readFieldOf inverts_read_engineType) hfields hbare.1
  rw [hform, inverts_read_dict hmetadata hbare.2]
  exact (List.append_assoc ..).symm

end Wire
end ShardScan
