import ShardScan.Proofs.Wire.Schemas
import ShardScan.Wire.Plan

/-!
# Transport of plans and shards

A plan is its members one after the other, and a shard is a plan with a number
and a range behind it.  Both come back from their form, and both are sent in
their own form if the options stand in order and no schema has metadata.

## Main definitions

* `ScanPlan.IsBare`, `Shard.IsBare` — no schema has metadata.
* `OptionsAscend` — the options at the front of some bytes stand in order.

## Main results

* `plan_and_shard_transport` — plans and shards through the transport form and back.
-/

namespace ShardScan

/-- Neither schema of the plan has metadata. -/
def ScanPlan.IsBare (p : ScanPlan) : Prop := p.tableSchema.IsBare ∧ p.outSchema.IsBare

/-- Neither schema of the shard's plan has metadata. -/
def Shard.IsBare (s : Shard) : Prop := s.plan.IsBare

namespace Wire

/-- The bytes begin with connection options of which every key is above the one before. -/
def OptionsAscend (bytes : List UInt8) : Prop :=
  ∃ entries rest, (read : WireReader (List (String × String))).run bytes = .ok (entries, rest) ∧
    entries.Pairwise KeyBefore

/-! ### The members of a plan -/

instance : SizedWire ConnectionOptions := ⟨fun o => length_write_pos o.entries.entries⟩

instance : LawfulWire ConnectionOptions where
  reads_write o hlen := by
    have hentries : Reads (read : WireReader (Dict String)) (write o.entries) o.entries :=
      reads_write o.entries hlen
    exact hentries.bind_pure

/-- Options that stand in order were sent in their own form. -/
theorem eq_write_append_of_optionsAscend {input rest : List UInt8} {o : ConnectionOptions}
    (h : (read : WireReader ConnectionOptions).run input = .ok (o, rest))
    (hascend : OptionsAscend input) : input = write o ++ rest := by
  obtain ⟨d, middle, hd, hpure⟩ := run_bind_eq_ok_iff.mp h
  cases hpure
  obtain ⟨entries, hentries, rfl⟩ := run_read_dict hd
  obtain ⟨entries', rest', hentries', hordered⟩ := hascend
  obtain ⟨rfl, rfl⟩ : entries = entries' ∧ rest = rest' := by
    rw [hentries] at hentries'
    cases hentries'
    exact ⟨rfl, rfl⟩
  rw [eq_write_append hentries]
  show _ = write (Dict.ofList entries).entries ++ rest
  rw [Dict.entries_ofList hordered]

instance : LawfulWire PlannedRange where
  reads_write r hlen := by
    have hlen : (write r.lower ++ write r.upper).length < byteLimit := hlen
    exact (reads_write_left hlen).bind (reads_write_right hlen).bind_pure

instance : CanonicalWire PlannedRange where
  inverts_read := by
    intro input r rest hread _
    obtain ⟨lower, middle, hl, h⟩ := run_bind_eq_ok_iff.mp hread
    obtain ⟨upper, middle', hu, h⟩ := run_bind_eq_ok_iff.mp h
    cases h
    rw [eq_write_append hl, eq_write_append hu, ← List.append_assoc]
    rfl

/-- The options of a form stand in order. -/
theorem optionsAscend_write_append {o : ConnectionOptions} (h : (write o).length < byteLimit)
    (rest : List UInt8) : OptionsAscend (write o ++ rest) := by
  have hentries : Reads (read : WireReader (List (String × String))) (write o) o.entries.entries :=
    reads_write o.entries.entries h
  exact ⟨o.entries.entries, rest, hentries rest, o.entries.ascending⟩

/-! ### Plans and shards -/

/-- The form of a plan, its members from the right. -/
theorem write_plan (p : ScanPlan) :
    write p = write p.connection ++ (write p.tableName ++ (write p.tablePath ++
      (write p.tableSchema ++ (write p.outSchema ++ (write p.keyColumns ++ (write p.keyTypes ++
        (write p.planned ++ (write p.partitions ++ (write p.queueDepth ++
          (write p.sessionSeconds ++ write p.rowLimit)))))))))) := by
  show write p.connection ++ write p.tableName ++ write p.tablePath ++
    write p.tableSchema ++ write p.outSchema ++ write p.keyColumns ++ write p.keyTypes ++
    write p.planned ++ write p.partitions ++ write p.queueDepth ++ write p.sessionSeconds ++
    write p.rowLimit = _
  simp only [List.append_assoc]

/-- A member at the front of a form and what stands behind it. -/
theorem Reads.bind_write {α β : Type} [Wire α] [LawfulWire α] {f : α → WireReader β} {a : α}
    {bytes : List UInt8} {b : β} (hlen : (write a ++ bytes).length < byteLimit)
    (h : bytes.length < byteLimit → Reads (f a) bytes b) : Reads (read >>= f) (write a ++ bytes) b := by
  refine (reads_write_left hlen).bind (h ?_)
  rw [List.length_append] at hlen
  omega

instance : LawfulWire ScanPlan where
  reads_write p hlen := by
    rw [write_plan] at hlen ⊢
    refine Reads.bind_write hlen fun hlen => ?_
    refine Reads.bind_write hlen fun hlen => ?_
    refine Reads.bind_write hlen fun hlen => ?_
    refine Reads.bind_write hlen fun hlen => ?_
    refine Reads.bind_write hlen fun hlen => ?_
    refine Reads.bind_write hlen fun hlen => ?_
    refine Reads.bind_write hlen fun hlen => ?_
    refine Reads.bind_write hlen fun hlen => ?_
    refine Reads.bind_write hlen fun hlen => ?_
    refine Reads.bind_write hlen fun hlen => ?_
    refine Reads.bind_write hlen fun hlen => ?_
    exact (reads_write p.rowLimit hlen).bind_pure

/-- A plan whose options stand in order and whose schemas have no metadata was sent in its own
form. -/
theorem eq_write_append_plan {input rest : List UInt8} {p : ScanPlan}
    (h : (read : WireReader ScanPlan).run input = .ok (p, rest)) (hascend : OptionsAscend input)
    (hbare : p.IsBare) : input = write p ++ rest := by
  obtain ⟨connection, middle₁, hconnection, h⟩ := run_bind_eq_ok_iff.mp h
  obtain ⟨tableName, middle₂, hname, h⟩ := run_bind_eq_ok_iff.mp h
  obtain ⟨tablePath, middle₃, hpath, h⟩ := run_bind_eq_ok_iff.mp h
  obtain ⟨tableSchema, middle₄, htable, h⟩ := run_bind_eq_ok_iff.mp h
  obtain ⟨outSchema, middle₅, hout, h⟩ := run_bind_eq_ok_iff.mp h
  obtain ⟨keyColumns, middle₆, hcolumns, h⟩ := run_bind_eq_ok_iff.mp h
  obtain ⟨keyTypes, middle₇, htypes, h⟩ := run_bind_eq_ok_iff.mp h
  obtain ⟨planned, middle₈, hplanned, h⟩ := run_bind_eq_ok_iff.mp h
  obtain ⟨partitions, middle₉, hpartitions, h⟩ := run_bind_eq_ok_iff.mp h
  obtain ⟨queueDepth, middle₁₀, hdepth, h⟩ := run_bind_eq_ok_iff.mp h
  obtain ⟨sessionSeconds, middle₁₁, hseconds, h⟩ := run_bind_eq_ok_iff.mp h
  obtain ⟨rowLimit, middle₁₂, hlimit, h⟩ := run_bind_eq_ok_iff.mp h
  cases h
  rw [eq_write_append_of_optionsAscend hconnection hascend, eq_write_append hname,
    eq_write_append hpath, inverts_read_schema htable hbare.1, inverts_read_schema hout hbare.2,
    eq_write_append hcolumns, eq_write_append htypes, eq_write_append hplanned,
    eq_write_append hpartitions, eq_write_append hdepth, eq_write_append hseconds,
    eq_write_append hlimit, write_plan]
  simp only [List.append_assoc]

/-- The form of a shard, its members from the right. -/
theorem write_shard (s : Shard) :
    write s = write s.plan ++ (write s.index ++ write s.range) := List.append_assoc ..

instance : LawfulWire Shard where
  reads_write s hlen := by
    rw [write_shard] at hlen ⊢
    refine Reads.bind_write hlen fun hlen => ?_
    refine Reads.bind_write hlen fun hlen => ?_
    exact (reads_write s.range hlen).bind_pure

theorem eq_write_append_shard {input rest : List UInt8} {s : Shard}
    (h : (read : WireReader Shard).run input = .ok (s, rest)) (hascend : OptionsAscend input)
    (hbare : s.IsBare) : input = write s ++ rest := by
  obtain ⟨plan, middle₁, hplan, h⟩ := run_bind_eq_ok_iff.mp h
  obtain ⟨index, middle₂, hindex, h⟩ := run_bind_eq_ok_iff.mp h
  obtain ⟨range, middle₃, hrange, h⟩ := run_bind_eq_ok_iff.mp h
  cases h
  rw [eq_write_append_plan hplan hascend hbare, eq_write_append hindex, eq_write_append hrange,
    write_shard]
  simp only [List.append_assoc]

/-! ### Decoding -/

theorem decode_encode_append {α : Type} [Wire α] [LawfulWire α] {a : α}
    (h : (encode a).length < byteLimit) (rest : List UInt8) :
    decode (encode a ++ rest) = .ok a := by
  rw [decode, encode, reads_write a h rest]
  rfl

/-- Bytes from which a value is decoded are read up to some place. -/
theorem decode_eq_ok_iff {α : Type} [Wire α] {bytes : List UInt8} {a : α} :
    decode bytes = .ok a ↔ ∃ rest, (read : WireReader α).run bytes = .ok (a, rest) := by
  unfold decode
  cases (read : WireReader α).run bytes with
  | error e => simp [Except.map]
  | ok p =>
    constructor
    · intro h
      cases h
      exact ⟨p.2, rfl⟩
    · rintro ⟨rest, h⟩
      cases h
      rfl

/-- **Plans and shards survive transport.**  Both are decoded from their forms whatever follows,
as long as the lengths in the forms can be counted.  And what they are decoded from is, up to the
place where the reader stopped, the form of the result, if the options were sent in order and there
is no metadata. -/
theorem plan_and_shard_transport :
    (∀ (p : ScanPlan) (rest : List UInt8), (encode p).length < byteLimit →
      decode (encode p ++ rest) = .ok p) ∧
    (∀ (s : Shard) (rest : List UInt8), (encode s).length < byteLimit →
      decode (encode s ++ rest) = .ok s) ∧
    (∀ (bytes : List UInt8) (p : ScanPlan), decode bytes = .ok p → OptionsAscend bytes →
      p.IsBare → ∃ rest, (read : WireReader ScanPlan).run bytes = .ok (p, rest) ∧
        bytes = encode p ++ rest) ∧
    (∀ (bytes : List UInt8) (s : Shard), decode bytes = .ok s → OptionsAscend bytes →
      s.IsBare → ∃ rest, (read : WireReader Shard).run bytes = .ok (s, rest) ∧
        bytes = encode s ++ rest) := by
  refine ⟨fun p rest h => decode_encode_append h rest, fun s rest h => decode_encode_append h rest,
    ?_, ?_⟩
  · intro bytes p hdecode hascend hbare
    obtain ⟨rest, hread⟩ := decode_eq_ok_iff.mp hdecode
    exact ⟨rest, hread, eq_write_append_plan hread hascend hbare⟩
  · intro bytes s hdecode hascend hbare
    obtain ⟨rest, hread⟩ := decode_eq_ok_iff.mp hdecode
    exact ⟨rest, hread, eq_write_append_shard hread hascend hbare⟩

/-- A plan for a table with one optional key column and a list of texts, in one shard. -/
def listPlan : ScanPlan where
  connection := .ofList [("endpoint", "local"), ("Database", "/local")]
  tableName := "notes"
  tablePath := "/local/notes"
  tableSchema := .ofFields [.plain "id" (.int .int32) true,
    .plain "lines" (.list (.plain "item" .utf8 false)) false]
  outSchema := .ofFields [.plain "id" (.int .int32) true]
  keyColumns := ["id"]
  keyTypes := [.optional (.int .int32)]
  planned := ⟨[.int .int32 1], []⟩
  partitions := [⟨.ofTuple [.optional (.int .int32 1)] true, .all⟩]
  queueDepth := 3
  sessionSeconds := 60
  rowLimit := none

theorem isBare_listPlan : listPlan.IsBare := by
  constructor
  · refine ⟨List.forall_mem_cons.mpr ⟨⟨trivial, rfl⟩, List.forall_mem_cons.mpr ⟨?_, nofun⟩⟩, rfl⟩
    exact ⟨⟨trivial, rfl⟩, rfl⟩
  · exact ⟨List.forall_mem_cons.mpr ⟨⟨trivial, rfl⟩, nofun⟩, rfl⟩

theorem plan_and_shard_transport_listPlan :
    decode (encode listPlan ++ [7]) = .ok listPlan ∧
      decode (encode (⟨listPlan, 0, .all⟩ : Shard)) = .ok (⟨listPlan, 0, .all⟩ : Shard) ∧
      ∃ rest, (read : WireReader ScanPlan).run (encode listPlan ++ [7]) = .ok (listPlan, rest) ∧
        encode listPlan ++ [7] = encode listPlan ++ rest := by
  obtain ⟨hplan, hshard, hcanonical, -⟩ := plan_and_shard_transport
  have hdecode := hplan listPlan [7] (by decide +kernel)
  have hascend : OptionsAscend (encode listPlan ++ [7]) := by
    rw [encode, write_plan, List.append_assoc]
    exact optionsAscend_write_append (by decide +kernel) _
  refine ⟨hdecode, ?_, hcanonical _ _ hdecode hascend isBare_listPlan⟩
  rw [← List.append_nil (encode _)]
  exact hshard ⟨listPlan, 0, .all⟩ [] (by decide +kernel)

end Wire
end ShardScan
