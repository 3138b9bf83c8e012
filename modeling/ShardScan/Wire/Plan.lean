import ShardScan.Plan.Scan
import ShardScan.Wire.Schema

/-!
# The transport form of plans and shards
-/

namespace ShardScan
namespace Wire

instance : Wire ConnectionOptions where
  write o := write o.entries
  read := do return ⟨← read⟩

instance : Wire PlannedRange where
  write r := write r.lower ++ write r.upper
  read := do return ⟨← read, ← read⟩

instance : Wire ScanPlan where
  write p := write p.connection ++ write p.tableName ++ write p.tablePath ++
    write p.tableSchema ++ write p.outSchema ++ write p.keyColumns ++ write p.keyTypes ++
    write p.planned ++ write p.partitions ++ write p.queueDepth ++ write p.sessionSeconds ++
    write p.rowLimit
  read := do
    return ⟨← read, ← read, ← read, ← read, ← read, ← read, ← read, ← read, ← read, ← read,
      ← read, ← read⟩

instance : Wire Shard where
  write s := write s.plan ++ write s.index ++ write s.range
  read := do return ⟨← read, ← read, ← read⟩

end Wire
end ShardScan
