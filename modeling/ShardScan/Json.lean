import ShardScan.Floating.Basic

/-!
# JSON values

A JSON document, whole numbers kept apart from the other numbers.
-/

namespace ShardScan

/-- A JSON document. -/
inductive Json
  | null
  | bool (b : Bool)
  | integer (n : Int)
  | number (x : Binary64)
  | string (s : String)
  | array (items : List Json)
  /-- The members, each under its key. -/
  | object (members : List (String × Json))

end ShardScan
