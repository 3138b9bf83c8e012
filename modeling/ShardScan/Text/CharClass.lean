/-!
# Character classes

A class of characters as the ascending list of the code points where
membership changes: the first boundary begins the first run of members, the
second ends it, the third begins the next run, and so on.
-/

namespace ShardScan.Text

/-- A set of characters, given by where its runs begin and end. -/
structure CharClass where
  /-- Ascending: a run begins at every even position and has ended at the next. -/
  boundaries : List Nat

namespace CharClass

/-- A character belongs to a class if an odd number of boundaries lie at or before it. -/
def contains (s : CharClass) (c : Char) : Bool :=
  (s.boundaries.takeWhile (· ≤ c.toNat)).length % 2 == 1

end CharClass
end ShardScan.Text
