import ShardScan.Json.Path

/-!
# Documents laid over each other

A document is changed at the end of a path.  An object is laid over what is
there member by member; anything else takes its place.  What stands in the way
of the path gives way to an object or an array.

## Main definitions

* `Json.member?`, `Json.put` — the member under a key, and the object with that member replaced.
* `Json.item?`, `Json.putItem` — the same for the items of an array.
* `Json.overlay` — a value laid over the member under a key.
* `Json.overlayAt` — a value laid over what is at the end of a path.
* `Json.overlayDocument` — a document laid over another, its keys being paths.
-/

namespace ShardScan.Json

/-! ### Members and items -/

/-- The members of an object; anything else has none. -/
def members : Json → List (String × Json)
  | object members => members
  | _ => []

/-- The member under a key. -/
def member? (j : Json) (key : String) : Option Json := j.members.lookup key

/-- The object with the member under a key set.  Anything else counts as an object without
members. -/
def put (j : Json) (key : String) (value : Json) : Json :=
  .object (set j.members)
where
  set : List (String × Json) → List (String × Json)
    | [] => [(key, value)]
    | (k, v) :: rest => if k = key then (k, value) :: rest else (k, v) :: set rest

/-- The items of an array; anything else has none. -/
def items : Json → List Json
  | array items => items
  | _ => []

/-- Where a position is among `count` items, a negative one counted from their end. -/
def place? (count : Nat) (position : Int) : Option Nat :=
  if 0 ≤ position then some position.toNat
  else if position.natAbs ≤ count then some (count - position.natAbs)
  else none

/-- The item at a position. -/
def item? (j : Json) (position : Int) : Option Json :=
  (place? j.items.length position).bind fun n => j.items[n]?

/-- The array with the item at a position set, filled up with nulls as far as it takes.  Anything
else counts as an array without items.  Nothing is before the first item, so nothing is set there. -/
def putItem (j : Json) (position : Int) (value : Json) : Json :=
  match place? j.items.length position with
  | none => j
  | some n =>
    .array ((j.items ++ List.replicate (n + 1 - j.items.length) null).set n value)

/-! ### Laying over -/

mutual

/-- A value laid over the member under a key. -/
def overlay (j : Json) (key : String) : Json → Json
  | object members => j.put key (overlayAll ((j.member? key).getD (.object [])) members)
  | value => j.put key value

/-- Several members laid over a document, one after the other. -/
def overlayAll (j : Json) : List (String × Json) → Json
  | [] => j
  | (key, value) :: rest => overlayAll (overlay j key value) rest

end

/-- A value laid over what is at the end of a path.  An item is replaced and not laid over. -/
def overlayAt (j : Json) (value : Json) : Path → Json
  | [] => j
  | [.key key] => j.overlay key value
  | [.item position] => j.putItem position value
  | .key key :: path => j.put key (overlayAt ((j.member? key).getD .null) value path)
  | .item position :: path =>
    j.putItem position (overlayAt ((j.item? position).getD .null) value path)

/-- A document laid over another, its keys read as paths.  One that is no object says nothing. -/
def overlayDocument (j content : Json) : Json :=
  content.members.foldl (fun j (key, value) => j.overlayAt value (.ofText key.toList)) j

end ShardScan.Json
