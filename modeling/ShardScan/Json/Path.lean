import ShardScan.Json
import ShardScan.Text.Numeral

/-!
# Paths into documents

A path leads from a document to a place in it, by keys of objects and positions
in arrays.  It is written as keys with full stops between them, and positions
in brackets: `scan.steps[0]`.

## Main definitions

* `Json.Step`, `Json.Path` — one step of a path, and a whole one.
* `Json.Path.ofText` — the path that a text spells.
-/

namespace ShardScan.Json

/-- A step into a document. -/
inductive Step
  /-- To the member under a key. -/
  | key (key : String)
  /-- To the item at a position; a negative one counts from the end. -/
  | item (position : Int)
deriving DecidableEq

/-- The steps to a place in a document. -/
abbrev Path := List Step

namespace Path

/-- The character may be part of a key. -/
def isKeyChar (c : Char) : Bool := c.isAlphanum || c = ' ' || c = '_' || c = '-'

/-- The text without spaces and tabs around it. -/
def unspaced (s : List Char) : List Char :=
  let isGap := fun c : Char => c = ' ' || c = '\t'
  ((s.dropWhile isGap).reverse.dropWhile isGap).reverse

/-- The position that the text between brackets spells.  Only a minus sign may stand before it. -/
def position? (s : List Char) : Option Int :=
  let digits := unspaced s
  if digits.head? = some '+' then none else (Word.ofText? .i64 digits).map (·.val)

/-- The steps behind the first key of a path. -/
def steps? : List Char → Option Path
  | [] => some []
  | '.' :: s =>
    let key := s.takeWhile isKeyChar
    if key.isEmpty then none
    else (steps? (s.dropWhile isKeyChar)).map (.key (String.ofList key) :: ·)
  | '[' :: s =>
    match position? (s.takeWhile (· != ']')) with
    | none => none
    | some position =>
      if (s.dropWhile (· != ']')).isEmpty then none
      else (steps? ((s.dropWhile (· != ']')).drop 1)).map (.item position :: ·)
  | _ => none
termination_by s => s.length
decreasing_by
  · have := (List.dropWhile_suffix (p := isKeyChar) (l := s)).length_le
    simp only [List.length_cons]
    omega
  · have := (List.dropWhile_suffix (p := (· != ']')) (l := s)).length_le
    simp only [List.length_cons, List.length_drop]
    omega

/-- The path that a text spells; a text that spells none is a key of its own. -/
def ofText (s : List Char) : Path :=
  match steps? ('.' :: s) with
  | some path => path
  | none => [.key (String.ofList s)]

end Path
end ShardScan.Json
