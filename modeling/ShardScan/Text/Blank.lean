import ShardScan.Text.CharClass

/-!
# White space

The characters with the Unicode property White_Space, and text without such
characters at its ends.

## Main definitions

* `isBlank` — the character is white space.
* `trim`, `trimStart` — a character list without the white space at its ends, or its front.
-/

namespace ShardScan.Text

/-- The code points with the property White_Space. -/
def blank : CharClass where
  boundaries := [
    0x9, 0xe, 0x20, 0x21, 0x85, 0x86, 0xa0, 0xa1, 0x1680, 0x1681, 0x2000, 0x200b,
    0x2028, 0x202a, 0x202f, 0x2030, 0x205f, 0x2060, 0x3000, 0x3001]

/-- The character is white space. -/
def isBlank (c : Char) : Bool := blank.contains c

example : [' ', '\t', '\n', '\r'].all isBlank = true := by decide

/-- The characters after the leading white space. -/
def trimStart (s : List Char) : List Char := s.dropWhile isBlank

/-- The items up to the trailing ones of which `p` holds. -/
def dropEndWhile {α : Type} (p : α → Bool) (s : List α) : List α :=
  (s.reverse.dropWhile p).reverse

/-- The characters between the leading and the trailing white space. -/
def trim (s : List Char) : List Char := dropEndWhile isBlank (trimStart s)

theorem length_dropEndWhile_le {α : Type} (p : α → Bool) (s : List α) :
    (dropEndWhile p s).length ≤ s.length := by
  have := (List.dropWhile_sublist p (l := s.reverse)).length_le
  simpa [dropEndWhile] using this

theorem length_trim_le (s : List Char) : (trim s).length ≤ s.length :=
  Nat.le_trans (length_dropEndWhile_le _ _) (List.dropWhile_sublist _).length_le

@[simp] theorem trimStart_nil : trimStart [] = [] := rfl
@[simp] theorem dropEndWhile_nil {α : Type} (p : α → Bool) : dropEndWhile p [] = [] := rfl
@[simp] theorem trim_nil : trim [] = [] := rfl

end ShardScan.Text
