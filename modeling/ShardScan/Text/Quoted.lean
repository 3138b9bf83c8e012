import ShardScan.Dict
import ShardScan.Text.Numeral
import ShardScan.Text.Unprintable
import ShardScan.Text.Extending

/-!
# Quoted text

Text between double quotes, in which the quote, the backslash and the usual
controls are written with a backslash, and a character that has no printed
form of its own, or would attach to its neighbour, as its number in braces.
-/

namespace ShardScan.Text

/-- A character by its number, in hexadecimal digits between braces. -/
def escapedByNumber (c : Char) : List Char :=
  '\\' :: 'u' :: '\x7b' :: Nat.toDigits 16 c.toNat ++ ['\x7d']

/-- A character as it stands between quotes. -/
def quotedChar (c : Char) : List Char :=
  match c with
  | '\x00' => ['\\', '0']
  | '\t' => ['\\', 't']
  | '\r' => ['\\', 'r']
  | '\n' => ['\\', 'n']
  | '\\' => ['\\', '\\']
  | '"' => ['\\', '"']
  | c => if extending.contains c || unprintable.contains c then escapedByNumber c else [c]

/-- The text between double quotes. -/
def quoted (s : String) : String :=
  String.ofList ('"' :: s.toList.flatMap quotedChar ++ ['"'])

/-- Entries between braces, keys and values quoted. -/
def quotedEntries (d : Dict String) : String :=
  "\x7b" ++ String.intercalate ", " (d.entries.map fun e => quoted e.1 ++ ": " ++ quoted e.2) ++
    "\x7d"

end ShardScan.Text
