import DirectoryAccess.Text.Blank
import DirectoryAccess.Text.ShapeTable

/-!
# Quoted texts

A text between double quotes, as it stands in the description of a value. Quotes, backslashes and what
would not be seen are written as escapes.
-/

namespace DirectoryAccess.Text

/-- Whether a character shows nothing by itself. -/
def isShapeless (c : Char) : Bool := inRanges unseenRanges c.toNat || inRanges markRanges c.toNat

/-- The escape that gives the code of a character. -/
def escapeByCode (c : Char) : List Char :=
  ['\\', 'u', '\x7b'] ++ Nat.toDigits 16 c.toNat ++ ['\x7d']

/-- The form in which a character stands between quotes. -/
def quoteChar (c : Char) : List Char :=
  match c with
  | '"' => ['\\', '"']
  | '\\' => ['\\', '\\']
  | '\n' => ['\\', 'n']
  | '\r' => ['\\', 'r']
  | '\t' => ['\\', 't']
  | '\x00' => ['\\', '0']
  | c => if isShapeless c then escapeByCode c else [c]

/-- A text between quotes. -/
def quoted (s : String) : String := String.ofList ('"' :: (s.toList.flatMap quoteChar ++ ['"']))

example : quoted "cn=a\\,\"b" = "\"cn=a\\\\,\\\"b\"" := by decide +kernel

end DirectoryAccess.Text
