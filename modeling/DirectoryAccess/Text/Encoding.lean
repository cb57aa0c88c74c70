/-!
# Bytes of a text

The UTF-8 bytes of a text and the reading of bytes as text, and the hexadecimal digits in which single
bytes are spelled. Bytes are lists of `UInt8`.
-/

namespace DirectoryAccess.Text

/-- The UTF-8 bytes of a text. -/
def utf8 (s : List Char) : List UInt8 := s.flatMap String.utf8EncodeChar

/-- The text with the given UTF-8 bytes, or `none` if they are not well formed. -/
def ofUtf8? (bytes : List UInt8) : Option (List Char) :=
  bytes.toByteArray.utf8Decode?.map Array.toList

@[simp] theorem ofUtf8?_utf8 (s : List Char) : ofUtf8? (utf8 s) = some s := by
  have h : (utf8 s).toByteArray = s.utf8Encode := rfl
  simp [ofUtf8?, h, List.utf8Decode?_utf8Encode]

/-- The UTF-8 bytes of a string. -/
def bytes (s : String) : List UInt8 := utf8 s.toList

/-- The string with the given UTF-8 bytes, or `none` if they are not well formed. -/
def ofBytes? (b : List UInt8) : Option String := (ofUtf8? b).map String.ofList

@[simp] theorem ofBytes?_bytes (s : String) : ofBytes? (bytes s) = some s := by
  simp [ofBytes?, bytes]

/-- The value of a hexadecimal digit in either letter case. -/
def hexDigit? (c : Char) : Option Nat :=
  if '0' ≤ c ∧ c ≤ '9' then some (c.toNat - '0'.toNat)
  else if 'a' ≤ c ∧ c ≤ 'f' then some (c.toNat - 'a'.toNat + 10)
  else if 'A' ≤ c ∧ c ≤ 'F' then some (c.toNat - 'A'.toNat + 10)
  else none

/-- The byte with the given high and low hexadecimal digits. -/
def hexByte? (hi lo : Char) : Option UInt8 := do
  let h ← hexDigit? hi
  let l ← hexDigit? lo
  return UInt8.ofNat (16 * h + l)

/-- Whether two texts are equal up to the case of ASCII letters. -/
def eqIgnoringCase (s t : String) : Bool := s.toLower == t.toLower

end DirectoryAccess.Text
