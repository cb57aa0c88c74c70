import DirectoryAccess.DistinguishedName.Basic
import DirectoryAccess.Text.Blank

/-!
# Reading a name

`DistinguishedName.parse` reads any of the spellings of a name. The text is first cut at the separators
that are neither escaped nor quoted; each piece is then cut at its first equals sign, stripped of the
spaces around the value, and freed of its escapes. Of several faults the one in the earliest relative
name is reported, but an open escape or quote at the end of the text comes before all others.
-/

namespace DirectoryAccess

/-- The pieces of a relative name between its plus signs, of which there is at least one. -/
structure RawRelativeName where
  /-- The first piece. -/
  first : List Char
  /-- The pieces after the first. -/
  others : List (List Char) := []
  deriving DecidableEq, Repr

/-- The pieces of a name between its separators, of which there is at least one. -/
structure RawName where
  /-- The pieces of the first relative name. -/
  first : RawRelativeName
  /-- The pieces of the relative names after the first. -/
  others : List RawRelativeName := []
  deriving DecidableEq, Repr

namespace RawName

/-- Puts a character in front of the first piece. -/
def push (c : Char) (n : RawName) : RawName :=
  { n with first := { n.first with first := c :: n.first.first } }

/-- Puts an empty piece in front, within the first relative name. -/
def openPart (n : RawName) : RawName :=
  { n with first := ⟨[], n.first.first :: n.first.others⟩ }

/-- Puts an empty piece in front, as a relative name of its own. -/
def openRdn (n : RawName) : RawName := ⟨⟨[], []⟩, n.first :: n.others⟩

/-- Cuts a text at its separators. A character after a backslash stands for itself, and so does a
separator between quotes; backslashes and quotes stay in the pieces. -/
def cut (text : List Char) (escaped quoted : Bool) : List Char → Except NameError RawName
  | [] =>
    if escaped then .error (.escapeAtEnd text)
    else if quoted then .error (.unterminatedQuote text)
    else .ok ⟨⟨[], []⟩, []⟩
  | c :: rest =>
    if escaped then (cut text false quoted rest).map (push c)
    else if c = '\\' then (cut text true quoted rest).map (push c)
    else if c = '"' then (cut text false (!quoted) rest).map (push c)
    else if c = '+' ∧ quoted = false then (cut text false quoted rest).map openPart
    else if (c = ',' ∨ c = ';') ∧ quoted = false then (cut text false quoted rest).map openRdn
    else (cut text false quoted rest).map (push c)

end RawName

/-! ### Values -/

/-- Whether the text ends in a backslash that is not itself escaped. -/
def endsEscaping (s : List Char) : Bool := (s.reverse.takeWhile (· == '\\')).length % 2 == 1

/-- Strips the spaces around a value, but not the one that a backslash before it escapes. -/
def unpad (value : List Char) : List Char :=
  let v := value.dropWhile (· == ' ')
  let t := Text.dropEndWhile (· == ' ') v
  if t.length < v.length && endsEscaping t then t ++ [' '] else t

/-- Whether a backslash may stand before a character that is no hexadecimal digit. -/
def isEscapable (c : Char) : Bool := [' ', '"', '#', '+', ',', ';', '<', '=', '>', '\\'].contains c

/-- The bytes that a value spells. `value` is the whole value, for the report of a fault. -/
def spelledBytes (value : List Char) : List Char → Except NameError (List UInt8)
  | [] => .ok []
  | ['\\'] => .error (.danglingEscape value)
  | '\\' :: c :: rest =>
    if (Text.hexDigit? c).isSome then
      match rest with
      | [] => .error (.invalidHexEscape value)
      | d :: rest =>
        match Text.hexByte? c d with
        | some b => (spelledBytes value rest).map (b :: ·)
        | none => .error (.invalidHexEscape value)
    else if isEscapable c then (spelledBytes value rest).map (String.utf8EncodeChar c ++ ·)
    else .error (.invalidEscape c value)
  | c :: rest => (spelledBytes value rest).map (String.utf8EncodeChar c ++ ·)

/-- Frees a value of its escapes. Escaped bytes may together form one character. -/
def unescape (value : List Char) : Except NameError (List Char) := do
  let bytes ← spelledBytes value value
  match Text.ofUtf8? bytes with
  | some s => .ok s
  | none => .error (.notUtf8 value)

/-- Reads a trimmed value, which may stand between quotes. `part` is the whole part, for the report of
a fault. -/
def readValue (part : List Char) : List Char → Except NameError (List Char)
  | '"' :: rest =>
    if rest.getLast? = some '"' ∧ endsEscaping rest.dropLast = false then
      unescape rest.dropLast
    else .error (.unterminatedQuote part)
  | value => unescape value

/-! ### Parts and names -/

/-- Reads one part: an attribute type, an equals sign and a value. -/
def NamePart.parse (raw : List Char) : Except NameError NamePart :=
  match raw.dropWhile (· != '=') with
  | [] => .error (.missingEquals (Text.trim raw))
  | _ :: value =>
    let key := Text.trim (raw.takeWhile (· != '='))
    if h : isAttributeType (String.ofList key) = true then
      (readValue raw (unpad value)).map fun v => ⟨String.ofList key, String.ofList v, h⟩
    else .error (.invalidType key)

/-- Reads the pieces of one relative name. -/
def RelativeName.parse (raw : RawRelativeName) : Except NameError RelativeName := do
  let first ← NamePart.parse raw.first
  let others ← raw.others.mapM NamePart.parse
  return ⟨first, others⟩

/-- Reads the characters of a name. Blank text is the root. -/
def DistinguishedName.parseChars (text : List Char) : Except NameError DistinguishedName :=
  if (Text.trim text).isEmpty then .ok .root
  else do
    let raw ← RawName.cut text false false text
    let rdns ← (raw.first :: raw.others).mapM RelativeName.parse
    return ⟨rdns⟩

/-- Reads the text of a name. -/
def DistinguishedName.parse (text : String) : Except NameError DistinguishedName :=
  parseChars text.toList

/-! ### Names as callers give them -/

/-- A name as a caller gives it: made up already, or as a text still to be read. -/
inductive NameInput where
  /-- A name. -/
  | name (n : DistinguishedName)
  /-- The text of a name. -/
  | text (s : String)
  deriving DecidableEq, Repr

/-- The name that was given. -/
def NameInput.resolve : NameInput → Except NameError DistinguishedName
  | .name n => .ok n
  | .text s => DistinguishedName.parse s

example : (DistinguishedName.parse "CN = \"a,b\" ;dc=x").toOption.map DistinguishedName.length
    = some 2 := by decide +kernel

end DirectoryAccess
