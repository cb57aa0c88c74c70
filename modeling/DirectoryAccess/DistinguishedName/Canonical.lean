import DirectoryAccess.DistinguishedName.Basic

/-!
# The canonical text of a name

Every name has one canonical text: attribute types in lower case, parts joined by `+`, relative names
joined by `,`, and a backslash before each character of a value that could be read otherwise. Which
characters these are depends on the place: a space is escaped at either end of a value, a number sign
at its start.
-/

namespace DirectoryAccess

/-- Whether a character is escaped wherever it stands in a value. -/
def isReserved (c : Char) : Bool := [',', '+', '"', '\\', '<', '>', ';'].contains c

/-- The escaped form of a character at an inner place of a value. -/
def escapeInner (c : Char) : List Char :=
  if isReserved c then ['\\', c] else if c = '\x00' then ['\\', '0', '0'] else [c]

/-- The escaped form of the last character of a value. -/
def escapeLast (c : Char) : List Char := if c = ' ' then ['\\', ' '] else escapeInner c

/-- The escaped form of the first character of a value. -/
def escapeFirst (c : Char) : List Char :=
  if c = ' ' ∨ c = '#' then ['\\', c] else escapeInner c

/-- The escaped form of what follows the first character of a value. -/
def escapeRest : List Char → List Char
  | [] => []
  | [c] => escapeLast c
  | c :: rest => escapeInner c ++ escapeRest rest

/-- The escaped form of a value. -/
def escapeText : List Char → List Char
  | [] => []
  | c :: rest => escapeFirst c ++ escapeRest rest

/-- The canonical text of a part. -/
def NamePart.render (p : NamePart) : List Char :=
  p.key.toLower.toList ++ '=' :: escapeText p.value.toList

/-- The canonical text of a relative name. -/
def RelativeName.render (r : RelativeName) : List Char :=
  List.intercalate ['+'] (r.parts.map NamePart.render)

/-- The canonical text of a name. -/
def DistinguishedName.render (n : DistinguishedName) : List Char :=
  List.intercalate [','] (n.rdns.map RelativeName.render)

instance : ToString RelativeName where
  toString r := String.ofList r.render

instance : ToString DistinguishedName where
  toString n := String.ofList n.render

end DirectoryAccess
