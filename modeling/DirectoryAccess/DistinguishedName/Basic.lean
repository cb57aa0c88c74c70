import DirectoryAccess.Text.Encoding
import DirectoryAccess.Text.LowerCase

/-!
# Distinguished names

A distinguished name identifies a directory entry by the path to it: a list of relative names, the
entry's own first and the one below the root last. The empty list is the root. A relative name is one
or more attributes with their values.

Attribute types are compared without regard to letter case; the letters a name was made with are kept.
Values are compared exactly, or by their lower case where the caller asks for it.
-/

namespace DirectoryAccess

/-- Whether a text can be an attribute type in a name: a descriptor such as `cn` or a numeric identifier. -/
def isAttributeType (s : String) : Bool :=
  !s.toList.isEmpty && s.toList.all fun c => c.isAlphanum || c == '-' || c == '.'

/-- One attribute with its value, such as `cn=Ann`. -/
structure NamePart where
  /-- The attribute type, as given. -/
  key : String
  /-- The value, without any escapes. -/
  value : String
  /-- The attribute type can stand in a name. -/
  key_valid : isAttributeType key = true
  deriving DecidableEq, Repr

/-- A relative name: one or more attributes with their values, in the order given. -/
structure RelativeName where
  /-- The first attribute with its value. -/
  first : NamePart
  /-- The attributes after the first. -/
  others : List NamePart := []
  deriving DecidableEq, Repr

/-- The name of an entry: its own relative name first, the one below the root last. -/
structure DistinguishedName where
  /-- The relative names, from the entry to the root. -/
  rdns : List RelativeName := []
  deriving DecidableEq, Repr, Inhabited

/-- Why a text or a list of parts is no name. -/
inductive NameError where
  /-- A part holds no equals sign. -/
  | missingEquals (part : List Char)
  /-- The attribute type of a part cannot stand in a name. -/
  | invalidType (key : List Char)
  /-- The name ends in the backslash of an escape. -/
  | escapeAtEnd (text : List Char)
  /-- A quote is not closed; the text is the name, or the part if the quote does not end it. -/
  | unterminatedQuote (text : List Char)
  /-- A value ends in the backslash of an escape. -/
  | danglingEscape (value : List Char)
  /-- An escape begins with a hexadecimal digit, and no second one follows. -/
  | invalidHexEscape (value : List Char)
  /-- A backslash stands before a character that needs no escape. -/
  | invalidEscape (c : Char) (value : List Char)
  /-- The escaped bytes of a value are not well-formed UTF-8. -/
  | notUtf8 (value : List Char)
  /-- A relative name was to be made of no parts. -/
  | noParts
  deriving DecidableEq, Repr

/-- The text that tells a caller what is wrong with a name. -/
def NameError.message : NameError → String
  | .missingEquals part => s!"missing '=' in '{String.ofList part}'"
  | .invalidType key => s!"invalid attribute type '{String.ofList key}'"
  | .escapeAtEnd text => s!"dangling escape at the end of '{String.ofList text}'"
  | .unterminatedQuote text => s!"unterminated quote in '{String.ofList text}'"
  | .danglingEscape value => s!"dangling escape in '{String.ofList value}'"
  | .invalidHexEscape value => s!"invalid hex escape in '{String.ofList value}'"
  | .invalidEscape c value => "invalid escape '\\" ++ s!"{c}' in '{String.ofList value}'"
  | .notUtf8 value => s!"escapes in '{String.ofList value}' are not valid UTF-8"
  | .noParts => "an RDN needs at least one component"

/-! ### Making names -/

/-- An attribute with its value, if the attribute type can stand in a name. -/
def NamePart.make? (key value : String) : Except NameError NamePart :=
  if h : isAttributeType key = true then .ok ⟨key, value, h⟩ else .error (.invalidType key.toList)

namespace RelativeName

/-- The parts, in the order given. -/
def parts (r : RelativeName) : List NamePart := r.first :: r.others

/-- The relative name of the given parts, of which there has to be one. -/
def ofParts? : List NamePart → Except NameError RelativeName
  | [] => .error .noParts
  | first :: others => .ok ⟨first, others⟩

/-- The relative name of one attribute with its value. -/
def make? (key value : String) : Except NameError RelativeName :=
  (NamePart.make? key value).map fun part => ⟨part, []⟩

end RelativeName

namespace DistinguishedName

/-- The name of the root of the directory tree. -/
def root : DistinguishedName := ⟨[]⟩

/-- Whether this is the root. -/
def isRoot (n : DistinguishedName) : Bool := n.rdns.isEmpty

/-- The number of relative names. -/
def length (n : DistinguishedName) : Nat := n.rdns.length

/-- The entry's own relative name; the root has none. -/
def leaf? (n : DistinguishedName) : Option RelativeName := n.rdns.head?

/-- The name of the parent; the root has none. -/
def parent? (n : DistinguishedName) : Option DistinguishedName :=
  match n.rdns with
  | [] => none
  | _ :: rest => some ⟨rest⟩

/-- The name of the child with the given relative name. -/
def child (n : DistinguishedName) (r : RelativeName) : DistinguishedName := ⟨r :: n.rdns⟩

/-- The name of the child with the given attribute and value. -/
def child? (n : DistinguishedName) (key value : String) : Except NameError DistinguishedName :=
  (RelativeName.make? key value).map n.child

/-- The name `n`, taken as relative to `base`, in full: `base` comes after it, towards the root. -/
def under (n base : DistinguishedName) : DistinguishedName := ⟨n.rdns ++ base.rdns⟩

end DistinguishedName

/-! ### Comparing names -/

/-- How the values of two names are compared. -/
inductive ValueComparison where
  /-- Values match when they are equal. -/
  | caseSensitive
  /-- Values match when their lower case is equal. -/
  | caseInsensitive
  deriving DecidableEq, Repr

/-- What is compared of a value. -/
def ValueComparison.fold : ValueComparison → String → String
  | .caseSensitive, value => value
  | .caseInsensitive, value => String.ofList (Text.lower value.toList)

/-- What is compared of a part: its attribute type in lower case and its folded value. -/
def NamePart.fold (c : ValueComparison) (p : NamePart) : String × String :=
  (p.key.toLower, c.fold p.value)

/-- What is compared of a relative name. -/
def RelativeName.fold (c : ValueComparison) (r : RelativeName) : List (String × String) :=
  r.parts.map (NamePart.fold c)

/-- What is compared of a name. -/
def DistinguishedName.fold (c : ValueComparison) (n : DistinguishedName) :
    List (List (String × String)) :=
  n.rdns.map (RelativeName.fold c)

/-- Whether two names denote the same entry under the given comparison of values. -/
def DistinguishedName.matchesName (c : ValueComparison) (m n : DistinguishedName) : Bool :=
  m.fold c == n.fold c

/-- Relative names are equal when they differ at most in the letter case of attribute types. -/
instance : BEq RelativeName where
  beq r s := r.fold .caseSensitive == s.fold .caseSensitive

/-- Names are equal when they differ at most in the letter case of attribute types. -/
instance : BEq DistinguishedName where
  beq m n := m.matchesName .caseSensitive n

/-! ### Hashing names -/

/-- One piece of what a hasher is fed. -/
inductive HashInput where
  /-- The length of a list whose elements follow. -/
  | length (n : Nat)
  /-- A text. -/
  | text (s : String)
  deriving DecidableEq, Repr

/-- What a hasher is fed for a list: its length, and then what it is fed for each of the elements. -/
def HashInput.ofList {α : Type} (feed : α → List HashInput) (l : List α) : List HashInput :=
  .length l.length :: l.flatMap feed

/-- What a hasher is fed for a part: its attribute type in lower case and its value. -/
def NamePart.hashInput (p : NamePart) : List HashInput := [.text p.key.toLower, .text p.value]

/-- What a hasher is fed for a relative name. -/
def RelativeName.hashInput (r : RelativeName) : List HashInput :=
  HashInput.ofList NamePart.hashInput r.parts

/-- What a hasher is fed for a name. -/
def DistinguishedName.hashInput (n : DistinguishedName) : List HashInput :=
  HashInput.ofList RelativeName.hashInput n.rdns

end DirectoryAccess
