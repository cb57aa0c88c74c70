import DirectoryAccess.OrderedMap

/-!
# Attributes of an entry

A set of attributes maps names to lists of values. Names are put into lower case, so that their letter
case does not matter. Textual values and values that are plain bytes are kept apart, and an attribute
can have both. A list of values keeps its order and may be empty; the attribute is present all the same.
-/

namespace DirectoryAccess

/-- The form of an attribute name that names are compared by. -/
def foldName (name : String) : String := name.toLower

/-- A set of attributes with their values. -/
structure Attributes where
  /-- The textual values, by folded name. -/
  text : OrderedMap String (List String) := .empty
  /-- The values that are bytes, by folded name. -/
  binary : OrderedMap String (List (List UInt8)) := .empty
  deriving DecidableEq, Repr

namespace Attributes

/-- The set without attributes. -/
def empty : Attributes := {}

/-! ### Reading -/

/-- The textual values of an attribute. -/
def text? (a : Attributes) (name : String) : Option (List String) := a.text.get? (foldName name)

/-- The values of an attribute that are bytes. -/
def binary? (a : Attributes) (name : String) : Option (List (List UInt8)) :=
  a.binary.get? (foldName name)

/-- Whether the attribute is present, with values of either kind. -/
def contains (a : Attributes) (name : String) : Bool :=
  (a.text? name).isSome || (a.binary? name).isSome

/-- The names of all attributes, ascending. -/
def names (a : Attributes) : List String := distinct (a.text.keys ++ a.binary.keys)

/-- The number of attributes. -/
def size (a : Attributes) : Nat := a.names.length

/-- Whether there are no attributes. -/
def isEmpty (a : Attributes) : Bool := a.text.isEmpty && a.binary.isEmpty

/-! ### Changing -/

/-- Gives an attribute these textual values in place of those it has. -/
def setText (a : Attributes) (name : String) (values : List String) : Attributes :=
  { a with text := a.text.insert (foldName name) values }

/-- Gives an attribute these values of bytes in place of those it has. -/
def setBinary (a : Attributes) (name : String) (values : List (List UInt8)) : Attributes :=
  { a with binary := a.binary.insert (foldName name) values }

/-- Adds a textual value at the end, unless the attribute has it. -/
def addText (a : Attributes) (name value : String) : Attributes :=
  let values := (a.text? name).getD []
  a.setText name (if value ∈ values then values else values ++ [value])

/-- Takes a textual value out; the list of textual values goes with its last value. -/
def removeText (a : Attributes) (name value : String) : Attributes :=
  match a.text? name with
  | none => a
  | some values =>
    match values.filter (· != value) with
    | [] => { a with text := a.text.erase (foldName name) }
    | rest => a.setText name rest

/-- Takes an attribute out with all its values. -/
def erase (a : Attributes) (name : String) : Attributes :=
  ⟨a.text.erase (foldName name), a.binary.erase (foldName name)⟩

/-- The textual values that go when an attribute is taken out; there are none if it has bytes only. -/
def erased? (a : Attributes) (name : String) : Option (List String) :=
  (a.text? name).or ((a.binary? name).map fun _ => [])

/-- Keeps the named attributes only. No names, or a star among them, keep all. -/
def select (a : Attributes) (names : List String) : Attributes :=
  if names.isEmpty || names.contains "*" then a
  else
    let wanted := names.map foldName
    ⟨a.text.filterKeys wanted.contains, a.binary.filterKeys wanted.contains⟩

/-- The set of the given attributes: first those with textual values, then those with bytes. -/
def ofLists (text : List (String × List String)) (binary : List (String × List (List UInt8))) :
    Attributes :=
  binary.foldl (fun a entry => a.setBinary entry.1 entry.2)
    (text.foldl (fun a entry => a.setText entry.1 entry.2) empty)

end Attributes

end DirectoryAccess
