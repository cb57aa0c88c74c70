import DirectoryAccess.DistinguishedName.Basic
import DirectoryAccess.Entry.Change

/-!
# Entry contexts

A context is what a caller works with: an entry with its name, and for an entry that was read from the
directory also the attributes as they were read. From these and the present attributes follow the
changes that bring the directory up to date.
-/

namespace DirectoryAccess

/-- Both names of an entry. -/
structure Identification where
  /-- The full name. -/
  absolute : DistinguishedName
  /-- The name relative to the base. -/
  relative : DistinguishedName
  deriving DecidableEq, Repr

/-- An entry as a caller works with it. -/
structure EntryContext where
  /-- The name relative to the base, if there is one. -/
  name? : Option DistinguishedName := none
  /-- The base that the entry was read under. -/
  base : DistinguishedName := .root
  /-- The present attributes. -/
  attributes : Attributes := .empty
  /-- The attributes as they were read, for an entry that was read from the directory. -/
  loaded? : Option Attributes := none
  deriving DecidableEq, Repr

namespace EntryContext

/-- A context for an entry that is not in the directory yet. -/
def new (name : DistinguishedName) : EntryContext := { name? := some name }

/-- A context without a name. -/
def unnamed : EntryContext := {}

/-- The context of an entry that was read from the directory. -/
def existing (name base : DistinguishedName) (attributes : Attributes) : EntryContext :=
  { name? := some name, base, attributes, loaded? := some attributes }

/-- Whether the entry was read from the directory. -/
def isBound (c : EntryContext) : Bool := c.loaded?.isSome

/-- The full name of the entry. -/
def fullName? (c : EntryContext) : Option DistinguishedName := c.name?.map (·.under c.base)

/-- Both names of the entry. -/
def identification? (c : EntryContext) : Option Identification :=
  c.name?.map fun name => ⟨name.under c.base, name⟩

/-- Lets `f` change the present attributes. -/
def edit (c : EntryContext) (f : Attributes → Attributes) : EntryContext :=
  { c with attributes := f c.attributes }

/-- The changes since the entry was read: attributes whose textual values differ get the present ones,
then those without textual values are removed. There are none for an entry that was not read. -/
def changes (c : EntryContext) : List Change :=
  match c.loaded? with
  | none => []
  | some loaded =>
    let differing := c.attributes.text.toList.filter fun (name, values) =>
      loaded.text? name != some values
    let missing := loaded.text.keys.filter fun name => (c.attributes.text? name).isNone
    differing.map (fun (name, values) => ⟨.replace, name, values⟩) ++
      missing.map fun name => ⟨.remove, name, []⟩

end EntryContext

end DirectoryAccess
