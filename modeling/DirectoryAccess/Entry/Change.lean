import DirectoryAccess.Entry.Attributes

/-!
# Changes to attributes

A change of one attribute of an entry: values are added, replaced or removed. A change can be applied
to a set of attributes, or sent to a server, where the values form a set.
-/

namespace DirectoryAccess

/-- What a change does with its values. -/
inductive ChangeKind where
  /-- The values are added. -/
  | add
  /-- The values replace all others. -/
  | replace
  /-- The values are removed, or all values if none are given. -/
  | remove
  deriving DecidableEq, Repr

/-- A change of one attribute of an entry. -/
structure Change where
  /-- What is done with the values. -/
  kind : ChangeKind
  /-- The attribute. -/
  attr : String
  /-- The values. -/
  values : List String
  deriving DecidableEq, Repr

namespace Change

/-- Applies a change to a set of attributes. -/
def apply (c : Change) (a : Attributes) : Attributes :=
  match c.kind, c.values with
  | .add, values => values.foldl (fun a value => a.addText c.attr value) a
  | .replace, [] | .remove, [] => a.erase c.attr
  | .replace, values => a.setText c.attr values
  | .remove, values => values.foldl (fun a value => a.removeText c.attr value) a

/-- Applies changes in their order. -/
def applyAll (changes : List Change) (a : Attributes) : Attributes :=
  changes.foldl (fun a c => c.apply a) a

/-- The values as a set, listed in ascending order. -/
def valueSet (c : Change) : List String := distinct c.values

end Change

end DirectoryAccess
