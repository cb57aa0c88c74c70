import DirectoryAccess.DistinguishedName.Canonical
import DirectoryAccess.Entry.Context
import DirectoryAccess.Operation.Connected

/-!
# Writing entries

Entries are created, replaced, deleted, renamed and changed. Each operation uses a connection of its own;
the deletion of a subtree uses one for every listing and one for every deletion, and deletes children
before their parent, so that a failure leaves a tree behind.
-/

namespace DirectoryAccess

open DirectoryServer

variable {σ : Type} [DirectoryServer σ]

/-- Creates an entry. -/
def createEntry (name : NameInput) (attributes : Attributes) : Step σ Unit :=
  named name fun n => requested .readWrite fun session => add session n attributes

/-- Replaces an entry, or creates it if it does not exist. -/
def replaceEntry (name : NameInput) (attributes : Attributes) : Step σ Unit :=
  named name fun n => requested .readWrite fun session => replace session n attributes

/-- Deletes an entry that has no children. -/
def deleteEntry (name : NameInput) : Step σ Unit :=
  named name fun n => requested .readWrite fun session => delete session n

/-- Gives an entry another name. -/
def renameEntry (old new : NameInput) : Step σ Unit :=
  named old fun o => named new fun n => requested .readWrite fun session => rename session o n

/-- Changes the attributes of an entry. -/
def changeEntry (name : NameInput) (changes : List Change) : Step σ Unit :=
  named name fun n => requested .readWrite fun session => modify session n changes

/-! ### Subtrees -/

/-- Does something for each element of a list in turn, up to the first failure. -/
def forEach {α : Type} (f : α → Step σ Unit) : List α → Step σ Unit
  | [], s => (.ok (), s)
  | a :: rest, s =>
    match f a s with
    | (.error fault, s) => (.error fault, s)
    | (.ok (), s) => forEach f rest s

/-- Deletes an entry and all that is below it, at most `depth` levels deep: the subtree of each child in
turn, then the entry. -/
def deleteSubtree (depth : Nat) (name : DistinguishedName) : Step σ Unit :=
  match depth with
  | 0 => fun s => (.error (.limitExceeded s!"nothing can lie below '{name}'"), s)
  | depth + 1 => fun s =>
    match requested .readWrite (fun session => childNames session name) s with
    | (.error fault, s) => (.error fault, s)
    | (.ok children, s) =>
      match forEach (deleteSubtree depth) children s with
      | (.error fault, s) => (.error fault, s)
      | (.ok (), s) => deleteEntry (.name name) s

/-- Deletes an entry, and all that is below it if `recursive` is set. -/
def deleteTree (name : NameInput) (recursive : Bool) : Step σ Unit :=
  named name fun n s =>
    if recursive then deleteSubtree (depth s) n s else deleteEntry (.name n) s

/-! ### Contexts -/

/-- The name of a context that is to be created. -/
def nameToCreate (operation : String) (c : EntryContext) : Except Fault DistinguishedName :=
  if c.isBound then
    .error (.illegalState
      s!"cannot {operation} a context that is already bound; use modify_attributes_context")
  else
    match c.name? with
    | none => .error (.illegalState s!"cannot {operation} a context without a name")
    | some name => .ok name

/-- Creates the entry of a context. -/
def createFromContext (c : EntryContext) : Step σ Unit := fun s =>
  match nameToCreate "bind" c with
  | .error fault => (.error fault, s)
  | .ok name => createEntry (.name name) c.attributes s

/-- Replaces the entry of a context. -/
def replaceFromContext (c : EntryContext) : Step σ Unit := fun s =>
  match nameToCreate "rebind" c with
  | .error fault => (.error fault, s)
  | .ok name => replaceEntry (.name name) c.attributes s

/-- Writes the changes of a context that was read from the directory. -/
def updateFromContext (c : EntryContext) : Step σ Unit := fun s =>
  match c.name? with
  | none => (.error (.illegalState "cannot modify an entry without a name"), s)
  | some name =>
    if c.isBound then changeEntry (.name name) c.changes s
    else (.error (.illegalState s!"{name} is not bound; use bind_context to create it"), s)

end DirectoryAccess
