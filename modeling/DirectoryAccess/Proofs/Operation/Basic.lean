import DirectoryAccess.Operation.Authenticate
import DirectoryAccess.Operation.Read
import DirectoryAccess.Operation.Write

/-!
# The operations as one type

Everything that a caller can ask for, with what it gives along: names, queries, and functions of its own.
`Operation.run` carries an operation out. A statement about every operation is a statement about
`Operation`, proved by cases.
-/

namespace DirectoryAccess

/-- An operation with what the caller gives along; `Operation σ τ α` returns a value of type `α`. -/
inductive Operation (σ τ : Type) [DirectoryServer σ] : Type → Type 1 where
  /-- Searches and makes a value of each entry. -/
  | search {α : Type} (query : SearchQuery) (mapper : Mapper τ α) (hooks : SearchHooks σ τ) :
      Operation σ τ (List α)
  /-- Searches and hands each entry to the caller. -/
  | searchHandling (query : SearchQuery) (handle : EntryContext → Step τ Unit)
      (hooks : SearchHooks σ τ) : Operation σ τ Unit
  /-- Searches for one entry and makes a value of it. -/
  | searchSingle {α : Type} (query : SearchQuery) (mapper : Mapper τ α) : Operation σ τ α
  /-- Reads an entry. -/
  | lookup (name : NameInput) : Operation σ τ EntryContext
  /-- Reads an entry and makes a value of it. -/
  | lookupMapping {α : Type} (name : NameInput) (mapper : Mapper τ α) : Operation σ τ α
  /-- Lists the names of the children of an entry. -/
  | list (name : NameInput) : Operation σ τ (List DistinguishedName)
  /-- Makes a value of each child of an entry. -/
  | listMapping {α : Type} (name : NameInput) (mapper : Mapper τ α) : Operation σ τ (List α)
  /-- Creates an entry. -/
  | create (name : NameInput) (attributes : Attributes) : Operation σ τ Unit
  /-- Replaces an entry, or creates it. -/
  | replace (name : NameInput) (attributes : Attributes) : Operation σ τ Unit
  /-- Deletes an entry that has no children. -/
  | delete (name : NameInput) : Operation σ τ Unit
  /-- Deletes an entry, with all that is below it if `recursive` is set. -/
  | deleteTree (name : NameInput) (recursive : Bool) : Operation σ τ Unit
  /-- Gives an entry another name. -/
  | rename (old new : NameInput) : Operation σ τ Unit
  /-- Changes the attributes of an entry. -/
  | change (name : NameInput) (changes : List Change) : Operation σ τ Unit
  /-- Creates the entry of a context. -/
  | createFromContext (context : EntryContext) : Operation σ τ Unit
  /-- Replaces the entry of a context. -/
  | replaceFromContext (context : EntryContext) : Operation σ τ Unit
  /-- Writes the changes of a context. -/
  | updateFromContext (context : EntryContext) : Operation σ τ Unit
  /-- Lets the caller work on a connection that can only read. -/
  | workReadOnly {α : Type} (work : Connection σ → Step (World σ τ) α) : Operation σ τ α
  /-- Lets the caller work on a connection that can read and write. -/
  | workReadWrite {α : Type} (work : Connection σ → Step (World σ τ) α) : Operation σ τ α
  /-- Verifies the credential of the one entry that satisfies a filter. -/
  | authenticate (base : NameInput) (filter : Filter) (credential : String)
      (work : Connection σ → Identification → Step (World σ τ) Unit) : Operation σ τ Bool

variable {σ τ α : Type} [DirectoryServer σ]

/-- Carries an operation out, with the given policy on partial results. -/
def Operation.run (ignorePartial : Bool) {α : Type} : Operation σ τ α → Step (World σ τ) α
  | .search query mapper hooks => searchMapping ignorePartial query mapper hooks
  | .searchHandling query handle hooks => DirectoryAccess.searchHandling ignorePartial query handle hooks
  | .searchSingle query mapper => DirectoryAccess.searchSingle ignorePartial query mapper
  | .lookup name => onServer (DirectoryAccess.lookup name)
  | .lookupMapping name mapper => DirectoryAccess.lookupMapping name mapper
  | .list name => onServer (DirectoryAccess.list name)
  | .listMapping name mapper => DirectoryAccess.listMapping name mapper
  | .create name attributes => onServer (createEntry name attributes)
  | .replace name attributes => onServer (replaceEntry name attributes)
  | .delete name => onServer (deleteEntry name)
  | .deleteTree name recursive => onServer (DirectoryAccess.deleteTree name recursive)
  | .rename old new => onServer (renameEntry old new)
  | .change name changes => onServer (changeEntry name changes)
  | .createFromContext context => onServer (DirectoryAccess.createFromContext context)
  | .replaceFromContext context => onServer (DirectoryAccess.replaceFromContext context)
  | .updateFromContext context => onServer (DirectoryAccess.updateFromContext context)
  | .workReadOnly work => DirectoryAccess.workReadOnly work
  | .workReadWrite work => DirectoryAccess.workReadWrite work
  | .authenticate base filter credential work =>
    DirectoryAccess.authenticate ignorePartial base filter credential work

/-- What a search does on its connection: the hook before it, the search, the hook after it. -/
def searchWork (ignorePartial : Bool) (query : SearchQuery) (wholeEntries : Bool)
    (visit : EntryContext → Step τ α) (hooks : SearchHooks σ τ) (c : Connection σ) :
    Step (World σ τ) (List α) := fun w =>
  match hooks.before c w with
  | (.error fault, w) => (.error fault, w)
  | (.ok (), w) =>
    let ((values, outcome), w) := searchOn ignorePartial c (.ofQuery query wholeEntries) visit w
    let (after, w) := hooks.after c w
    (firstFault outcome (after.map fun _ => values), w)

theorem searchVisiting_eq (ignorePartial : Bool) (query : SearchQuery) (wholeEntries : Bool)
    (visit : EntryContext → Step τ α) (hooks : SearchHooks σ τ) :
    searchVisiting ignorePartial query wholeEntries visit hooks =
      connected .readOnly (searchWork ignorePartial query wholeEntries visit hooks) := rfl

end DirectoryAccess
