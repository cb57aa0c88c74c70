import DirectoryAccess.Entry.Context
import DirectoryAccess.Operation.Connected

/-!
# Searching

A search opens a connection to read, lets the caller's hook do its work before the search, hands the
entries to the caller one by one, and lets the other hook do its work after the search. The second hook
runs also when the search failed; its own failure counts only when the search succeeded. Where the
caller accepts partial results, a search that ends with one counts as finished.
-/

namespace DirectoryAccess

variable {σ τ α : Type} [DirectoryServer σ]

/-- What a caller makes of the entries that are found. -/
inductive Mapper (τ α : Type) where
  /-- A value is made of the attributes alone. -/
  | ofAttributes (f : Attributes → Step τ α)
  /-- A value is made of the whole entry. -/
  | ofContext (f : EntryContext → Step τ α)

namespace Mapper

/-- Whether whole entries are needed. -/
def mapsContexts : Mapper τ α → Bool
  | .ofAttributes _ => false
  | .ofContext _ => true

/-- Makes a value of one entry. -/
def map (m : Mapper τ α) (context : EntryContext) : Step τ α :=
  match m with
  | .ofAttributes f => f context.attributes
  | .ofContext f => f context

/-- The text that describes a mapper. -/
def describe : Mapper τ α → String
  | .ofAttributes _ => "Mapper::Attributes"
  | .ofContext _ => "Mapper::Context"

end Mapper

/-- What a caller does on the connection before and after a search. -/
structure SearchHooks (σ τ : Type) [DirectoryServer σ] where
  /-- Runs before the search starts. -/
  before : Connection σ → Step (World σ τ) Unit
  /-- Runs after the search, also when it failed. -/
  after : Connection σ → Step (World σ τ) Unit

/-- Hooks that do nothing. -/
def SearchHooks.none : SearchHooks σ τ := ⟨fun _ w => (.ok (), w), fun _ w => (.ok (), w)⟩

/-- The outcome of a search under the caller's policy on partial results. -/
def acceptPartial (ignorePartial : Bool) : Except Fault Unit → Except Fault Unit
  | .error (.partialResult text) => if ignorePartial then .ok () else .error (.partialResult text)
  | outcome => outcome

/-- Searches on an open connection and hands the context of each entry to the visitor. -/
def searchOn (ignorePartial : Bool) (c : Connection σ) (request : SearchRequest)
    (visit : EntryContext → Step τ α) (w : World σ τ) :
    (List α × Except Fault Unit) × World σ τ :=
  let base := DirectoryServer.base w.server
  let (found, w) := searchEach c.session request
    (fun e => visit (.existing e.name base e.attributes)) w
  ((found.values, acceptPartial ignorePartial (found.outcome.mapError Fault.classify)), w)

/-- A search with its hooks: the values that the visitor made, unless something failed. -/
def searchVisiting (ignorePartial : Bool) (query : SearchQuery) (wholeEntries : Bool)
    (visit : EntryContext → Step τ α) (hooks : SearchHooks σ τ) : Step (World σ τ) (List α) :=
  connected .readOnly fun c w =>
    match hooks.before c w with
    | (.error fault, w) => (.error fault, w)
    | (.ok (), w) =>
      let ((values, outcome), w) := searchOn ignorePartial c (.ofQuery query wholeEntries) visit w
      let (after, w) := hooks.after c w
      (firstFault outcome (after.map fun _ => values), w)

/-- Searches and makes a value of each entry. -/
def searchMapping (ignorePartial : Bool) (query : SearchQuery) (mapper : Mapper τ α)
    (hooks : SearchHooks σ τ) : Step (World σ τ) (List α) :=
  searchVisiting ignorePartial query (query.wantsWholeEntries mapper.mapsContexts) mapper.map hooks

/-- Searches and hands each entry to the caller. -/
def searchHandling (ignorePartial : Bool) (query : SearchQuery)
    (handle : EntryContext → Step τ Unit) (hooks : SearchHooks σ τ) : Step (World σ τ) Unit :=
  fun w =>
    let (outcome, w) :=
      searchVisiting ignorePartial query (query.wantsWholeEntries false) handle hooks w
    (outcome.map fun _ => (), w)

/-- The only element of a list. -/
def single? : List α → Except Fault α
  | [] => .error .emptyResult
  | [a] => .ok a
  | l => .error (.incorrectResultCount 1 l.length)

/-- Searches for one entry and makes a value of it. All entries that are found are mapped before they
are counted. -/
def searchSingle (ignorePartial : Bool) (query : SearchQuery) (mapper : Mapper τ α) :
    Step (World σ τ) α := fun w =>
  let (outcome, w) := searchMapping ignorePartial query mapper SearchHooks.none w
  (outcome.bind single?, w)

end DirectoryAccess
