import DirectoryAccess.DistinguishedName.Canonical
import DirectoryAccess.Server.Basic

/-!
# Requests made of other requests

What can be asked on a connection beyond the requests of the server itself: to read the results of a
search one by one, to read an entry, to list the children of an entry, to replace an entry. The results
of a search are finished on every path, also where reading them failed.
-/

namespace DirectoryAccess

open DirectoryServer

variable {σ τ α : Type} [DirectoryServer σ]

/-- What came of reading the results of a search. -/
structure Walked (σ τ α : Type) [DirectoryServer σ] where
  /-- What the visitor made of each entry, up to the first failure. -/
  values : List α
  /-- Whether reading or the visitor failed. -/
  outcome : Except Fault Unit
  /-- The results that have not been read. -/
  rest : Results σ
  /-- The server and the caller afterwards. -/
  world : World σ τ

/-- Reads results and hands each entry to the visitor, until all are read, the limit is reached or
something fails. -/
def walk (visit : FoundEntry → Step τ α) (limit? : Option Nat) (results : Results σ)
    (w : World σ τ) : Walked σ τ α :=
  if limit? = some 0 then ⟨[], .ok (), results, w⟩
  else
    match _h : next (results, w.server) with
    | (.error fault, rest, s) => ⟨[], .error fault, rest, { w with server := s }⟩
    | (.ok none, rest, s) => ⟨[], .ok (), rest, { w with server := s }⟩
    | (.ok (some e), rest, s) =>
      match visit e w.caller with
      | (.error fault, t) => ⟨[], .error fault, rest, ⟨s, t⟩⟩
      | (.ok value, t) =>
        let onward := walk visit (limit?.map (· - 1)) rest ⟨s, t⟩
        { onward with values := value :: onward.values }
termination_by remaining results w.server
decreasing_by exact remaining_lt _h

/-- What came of a search: what the visitor made of the entries, whether reading them failed, and the
final result of the search. -/
structure Gathered (α : Type) where
  /-- What the visitor made of each entry, up to the first failure. -/
  values : List α := []
  /-- Whether reading or the visitor failed. -/
  walked : Except Fault Unit
  /-- The final result. -/
  finished : Except Fault Unit := .ok ()

/-- Whether the search failed; a failure on the way counts before one at the end. -/
def Gathered.outcome (g : Gathered α) : Except Fault Unit := firstFault g.walked g.finished

/-- Reads the results of a search up to the limit and finishes the search. -/
def readResults (visit : FoundEntry → Step τ α) (limit? : Option Nat) (results : Results σ)
    (w : World σ τ) : Gathered α × World σ τ :=
  let walked := walk visit limit? results w
  let (finished, s) := finish walked.rest walked.world.server
  (⟨walked.values, walked.outcome, finished⟩, { walked.world with server := s })

/-- Searches and hands each entry to the visitor. -/
def searchEach (session : Session σ) (request : SearchRequest) (visit : FoundEntry → Step τ α)
    (w : World σ τ) : Gathered α × World σ τ :=
  match search session request w.server with
  | (.error fault, s) => ({ walked := .error fault }, { w with server := s })
  | (.ok results, s) => readResults visit none results { w with server := s }

/-- The visitor that keeps each entry as it is. -/
def keepEntry (e : FoundEntry) : Step Unit FoundEntry := fun t => (.ok e, t)

/-- Searches and returns all entries. -/
def searchAll (session : Session σ) (request : SearchRequest) : Step σ (List FoundEntry) := fun s =>
  let (found, w) := searchEach session request keepEntry ⟨s, ()⟩
  (found.outcome.map fun _ => found.values, w.server)

/-- Reads one entry. A search that finds nothing where the entry should be reports that there is none. -/
def readEntry (session : Session σ) (name : DistinguishedName) (attributes : List String) :
    Step σ FoundEntry := fun s =>
  match searchAll session (.entry name attributes) s with
  | (.error fault, s) => (.error fault, s)
  | (.ok [], s) => (.error (.nameNotFound (toString name)), s)
  | (.ok (e :: _), s) => (.ok e, s)

/-- The attribute list that asks for no attributes. -/
def noAttributes : List String := ["1.1"]

/-- The attribute list that asks for all attributes. -/
def allAttributes : List String := ["*"]

/-- The names of the immediate children of an entry. -/
def childNames (session : Session σ) (name : DistinguishedName) :
    Step σ (List DistinguishedName) := fun s =>
  let (outcome, s) := searchAll session (.children name noAttributes) s
  (outcome.map fun entries => entries.map FoundEntry.name, s)

/-- The immediate children of an entry with all their attributes. -/
def childEntries (session : Session σ) (name : DistinguishedName) : Step σ (List FoundEntry) :=
  searchAll session { SearchRequest.children name allAttributes with wholeEntries := true }

/-- Whether a fault says that the entry does not exist. -/
def Fault.saysNoSuchObject : Fault → Bool
  | .protocol (.result code _ _) => code == ResultCode.noSuchObject
  | _ => false

/-- Replaces an entry: deletes it, unless it does not exist, and creates it anew. -/
def replace (session : Session σ) (name : DistinguishedName) (attributes : Attributes) :
    Step σ Unit := fun s =>
  match delete session name s with
  | (.error fault, s) =>
    if fault.saysNoSuchObject then add session name attributes s else (.error fault, s)
  | (.ok (), s) => add session name attributes s

end DirectoryAccess
