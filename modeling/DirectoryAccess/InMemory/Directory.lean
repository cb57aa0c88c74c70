import DirectoryAccess.Filter.Evaluation
import DirectoryAccess.Server.Basic

/-!
# A directory in memory

A directory server whose entries are kept in a map, in the order of their names. It answers with the
result codes of a real server, records what it is asked for, and can be told to fail in various ways. It
breaks down over a search that it can make no sense of.
-/

namespace DirectoryAccess.InMemory

/-- Something that the directory was asked for. -/
inductive Event where
  /-- A session was opened. -/
  | acquire (mode : AccessMode)
  /-- A session was closed. -/
  | release (mode : AccessMode)
  /-- A search was started. -/
  | search (request : SearchRequest)
  /-- A search was finished. -/
  | searchFinished
  /-- An entry was to be created. -/
  | add (name : DistinguishedName)
  /-- An entry was to be deleted. -/
  | delete (name : DistinguishedName)
  /-- An entry was to be changed. -/
  | modify (name : DistinguishedName) (changes : List Change)
  /-- An entry was to be given another name. -/
  | rename (old new : DistinguishedName)
  /-- A caller left a note. -/
  | note (text : String)
  deriving DecidableEq, Repr

/-- How the directory has been told to fail. -/
structure Failures where
  /-- Searches fail with this code. -/
  search? : Option Nat := none
  /-- Searches end with a referral after so many entries. -/
  partialAfter? : Option Nat := none
  /-- Searches report a referral as their final result. -/
  referralAtEnd : Bool := false
  /-- No session can be opened. -/
  acquire : Bool := false
  /-- Closing a session fails. -/
  release : Bool := false
  deriving DecidableEq, Repr

/-- The state of the directory. -/
structure Directory where
  /-- The name that all names are relative to. -/
  base : DistinguishedName := .root
  /-- The entries by name. -/
  entries : OrderedMap DistinguishedName Attributes := .empty
  /-- The passwords by full name of the principal. -/
  passwords : OrderedMap DistinguishedName String := .empty
  /-- What the directory was asked for, in order. -/
  events : List Event := []
  /-- How the directory has been told to fail. -/
  failures : Failures := {}
  /-- Whether it has broken down, so that the outcomes of its operations are void. -/
  brokenDown : Bool := false
  deriving DecidableEq, Repr

namespace Directory

/-- The directory after an event. -/
def record (d : Directory) (e : Event) : Directory := { d with events := d.events ++ [e] }

/-- The names of the entries, ascending. -/
def names (d : Directory) : List DistinguishedName := d.entries.keys

/-- Whether there is an entry of this name. -/
def hasEntry (d : Directory) (name : DistinguishedName) : Bool := d.entries.contains name

/-- Whether an entry of this name could have children: it is the root or an entry. -/
def isPlace (d : Directory) (name : DistinguishedName) : Bool := name.isRoot || d.hasEntry name

/-- Whether an entry lies immediately below this name. -/
def hasChildren (d : Directory) (name : DistinguishedName) : Bool :=
  d.names.any (·.isChildOf name)

/-- Whether an entry of this name can be created below an existing place. -/
def hasParentOf (d : Directory) (name : DistinguishedName) : Bool := name.parent?.any d.isPlace

/-- Whether a name lies in the scope of a search. -/
def inScope (scope : SearchScope) (base name : DistinguishedName) : Bool :=
  match scope with
  | .base => name == base
  | .oneLevel => name.isChildOf base
  | .subtree => name == base || name.isBelow base

/-- The entries that a request asks for, in the order of their names. -/
def found (d : Directory) (request : SearchRequest) : List FoundEntry :=
  (d.entries.toList.filter fun (name, attributes) =>
      inScope request.scope request.base name && Filter.accepts request.filter attributes).map
    fun (name, attributes) => ⟨name, attributes.select request.attributes⟩

/-- Whether a request makes no sense: its limit is below zero, or a malformed escape in its filter is met
at an entry in its scope. -/
def cannotAnswer (d : Directory) (request : SearchRequest) : Bool :=
  request.sizeLimit < 0 || d.entries.toList.any fun (name, attributes) =>
    inScope request.scope request.base name && Filter.stumbles request.filter attributes

end Directory

/-! ### The requests -/

/-- The results of a search that have not been read, and how the reading ends. -/
structure Results where
  /-- The entries that have not been read. -/
  pending : List FoundEntry
  /-- How many entries have been read. -/
  read : Nat := 0
  /-- A referral comes after so many entries. -/
  partialAfter? : Option Nat
  /-- The final result is a referral. -/
  referralAtEnd : Bool
  /-- No more entries than so many are returned. -/
  sizeLimit? : Option Nat
  deriving DecidableEq, Repr

/-- Opens a session. A principal has to give its password. -/
def connect (access : Access) : Step Directory AccessMode := fun d =>
  let accepted := match access with
    | .authenticated principal credential => d.passwords.get? principal == some credential
    | _ => true
  if !accepted then (.error (.ofCode ResultCode.invalidCredentials), d)
  else if d.failures.acquire then (.error (.system "refused"), d)
  else (.ok access.mode, d.record (.acquire access.mode))

/-- Starts a search. -/
def search (request : SearchRequest) : Step Directory Results := fun d =>
  let d := d.record (.search request)
  match d.failures.search? with
  | some code => (.error (.ofCode code), d)
  | none =>
    if !d.isPlace request.base then (.error (.ofCode ResultCode.noSuchObject), d)
    else if d.cannotAnswer request then
      (.error (.invalid "the search makes no sense"), { d with brokenDown := true })
    else
      (.ok { pending := d.found request, partialAfter? := d.failures.partialAfter?,
             referralAtEnd := d.failures.referralAtEnd,
             sizeLimit? := if 0 < request.sizeLimit then some request.sizeLimit.toNat else none }, d)

/-- Reads on in the results of a search. -/
def Results.next : Step Results (Option FoundEntry) := fun r =>
  if r.partialAfter? = some r.read then (.error (.ofCode ResultCode.referral), r)
  else
    match r.pending with
    | [] => (.ok none, r)
    | e :: rest =>
      if r.sizeLimit? = some r.read then (.error (.ofCode ResultCode.sizeLimitExceeded), r)
      else (.ok (some e), { r with pending := rest, read := r.read + 1 })

/-- Finishes a search. -/
def finish (r : Results) : Step Directory Unit := fun d =>
  (if r.referralAtEnd then .error (.ofCode ResultCode.referral) else .ok (), d.record .searchFinished)

/-- Creates an entry below an existing place. -/
def add (name : DistinguishedName) (attributes : Attributes) : Step Directory Unit := fun d =>
  let d := d.record (.add name)
  if d.hasEntry name then (.error (.ofCode ResultCode.entryAlreadyExists), d)
  else if d.hasParentOf name then (.ok (), { d with entries := d.entries.insert name attributes })
  else (.error (.ofCode ResultCode.noSuchObject), d)

/-- Deletes an entry without children. -/
def delete (name : DistinguishedName) : Step Directory Unit := fun d =>
  let d := d.record (.delete name)
  if !d.hasEntry name then (.error (.ofCode ResultCode.noSuchObject), d)
  else if d.hasChildren name then (.error (.ofCode ResultCode.notAllowedOnNonLeaf), d)
  else (.ok (), { d with entries := d.entries.erase name })

/-- Changes the attributes of an entry. -/
def modify (name : DistinguishedName) (changes : List Change) : Step Directory Unit := fun d =>
  let d := d.record (.modify name changes)
  match d.entries.get? name with
  | none => (.error (.ofCode ResultCode.noSuchObject), d)
  | some attributes =>
    (.ok (), { d with entries := d.entries.insert name (Change.applyAll changes attributes) })

/-- Gives an entry without children another name. -/
def rename (old new : DistinguishedName) : Step Directory Unit := fun d =>
  let d := d.record (.rename old new)
  if d.hasEntry new then (.error (.ofCode ResultCode.entryAlreadyExists), d)
  else if d.hasChildren old then (.error (.ofCode ResultCode.notAllowedOnNonLeaf), d)
  else
    match d.entries.get? old with
    | none => (.error (.ofCode ResultCode.noSuchObject), d)
    | some attributes => (.ok (), { d with entries := (d.entries.erase old).insert new attributes })

/-- Closes a session. -/
def disconnect (mode : AccessMode) : Step Directory Unit := fun d =>
  (if d.failures.release then .error (.system "gone") else .ok (), d.record (.release mode))

/-- Reading an entry leaves fewer entries to be read. -/
theorem Results.length_lt_of_next {r r' : Results} {e : FoundEntry}
    (h : r.next = (.ok (some e), r')) : r'.pending.length < r.pending.length := by
  unfold Results.next at h
  split at h
  · cases h
  · split at h
    · cases h
    · next hp =>
      split at h
      · cases h
      · cases h
        simp [hp]

instance : DirectoryServer Directory where
  Session := AccessMode
  Results := Results
  base := Directory.base
  depth d := (d.names.map DistinguishedName.length).foldl max 0 + 2
  connect := connect
  search _ := search
  next state :=
    let (outcome, r) := Results.next state.1
    (outcome, r, state.2)
  finish := finish
  add _ := add
  delete _ := delete
  modify _ := modify
  rename _ := rename
  disconnect := disconnect
  remaining r _ := r.pending.length
  remaining_lt h := by
    simp only [Prod.mk.injEq] at h
    exact Results.length_lt_of_next (Prod.ext h.1 h.2.1)

end DirectoryAccess.InMemory
