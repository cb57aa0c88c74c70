import DirectoryAccess.DistinguishedName.Hierarchy
import DirectoryAccess.DistinguishedName.Reading
import DirectoryAccess.Filter.Grammar
import DirectoryAccess.Wire.Network

/-!
# Results of a search on the wire

A search is answered by entries and a final result. If the results are asked for in pages, a result that
says where the next page starts is not the end: the search is sent again from there. A search that is
ended early reports the last result that was read, be it that of a page. Names are made relative to the
base of the client, values become texts if all values of their attribute are texts.
-/

namespace DirectoryAccess.Wire

/-- How the answer to a search goes on after its entries. -/
inductive Ending where
  /-- By a result, with the place where the next page starts. -/
  | result (code : Nat) (matched text : String) (cookie : List UInt8)
  /-- Not at all. -/
  | silent
  /-- The connection ends. -/
  | lost
  deriving DecidableEq, Repr

/-- The results of a search that have not been read. -/
structure Results where
  /-- The session on which the search was sent. -/
  session : Nat
  /-- The search as it was last sent. -/
  message : SearchMessage
  /-- The entries that have not been read. -/
  pending : List ReturnedEntry
  /-- How the answer goes on after them. -/
  ending : Ending
  /-- The last result that was read, of this page or of one before it. -/
  last? : Option (Except Fault Unit) := none
  /-- Whether the last result that was read is the final one. -/
  complete : Bool := false

namespace Results

/-- The results that a server returns for a search, after the last result that was read before. -/
def ofReply (session : Nat) (message : SearchMessage) (last? : Option (Except Fault Unit)) :
    Reply → Results
  | .dropped => { session, message, pending := [], ending := .lost, last? }
  | .silent => { session, message, pending := [], ending := .silent, last? }
  | .answer a =>
    { session, message, pending := a.entries, last?,
      ending := if a.unfinished then .silent else .result a.code a.matched a.text a.cookie }

/-- The search for the next page, if there is one. -/
def nextPage? (r : Results) : Option SearchMessage :=
  match r.ending, r.message.page? with
  | .result _ _ _ cookie, some (size, _) =>
    if cookie.isEmpty then none else some { r.message with page? := some (size, cookie) }
  | _, _ => none

/-- Reads the result that comes after the entries, if one comes. -/
def readResult (r : Results) : Results :=
  match r.ending with
  | .result code matched text _ => { r with last? := some (Network.outcomeOf code matched text) }
  | .silent | .lost => r

end Results

/-! ### Entries -/

/-- The values of an attribute as texts, or `none` if one of them is no text. -/
def textValues? (values : List Value) : Option (List String) := values.mapM Text.ofBytes?

/-- Values of which one at least is no text: those that are none first. -/
def binaryValues (values : List Value) : List Value :=
  values.filter (fun v => (Text.ofBytes? v).isNone) ++ values.filter fun v => (Text.ofBytes? v).isSome

/-- The attributes whose values are all texts. -/
def textAttributes (attributes : List (String × List Value)) : List (String × List String) :=
  attributes.filterMap fun (name, values) => (textValues? values).map fun texts => (name, texts)

/-- The attributes with a value that is no text. -/
def binaryAttributes (attributes : List (String × List Value)) : List (String × List Value) :=
  attributes.filterMap fun (name, values) =>
    if (textValues? values).isNone then some (name, binaryValues values) else none

/-- All values that are listed under a name, in order. -/
def valuesNamed (attributes : List (String × List Value)) (name : String) : List Value :=
  attributes.flatMap fun (other, values) => if other = name then values else []

/-- The attributes of a returned entry. Of an attribute that is listed more than once, the last list of
texts counts, and all lists of bytes count together. -/
def receivedAttributes (attributes : List (String × List Value)) : Attributes :=
  let binary := binaryAttributes attributes
  .ofLists (textAttributes attributes) (binary.map fun (name, _) => (name, valuesNamed binary name))

/-- The name that a server returned, relative to the base; servers may spell the base in letters of
another case. A name that does not lie below the base is kept whole. -/
def receivedName (base : DistinguishedName) (text : String) :
    Except NameError DistinguishedName :=
  (DistinguishedName.parse text).map fun name =>
    (name.relativeToWith? .caseInsensitive base).getD name

/-- The entry that a server returned. -/
def receivedEntry (base : DistinguishedName) (e : ReturnedEntry) : Except Fault FoundEntry :=
  match receivedName base e.name with
  | .error error => .error (.ofName error)
  | .ok name => .ok ⟨name, receivedAttributes e.attributes⟩

namespace Network

/-! ### Searching -/

/-- Sends a search and waits for nothing. -/
def sendSearch (session : Nat) (message : SearchMessage) (last? : Option (Except Fault Unit)) :
    Step Network Results := fun n =>
  let (reply, n) := send session (.search message) n
  (reply.map (Results.ofReply session message last?), n)

/-- Starts a search. A text that is no filter cannot be sent. -/
def search (session : Nat) (r : SearchRequest) : Step Network Results := fun n =>
  if Filter.isWellFormed r.filter then
    sendSearch session (searchToSend n.settings.base n.settings.pageSize? r) none n
  else (.error (.protocol .filterSyntax), n)

/-- How many entries a reply brings. -/
def entryCount : Reply → Nat
  | .answer a => a.entries.length
  | .dropped | .silent => 0

/-- How many entries replies bring together. -/
def totalCount : List Reply → Nat
  | [] => 0
  | reply :: rest => entryCount reply + totalCount rest

/-- How many entries the script has left. -/
def scripted (n : Network) : Nat := totalCount n.script

/-- A search that could be sent has used up a reply, or has no further page. -/
theorem script_of_sendSearch {session : Nat} {message : SearchMessage}
    {last? : Option (Except Fault Unit)} {n n' : Network} {r : Results}
    (h : sendSearch session message last? n = (.ok r, n')) :
    n'.script.length < n.script.length ∨
      n'.script.length = n.script.length ∧ r.nextPage? = none := by
  simp only [sendSearch, send] at h
  split at h
  · cases h
  · cases hs : n.script with
    | nil =>
      simp only [takeReply, record, hs, reduceCtorEq, if_false] at h
      cases h
      right
      refine ⟨by simp, ?_⟩
      simp only [Results.ofReply, Results.nextPage?]
      cases message.page? <;> rfl
    | cons reply rest =>
      simp only [takeReply, record, hs] at h
      left
      cases h
      split <;> simp

/-- The entries that a search brings come out of the script. -/
theorem scripted_of_sendSearch {session : Nat} {message : SearchMessage}
    {last? : Option (Except Fault Unit)} {n n' : Network} {r : Results}
    (h : sendSearch session message last? n = (.ok r, n')) :
    r.pending.length + n'.scripted ≤ n.scripted := by
  simp only [sendSearch, send] at h
  split at h
  · cases h
  · cases hs : n.script with
    | nil =>
      simp only [takeReply, record, hs, reduceCtorEq, if_false] at h
      cases h
      simp [scripted, totalCount, hs, Results.ofReply]
    | cons reply rest =>
      simp only [takeReply, record, hs] at h
      cases h
      cases reply <;> simp [scripted, totalCount, hs, Results.ofReply, entryCount]

/-- Goes on to the first page that has entries, or else to the last page. -/
def toEntries (r : Results) (n : Network) : Except Fault Unit × Results × Network :=
  if r.pending.isEmpty then
    match _next : r.nextPage? with
    | none => (.ok (), r, n)
    | some message =>
      match _sent : sendSearch r.session message r.readResult.last? n with
      | (.error fault, n') => (.error fault, r.readResult, n')
      | (.ok page, n') => toEntries page n'
  else (.ok (), r, n)
termination_by 2 * n.script.length + if r.nextPage?.isSome then 1 else 0
decreasing_by
  have h := script_of_sendSearch _sent
  rw [_next]
  rcases h with h | ⟨h, hp⟩
  · split <;> simp <;> omega
  · simp [hp, h]

/-- Reads on in the results of a search. -/
def next (state : Results × Network) : Except Fault (Option FoundEntry) × Results × Network :=
  if state.1.complete then (.ok none, state)
  else
    match toEntries state.1 state.2 with
    | (.error fault, state) => (.error fault, state)
    | (.ok (), r, n) =>
      match r.pending with
      | e :: rest => ((receivedEntry n.settings.base e).map some, { r with pending := rest }, n)
      | [] =>
        match r.ending with
        | .silent => (.error (.protocol .timeout), r, n)
        | .lost => (.error (.protocol .endOfStream), r, n)
        | .result .. => (.ok none, { r.readResult with complete := true }, n)

/-- Ends a search, with the last result that was read. Without one the search has been given up. -/
def finish (r : Results) : Step Network Unit := fun n =>
  (r.last?.getD (outcomeOf ResultCode.abandoned "" "user cancelled"), n)

/-! ### The end of the results -/

/-- How many entries can still be read. -/
def remaining (r : Results) (n : Network) : Nat := r.pending.length + n.scripted

theorem remaining_toEntries {r page : Results} {n n' : Network}
    (h : toEntries r n = (.ok (), page, n')) : remaining page n' ≤ remaining r n := by
  fun_induction toEntries r n with
  | case1 => cases h; exact Nat.le_refl _
  | case2 => cases h
  | case3 r n _ message _ page' n'' sent ih =>
    have h1 := ih h
    have h2 := scripted_of_sendSearch sent
    simp only [remaining] at *
    omega
  | case4 => cases h; exact Nat.le_refl _

/-- Reading an entry leaves fewer entries to be read. -/
theorem remaining_next_lt {r r' : Results} {n n' : Network} {e : FoundEntry}
    (h : next (r, n) = (.ok (some e), r', n')) : remaining r' n' < remaining r n := by
  simp only [next] at h
  split at h
  · cases h
  · split at h
    · cases h
    · next page n'' hp =>
      have hle := remaining_toEntries hp
      split at h
      · next e' rest hpend =>
        simp only [Prod.mk.injEq] at h
        obtain ⟨-, rfl, rfl⟩ := h
        simp only [remaining, hpend, List.length_cons] at *
        omega
      · split at h <;> cases h

end Network

end DirectoryAccess.Wire
