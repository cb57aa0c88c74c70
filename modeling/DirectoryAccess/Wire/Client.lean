import DirectoryAccess.Wire.Results

/-!
# A client of remote servers

A session is opened with the first server that accepts a connection. The files that the settings name are
checked before any address is tried. A server that accepts and then refuses the principal ends the
search for a server; one that refuses to start encryption does not, but the client does not outlive it.
-/

namespace DirectoryAccess.Wire.Network

/-! ### Opening a session -/

/-- Whether a connection to a target has to be switched to encryption. -/
def startsEncryption (n : Network) : Url.Target → Bool
  | .host _ _ encrypted => n.settings.connection.encryption.startEncryption && !encrypted
  | .socket _ => false

/-- Switches the connection of a session to encryption. The client breaks down if the server refuses. -/
def encrypt (session : Nat) : Step Network Nat := fun n =>
  match perform session (.extended startEncryption) n with
  | (.ok (), n) => (.ok session, n)
  | (.error (.protocol (.result code matched text)), n) =>
    (.error (.protocol (.result code matched text)), { n with brokenDown := true })
  | (.error fault, n) => (.error fault, n)

/-- Opens a session on a connection that has been accepted. -/
def openSession (target : Url.Target) : Step Network Nat := fun n =>
  let session := n.sessions
  let opened := { n.record (.opened session) with sessions := session + 1 }
  if n.startsEncryption target then encrypt session opened else (.ok session, opened)

/-- Contacts the server with the given address. -/
def contact (url : Url) : Step Network Nat := fun n =>
  let contacted := { n.record (.contacted url) with contacts := n.contacts + 1 }
  match url.target with
  | .error p => (.error (.protocol p), contacted)
  | .ok target =>
    match n.reach n.contacts target with
    | .error p => (.error (.protocol p), contacted)
    | .ok () => openSession target contacted

/-- Contacts servers in their order, up to the first that accepts. The last failure counts. -/
def contactFirst (failure : Fault) : List Url → Step Network Nat
  | [], n => (.error failure, n)
  | url :: rest, n =>
    match contact url n with
    | (.error fault, n) => contactFirst fault rest n
    | (.ok session, n) => (.ok session, n)

/-- Acts as a principal on a session; a session on which it is refused is ended. -/
def bindSession (session : Nat) (credentials : String × String) : Step Network Nat := fun n =>
  match perform session (.bind credentials.1 credentials.2) n with
  | (.error fault, n) => (.error fault, (unbind session n).2)
  | (.ok (), n) => (.ok session, n)

/-- The principal with the password that a session is opened for, if there is one. -/
def credentials? (settings : Settings) : Access → Option (String × String)
  | .readOnly => if settings.anonymousReadOnly then none else settings.credentials?
  | .readWrite => settings.credentials?
  | .authenticated principal credential => some (toString principal, credential)

/-- Opens a session. -/
def connect (access : Access) : Step Network Nat := fun n =>
  match n.settings.connection.encryption.check n.files with
  | .error fault => (.error fault, n)
  | .ok () =>
    match contactFirst (.invalid "No server URLs configured") n.settings.urls n with
    | (.error fault, n) => (.error fault, n)
    | (.ok session, n) =>
      match credentials? n.settings access with
      | none => (.ok session, n)
      | some credentials => bindSession session credentials n

/-! ### Writing -/

/-- Creates an entry. Every attribute needs a value. -/
def add (session : Nat) (name : DistinguishedName) (attributes : Attributes) : Step Network Unit :=
  fun n =>
    let sent := attributesToSend attributes
    if sent.any (·.2.isEmpty) then (.error (.protocol .noValuesToAdd), n)
    else perform session (.add (fullText n.settings.base name) sent) n

/-- Deletes an entry. -/
def delete (session : Nat) (name : DistinguishedName) : Step Network Unit := fun n =>
  perform session (.delete (fullText n.settings.base name)) n

/-- Changes the attributes of an entry. Values can only be added if there are some. -/
def modify (session : Nat) (name : DistinguishedName) (changes : List Change) :
    Step Network Unit := fun n =>
  if changes.any fun c => c.kind == .add && c.values.isEmpty then
    (.error (.protocol .noValuesToAdd), n)
  else perform session (.modify (fullText n.settings.base name) (changes.map changeToSend)) n

/-- Gives an entry another name: another relative name below another parent. -/
def rename (session : Nat) (old new : DistinguishedName) : Step Network Unit := fun n =>
  match new.leaf?, new.parent? with
  | some relative, some parent =>
    perform session
      (.rename (fullText n.settings.base old) (toString relative) (fullText n.settings.base parent)) n
  | _, _ => (.error (.malformedName "Cannot rename an entry to the root"), n)

/-- Each level of a tree that is listed uses up a reply, so that the script bounds the depth. -/
instance : DirectoryServer Network where
  Session := Nat
  Results := Results
  base n := n.settings.base
  depth n := n.script.length + 2
  connect := connect
  search := search
  next := next
  finish := finish
  add := add
  delete := delete
  modify := modify
  rename := rename
  disconnect := unbind
  remaining := remaining
  remaining_lt := remaining_next_lt

end DirectoryAccess.Wire.Network
