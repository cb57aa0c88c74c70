import DirectoryAccess.Security.Credentials
import DirectoryAccess.Server.Basic
import DirectoryAccess.Wire.Request

/-!
# The network

Everything that a client of a remote server meets: its settings and files, the addresses that it
contacts, and what the servers answer. What happens is written down in the order in which it happens.
Answers are given in the order of a script, whichever session a request is made on; when the script is
at its end, every request succeeds and finds nothing.
-/

namespace DirectoryAccess.Wire

/-- An entry in an answer: its full name and its attributes. -/
structure ReturnedEntry where
  /-- The full name. -/
  name : String
  /-- The attributes with their values. -/
  attributes : List (String × List Value) := []
  deriving DecidableEq, Repr

/-- An answer to a request. -/
structure Answer where
  /-- The result code. -/
  code : Nat := ResultCode.success
  /-- The part of the name that was found. -/
  matched : String := ""
  /-- The server's own text. -/
  text : String := ""
  /-- The entries that a search found. -/
  entries : List ReturnedEntry := []
  /-- Where the next page of a search starts, if there is one. -/
  cookie : List UInt8 := []
  /-- Whether no result follows the entries. -/
  unfinished : Bool := false
  deriving DecidableEq, Repr

/-- What a server does with a request. -/
inductive Reply where
  /-- It answers. -/
  | answer (a : Answer)
  /-- It closes the connection. -/
  | dropped
  /-- It does not answer. -/
  | silent
  deriving DecidableEq, Repr

/-- Something that happened. Sessions are numbered from zero. -/
inductive Event where
  /-- An address was contacted. -/
  | contacted (url : Url)
  /-- It accepted, and a session was opened. -/
  | opened (session : Nat)
  /-- A request was made on a session, and reached the server or not. -/
  | requested (session : Nat) (request : Request) (received : Bool)
  deriving DecidableEq, Repr

/-- The state of the network. -/
structure Network where
  /-- The settings of the client. -/
  settings : Settings
  /-- The files that the client can read. -/
  files : Files := []
  /-- What comes of an attempt to reach a target, given how many attempts there were before. -/
  reach : Nat → Url.Target → Except ProtocolFault Unit
  /-- What the servers do with the requests to come. -/
  script : List Reply := []
  /-- How many addresses have been contacted. -/
  contacts : Nat := 0
  /-- How many sessions have been opened. -/
  sessions : Nat := 0
  /-- The sessions whose connection the server has closed. -/
  lost : List Nat := []
  /-- What has happened, in order. -/
  events : List Event := []
  /-- Whether the client has broken down, so that the outcomes of its operations are void. -/
  brokenDown : Bool := false

/-- What comes of an attempt to reach a target where only the listed services of hosts listen. -/
def reachAmong (listening : List (String × Nat)) (_attempt : Nat) :
    Url.Target → Except ProtocolFault Unit
  | .host name service _ =>
    if listening.contains (name, service) then .ok ()
    else .error (.transport "Connection refused (os error 111)")
  | .socket _ => .error (.transport "No such file or directory (os error 2)")

/-- What comes of an attempt to reach a target where the hosts of other names cannot be looked up. -/
def lookingUp (names : List String) (reach : Nat → Url.Target → Except ProtocolFault Unit) (attempt : Nat) :
    Url.Target → Except ProtocolFault Unit
  | .host name service encrypted =>
    if names.contains name then reach attempt (.host name service encrypted)
    else
      .error (.transport "failed to lookup address information: Temporary failure in name resolution")
  | .socket path => reach attempt (.socket path)

namespace Network

/-- The network after an event. -/
def record (n : Network) (e : Event) : Network := { n with events := n.events ++ [e] }

/-- The requests that reached a server on a session, in order. -/
def receivedOn (n : Network) (session : Nat) : List Request :=
  n.events.filterMap fun
    | .requested id request true => if id = session then some request else none
    | _ => none

/-! ### Requests -/

/-- Takes the next reply from the script. -/
def takeReply (n : Network) : Reply × Network :=
  match n.script with
  | [] => (.answer {}, n)
  | reply :: rest => (reply, { n with script := rest })

/-- Makes a request on a session, and finds out what the server does with it. -/
def send (session : Nat) (request : Request) : Step Network Reply := fun n =>
  if session ∈ n.lost then
    (.error (.protocol .requestNotSent), n.record (.requested session request false))
  else
    let (reply, n) := (n.record (.requested session request true)).takeReply
    (.ok reply, if reply = .dropped then { n with lost := session :: n.lost } else n)

/-- The outcome that a result code stands for. -/
def outcomeOf (code : Nat) (matched text : String) : Except Fault Unit :=
  if code = ResultCode.success then .ok () else .error (.protocol (.result code matched text))

/-- Makes a request that is answered by a result alone. -/
def perform (session : Nat) (request : Request) : Step Network Unit := fun n =>
  match send session request n with
  | (.error fault, n) => (.error fault, n)
  | (.ok .dropped, n) => (.error (.protocol .answerLost), n)
  | (.ok .silent, n) => (.error (.protocol .timeout), n)
  | (.ok (.answer a), n) => (outcomeOf a.code a.matched a.text, n)

/-- Ends a session. No answer is expected. -/
def unbind (session : Nat) : Step Network Unit := fun n =>
  if session ∈ n.lost then
    (.error (.protocol .requestNotSent), n.record (.requested session .unbind false))
  else (.ok (), n.record (.requested session .unbind true))

end Network

end DirectoryAccess.Wire
