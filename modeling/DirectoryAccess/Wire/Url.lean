import DirectoryAccess.Fault
import DirectoryAccess.Text.Blank
import DirectoryAccess.Wire.Host

/-!
# Addresses of servers

A server is addressed by a URL: a scheme, and for most schemes a host, with or without the number of a
service on it. What comes after the host does not matter here. `Url.parse?` takes a URL apart,
`Url.target` says where it leads.
-/

namespace DirectoryAccess

/-- The address of a server. -/
structure Url where
  /-- The whole text. -/
  text : String
  /-- The scheme, in lower case. -/
  scheme : String
  /-- The host, if the URL names one; it may be empty. -/
  host? : Option String := none
  /-- The number of the service on the host, if the URL gives one. -/
  service? : Option Nat := none
  deriving DecidableEq, Repr

namespace Url

/-! ### Taking a URL apart -/

/-- The schemes whose hosts are looked up and cannot be left out. -/
def lookedUpSchemes : List String := ["http", "https", "ws", "wss", "ftp"]

/-- Whether a character can stand in a scheme after its first letter. -/
def isSchemeChar (c : Char) : Bool := c.isAlphanum || c == '+' || c == '-' || c == '.'

/-- The text of a URL without what is passed over: spaces and controls at its ends, and tabs and line
breaks anywhere. -/
def essence (text : List Char) : List Char :=
  let isSpare (c : Char) := c.toNat ≤ 0x20
  (Text.dropEndWhile isSpare (text.dropWhile isSpare)).filter fun c =>
    !(['\t', '\n', '\r'].contains c)

/-- Cuts the number of the service off a host: the text after the last colon that is not between
brackets. -/
def cutService (s : List Char) : List Char × Option (List Char) :=
  let number := (s.reverse.takeWhile fun c => c != ':' && c != ']').reverse
  let front := s.take (s.length - number.length)
  if front.getLast? == some ':' then (front.dropLast, some number) else (s, none)

/-- The number of a service, if the digits give one; it has sixteen bits. -/
def serviceNumber? : List Char → Option (Option Nat)
  | [] => some none
  | digits => (Host.numberIn? 10 digits).bind fun n => if n < 0x10000 then some (some n) else none

/-- Reads the part of a URL that names the server: credentials, host and service. -/
def parseAuthority? (lookedUp : Bool) (authority : List Char) :
    Option (String × Option Nat) := do
  let (name, number?) := cutService (authority.reverse.takeWhile (· != '@')).reverse
  let service? ← serviceNumber? (number?.getD [])
  let incomplete := authority.contains '@' || number?.isSome || lookedUp
  if name.isEmpty && incomplete then none
  else if Host.isHost lookedUp name then some (String.ofList name, service?)
  else none

/-- Reads the host of a file, which may be left out, or be the letter of a drive. -/
def parseFileHost? (host : List Char) : Option String :=
  match host with
  | [] => some ""
  | [drive, mark] => if drive.isAlpha && (mark == ':' || mark == '|') then some "" else plain?
  | _ => plain?
where
  plain? : Option String := if Host.isHost true host then some (String.ofList host) else none

/-- Takes a URL apart. -/
def parse? (text : String) : Option Url :=
  let whole := essence text.toList
  let scheme := whole.takeWhile isSchemeChar
  match scheme, whole.drop scheme.length with
  | first :: _, ':' :: rest =>
    let scheme := (String.ofList scheme).toLower
    let isSlash (c : Char) := c == '/' || c == '\\'
    let withHost (parts : String × Option Nat) : Url :=
      { text, scheme, host? := some parts.1, service? := parts.2 }
    if !first.isAlpha then none
    else if lookedUpSchemes.contains scheme then
      (parseAuthority? true ((rest.dropWhile isSlash).takeWhile fun c =>
        !(isSlash c || c == '?' || c == '#'))).map withHost
    else
      match rest with
      | a :: b :: rest =>
        if scheme = "file" ∧ isSlash a ∧ isSlash b then
          (parseFileHost? (rest.takeWhile fun c => !(isSlash c || c == '?' || c == '#'))).map
            fun host => withHost (host, none)
        else if scheme ≠ "file" ∧ a = '/' ∧ b = '/' then
          (parseAuthority? false (rest.takeWhile fun c => !(['/', '?', '#'].contains c))).map withHost
        else some { text, scheme }
      | _ => some { text, scheme }
  | _, _ => none

example : (parse? "ldap://[::1]:1389/x").map (fun url => (url.host?, url.service?))
    = some (some "[::1]", some 1389) := by decide +kernel

/-! ### Where an address leads -/

/-- Where a connection is made to. -/
inductive Target where
  /-- A service on a host, and whether the connection is encrypted from its start. -/
  | host (name : String) (service : Nat) (encrypted : Bool)
  /-- A socket in the file system. -/
  | socket (path : String)
  deriving DecidableEq, Repr

/-- Replaces each percent sign with two hexadecimal digits by the byte they spell. -/
def percentDecoded : List Char → List UInt8
  | [] => []
  | '%' :: h :: l :: rest =>
    match Text.hexByte? h l with
    | some b => b :: percentDecoded rest
    | none => String.utf8EncodeChar '%' ++ percentDecoded (h :: l :: rest)
  | c :: rest => String.utf8EncodeChar c ++ percentDecoded rest

/-- Where a URL leads. The host of a local address is the path of a socket; the other schemes have a
service of their own, for addresses that give none. -/
def target (url : Url) : Except ProtocolFault Target :=
  let host := url.host?.getD ""
  let remote := if host.isEmpty then "localhost" else host
  match url.scheme with
  | "ldap" => .ok (.host remote (url.service?.getD 389) false)
  | "ldaps" => .ok (.host remote (url.service?.getD 636) true)
  | "ldapi" =>
    if host.isEmpty then .error .emptySocketPath
    else if host.toList.contains ':' then .error .colonInSocketPath
    else .ok (.socket ((Text.ofBytes? (percentDecoded host.toList)).getD host))
  | scheme => .error (.unknownScheme scheme)

end Url

end DirectoryAccess
