import DirectoryAccess.DistinguishedName.Basic
import DirectoryAccess.Time.Duration
import DirectoryAccess.Wire.Url

/-!
# Settings

What a client has to be told before it can connect: the addresses of the servers, the base of all names,
the principal it acts as, and how the connection is made.
-/

namespace DirectoryAccess

/-- How a connection is encrypted. Paths lead to files in the privacy-enhanced mail form. -/
structure EncryptionSettings where
  /-- Whether an open connection is switched to encryption. -/
  startEncryption : Bool := false
  /-- Whether the certificate of the server is taken without a check. -/
  skipVerification : Bool := false
  /-- The path of the certificates that are trusted. -/
  rootCertificates? : Option String := none
  /-- The path of the private key of the client. -/
  clientKey? : Option String := none
  /-- The path of the certificates of the client. -/
  clientCertificates? : Option String := none
  deriving DecidableEq, Repr

/-- How a connection is made. -/
structure ConnectionSettings where
  /-- How many seconds a connection may take to be made. -/
  timeout : Nat := 5
  /-- How long an operation may wait for an answer. -/
  operationTimeout : Duration := ⟨30, 0⟩
  /-- How the connection is encrypted. -/
  encryption : EncryptionSettings := {}
  deriving DecidableEq, Repr

/-- What a client is told. -/
structure Settings where
  /-- The addresses of the servers, in the order in which they are tried. -/
  urls : List Url
  /-- The name that all names are relative to. -/
  base : DistinguishedName := .root
  /-- The principal that the client acts as; empty for none. -/
  principal : String := ""
  /-- The password of the principal. -/
  password : String := ""
  /-- Whether connections to read are made without the principal. -/
  anonymousReadOnly : Bool := false
  /-- Whether partial results are accepted. -/
  ignorePartial : Bool := false
  /-- How many entries are asked for at once, if results are asked for in pages. -/
  pageSize? : Option Int := none
  /-- How a connection is made. -/
  connection : ConnectionSettings := {}
  deriving DecidableEq, Repr

namespace Settings

/-- The addresses as one text. -/
def addresses (s : Settings) : String := " ".intercalate (s.urls.map Url.text)

/-- The principal with its password, unless there is none. -/
def credentials? (s : Settings) : Option (String × String) :=
  if s.principal = "" then none else some (s.principal, s.password)

end Settings

end DirectoryAccess
