import DirectoryAccess.Fault
import DirectoryAccess.Security.Der
import DirectoryAccess.Security.Pem
import DirectoryAccess.Settings.Basic

/-!
# Certificates and keys of a client

Before a client connects, the files that its settings name are read: the certificates it trusts, and its
own certificates with their key. They are read only where certificates to be trusted are named.
-/

namespace DirectoryAccess

/-- The files that can be read, by path. -/
abbrev Files := List (String × String)

/-- Reads a file. -/
def Files.read (files : Files) (path : String) : Except Fault String :=
  match files.lookup path with
  | some content => .ok content
  | none => .error (.system "No such file or directory (os error 2)")

/-- The certificates of a file, of which there has to be one. -/
def certificates (file : String) : Except Fault (List (List UInt8)) :=
  match Pem.contents? "CERTIFICATE" file with
  | none => .error (.invalid "Could not parse PEM certificates")
  | some [] => .error (.invalid "No certificate found")
  | some found => .ok found

/-- The first private key of a file. -/
def privateKey (file : String) : Except Fault (List UInt8) :=
  match Pem.contents? "PRIVATE KEY" file with
  | none => .error (.invalid "Could not parse PEM private key")
  | some [] => .error (.invalid "No PKCS8 private key found")
  | some (key :: _) => .ok key

/-- Whether a file holds a certificate that can be trusted. -/
def trusts (file : String) : Bool :=
  match certificates file with
  | .ok found => found.any Der.isCertificate
  | .error _ => false

namespace EncryptionSettings

/-- Checks the client's own certificates and their key; either both are named or neither. -/
def checkIdentity (e : EncryptionSettings) (files : Files) : Except Fault Unit :=
  match e.clientKey?, e.clientCertificates? with
  | none, none => .ok ()
  | some keyPath, some certificatePath => do
    let _ ← certificates (← files.read certificatePath)
    let key ← privateKey (← files.read keyPath)
    if Der.isSigningKey key then .ok ()
    else .error (.invalid "Could not read client certificates")
  | _, _ =>
    .error (.invalid "Both a client certificate and key file in PKCS8 format must be specified")

/-- Checks the files that the settings name. -/
def check (e : EncryptionSettings) (files : Files) : Except Fault Unit :=
  match e.rootCertificates? with
  | none => .ok ()
  | some path => do
    let file ← files.read path
    if trusts file then e.checkIdentity files
    else .error (.invalid "Could not read root certificate")

end EncryptionSettings

end DirectoryAccess
