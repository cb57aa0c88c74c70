import DirectoryAccess.DistinguishedName.Reading
import DirectoryAccess.Settings.Basic
import DirectoryAccess.Settings.JsonValue

/-!
# Reading settings

Settings are read from a JSON value. The addresses have to be given, and of a connection both of its
limits; all else has a value of its own. Fields that are not known are passed over, except in a duration.
-/

namespace DirectoryAccess

/-- The greatest number of 32 bits. -/
def greatest32 : Nat := 0xFFFFFFFF

/-- The greatest number of 64 bits. -/
def greatest64 : Nat := 0xFFFFFFFFFFFFFFFF

/-- Reads a duration. -/
def Duration.ofJson? (v : JsonValue) : Option Duration := do
  let r ← v.record? ["secs", "nanos"] 2
  if r.all fun field => ["secs", "nanos"].contains field.1 then
    Duration.make? (← r.required "secs" (·.nat? greatest64)) (← r.required "nanos" (·.nat? greatest32))
  else none

/-- The fields of the settings of encryption, in their order. -/
def EncryptionSettings.fieldNames : List String :=
  ["starttls", "no_tls_verify", "root_certificates_path", "client_key_path",
   "client_certificate_path"]

/-- Reads the settings of encryption. -/
def EncryptionSettings.ofJson? (v : JsonValue) : Option EncryptionSettings := do
  let r ← v.record? fieldNames 5
  return { startEncryption := ← r.defaulted "starttls" false JsonValue.bool?
           skipVerification := ← r.defaulted "no_tls_verify" false JsonValue.bool?
           rootCertificates? := ← r.optional "root_certificates_path" JsonValue.text?
           clientKey? := ← r.optional "client_key_path" JsonValue.text?
           clientCertificates? := ← r.optional "client_certificate_path" JsonValue.text? }

/-- The fields of the settings of a connection, in their order. -/
def ConnectionSettings.fieldNames : List String := ["timeout", "operation_timeout", "tls"]

/-- Reads the settings of a connection. -/
def ConnectionSettings.ofJson? (v : JsonValue) : Option ConnectionSettings := do
  let r ← v.record? fieldNames 2
  return { timeout := ← r.required "timeout" (·.nat? greatest64)
           operationTimeout := ← r.required "operation_timeout" Duration.ofJson?
           encryption := ← r.defaulted "tls" {} EncryptionSettings.ofJson? }

/-- Reads the address of a server; `readUrl` takes its text apart. -/
def Url.ofJsonWith? (readUrl : String → Option Url) (v : JsonValue) : Option Url :=
  v.text?.bind readUrl

/-- Reads a name from its text. -/
def DistinguishedName.ofJson? (v : JsonValue) : Option DistinguishedName :=
  v.text?.bind fun text => (DistinguishedName.parse text).toOption

namespace Settings

/-- The fields of the settings, in their order. -/
def fieldNames : List String :=
  ["urls", "base", "user_dn", "password", "anonymous_read_only", "ignore_partial_result", "page_size",
   "connection"]

/-- Reads settings; `readUrl` takes the addresses of the servers apart. -/
def ofJsonWith? (readUrl : String → Option Url) (v : JsonValue) : Option Settings := do
  let r ← v.record? fieldNames 1
  return { urls := ← r.required "urls" (·.list? (Url.ofJsonWith? readUrl))
           base := ← r.defaulted "base" .root DistinguishedName.ofJson?
           principal := ← r.defaulted "user_dn" "" JsonValue.text?
           password := ← r.defaulted "password" "" JsonValue.text?
           anonymousReadOnly := ← r.defaulted "anonymous_read_only" false JsonValue.bool?
           ignorePartial := ← r.defaulted "ignore_partial_result" false JsonValue.bool?
           pageSize? := ← r.optional "page_size" (·.int? (-0x80000000) 0x7FFFFFFF)
           connection := ← r.defaulted "connection" {} ConnectionSettings.ofJson? }

/-- Reads settings. -/
def ofJson? : JsonValue → Option Settings := ofJsonWith? Url.parse?

end Settings

end DirectoryAccess
