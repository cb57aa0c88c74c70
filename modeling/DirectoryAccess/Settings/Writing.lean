import DirectoryAccess.DistinguishedName.Canonical
import DirectoryAccess.Settings.Basic
import DirectoryAccess.Settings.JsonValue

/-!
# Writing settings

Settings are written as a JSON object with every field, in the form in which they are read. A value that
is absent is written as null.
-/

namespace DirectoryAccess

/-- Writes a duration. -/
def Duration.toJson (d : Duration) : JsonValue :=
  .object [("secs", .ofInt d.seconds), ("nanos", .ofInt d.nanos)]

/-- The fields of the settings of encryption with their values. -/
def EncryptionSettings.fields (e : EncryptionSettings) : JsonRecord :=
  [("starttls", .bool e.startEncryption), ("no_tls_verify", .bool e.skipVerification),
    ("root_certificates_path", .ofOption .text e.rootCertificates?),
    ("client_key_path", .ofOption .text e.clientKey?),
    ("client_certificate_path", .ofOption .text e.clientCertificates?)]

/-- Writes the settings of encryption. -/
def EncryptionSettings.toJson (e : EncryptionSettings) : JsonValue := .object e.fields

/-- The fields of the settings of a connection with their values. -/
def ConnectionSettings.fields (c : ConnectionSettings) : JsonRecord :=
  [("timeout", .ofInt c.timeout), ("operation_timeout", c.operationTimeout.toJson),
    ("tls", c.encryption.toJson)]

/-- Writes the settings of a connection. -/
def ConnectionSettings.toJson (c : ConnectionSettings) : JsonValue := .object c.fields

/-- The fields of settings with their values. -/
def Settings.fields (s : Settings) : JsonRecord :=
  [("urls", .list (s.urls.map fun url => .text url.text)), ("base", .text (toString s.base)),
    ("user_dn", .text s.principal), ("password", .text s.password),
    ("anonymous_read_only", .bool s.anonymousReadOnly),
    ("ignore_partial_result", .bool s.ignorePartial),
    ("page_size", .ofOption .ofInt s.pageSize?), ("connection", s.connection.toJson)]

/-- Writes settings. -/
def Settings.toJson (s : Settings) : JsonValue := .object s.fields

end DirectoryAccess
