import DirectoryAccess.DistinguishedName.Basic

/-!
# Faults

Why an operation failed. A connection reports what happened on it: a failure of the local system, or of
the exchange with the server, which may be a result code. These are the raw faults. `Fault.classify`
puts a raw fault into the kind that callers can act on; all other faults are such kinds already.

`Fault.message` is the only place where a fault becomes text.
-/

namespace DirectoryAccess

/-- What went wrong in the exchange with a server. -/
inductive ProtocolFault where
  /-- The server answered with a result other than success: its code, the part of the name that was
  found, and its own text. -/
  | result (code : Nat) (matched text : String)
  /-- The transport failed. -/
  | transport (text : String)
  /-- No answer came in time. -/
  | timeout
  /-- The address of a local socket names no path. -/
  | emptySocketPath
  /-- The path of a local socket holds a colon. -/
  | colonInSocketPath
  /-- The text of a filter is no filter. -/
  | filterSyntax
  /-- The connection ended within a search. -/
  | endOfStream
  /-- The address has a scheme that is not served. -/
  | unknownScheme (scheme : String)
  /-- An attribute to be added has no values. -/
  | noValuesToAdd
  /-- A search could not be set up. -/
  | searchSetup (text : String)
  /-- A text from the server is not well-formed UTF-8. -/
  | notUtf8
  /-- The address has an unknown scope. -/
  | invalidScope (text : String)
  /-- The address has an unknown extension marked as critical. -/
  | criticalExtension (text : String)
  /-- The connection ended before a request could be sent. -/
  | requestNotSent
  /-- The connection ended before the answer came. -/
  | answerLost
  deriving DecidableEq, Repr

/-- Why an operation failed. -/
inductive Fault where
  /-- The name does not exist in the directory. -/
  | nameNotFound (text : String)
  /-- An entry with the name exists already. -/
  | nameAlreadyBound (text : String)
  /-- The entry still has entries below it. -/
  | notALeaf (text : String)
  /-- A limit on size, time or resources was reached. -/
  | limitExceeded (text : String)
  /-- The server returned part of the result only. -/
  | partialResult (text : String)
  /-- A name could not be read or made. -/
  | malformedName (text : String)
  /-- A filter cannot hold the value. -/
  | invalidFilter (text : String)
  /-- The directory refused the credential. -/
  | authentication (text : String)
  /-- The principal lacks the rights for the operation. -/
  | noPermission (text : String)
  /-- The server could not be reached, or did not answer. -/
  | communication (text : String)
  /-- One entry was expected, and none was found. -/
  | emptyResult
  /-- Another number of entries was expected than was found. -/
  | incorrectResultCount (expected actual : Nat)
  /-- A context cannot be used in this way in its present state. -/
  | illegalState (text : String)
  /-- Any other failure of the directory, with its result code if it has one. -/
  | directoryOperation (code : Option Nat) (text : String)
  /-- Data does not have the expected form. -/
  | invalid (text : String)
  /-- Raw: the local system failed, for instance to read a file. -/
  | system (text : String)
  /-- Raw: the exchange with the server failed. -/
  | protocol (p : ProtocolFault)
  deriving DecidableEq, Repr

/-- A name that is not well formed fails the operation that it was given to. -/
def Fault.ofName (e : NameError) : Fault := .malformedName e.message

/-! ### Result codes -/

namespace ResultCode

/-- The operation succeeded. -/
def success : Nat := 0
/-- The size limit was reached. -/
def sizeLimitExceeded : Nat := 4
/-- The server refers to another one. -/
def referral : Nat := 10
/-- The name does not exist. -/
def noSuchObject : Nat := 32
/-- The credential is wrong. -/
def invalidCredentials : Nat := 49
/-- The entry has entries below it. -/
def notAllowedOnNonLeaf : Nat := 66
/-- The name exists already. -/
def entryAlreadyExists : Nat := 68
/-- The search was given up. -/
def abandoned : Nat := 88

/-- The name of a result code. -/
def describe : Nat → String
  | 0 => "success"
  | 1 => "operationsError"
  | 2 => "protocolError"
  | 3 => "timeLimitExceeded"
  | 4 => "sizeLimitExceeded"
  | 5 => "compareFalse"
  | 6 => "compareTrue"
  | 7 => "authMethodNotSupported"
  | 8 => "strongerAuthRequired"
  | 10 => "referral"
  | 11 => "adminLimitExceeded"
  | 12 => "unavailableCriticalExtension"
  | 13 => "confidentialityRequired"
  | 14 => "saslBindInProgress"
  | 16 => "noSuchAttribute"
  | 17 => "undefinedAttributeType"
  | 18 => "inappropriateMatching"
  | 19 => "constraintViolation"
  | 20 => "attributeOrValueExists"
  | 21 => "invalidAttributeSyntax"
  | 32 => "noSuchObject"
  | 33 => "aliasProblem"
  | 34 => "invalidDNSyntax"
  | 36 => "aliasDereferencingProblem"
  | 48 => "inappropriateAuthentication"
  | 49 => "invalidCredentials"
  | 50 => "insufficientAccessRights"
  | 51 => "busy"
  | 52 => "unavailable"
  | 53 => "unwillingToPerform"
  | 54 => "loopDetect"
  | 64 => "namingViolation"
  | 65 => "objectClassViolation"
  | 66 => "notAllowedOnNonLeaf"
  | 67 => "notAllowedOnRDN"
  | 68 => "entryAlreadyExists"
  | 69 => "objectClassModsProhibited"
  | 71 => "affectsMultipleDSAs"
  | 80 => "other"
  | 88 => "abandoned"
  | 122 => "assertionFailed"
  | _ => "unknown"

end ResultCode

/-- The raw fault of a result code alone. -/
def Fault.ofCode (code : Nat) : Fault := .protocol (.result code "" "")

/-! ### Kinds -/

/-- Whether the fault is reported as it came from the connection. -/
def Fault.isRaw : Fault → Bool
  | .system _ | .protocol _ => true
  | _ => false

/-- The text of a raw fault of the exchange with a server. -/
def ProtocolFault.message : ProtocolFault → String
  | .result code matched text =>
    s!"LDAP operation result: rc={code} ({ResultCode.describe code}), dn: " ++
      "\"" ++ matched ++ "\", text: \"" ++ text ++ "\""
  | .transport text => s!"I/O error: {text}"
  | .timeout => "timeout: deadline has elapsed"
  | .emptySocketPath => "empty Unix domain socket path"
  | .colonInSocketPath => "the port must be empty in the ldapi scheme"
  | .filterSyntax => "filter parse error"
  | .endOfStream => "premature end of search stream"
  | .unknownScheme scheme => s!"unknown LDAP URL scheme: {scheme}"
  | .noValuesToAdd => "empty value set for Add"
  | .searchSetup text => s!"adapter init error: {text}"
  | .notUtf8 => "utf8 decoding error"
  | .invalidScope text => s!"invalid scope string in LDAP URL: {text}"
  | .criticalExtension text => s!"unrecognized critical LDAP URL extension: {text}"
  | .requestNotSent => "op send error: channel closed"
  | .answerLost => "result recv error: channel closed"

/-- What a result tells the caller: the server's own text, or else the code with the part of the name
that was found. -/
def describeResult (code : Nat) (matched text : String) : String :=
  if text ≠ "" then text
  else if matched ≠ "" then s!"result code {code} (matched '{matched}')"
  else s!"result code {code}"

/-- The kind of failure that a result code stands for. -/
def Fault.ofResult (code : Nat) (matched text : String) : Fault :=
  let reason := describeResult code matched text
  match code with
  | 3 | 4 | 11 => .limitExceeded reason
  | 9 | 10 => .partialResult reason
  | 32 => .nameNotFound reason
  | 34 => .malformedName reason
  | 48 | 49 => .authentication reason
  | 50 => .noPermission reason
  | 51 | 52 => .communication reason
  | 66 => .notALeaf reason
  | 68 => .nameAlreadyBound reason
  | _ => .directoryOperation (some code) reason

/-- The kind of failure that a fault stands for; a fault that is not raw stands for itself. -/
def Fault.classify : Fault → Fault
  | .system text => .communication text
  | .protocol (.result code matched text) => .ofResult code matched text
  | .protocol (.transport text) => .communication (ProtocolFault.transport text).message
  | .protocol .timeout => .communication ProtocolFault.timeout.message
  | .protocol p => .directoryOperation none p.message
  | fault => fault

/-- The text of a fault. -/
def Fault.message : Fault → String
  | .nameNotFound text => s!"Name not found: {text}"
  | .nameAlreadyBound text => s!"Name already bound: {text}"
  | .notALeaf text => s!"Entry is not a leaf: {text}"
  | .limitExceeded text => s!"Limit exceeded: {text}"
  | .partialResult text => s!"Partial results: {text}"
  | .malformedName text => s!"Malformed name: {text}"
  | .invalidFilter text => s!"Invalid filter value: {text}"
  | .authentication text => s!"Authentication failed: {text}"
  | .noPermission text => s!"Insufficient access rights: {text}"
  | .communication text => s!"Communication failure: {text}"
  | .emptyResult => "Expected exactly one result, found none"
  | .incorrectResultCount expected actual =>
    s!"Incorrect result count: expected {expected}, found {actual}"
  | .illegalState text => s!"Illegal operation state: {text}"
  | .directoryOperation _ text => s!"Directory operation failed: {text}"
  | .invalid text => s!"Invalid data: {text}"
  | .system text => text
  | .protocol p => p.message

end DirectoryAccess
