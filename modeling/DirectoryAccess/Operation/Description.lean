import DirectoryAccess.DistinguishedName.Canonical
import DirectoryAccess.Server.Basic
import DirectoryAccess.Text.Quoted

/-!
# Descriptions

The texts that describe an open connection and a client of the directory to a person who reads a log.
They show no more than is needed to tell one from another.
-/

namespace DirectoryAccess

/-- The word for what a connection is for. -/
def AccessMode.describe : AccessMode → String
  | .readOnly => "ReadOnly"
  | .readWrite => "ReadWrite"
  | .authenticated => "Authenticated"

/-- The text that describes an open connection. -/
def Connection.describe {σ : Type} [DirectoryServer σ] (c : Connection σ) : String :=
  "ConnectionHandle \x7b mode: " ++ c.mode.describe ++ ", released: false, .. \x7d"

/-- The text that describes a client: the base of its names, and whether it accepts partial results. -/
def describeClient (base : DistinguishedName) (ignorePartial : Bool) : String :=
  "DirectoryTemplate \x7b base: " ++ Text.quoted (toString base) ++
    ", ignore_partial_result: " ++ toString ignorePartial ++ ", .. \x7d"

end DirectoryAccess
