/-
**Where a connection to the source leads.**

The address of a connection, read as a locator or as options, with the user and the password of the
settings over those in the address.
-/

import SchemaFerry.Address.Locator
import SchemaFerry.Address.Options
import SchemaFerry.Settings.Family
import SchemaFerry.Settings.Tls

namespace SchemaFerry

namespace Address

/-- Reads an address. -/
def SourceAddress.ofText? (text : String) : Option SourceAddress :=
  match afterScheme? text.toList with
  | some rest => readLocator rest
  | none => readOptions text.length text.toList .empty

/-- The name under which the program connects. -/
def applicationName : String := "pg-oracle-migrate"

/-- What the address says that settings say too, with the settings over it. -/
def overridden (setting : String) (stated : Option String) : Option String :=
  if setting.isEmpty then stated else some setting

/-- Whether there is a host to connect to, and a port for each or one for all. -/
def SourceAddress.isComplete (address : SourceAddress) : Bool :=
  let hosts := max address.hosts.length address.numericHosts
  let paired :=
    address.hosts.isEmpty || address.numericHosts = 0 ||
      address.hosts.length = address.numericHosts
  hosts != 0 && paired && (address.ports.length ≤ 1 || address.ports.length = hosts)

end Address

/-- The address of a connection with the user and the password of its settings. -/
def Connection.sourceAddress (connection : Connection) : Except Fault Address.SourceAddress :=
  match Address.SourceAddress.ofText? (postgresAddress connection.address) with
  | some address => .ok {
      address with
      user := Address.overridden connection.user address.user
      password := Address.overridden connection.password address.password }
  | none => .error (.settings (.malformedAddress "invalid connection string"))

/-- A pool of connections to the source, none of which is open yet. -/
structure SourcePool where
  address : Address.SourceAddress
  tls : TlsMode
  size : Nat
  deriving Repr, DecidableEq

/-- The pool for a connection of the settings. -/
def Connection.sourcePool (connection : Connection) (size : Nat) : Except Fault SourcePool := do
  let address ← connection.sourceAddress
  let tls ← TlsMode.ofName connection.tlsMode
  return ⟨address, tls, size⟩

end SchemaFerry
