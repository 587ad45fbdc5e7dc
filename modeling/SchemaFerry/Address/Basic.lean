/-
**Addresses of the source.**

What the address of a connection to the source says: the hosts with their ports, the database, the
user and the password. `withOption` takes one option of an address by its name.
-/

import SchemaFerry.Address.Internet
import SchemaFerry.Text.Split

namespace SchemaFerry.Address

open SchemaFerry.Text

/-- A host of the network, or a directory of local sockets. -/
inductive Host where
  | network (name : String)
  | directory (path : String)
  deriving Repr, DecidableEq

/-- An address of the source. The numeric addresses of the hosts are only counted. -/
structure SourceAddress where
  user : Option String
  password : Option String
  database : Option String
  hosts : List Host
  numericHosts : Nat
  ports : List Nat
  deriving Repr, DecidableEq

namespace SourceAddress

/-- An address that says nothing. -/
def empty : SourceAddress :=
  ⟨none, none, none, [], 0, []⟩

/-- The address with one more host; one that starts with a slash is a directory. -/
def withHost (address : SourceAddress) (name : String) : SourceAddress :=
  let host := if name.toList.head? == some '/' then .directory name else .network name
  { address with hosts := address.hosts ++ [host] }

/-- The port where none is given. -/
def standardPort : Nat := 5432

/-- A port; none given is the standard one. -/
def port? (text : String) : Option Nat :=
  if text.isEmpty then some standardPort else Number.natural? 10 65535 text.toList

/-- Whether a text is one of those that an option takes. -/
def isOneOf (choices : List String) (value : String) : Bool :=
  choices.contains value

/-- Whether a text is an integer of 64 bits. -/
def isInteger (value : String) : Bool :=
  (Number.integer? 10 Number.minInt64 Number.maxInt64 value.toList).isSome

/-- Whether a text is a natural number up to a limit. -/
def isNatural (limit : Nat) (value : String) : Bool :=
  (Number.natural? 10 limit value.toList).isSome

/-- Whether an option that says nothing about where to connect may have a value. -/
def acceptsOption (key value : String) : Bool :=
  match key with
  | "options" | "application_name" => true
  | "sslmode" => isOneOf ["disable", "prefer", "require"] value
  | "sslnegotiation" => isOneOf ["postgres", "direct"] value
  | "connect_timeout" | "tcp_user_timeout" | "keepalives_idle" | "keepalives_interval" =>
    isInteger value
  | "keepalives" => isNatural Number.maxNat64 value
  | "keepalives_retries" => isNatural 0xFFFFFFFF value
  | "target_session_attrs" => isOneOf ["any", "read-write", "read-only"] value
  | "channel_binding" => isOneOf ["disable", "prefer", "require"] value
  | "load_balance_hosts" => isOneOf ["disable", "random"] value
  | _ => false

/-- The address with one more option; unknown options and values are refused. -/
def withOption (address : SourceAddress) (key value : String) : Option SourceAddress :=
  match key with
  | "user" => some { address with user := some value }
  | "password" => some { address with password := some value }
  | "dbname" => some { address with database := some value }
  | "host" => some ((pieces ',' value).foldl withHost address)
  | "hostaddr" =>
    let numeric := pieces ',' value
    if numeric.all fun text => isInternetAddress text.toList then
      some { address with numericHosts := address.numericHosts + numeric.length }
    else none
  | "port" =>
    ((pieces ',' value).mapM port?).map fun ports =>
      { address with ports := address.ports ++ ports }
  | _ => if acceptsOption key value then some address else none

end SourceAddress

end SchemaFerry.Address
