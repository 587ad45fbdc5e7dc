/-
**Families of databases.**

The family behind a connection is named by its driver or, where none is given, told from the shape
of its address. The address is then put into the form that the client of that family takes.
-/

import SchemaFerry.Fault
import SchemaFerry.Settings.Basic
import SchemaFerry.Text.Blank
import SchemaFerry.Text.LetterCase
import SchemaFerry.Text.Split

namespace SchemaFerry

open SchemaFerry.Text

/-- The family of a database: that of the source or that of the destination. -/
inductive Family where
  | postgres
  | oracle
  deriving Repr, DecidableEq

/-- The lead of an address of the source's family in the long form. -/
def postgresLead : String := "jdbc:postgresql:"

/-- The lead of an address of the destination's family in the long form. -/
def oracleLead : String := "jdbc:oracle:thin:@"

/-- The family that an address in small letters tells of. -/
def Family.ofAddress (letters : List Char) : Family :=
  let startsWith := fun (lead : String) => lead.toList.isPrefixOf letters
  if startsWith "jdbc:oracle:" then .oracle
  else if startsWith postgresLead || startsWith "postgres://" || startsWith "postgresql://" ||
    holds "host=".toList letters then .postgres
  else .oracle

/-- The family behind a connection. -/
def Connection.family (connection : Connection) : Except Fault Family :=
  match connection.driver with
  | some driver =>
    match lowercased driver with
    | "postgres" | "postgresql" | "org.postgresql.driver" => .ok .postgres
    | "oracle" | "oracle.jdbc.oracledriver" | "oracle.jdbc.driver.oracledriver" => .ok .oracle
    | other => .error (.settings (.unsupportedDriver other))
  | none => .ok (Family.ofAddress (lower (trim connection.address.toList)))

/-- The letters before the first mark, or all of them. -/
def upToFirst (mark : Char) (letters : List Char) : List Char :=
  letters.takeWhile (· != mark)

/-- An address as the client of the source takes it: without the lead of the long form and the
options that go with it. -/
def postgresAddress (address : String) : String :=
  let letters := trim address.toList
  match afterLead? postgresLead.toList letters with
  | some rest => "postgresql:" ++ String.ofList (upToFirst '?' rest)
  | none => String.ofList letters

/-- An address as the client of the destination takes it: without the lead of the long form; a host,
a port and an instance become a descriptor. -/
def oracleAddress (address : String) : String :=
  let letters := trim address.toList
  match afterLead? oracleLead.toList letters with
  | none => String.ofList letters
  | some rest =>
    if "//".toList.isPrefixOf rest || rest.head? == some '(' then String.ofList rest
    else
      match splitAtEach ':' rest with
      | [host, port, instanceName] =>
        "(DESCRIPTION=(ADDRESS=(PROTOCOL=TCP)(HOST=" ++ String.ofList host ++ ")(PORT=" ++
          String.ofList port ++ "))(CONNECT_DATA=(SID=" ++ String.ofList instanceName ++ ")))"
      | _ => String.ofList rest

end SchemaFerry
