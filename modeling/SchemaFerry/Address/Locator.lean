/-
**Addresses as locators.**

An address of the form `user:password@host:port,host:port/database?key=value&key=value`, every part
of which may be missing. Characters may be written as percent signs with two hexadecimal digits.
-/

import SchemaFerry.Address.Basic
import SchemaFerry.Text.Utf8

namespace SchemaFerry.Address

open SchemaFerry.Text

/-- Octets with every percent sign and its two digits replaced by the octet they stand for. -/
def unescapedOctets : List UInt8 → List UInt8
  | [] => []
  | [octet] => [octet]
  | [first, second] => [first, second]
  | octet :: high :: low :: rest =>
    let value? := do
      let upper ← hexValue? (Char.ofNat high.toNat)
      let lower ← hexValue? (Char.ofNat low.toNat)
      if octet.toNat = 37 then some (16 * upper + lower) else none
    match value? with
    | some value => UInt8.ofNat value :: unescapedOctets rest
    | none => octet :: unescapedOctets (high :: low :: rest)

/-- The octets of a part of a locator. -/
def partOctets (letters : List Char) : List UInt8 :=
  unescapedOctets (utf8 (String.ofList letters))

/-- The text of a part of a locator, unless its octets are no text. -/
def partText? (letters : List Char) : Option String :=
  ofUtf8? (partOctets letters)

/-- The letters before the first of some marks, and those from it on. -/
def splitBefore (marks : List Char) (letters : List Char) : List Char × List Char :=
  (letters.takeWhile fun letter => !marks.contains letter,
    letters.dropWhile fun letter => !marks.contains letter)

/-- The letters before the first colon, and those after it if there is one. -/
def atFirstColon (letters : List Char) : List Char × Option (List Char) :=
  match cutAtFirst? ':' letters with
  | some (before, after) => (before, some after)
  | none => (letters, none)

/-- A host; octets that start with a slash are a directory. -/
def withHostPart (address : SourceAddress) (letters : List Char) : Option SourceAddress :=
  let octets := partOctets letters
  if octets.head?.any (·.toNat == 47) then
    some { address with hosts := address.hosts ++ [.directory (ofUtf8Lossy octets)] }
  else (ofUtf8? octets).map address.withHost

/-- The user and the password before the first at sign. -/
def readCredentials (letters : List Char) : Option (SourceAddress × List Char) :=
  match cutAtFirst? '@' letters with
  | none => some (.empty, letters)
  | some (credentials, rest) => do
    let (user, password) := atFirstColon credentials
    let userText ← partText? user
    let passwordText := password.map fun letters => ofUtf8Lossy (partOctets letters)
    return ({ SourceAddress.empty with user := some userText, password := passwordText }, rest)

/-- A host and its port; a host with colons stands in brackets. -/
def hostAndPort? (letters : List Char) : Option (List Char × Option (List Char)) :=
  match letters with
  | '[' :: rest => do
    let (host, after) ← cutAtFirst? ']' rest
    match after with
    | [] => return (host, none)
    | ':' :: port => return (host, some port)
    | _ => none
  | _ => some (atFirstColon letters)

/-- The address with one more host and its port. -/
def withHostChunk (address : SourceAddress) (letters : List Char) : Option SourceAddress := do
  let (host, port) ← hostAndPort? letters
  let withHost ← withHostPart address host
  withHost.withOption "port" (← partText? (port.getD (toString SourceAddress.standardPort).toList))

/-- The hosts and their ports. -/
def withHosts (address : SourceAddress) (letters : List Char) : Option SourceAddress :=
  if letters.isEmpty then some address
  else (splitAtEach ',' letters).foldlM withHostChunk address

/-- The options after the question mark, given a bound on their number. -/
def withParameters : Nat → List Char → SourceAddress → Option SourceAddress
  | 0, _, address => some address
  | steps + 1, letters, address =>
    if letters.isEmpty then some address
    else do
      let (key, afterKey) ← cutAtFirst? '=' letters
      let keyText ← partText? key
      let (value, rest) := (cutAtFirst? '&' afterKey).getD (afterKey, [])
      let extended ←
        if keyText == "host" then withHostPart address value
        else address.withOption keyText (← partText? value)
      withParameters steps rest extended

/-- Reads what follows the scheme of a locator. -/
def readLocator (letters : List Char) : Option SourceAddress := do
  let (address, afterCredentials) ← readCredentials letters
  let (hosts, afterHosts) := splitBefore ['/', '?'] afterCredentials
  let withHosts ← withHosts address hosts
  let (database, afterDatabase) :=
    match afterHosts with
    | '/' :: rest => splitBefore ['?'] rest
    | _ => ([], afterHosts)
  let withDatabase ←
    if database.isEmpty then some withHosts
    else (partText? database).map fun text => { withHosts with database := some text }
  withParameters afterDatabase.length (afterDatabase.drop 1) withDatabase

/-- The schemes of a locator. -/
def locatorLeads : List String :=
  ["postgres://", "postgresql://"]

/-- What follows the scheme of a locator. -/
def afterScheme? (letters : List Char) : Option (List Char) :=
  locatorLeads.findSome? fun lead => afterLead? lead.toList letters

end SchemaFerry.Address
