/-
**Encryption of connections to the source.**

* `TlsMode.build_eq_ok_iff`: exactly the modes that encrypt can be built.
-/

import SchemaFerry.Fault
import SchemaFerry.Text.Blank
import SchemaFerry.Text.LetterCase

namespace SchemaFerry

/-- How a connection is encrypted and what is verified. -/
inductive TlsMode where
  | disable
  | require
  | verifyAuthority
  | verifyFull
  deriving Repr, DecidableEq

namespace TlsMode

/-- The mode of a name, in letters of either case and between blanks; an empty name turns encryption
off. -/
def ofName (name : String) : Except Fault TlsMode :=
  match Text.lowercased (Text.trimmed name) with
  | "disable" | "" => .ok disable
  | "require" => .ok require
  | "verify-ca" => .ok verifyAuthority
  | "verify-full" => .ok verifyFull
  | other => .error (.settings (.unknownTlsMode other))

/-- Whether the mode encrypts. -/
def encrypts : TlsMode → Bool
  | disable => false
  | _ => true

/-- What a client needs to encrypt; there is nothing to build where encryption is off. -/
def build (mode : TlsMode) : Except Fault TlsMode :=
  if mode.encrypts then .ok mode else .error (.settings .noTlsToBuild)

/-- Exactly the modes that encrypt can be built. -/
theorem build_eq_ok_iff (mode : TlsMode) : mode.build = .ok mode ↔ mode.encrypts = true := by
  cases mode <;> simp [build, encrypts]

end TlsMode

end SchemaFerry
