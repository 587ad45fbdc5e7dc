/-
**How columns are read and bound.**

The type of a column of the source decides in which form its values are read (`Kind.projection`) and
how they stand in a statement for the destination (`Kind.placeholder`). What has no form of its own
is read as text.
-/

import SchemaFerry.Identifier.Basic

namespace SchemaFerry.Copy

/-- How a type that a user made is built. -/
inductive Make where
  | enumeration
  | array
  | range
  | domain
  | composite
  | pseudo
  | simple
  deriving Repr, DecidableEq

/-- A type of the source: one that it knows by its name, or one that a user made. -/
inductive SourceType where
  | known (name : String)
  | made (name : String) (make : Make)
  deriving Repr, DecidableEq

/-- Whether the name of a known type is that of an array. -/
def isArrayType (name : String) : Bool :=
  name.toList.head? == some '_' || name == "int2vector" || name == "oidvector"

/-- How a column is read and bound. -/
inductive Kind where
  | integer
  | float
  | boolean
  | text
  | uuid
  | json
  | bytes
  | date
  | timestamp
  | timestampWithZone
  | interval
  | cast
  | unhandled
  deriving Repr, DecidableEq

namespace Kind

/-- The kind for a known type that is no array. -/
def ofName (name : String) : Kind :=
  match name with
  | "int2" | "int4" | "int8" | "oid" => integer
  | "float4" | "float8" => float
  | "bool" => boolean
  | "text" | "varchar" | "bpchar" | "name" => text
  | "uuid" => uuid
  | "json" | "jsonb" => json
  | "bytea" => bytes
  | "date" => date
  | "timestamp" => timestamp
  | "timestamptz" => timestampWithZone
  | "interval" => interval
  | "numeric" | "money" | "time" | "timetz" | "bit" | "varbit" | "char" | "xml" | "inet" | "cidr"
  | "macaddr" | "macaddr8" | "tsvector" | "tsquery" | "point" | "line" | "lseg" | "box" | "path"
  | "polygon" | "circle" => cast
  | _ => unhandled

/-- The kind for a type. -/
def ofType : SourceType → Kind
  | .known name => if isArrayType name then cast else ofName name
  | .made _ .array | .made _ .enumeration => cast
  | .made _ _ => unhandled

/-- The expression that reads a column of a type in the form of its kind. -/
def projection (kind : Kind) (type : SourceType) (column : String) : String :=
  let place := "src." ++ Identifier.sourceQuoted column
  match kind with
  | integer => if type = .known "int8" then place else place ++ "::int8"
  | float => if type = .known "float8" then place else place ++ "::float8"
  | interval => "EXTRACT(EPOCH FROM " ++ place ++ ")::float8"
  | cast | unhandled =>
    if type = .known "money" then place ++ "::numeric::text" else place ++ "::text"
  | boolean | text | uuid | json | bytes | date | timestamp | timestampWithZone => place

/-- What stands for the value of a column in a statement, by its position. -/
def placeholder (kind : Kind) (position : Nat) : String :=
  match kind with
  | interval => "NUMTODSINTERVAL(:" ++ toString position ++ ", 'SECOND')"
  | _ => ":" ++ toString position

end Kind

/-- A column of a copy. -/
structure BoundColumn where
  name : String
  type : SourceType
  deriving Repr, DecidableEq

/-- How a column is read and bound. -/
def BoundColumn.kind (column : BoundColumn) : Kind :=
  Kind.ofType column.type

end SchemaFerry.Copy
