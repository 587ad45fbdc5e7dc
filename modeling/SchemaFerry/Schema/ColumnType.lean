/-
**Column types of the destination.**

`ColumnType.ofSource` maps the name and the sizes of a source type to a type of the destination and
says what the mapping loses, if anything. It never fails: what it does not know becomes a text of a
thousand characters.
-/

import SchemaFerry.Schema.Table

namespace SchemaFerry.Schema

open SchemaFerry.Text

/-- A column type of the destination. -/
inductive ColumnType where
  | varchar (length : Int)
  | char (length : Int)
  | clob
  | blob
  | xml
  | number
  | numberOf (precision : Int)
  | numberScaled (precision scale : Int)
  | binaryFloat
  | binaryDouble
  | date
  | timestamp
  | timestampWithZone
  | interval
  deriving Repr, DecidableEq

/-- What a mapping of types loses. -/
inductive Loss where
  | network
  | geometric
  | fullText
  | array
  | unknown
  deriving Repr, DecidableEq

/-- The kind of a source type that is mapped with a loss. -/
def Loss.description : Loss → String
  | network => "network address"
  | geometric => "geometric"
  | fullText => "full-text search"
  | array => "array"
  | unknown => "unsupported"

/-- The type as it stands in a statement. -/
def ColumnType.written : ColumnType → String
  | varchar length => "VARCHAR2(" ++ toString length ++ ")"
  | char length => "CHAR(" ++ toString length ++ ")"
  | clob => "CLOB"
  | blob => "BLOB"
  | xml => "XMLTYPE"
  | number => "NUMBER"
  | numberOf precision => "NUMBER(" ++ toString precision ++ ")"
  | numberScaled precision scale =>
    "NUMBER(" ++ toString precision ++ "," ++ toString scale ++ ")"
  | binaryFloat => "BINARY_FLOAT"
  | binaryDouble => "BINARY_DOUBLE"
  | date => "DATE"
  | timestamp => "TIMESTAMP(6)"
  | timestampWithZone => "TIMESTAMP(6) WITH TIME ZONE"
  | interval => "INTERVAL DAY(9) TO SECOND(6)"

/-- Longest text of variable length. -/
def maxVarcharLength : Int := 4000

/-- Longest text of fixed length. -/
def maxCharLength : Int := 2000

/-- Most digits of a number. -/
def maxPrecision : Int := 38

/-- Least and greatest scale of a number. -/
def minScale : Int := -84

@[inherit_doc minScale]
def maxScale : Int := 127

/-- A declared size cut to the limit; without a positive one, the size of the type. -/
def sizeWithin (limit unsized : Int) : Option Int → Int
  | some length => if 0 < length then min length limit else unsized
  | none => unsized

/-- The type of numbers with a declared precision and scale. -/
def numberType (precision scale : Option Int) : ColumnType :=
  match precision with
  | some digits =>
    if 0 < digits then
      match scale with
      | some places =>
        if places = 0 then .numberOf (min digits maxPrecision)
        else .numberScaled (min digits maxPrecision) (max minScale (min places maxScale))
      | none => .numberOf (min digits maxPrecision)
    else .number
  | none => .number

/-- Whether a type name in small letters is that of an array. -/
def isArrayName (name : String) : Bool :=
  name == "array" || name.toList.head? == some '_' || "[]".toList.isSuffixOf name.toList

/-- A type of the destination and what is lost in it. -/
structure TypeMapping where
  type : ColumnType
  loss : Option Loss
  deriving Repr, DecidableEq

/-- The mapping of a type name in small letters that is not an array's. -/
def TypeMapping.ofName (name : String) (length precision scale : Option Int) : TypeMapping :=
  match name with
  | "character varying" | "varchar" =>
    ⟨.varchar (sizeWithin maxVarcharLength maxVarcharLength length), none⟩
  | "character" | "char" | "bpchar" => ⟨.char (sizeWithin maxCharLength 1 length), none⟩
  | "text" | "json" | "jsonb" | "citext" => ⟨.clob, none⟩
  | "smallint" | "int2" | "smallserial" | "serial2" => ⟨.numberOf 5, none⟩
  | "integer" | "int" | "int4" | "serial" | "serial4" | "oid" => ⟨.numberOf 10, none⟩
  | "bigint" | "int8" | "bigserial" | "serial8" => ⟨.numberOf 19, none⟩
  | "numeric" | "decimal" => ⟨numberType precision scale, none⟩
  | "money" => ⟨.numberScaled 19 2, none⟩
  | "real" | "float4" => ⟨.binaryFloat, none⟩
  | "double precision" | "float8" | "float" => ⟨.binaryDouble, none⟩
  | "boolean" | "bool" => ⟨.numberOf 1, none⟩
  | "date" => ⟨.date, none⟩
  | "timestamp" | "timestamp without time zone" => ⟨.timestamp, none⟩
  | "timestamptz" | "timestamp with time zone" => ⟨.timestampWithZone, none⟩
  | "time" | "time without time zone" | "timetz" | "time with time zone" => ⟨.varchar 32, none⟩
  | "interval" => ⟨.interval, none⟩
  | "bytea" => ⟨.blob, none⟩
  | "uuid" => ⟨.varchar 36, none⟩
  | "xml" => ⟨.xml, none⟩
  | "bit" | "bit varying" | "varbit" => ⟨.varchar (sizeWithin maxVarcharLength 1 length), none⟩
  | "inet" | "cidr" | "macaddr" | "macaddr8" => ⟨.varchar 50, some .network⟩
  | "point" | "line" | "lseg" | "box" | "path" | "polygon" | "circle" =>
    ⟨.varchar 1000, some .geometric⟩
  | "tsvector" | "tsquery" => ⟨.clob, some .fullText⟩
  | _ => ⟨.varchar 1000, some .unknown⟩

/-- The mapping of a source type, given by its name and declared sizes. -/
def TypeMapping.ofSource (name : String) (length precision scale : Option Int) : TypeMapping :=
  let folded := lowercased (trimmed name)
  if isArrayName folded then ⟨.clob, some .array⟩ else ofName folded length precision scale

/-- The mapping of a column's type. -/
def Column.mapping (column : Column) : TypeMapping :=
  TypeMapping.ofSource column.typeName column.length column.precision column.scale

end SchemaFerry.Schema
