/-
**Names in the destination.**

The destination folds unquoted names to capitals and cuts none: a name is trimmed, capitalised and
cut to thirty characters (`normalize`), and written as it is if it is a plain word that is not
reserved, else in double quotes (`written`). `read?` reads one written name back.

* `normalize_length`: a normalized name has at most thirty characters;
* `read?_written`: reading a written name gives the normalized name;
* `written_eq_written_iff`: names are written alike exactly if they are normalized alike.
-/

import SchemaFerry.Text.Blank
import SchemaFerry.Text.LetterCase
import SchemaFerry.Text.Quoted

namespace SchemaFerry.Identifier

open SchemaFerry.Text

/-- The words that the destination refuses as unquoted names, in alphabetical order. -/
def reservedWords : List String :=
  ["ACCESS", "ADD", "ALL", "ALTER", "AND", "ANY", "AS", "ASC", "AUDIT", "BETWEEN", "BY", "CHAR",
    "CHECK", "CLUSTER", "COLUMN", "COMMENT", "COMPRESS", "CONNECT", "CREATE", "CURRENT", "DATE",
    "DECIMAL", "DEFAULT", "DELETE", "DESC", "DISTINCT", "DROP", "ELSE", "EXCLUSIVE", "EXISTS",
    "FILE", "FLOAT", "FOR", "FROM", "GRANT", "GROUP", "HAVING", "IDENTIFIED", "IMMEDIATE", "IN",
    "INCREMENT", "INDEX", "INITIAL", "INSERT", "INTEGER", "INTERSECT", "INTO", "IS", "LEVEL",
    "LIKE", "LOCK", "LONG", "MAXEXTENTS", "MINUS", "MLSLABEL", "MODE", "MODIFY", "NOAUDIT",
    "NOCOMPRESS", "NOT", "NOWAIT", "NULL", "NUMBER", "OF", "OFFLINE", "ON", "ONLINE", "OPTION",
    "OR", "ORDER", "PCTFREE", "PRIOR", "PUBLIC", "RAW", "RENAME", "RESOURCE", "REVOKE", "ROW",
    "ROWID", "ROWNUM", "ROWS", "SELECT", "SESSION", "SET", "SHARE", "SIZE", "SMALLINT", "START",
    "SUCCESSFUL", "SYNONYM", "SYSDATE", "TABLE", "THEN", "TO", "TRIGGER", "UID", "UNION",
    "UNIQUE", "UPDATE", "USER", "VALIDATE", "VALUES", "VARCHAR", "VARCHAR2", "VIEW", "WHENEVER",
    "WHERE", "WITH"]

/-- The most characters a name may have. -/
def maxLength : Nat := 30

/-- The first characters of a name. -/
def truncate (limit : Nat) (name : String) : String :=
  String.ofList (name.toList.take limit)

/-- A name as the destination stores it: trimmed, in capitals and cut. -/
def normalize (name : String) : String :=
  truncate maxLength (uppercased (trimmed name))

/-- Whether a character may stand in an unquoted name, the first place apart. -/
def isWordLetter (letter : Char) : Bool :=
  letter.isUpper || letter.isDigit || letter == '_' || letter == '$' || letter == '#'

/-- Whether a name may be written without quotes. -/
def isPlain (name : String) : Bool :=
  match name.toList with
  | [] => false
  | first :: rest => first.isUpper && rest.all isWordLetter && !reservedWords.contains name

/-- A stored name as it stands in a statement. -/
def delimited (stored : String) : String :=
  if isPlain stored then stored else quoted '"' stored

/-- A source name as it stands in a statement. -/
def written (name : String) : String :=
  delimited (normalize name)

/-- A name in a schema as it stands in a statement. -/
def qualified (schema name : String) : String :=
  written schema ++ "." ++ written name

/-- A name as it stands in a statement for the source, which keeps its case. -/
def sourceQuoted (name : String) : String :=
  quoted '"' name

/-- Reads one name of a statement: a plain word, or a text in double quotes. -/
def read? (token : String) : Option String :=
  if isPlain token then some token else (unquote? '"' token.toList).map String.ofList

/-! ### Lemmas -/

/-- A cut name has at most as many characters as the cut leaves. -/
theorem truncate_length (limit : Nat) (name : String) :
    (truncate limit name).toList.length ≤ limit := by
  rw [truncate, String.toList_ofList, List.length_take]
  exact Nat.min_le_left _ _

/-- A normalized name has at most thirty characters. -/
theorem normalize_length (name : String) : (normalize name).toList.length ≤ maxLength :=
  truncate_length _ _

/-- A text in quotes is no plain word. -/
theorem isPlain_quoted (name : String) : isPlain (quoted '"' name) = false := by
  simp [isPlain, quoted, quote, String.toList_ofList]

/-- Reading a delimited name gives the stored name. -/
theorem read?_delimited (stored : String) : read? (delimited stored) = some stored := by
  unfold delimited read?
  by_cases plain : isPlain stored = true
  · simp [plain]
  · rw [if_neg plain, if_neg (by simp [isPlain_quoted])]
    simp [quoted, unquote?_quote]

/-- Reading a written name gives the normalized name. -/
theorem read?_written (name : String) : read? (written name) = some (normalize name) :=
  read?_delimited _

/-- Names are written alike exactly if they are normalized alike. -/
theorem written_eq_written_iff {first second : String} :
    written first = written second ↔ normalize first = normalize second := by
  constructor
  · intro same
    have read := congrArg read? same
    rwa [read?_written, read?_written, Option.some.injEq] at read
  · intro same
    rw [written, written, same]

end SchemaFerry.Identifier
