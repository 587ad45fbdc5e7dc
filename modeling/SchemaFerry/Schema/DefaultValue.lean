/-
**Default expressions of columns.**

`translate` turns a default of the source into one of the destination. Casts at the end and
brackets around the whole are taken off; then the current time and date, the truth values, text and
numeric literals are kept, `NULL` and draws from a sequence are dropped, and the rest is not
supported. `withoutCasts` cuts at the first cast that is not inside a text literal.

* `withoutCasts_of_no_cast`: an expression without a cast is kept as it is.
-/

import SchemaFerry.Number.Literal
import SchemaFerry.Schema.Table

namespace SchemaFerry.Schema

open SchemaFerry.Text

/-- What becomes of a default expression. -/
inductive DefaultValue where
  | keep (expression : String)
  | drop
  | unsupported
  deriving Repr, DecidableEq

/-- The part of an expression before its first cast outside text literals, if there is one. The
truth value says whether the letters start inside a literal. -/
def beforeCast? (inLiteral : Bool) : List Char → Option (List Char)
  | [] => none
  | ':' :: ':' :: rest =>
    if inLiteral then (beforeCast? inLiteral (':' :: rest)).map (':' :: ·) else some []
  | letter :: rest =>
    let nowInLiteral := if letter = '\'' then !inLiteral else inLiteral
    (beforeCast? nowInLiteral rest).map (letter :: ·)

/-- An expression without the casts at its end. -/
def withoutCasts (letters : List Char) : List Char :=
  match beforeCast? false letters with
  | some front => trim front
  | none => letters

theorem dropWhile_length_le {α : Type} (drops : α → Bool) (letters : List α) :
    (letters.dropWhile drops).length ≤ letters.length :=
  (List.dropWhile_suffix drops).length_le

/-- Trimming does not lengthen a text. -/
theorem trim_length_le (letters : List Char) : (trim letters).length ≤ letters.length := by
  have front := dropWhile_length_le isBlank letters
  have back := dropWhile_length_le isBlank (letters.dropWhile isBlank).reverse
  simp only [List.length_reverse] at back
  simpa [trim, trimEnd, trimStart] using Nat.le_trans back front

/-- An expression without the brackets around it. -/
def withoutBrackets (letters : List Char) : List Char :=
  match letters with
  | '(' :: rest =>
    if rest.getLast? = some ')' then withoutBrackets (trim rest.dropLast) else letters
  | _ => letters
termination_by letters.length
decreasing_by
  have shorter := trim_length_le rest.dropLast
  simp only [List.length_dropLast] at shorter
  simp only [List.length_cons]
  omega

/-- Whether an expression is written like a text literal. -/
def isTextLiteral (letters : List Char) : Bool :=
  2 ≤ letters.length && letters.head? == some '\'' && letters.getLast? == some '\''

/-- The default of the destination for a default expression of the source. -/
def DefaultValue.translate (expression : String) : DefaultValue :=
  let letters := trim expression.toList
  if letters.isEmpty || isSequenceCall (String.ofList letters) then .drop
  else
    let value := withoutBrackets (withoutCasts letters)
    match String.ofList (lower value) with
    | "null" => .drop
    | "now()" | "current_timestamp" | "localtimestamp" | "transaction_timestamp()"
    | "statement_timestamp()" | "clock_timestamp()" => .keep "SYSTIMESTAMP"
    | "current_date" => .keep "SYSDATE"
    | "true" | "'t'" | "'true'" => .keep "1"
    | "false" | "'f'" | "'false'" => .keep "0"
    | _ =>
      if isTextLiteral value || Number.isLiteral value then .keep (String.ofList value)
      else .unsupported

/-! ### Lemmas -/

/-- An expression without a cast is kept as it is. -/
theorem withoutCasts_of_no_cast {letters : List Char} (uncast : beforeCast? false letters = none) :
    withoutCasts letters = letters := by
  simp [withoutCasts, uncast]

end SchemaFerry.Schema
