/-
**Texts in UTF-8.**

`readLetter` reads one character from octets. Octets that are none are passed over up to the first
that rules a character out, at least one. `ofUtf8?` refuses such octets, `ofUtf8Lossy` puts the
replacement character for each group of them.

Octets are also written in hexadecimal, two digits for each, the more significant first, in small
letters. Reading takes capitals too and refuses an odd number of digits.

* `readLetter_rest_le`: reading goes on, so the readers end.
-/

namespace SchemaFerry.Text

/-- What the first octet of a character of several octets says: its part of the code, the bounds of
the second octet, and how many octets follow that one. -/
def leadOf? (first : Nat) : Option (Nat × Nat × Nat × Nat) :=
  if 0xC2 ≤ first ∧ first ≤ 0xDF then some (first - 0xC0, 0x80, 0xBF, 0)
  else if first = 0xE0 then some (0, 0xA0, 0xBF, 1)
  else if first = 0xED then some (0xD, 0x80, 0x9F, 1)
  else if 0xE1 ≤ first ∧ first ≤ 0xEF then some (first - 0xE0, 0x80, 0xBF, 1)
  else if first = 0xF0 then some (0, 0x90, 0xBF, 2)
  else if 0xF1 ≤ first ∧ first ≤ 0xF3 then some (first - 0xF0, 0x80, 0xBF, 2)
  else if first = 0xF4 then some (4, 0x80, 0x8F, 2)
  else none

/-- Reads the octets after the first two of a character. -/
def readTail : Nat → Nat → List UInt8 → Option Nat × List UInt8
  | 0, code, octets => (some code, octets)
  | _ + 1, _, [] => (none, [])
  | count + 1, code, octet :: rest =>
    if 0x80 ≤ octet.toNat ∧ octet.toNat ≤ 0xBF then
      readTail count (64 * code + (octet.toNat - 0x80)) rest
    else (none, octet :: rest)

/-- Reads one character that starts with an octet; nothing if the octets are none. -/
def readLetter (first : UInt8) (rest : List UInt8) : Option Char × List UInt8 :=
  if first.toNat < 0x80 then (some (Char.ofNat first.toNat), rest)
  else
    match leadOf? first.toNat, rest with
    | some (part, low, high, count), second :: tail =>
      if low ≤ second.toNat ∧ second.toNat ≤ high then
        let (code, after) := readTail count (64 * part + (second.toNat - 0x80)) tail
        (code.map Char.ofNat, after)
      else (none, rest)
    | _, _ => (none, rest)

theorem readTail_rest_le (count code : Nat) (octets : List UInt8) :
    (readTail count code octets).2.length ≤ octets.length := by
  induction count generalizing code octets with
  | zero => simp [readTail]
  | succ count hypothesis =>
    cases octets with
    | nil => simp [readTail]
    | cons octet rest =>
      unfold readTail
      split
      · exact Nat.le_succ_of_le (hypothesis _ rest)
      · simp

/-- Reading goes on: what is left is no longer than what followed the first octet. -/
theorem readLetter_rest_le (first : UInt8) (rest : List UInt8) :
    (readLetter first rest).2.length ≤ rest.length := by
  unfold readLetter
  split
  · simp
  · split
    · split
      · exact Nat.le_succ_of_le (readTail_rest_le _ _ _)
      · simp
    · simp

/-- The characters of octets, in order; nothing for each group of octets that are none. -/
def readLetters : List UInt8 → List (Option Char)
  | [] => []
  | first :: rest =>
    have _shorter := readLetter_rest_le first rest
    (readLetter first rest).1 :: readLetters (readLetter first rest).2
termination_by octets => octets.length
decreasing_by
  simp only [List.length_cons]
  omega

/-- The text of octets, unless they are no text. -/
def ofUtf8? (octets : List UInt8) : Option String :=
  ((readLetters octets).mapM id).map String.ofList

/-- The text of octets, with the replacement character where they are no text. -/
def ofUtf8Lossy (octets : List UInt8) : String :=
  String.ofList ((readLetters octets).map fun letter => letter.getD (Char.ofNat 0xFFFD))

/-- The octets of a text. -/
def utf8 (text : String) : List UInt8 :=
  text.toUTF8.toList

/-! ### Hexadecimal digits -/

/-- The value of a hexadecimal digit. -/
def hexValue? (letter : Char) : Option Nat :=
  let code := letter.toNat
  if 48 ≤ code ∧ code ≤ 57 then some (code - 48)
  else if 97 ≤ code ∧ code ≤ 102 then some (code - 87)
  else if 65 ≤ code ∧ code ≤ 70 then some (code - 55)
  else none

/-- The octets that a run of hexadecimal digits stands for. -/
def octets? : List Char → Option (List UInt8)
  | [] => some []
  | [_] => none
  | high :: low :: rest => do
    let first ← hexValue? high
    let second ← hexValue? low
    let others ← octets? rest
    return UInt8.ofNat (16 * first + second) :: others

/-- Hexadecimal digits of a number, padded with zeros to a width. -/
def hexPadded (width value : Nat) : String :=
  let digits := Nat.toDigits 16 value
  String.ofList (List.replicate (width - digits.length) '0' ++ digits)

/-- The hexadecimal digits of octets. -/
def hexOfOctets (octets : List UInt8) : String :=
  String.join (octets.map fun octet => hexPadded 2 octet.toNat)

end SchemaFerry.Text
