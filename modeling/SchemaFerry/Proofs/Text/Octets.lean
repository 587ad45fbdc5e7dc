/-
**Letters and their octets.**

The octets of a text are those of its letters, one after the other. A letter below 128 is one octet,
which is its own number; every octet of another letter is 128 or more. So a letter below 128 is seen
in the octets exactly where it is seen in the letters.

* **`utf8_ofList`** — the octets of a text are those of its letters;
* `utf8EncodeChar_of_small`, `le_of_mem_utf8EncodeChar` — the octets of one letter;
* `octets_head?_iff` — a letter below 128 comes first in the octets iff it comes first.
-/

import SchemaFerry.Text.Utf8
import Mathlib.Data.List.Basic

namespace SchemaFerry.Text

/-- The octets of letters, in order. -/
def octets (letters : List Char) : List UInt8 :=
  letters.flatMap String.utf8EncodeChar

theorem octets_cons (letter : Char) (rest : List Char) :
    octets (letter :: rest) = String.utf8EncodeChar letter ++ octets rest := rfl

theorem octets_append (front back : List Char) :
    octets (front ++ back) = octets front ++ octets back :=
  List.flatMap_append

/-! ### The octets of a text -/

/-- Octets are read off an array from a place on, behind those that were read already. -/
theorem toList_loop_append (read : List UInt8) (front back : List UInt8) :
    ByteArray.toList.loop (front ++ back).toByteArray front.length read = read.reverse ++ back := by
  -- The array stays the same while its first octets pass from one part to the other.
  induction back generalizing front read with
  | nil =>
    unfold ByteArray.toList.loop
    simp
  | cons octet back ih =>
    have within : front.length < (front ++ octet :: back).toByteArray.size := by simp
    have next : (front ++ octet :: back).toByteArray.get! front.length = octet := by
      simp [ByteArray.get!, List.data_toByteArray]
    have moved := ih (octet :: read) (front ++ [octet])
    rw [List.append_assoc, List.singleton_append, List.length_append, List.length_singleton,
      List.reverse_cons, List.append_assoc, List.singleton_append] at moved
    unfold ByteArray.toList.loop
    rw [if_pos within, next, moved]

/-- **The octets of a text are those of its letters.** -/
theorem utf8_ofList (letters : List Char) : utf8 (String.ofList letters) = octets letters := by
  unfold utf8
  rw [String.toUTF8_eq_toByteArray, String.toByteArray_ofList, List.utf8Encode, ByteArray.toList,
    ← List.nil_append (letters.flatMap _)]
  exact toList_loop_append [] [] _

/-! ### One letter -/

section Letter

variable {letter mark : Char}

theorem utf8EncodeChar_of_small (small : letter.toNat < 128) :
    String.utf8EncodeChar letter = [UInt8.ofNat letter.toNat] :=
  if_pos (Nat.le_of_lt_succ small)

/-- Every octet of a letter that takes several is 128 or more. -/
theorem le_of_mem_utf8EncodeChar (wide : 128 ≤ letter.toNat) {octet : UInt8}
    (mem : octet ∈ String.utf8EncodeChar letter) : 128 ≤ octet.toNat := by
  have several : ¬ letter.val.toNat ≤ 127 := Nat.not_le.mpr wide
  simp only [String.utf8EncodeChar, several, if_false] at mem
  split_ifs at mem <;> simp only [List.mem_cons, List.not_mem_nil, or_false] at mem
  · obtain rfl | rfl := mem <;> simp <;> omega
  · obtain rfl | rfl | rfl := mem <;> simp <;> omega
  · obtain rfl | rfl | rfl | rfl := mem <;> simp <;> omega

theorem ofNat_toNat_inj (small : letter.toNat < 128) (markSmall : mark.toNat < 128) :
    UInt8.ofNat letter.toNat = UInt8.ofNat mark.toNat ↔ letter = mark := by
  constructor
  · intro same
    have numbers := congrArg UInt8.toNat same
    simp only [UInt8.toNat_ofNat'] at numbers
    exact Char.toNat_inj.mp (by omega)
  · rintro rfl
    rfl

/-- **A letter below 128 comes first in the octets iff it comes first in the letters.** -/
theorem octets_head?_iff (markSmall : mark.toNat < 128) (letters : List Char) :
    (octets letters).head? = some (UInt8.ofNat mark.toNat) ↔ letters.head? = some mark := by
  cases letters with
  | nil => simp [octets]
  | cons letter rest =>
    rw [octets_cons, List.head?_cons, Option.some_inj]
    by_cases small : letter.toNat < 128
    · rw [utf8EncodeChar_of_small small, List.singleton_append, List.head?_cons, Option.some_inj,
        ofNat_toNat_inj small markSmall]
    · constructor
      · intro first
        have nonempty : String.utf8EncodeChar letter ≠ [] := String.utf8EncodeChar_ne_nil
        rw [List.head?_append_of_ne_nil _ nonempty] at first
        have wide := le_of_mem_utf8EncodeChar (Nat.le_of_not_lt small)
          (List.mem_of_mem_head? first)
        simp only [UInt8.toNat_ofNat'] at wide
        omega
      · rintro rfl
        exact absurd markSmall small

end Letter

end SchemaFerry.Text
