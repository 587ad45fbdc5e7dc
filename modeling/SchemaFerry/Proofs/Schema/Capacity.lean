/-
**What a type of the destination has room for.**

A type with a declared size is mapped to one with this size, cut to the limits of the destination,
and the mapping reports no loss, cut or not. So the values of the source type are values of the type
that it is mapped to exactly if the declared size is within the limits: a longer text, a digit too
many or a place too many behind the point has no room, and nothing says so.

* `forall_isDecimal_iff` — numbers with a precision and a scale are numbers with another precision
  and scale exactly if these leave as many digits behind and before the point;
* **`ofSource_keepsRoom`** — for every type with a declared size, no loss is reported, and there is
  room for every value exactly if the size is within the limits;
* `ofSource_lacksRoom` — a text type and a number type that lose values without a word.
-/

import Mathlib.Algebra.Order.Field.Power
import Mathlib.Data.Rat.Cast.Order
import Mathlib.Tactic.Positivity
import Mathlib.Tactic.Linarith
import SchemaFerry.Proofs.Schema.Sizes

namespace SchemaFerry.Schema

/-! ### Values -/

/-- A value of a type with a size: a text (bits are a text of the digits `0` and `1`), or a
number. -/
inductive SizedValue where
  | text (letters : List Char)
  | number (value : ℚ)

/-- A number is one with as many digits as the precision says, of which as many as the scale says
stand behind the point. With a negative scale the digits end that many places before the point. -/
def IsDecimal (precision scale : ℤ) (value : ℚ) : Prop :=
  ∃ digits : ℤ, |(digits : ℚ)| < 10 ^ precision ∧ value = digits * 10 ^ (-scale)

/-- The values of a source type. A text of fixed length is filled up with blanks. -/
def SizedType.Holds : SizedType → SizedValue → Prop
  | text length, .text letters => letters.length ≤ length
  | padded length, .text letters => letters.length ≤ length
  | bits length, .text letters =>
    letters.length ≤ length ∧ ∀ letter ∈ letters, letter = '0' ∨ letter = '1'
  | number precision scale, .number value => IsDecimal precision scale value
  | _, _ => False

/-- The values of a type of the destination that has a size. -/
def ColumnType.Holds : ColumnType → SizedValue → Prop
  | varchar length, .text letters => letters.length ≤ length
  | char length, .text letters => letters.length ≤ length
  | numberOf precision, .number value => IsDecimal precision 0 value
  | numberScaled precision scale, .number value => IsDecimal precision scale value
  | _, _ => False

/-- A type of the destination has as much room as a source type declares: as many letters, or as
many digits behind and before the point. -/
def ColumnType.HasRoomFor : ColumnType → SizedType → Prop
  | varchar length, .text declared => declared ≤ length
  | char length, .padded declared => declared ≤ length
  | varchar length, .bits declared => declared ≤ length
  | numberOf precision, .number digits places => places ≤ 0 ∧ digits - places ≤ precision
  | numberScaled precision scale, .number digits places =>
    places ≤ scale ∧ digits - places ≤ precision - scale
  | _, _ => False

/-! ### Numbers -/

section Numbers

variable {precision scale wider finer : ℤ}

/-- The last digit may be the only one that is not nought. -/
theorem isDecimal_unit (positive : 1 ≤ precision) : IsDecimal precision scale (10 ^ (-scale)) := by
  refine ⟨1, ?_, by rw [Int.cast_one, one_mul]⟩
  rw [Int.cast_one, abs_one]
  exact one_lt_zpow₀ (by norm_num) (by omega)

/-- The first digit may be the only one that is not nought. -/
theorem isDecimal_leading (positive : 1 ≤ precision) :
    IsDecimal precision scale (10 ^ (precision - 1 - scale)) := by
  obtain ⟨places, same⟩ := Int.eq_ofNat_of_zero_le (show 0 ≤ precision - 1 by omega)
  have digits : (((10 : ℤ) ^ places : ℤ) : ℚ) = 10 ^ (precision - 1) := by
    rw [same, zpow_natCast]
    norm_cast
  refine ⟨10 ^ places, ?_, ?_⟩
  · rw [digits, abs_of_pos (by positivity)]
    exact zpow_lt_zpow_right₀ (by norm_num) (by omega)
  · rw [digits, ← zpow_add₀ (by norm_num), sub_eq_add_neg]

/-- A power of ten that is a number of a type has no place behind its point, and is below its
bound. -/
theorem bounds_of_isDecimal_zpow {exponent : ℤ} (decimal : IsDecimal wider finer (10 ^ exponent)) :
    -finer ≤ exponent ∧ exponent + finer < wider := by
  obtain ⟨digits, small, same⟩ := decimal
  have value : (digits : ℚ) = 10 ^ (exponent + finer) := by
    rw [zpow_add₀ (by norm_num), same, mul_assoc, ← zpow_add₀ (by norm_num), neg_add_cancel,
      zpow_zero, mul_one]
  have positive : (0 : ℚ) < digits := value ▸ by positivity
  constructor
  · by_contra few
    -- Then the digits are a number between nought and one.
    have fraction : (digits : ℚ) < 1 :=
      value ▸ zpow_lt_one_of_neg₀ (by norm_num) (by omega)
    have least : 0 < digits := by exact_mod_cast positive
    have most : digits < 1 := by exact_mod_cast fraction
    omega
  · rw [abs_of_pos positive, value] at small
    exact (zpow_lt_zpow_iff_right₀ (by norm_num)).mp small

/-- **Numbers with a precision and a scale are numbers with another precision and scale** exactly if
these leave as many digits behind the point and before it. -/
theorem forall_isDecimal_iff (positive : 1 ≤ precision) :
    (∀ value, IsDecimal precision scale value → IsDecimal wider finer value) ↔
      scale ≤ finer ∧ precision - scale ≤ wider - finer := by
  constructor
  · intro all
    obtain ⟨behind, _⟩ := bounds_of_isDecimal_zpow (all _ (isDecimal_unit positive))
    obtain ⟨_, before⟩ := bounds_of_isDecimal_zpow (all _ (isDecimal_leading positive))
    omega
  · rintro ⟨behind, before⟩ value ⟨digits, small, rfl⟩
    -- The digits of the finer type: noughts are put behind those that there are.
    obtain ⟨places, same⟩ := Int.eq_ofNat_of_zero_le (show 0 ≤ finer - scale by omega)
    have noughts : (((10 : ℤ) ^ places : ℤ) : ℚ) = 10 ^ (finer - scale) := by
      rw [same, zpow_natCast]
      norm_cast
    refine ⟨digits * 10 ^ places, ?_, ?_⟩
    · have above : (0 : ℚ) < 10 ^ (finer - scale) := by positivity
      rw [Int.cast_mul, noughts, abs_mul, abs_of_pos above]
      calc |(digits : ℚ)| * 10 ^ (finer - scale)
          < 10 ^ precision * 10 ^ (finer - scale) :=
            mul_lt_mul_of_pos_right small above
        _ = 10 ^ (precision + (finer - scale)) := (zpow_add₀ (by norm_num) _ _).symm
        _ ≤ 10 ^ wider := zpow_le_zpow_right₀ (by norm_num) (by omega)
    · rw [Int.cast_mul, noughts, mul_assoc, ← zpow_add₀ (by norm_num)]
      congr 2
      omega

end Numbers

/-! ### Room -/

/-- The declared size is positive. -/
def SizedType.IsPositive : SizedType → Prop
  | text length => 0 < length
  | padded length => 0 < length
  | bits length => 0 < length
  | number precision _ => 0 < precision

theorem Declares.isPositive {name : String} {length precision scale : Option Int}
    {sized : SizedType} (declares : Declares name length precision scale sized) :
    sized.IsPositive := by
  cases declares with
  | text _ _ positive => exact positive
  | padded _ _ positive => exact positive
  | bits _ _ positive => exact positive
  | number _ _ positive => exact positive

/-- A text as long as it may be, of one letter. -/
theorem exists_longest {length : ℤ} (positive : 0 < length) (mark : Char) :
    ∃ letters : List Char, (letters.length : ℤ) = length ∧ ∀ letter ∈ letters, letter = mark := by
  refine ⟨List.replicate length.toNat mark, ?_, fun _ member => List.eq_of_mem_replicate member⟩
  rw [List.length_replicate]
  omega

/-- **The values of a source type are values of the type that it is mapped to** exactly if this has
as much room as is declared. -/
theorem forall_holds_iff {sized : SizedType} (positive : sized.IsPositive) :
    (∀ value, sized.Holds value → sized.mapped.Holds value) ↔
      sized.mapped.HasRoomFor sized := by
  cases sized with
  | text declared | padded declared =>
    obtain ⟨longest, same, _⟩ := exists_longest positive 'x'
    constructor
    · intro all
      exact same ▸ all (.text longest) (le_of_eq same)
    · rintro room (letters | number) holds
      · exact le_trans holds room
      · exact holds
  | bits declared =>
    obtain ⟨longest, same, noughts⟩ := exists_longest positive '0'
    constructor
    · intro all
      exact same ▸ all (.text longest)
        ⟨le_of_eq same, fun letter member => .inl (noughts letter member)⟩
    · rintro room (letters | number) holds
      · exact le_trans holds.1 room
      · exact holds
  | number digits places =>
    rw [SizedType.mapped]
    split
    · constructor
      · intro all
        have decimal := (forall_isDecimal_iff positive).mp fun value => all (.number value)
        rwa [sub_zero] at decimal
      · rintro room (letters | number) holds
        · exact holds
        · refine (forall_isDecimal_iff positive).mpr ?_ number holds
          rwa [sub_zero]
    · constructor
      · intro all
        exact (forall_isDecimal_iff positive).mp fun value => all (.number value)
      · rintro room (letters | number) holds
        · exact holds
        · exact (forall_isDecimal_iff positive).mpr room number holds

/-- **The type that a source type is mapped to has room for it** exactly if the declared size is
within the limits. -/
theorem hasRoomFor_mapped_iff (sized : SizedType) :
    sized.mapped.HasRoomFor sized ↔ sized.IsWithinLimits := by
  cases sized with
  | text declared | bits declared =>
    show declared ≤ min declared maxVarcharLength ↔ declared ≤ 4000
    rw [maxVarcharLength]
    omega
  | padded declared =>
    show declared ≤ min declared maxCharLength ↔ declared ≤ 2000
    rw [maxCharLength]
    omega
  | number digits places =>
    rw [SizedType.mapped, maxPrecision, minScale, maxScale]
    split
    · show places ≤ 0 ∧ digits - places ≤ min digits 38 ↔ _
      rw [SizedType.IsWithinLimits]
      omega
    · show places ≤ max (-84) (min places 127) ∧
        digits - places ≤ min digits 38 - max (-84) (min places 127) ↔ _
      rw [SizedType.IsWithinLimits]
      omega

/-- **What the mapping of a type with a declared size keeps of its values.**

* `silent` — it reports no loss;
* `room_iff` — the type that it gives has as much room as is declared exactly if the declared size
  is within the limits;
* `holds_iff` — so every value of the source type is one of this type exactly then. -/
structure KeepsRoom (sized : SizedType) (mapping : TypeMapping) : Prop where
  silent : mapping.loss = none
  room_iff : mapping.type.HasRoomFor sized ↔ sized.IsWithinLimits
  holds_iff : (∀ value, sized.Holds value → mapping.type.Holds value) ↔ sized.IsWithinLimits

/-- **The mapping of a type with a declared size never reports a loss, and has room for every value
exactly if the size is within the limits.** -/
theorem ofSource_keepsRoom {name : String} {length precision scale : Option Int}
    {sized : SizedType} (declares : Declares name length precision scale sized) :
    KeepsRoom sized (TypeMapping.ofSource name length precision scale) := by
  rw [ofSource_of_declares declares]
  exact ⟨rfl, hasRoomFor_mapped_iff sized,
    (forall_holds_iff declares.isPositive).trans (hasRoomFor_mapped_iff sized)⟩

/-- A price with as many digits as there may be has room. -/
theorem ofSource_keepsRoom_price :
    Declares "numeric" none (some 38) (some 10) (.number 38 10) ∧
      KeepsRoom (.number 38 10) (TypeMapping.ofSource "numeric" none (some 38) (some 10)) ∧
      ∀ value, IsDecimal 38 10 value →
        (TypeMapping.ofSource "numeric" none (some 38) (some 10)).type.Holds (.number value) := by
  have declares : Declares "numeric" none (some 38) (some 10) (.number 38 10) :=
    .number (by decide +kernel) rfl (by decide)
  have keeps := ofSource_keepsRoom declares
  have within : (SizedType.number 38 10).IsWithinLimits := ⟨by decide, by decide, by decide⟩
  exact ⟨declares, keeps, fun value => keeps.holds_iff.mpr within (.number value)⟩

/-- **Values are lost without a word**: a text of nine thousand letters and a number of sixty digits
have no room in the types that theirs are mapped to, and no loss is reported. -/
theorem ofSource_lacksRoom :
    (Declares "character varying" (some 9000) none none (.text 9000) ∧
      TypeMapping.ofSource "character varying" (some 9000) none none = ⟨.varchar 4000, none⟩ ∧
      ¬(ColumnType.varchar 4000).HasRoomFor (.text 9000)) ∧
    (Declares "numeric" none (some 60) (some 2) (.number 60 2) ∧
      TypeMapping.ofSource "numeric" none (some 60) (some 2) = ⟨.numberScaled 38 2, none⟩ ∧
      ¬(ColumnType.numberScaled 38 2).HasRoomFor (.number 60 2)) := by
  refine ⟨⟨.text (by decide +kernel) rfl (by decide), by decide +kernel, ?_⟩,
    .number (by decide +kernel) rfl (by decide), by decide +kernel, ?_⟩
  · show ¬(9000 : ℤ) ≤ 4000
    decide
  · show ¬((2 : ℤ) ≤ 2 ∧ (60 : ℤ) - 2 ≤ 38 - 2)
    decide

end SchemaFerry.Schema
