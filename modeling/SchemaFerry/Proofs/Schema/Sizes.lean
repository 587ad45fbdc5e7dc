/-
**Sizes of column types.**

A type of the destination with a size is only accepted within limits (`IsAcceptedType`). Whatever
the name of a source type and the sizes beside it are, also sizes that are missing, negative or
huge, the type that it is mapped to is accepted: a size that the source type declares is cut to the
limit, any other size is one that the mapping brings along.

* `ofSource_of_declares` — what a type with a declared size (`Declares`) is mapped to;
* `ofName_mem` — the types that there are: those without a size, those with a size of their own, and
  those with a size that is cut to a limit;
* **`ofSource_isAccepted`** — every mapping gives a type that is accepted, and a declared size
  within the limits is carried over.
-/

import SchemaFerry.Schema.ColumnType

namespace SchemaFerry.Schema

open SchemaFerry.Text

/-! ### Types with a declared size -/

/-- A source type with a declared size: texts of varying and of fixed length, bit strings, and
numbers with a precision and a scale. -/
inductive SizedType where
  | text (length : Int)
  | padded (length : Int)
  | bits (length : Int)
  | number (precision scale : Int)
  deriving Repr, DecidableEq

/-- The name of a source type, in letters of either case and with blanks around it, and the sizes
beside it declare a positive size. A number without a scale has none of its digits behind the
point. -/
inductive Declares (name : String) (length precision scale : Option Int) : SizedType → Prop where
  | text {letters : Int} (named : lowercased (trimmed name) ∈ ["character varying", "varchar"])
      (given : length = some letters) (positive : 0 < letters) :
      Declares name length precision scale (.text letters)
  | padded {letters : Int} (named : lowercased (trimmed name) ∈ ["character", "char", "bpchar"])
      (given : length = some letters) (positive : 0 < letters) :
      Declares name length precision scale (.padded letters)
  | bits {letters : Int} (named : lowercased (trimmed name) ∈ ["bit", "bit varying", "varbit"])
      (given : length = some letters) (positive : 0 < letters) :
      Declares name length precision scale (.bits letters)
  | number {digits : Int} (named : lowercased (trimmed name) ∈ ["numeric", "decimal"])
      (given : precision = some digits) (positive : 0 < digits) :
      Declares name length precision scale (.number digits (scale.getD 0))

/-- A declared size is one that the destination has types for. -/
def SizedType.IsWithinLimits : SizedType → Prop
  | text length => length ≤ 4000
  | padded length => length ≤ 2000
  | bits length => length ≤ 4000
  | number precision scale => precision ≤ 38 ∧ -84 ≤ scale ∧ scale ≤ 127

/-- The type of the destination with the size that is declared, cut to the limits. -/
def SizedType.mapped : SizedType → ColumnType
  | text length => .varchar (min length maxVarcharLength)
  | padded length => .char (min length maxCharLength)
  | bits length => .varchar (min length maxVarcharLength)
  | number precision scale =>
    if scale = 0 then .numberOf (min precision maxPrecision)
    else .numberScaled (min precision maxPrecision) (max minScale (min scale maxScale))

/-- How the destination writes a type with the very size that is declared. -/
def SizedType.carried : SizedType → String
  | text length => "VARCHAR2(" ++ toString length ++ ")"
  | padded length => "CHAR(" ++ toString length ++ ")"
  | bits length => "VARCHAR2(" ++ toString length ++ ")"
  | number precision scale =>
    if scale = 0 then "NUMBER(" ++ toString precision ++ ")"
    else "NUMBER(" ++ toString precision ++ "," ++ toString scale ++ ")"

section Mapping

variable {name : String} {length precision scale : Option Int}

/-- A name whose small letters are one of several names is mapped like them. -/
theorem ofSource_of_mem {names : List String} {mapping : TypeMapping}
    (named : lowercased (trimmed name) ∈ names)
    (plain : ∀ folded ∈ names, isArrayName folded = false)
    (mapped : ∀ folded ∈ names,
      TypeMapping.ofName folded length precision scale = mapping) :
    TypeMapping.ofSource name length precision scale = mapping := by
  unfold TypeMapping.ofSource
  dsimp only
  rw [plain _ named, if_neg Bool.false_ne_true, mapped _ named]

theorem sizeWithin_of_pos {limit size : Int} (positive : 0 < size) (unsized : Int) :
    sizeWithin limit unsized (some size) = min size limit :=
  if_pos positive

theorem numberType_of_pos {digits : Int} (positive : 0 < digits) :
    numberType (some digits) scale = (SizedType.number digits (scale.getD 0)).mapped := by
  unfold numberType
  cases scale with
  | none => exact if_pos positive
  | some places => exact if_pos positive

/-- **A type with a declared size is mapped to one with this size, cut to the limits**, and no loss
is reported. -/
theorem ofSource_of_declares {sized : SizedType}
    (declares : Declares name length precision scale sized) :
    TypeMapping.ofSource name length precision scale = ⟨sized.mapped, none⟩ := by
  cases declares with
  | text named given positive =>
    refine ofSource_of_mem named (by decide) ?_
    rw [given, SizedType.mapped, ← sizeWithin_of_pos positive maxVarcharLength]
    exact List.forall_mem_cons.mpr ⟨rfl, List.forall_mem_singleton.mpr rfl⟩
  | padded named given positive | bits named given positive =>
    refine ofSource_of_mem named (by decide) ?_
    rw [given, SizedType.mapped, ← sizeWithin_of_pos positive 1]
    exact List.forall_mem_cons.mpr ⟨rfl, List.forall_mem_cons.mpr ⟨rfl,
      List.forall_mem_singleton.mpr rfl⟩⟩
  | number named given positive =>
    refine ofSource_of_mem named (by decide) ?_
    rw [given, ← numberType_of_pos positive]
    exact List.forall_mem_cons.mpr ⟨rfl, List.forall_mem_singleton.mpr rfl⟩

end Mapping

/-- **A declared size within the limits is carried over.** -/
theorem SizedType.written_mapped_eq {sized : SizedType} (within : sized.IsWithinLimits) :
    sized.mapped.written = sized.carried := by
  cases sized with
  | text length | bits length =>
    rw [mapped, Int.min_eq_left (b := maxVarcharLength) within]
    rfl
  | padded length =>
    rw [mapped, Int.min_eq_left (b := maxCharLength) within]
    rfl
  | number precision scale =>
    obtain ⟨most, low, high⟩ := within
    have clamped : max minScale (min scale maxScale) = scale := by
      rw [Int.min_eq_left (b := maxScale) high, Int.max_eq_right (a := minScale) low]
    rw [mapped, carried, Int.min_eq_left (b := maxPrecision) most, clamped]
    by_cases whole : scale = 0
    · rw [if_pos whole, if_pos whole]
      rfl
    · rw [if_neg whole, if_neg whole]
      rfl

/-! ### Types that are accepted -/

/-- The types of the destination that are used without a size, or always with the same one that is
not limited. -/
def unsizedTypes : List String :=
  ["CLOB", "BLOB", "XMLTYPE", "NUMBER", "BINARY_FLOAT", "BINARY_DOUBLE", "DATE", "TIMESTAMP(6)",
    "TIMESTAMP(6) WITH TIME ZONE", "INTERVAL DAY(9) TO SECOND(6)"]

/-- **A type that the destination accepts**: its sizes are within the limits. A scale of nought is
not written. -/
inductive IsAcceptedType : String → Prop where
  | varchar {length : Int} (least : 1 ≤ length) (most : length ≤ 4000) :
      IsAcceptedType ("VARCHAR2(" ++ toString length ++ ")")
  | char {length : Int} (least : 1 ≤ length) (most : length ≤ 2000) :
      IsAcceptedType ("CHAR(" ++ toString length ++ ")")
  | whole {precision : Int} (least : 1 ≤ precision) (most : precision ≤ 38) :
      IsAcceptedType ("NUMBER(" ++ toString precision ++ ")")
  | scaled {precision scale : Int} (least : 1 ≤ precision) (most : precision ≤ 38)
      (low : -84 ≤ scale) (high : scale ≤ 127) (nonzero : scale ≠ 0) :
      IsAcceptedType ("NUMBER(" ++ toString precision ++ "," ++ toString scale ++ ")")
  | unsized {type : String} (listed : type ∈ unsizedTypes) : IsAcceptedType type

/-- The types without a size. -/
def unsizedColumnTypes : List ColumnType :=
  [.clob, .blob, .xml, .number, .binaryFloat, .binaryDouble, .date, .timestamp, .timestampWithZone,
    .interval]

/-- The types with a size that is the same whatever the source type declares. -/
def fixedTypes : List ColumnType :=
  [.numberOf 1, .numberOf 5, .numberOf 10, .numberOf 19, .numberScaled 19 2, .varchar 32,
    .varchar 36, .varchar 50, .varchar 1000]

/-- The types whose sizes are those that the source type declares, cut to the limits. -/
def cutTypes (length precision scale : Option Int) : List ColumnType :=
  [.varchar (sizeWithin maxVarcharLength maxVarcharLength length),
    .varchar (sizeWithin maxVarcharLength 1 length), .char (sizeWithin maxCharLength 1 length),
    numberType precision scale]

/-- **The types that source types are mapped to.** -/
theorem ofName_mem (name : String) (length precision scale : Option Int) :
    (TypeMapping.ofName name length precision scale).type ∈
      unsizedColumnTypes ++ fixedTypes ++ cutTypes length precision scale := by
  unfold TypeMapping.ofName
  split <;> simp only [unsizedColumnTypes, fixedTypes, cutTypes, List.cons_append, List.nil_append,
    List.mem_cons, true_or, or_true]

theorem unsizedColumnTypes_isAccepted : ∀ type ∈ unsizedColumnTypes,
    IsAcceptedType type.written := by
  have listed : ∀ type ∈ unsizedColumnTypes, type.written ∈ unsizedTypes := by decide
  exact fun type member => .unsized (listed type member)

theorem fixedTypes_isAccepted : ∀ type ∈ fixedTypes, IsAcceptedType type.written := by
  simp only [fixedTypes, List.forall_mem_cons, List.not_mem_nil, false_implies, implies_true,
    and_true]
  refine ⟨.whole ?_ ?_, .whole ?_ ?_, .whole ?_ ?_, .whole ?_ ?_, .scaled ?_ ?_ ?_ ?_ ?_,
    .varchar ?_ ?_, .varchar ?_ ?_, .varchar ?_ ?_, .varchar ?_ ?_⟩ <;> decide

/-- A size that is cut to a limit is within it. -/
theorem sizeWithin_bounds {limit unsized : Int} (least : 1 ≤ unsized) (most : unsized ≤ limit)
    (length : Option Int) :
    1 ≤ sizeWithin limit unsized length ∧ sizeWithin limit unsized length ≤ limit := by
  cases length with
  | none => exact ⟨least, most⟩
  | some size =>
    by_cases positive : 0 < size
    · rw [sizeWithin_of_pos positive unsized]
      omega
    · rw [sizeWithin, if_neg positive]
      exact ⟨least, most⟩

/-- A number type has a precision and a scale within their limits, or neither. -/
theorem numberType_isAccepted (precision scale : Option Int) :
    IsAcceptedType (numberType precision scale).written := by
  cases precision with
  | none => exact .unsized (show "NUMBER" ∈ unsizedTypes by decide)
  | some digits =>
    by_cases positive : 0 < digits
    · have least : 1 ≤ min digits maxPrecision := Int.le_min.mpr ⟨positive, by decide⟩
      have most : min digits maxPrecision ≤ 38 := Int.min_le_right _ _
      rw [numberType_of_pos positive, SizedType.mapped]
      by_cases whole : scale.getD 0 = 0
      · rw [if_pos whole]
        exact .whole least most
      · rw [if_neg whole]
        -- A scale that is cut is cut to a limit, and no limit is nought.
        refine .scaled least most ?_ ?_ ?_ <;> rw [minScale, maxScale] <;> omega
    · unfold numberType
      dsimp only
      rw [if_neg positive]
      exact .unsized (show "NUMBER" ∈ unsizedTypes by decide)

theorem cutTypes_isAccepted (length precision scale : Option Int) :
    ∀ type ∈ cutTypes length precision scale, IsAcceptedType type.written := by
  simp only [cutTypes, List.forall_mem_cons, List.not_mem_nil, false_implies, implies_true,
    and_true]
  have free := sizeWithin_bounds (show 1 ≤ maxVarcharLength by decide) (Int.le_refl _) length
  have single := sizeWithin_bounds (Int.le_refl 1) (show 1 ≤ maxVarcharLength by decide) length
  have padded := sizeWithin_bounds (Int.le_refl 1) (show 1 ≤ maxCharLength by decide) length
  exact ⟨.varchar free.1 free.2, .varchar single.1 single.2, .char padded.1 padded.2,
    numberType_isAccepted precision scale⟩

/-- **Every mapping gives a type that the destination accepts**, for every name and all sizes, and a
declared size within the limits is carried over. -/
theorem ofSource_isAccepted (name : String) (length precision scale : Option Int) :
    IsAcceptedType (TypeMapping.ofSource name length precision scale).type.written ∧
      ∀ sized, Declares name length precision scale sized → sized.IsWithinLimits →
        (TypeMapping.ofSource name length precision scale).type.written = sized.carried := by
  constructor
  · unfold TypeMapping.ofSource
    dsimp only
    split
    · exact unsizedColumnTypes_isAccepted _ (by decide)
    · have member := ofName_mem (lowercased (trimmed name)) length precision scale
      rw [List.mem_append, List.mem_append] at member
      rcases member with (unsized | fixed) | cut
      · exact unsizedColumnTypes_isAccepted _ unsized
      · exact fixedTypes_isAccepted _ fixed
      · exact cutTypes_isAccepted length precision scale _ cut
  · intro sized declares within
    rw [ofSource_of_declares declares]
    exact SizedType.written_mapped_eq within

/-- An amount of money with blanks around the name of its type. -/
theorem ofSource_isAccepted_amount :
    Declares " Decimal " none (some 12) (some 2) (.number 12 2) ∧
      (SizedType.number 12 2).IsWithinLimits ∧
      (TypeMapping.ofSource " Decimal " none (some 12) (some 2)).type.written = "NUMBER(12,2)" := by
  have declares : Declares " Decimal " none (some 12) (some 2) (.number 12 2) :=
    .number (by decide +kernel) rfl (by decide)
  have within : (SizedType.number 12 2).IsWithinLimits := ⟨by decide, by decide, by decide⟩
  exact ⟨declares, within,
    (ofSource_isAccepted " Decimal " none (some 12) (some 2)).2 _ declares within⟩

end SchemaFerry.Schema
