/-
**The names of the roles.**

Roles that are not named share a base, which is a part of the schema's name in capitals, cut so that
an ending has room behind it. Capitals stay as they are and the ending does not end with a blank, so
that writing such a name takes at most blanks off its front (`normalize_append_ending`).

* `isRoleBase_roleBase` — every schema, and none, has a base that is neither empty nor too long;
* **`resolve_areDerived`** — roles that are not named have two names with this base, and are created
  under two names with their whole endings.
-/

import SchemaFerry.Proofs.Script.Granted

namespace SchemaFerry.Text

/-- A cut at the last mark gives the text back. -/
theorem cutAtLast?_eq_some {mark : Char} {letters front last : List Char}
    (cut : cutAtLast? mark letters = some (front, last)) : letters = front ++ mark :: last := by
  obtain ⟨⟨before, after⟩, found, same⟩ := Option.map_eq_some_iff.mp cut
  cases same
  have mirrored := (cutAtFirst?_eq_some found).1
  rw [← List.reverse_reverse letters, mirrored, List.reverse_append, List.reverse_cons,
    List.append_assoc]
  rfl

end SchemaFerry.Text

namespace SchemaFerry.Script

open SchemaFerry.Identifier SchemaFerry.Schema SchemaFerry.Text

/-! ### The base -/

/-- **A base for the names of roles**: not empty, within its limit, and in capitals. -/
structure IsRoleBase (base : String) : Prop where
  some : base ≠ ""
  short : base.length ≤ maxRoleBaseLength
  fixed : ∀ letter ∈ base.toList, upperLetter letter = [letter]

/-- The application in a schema's name is a part of it that is not empty. -/
theorem nextApplication?_eq_some {letters application : List Char}
    (found : nextApplication? letters = some application) :
    application ≠ [] ∧ application ⊆ letters := by
  obtain ⟨rest, led, found⟩ := Option.bind_eq_some_iff.mp found
  obtain ⟨⟨before, after⟩, cut, found⟩ := Option.bind_eq_some_iff.mp found
  cases empty : before.isEmpty with
  | true =>
    simp only [empty, if_true] at found
    cases found
  | false =>
    simp only [empty, Bool.false_eq_true, if_false] at found
    cases found
    refine ⟨List.isEmpty_eq_false_iff.mp empty, fun letter member => ?_⟩
    rw [← List.isPrefixOf?_eq_some_iff_append_eq.mp led, (cutAtFirst?_eq_some cut).1]
    exact List.mem_append_right _ (List.mem_append_left _ member)

/-- What a schema's name is without its environment is a part of it that is not empty. -/
theorem withoutEnvironment_isPart {letters : List Char} (filled : letters ≠ []) :
    withoutEnvironment letters ≠ [] ∧ withoutEnvironment letters ⊆ letters := by
  unfold withoutEnvironment
  split
  · next front last cut =>
    split
    · next named =>
      have filled := (Bool.and_eq_true_iff.mp named).1
      refine ⟨List.isEmpty_eq_false_iff.mp ((Bool.not_eq_true' _).mp filled), ?_⟩
      rw [cutAtLast?_eq_some cut]
      exact List.subset_append_left _ _
    · exact ⟨filled, List.Subset.refl _⟩
  · exact ⟨filled, List.Subset.refl _⟩

/-- What a base is cut from is a part of the schema's name that is not empty. -/
theorem application_isPart {letters : List Char} (filled : letters ≠ []) :
    (nextApplication? letters).getD (withoutEnvironment letters) ≠ [] ∧
      (nextApplication? letters).getD (withoutEnvironment letters) ⊆ letters := by
  cases found : nextApplication? letters with
  | some application => exact nextApplication?_eq_some found
  | none => exact withoutEnvironment_isPart filled

/-- The front of letters in capitals is a base. -/
theorem isRoleBase_truncate {letters : List Char} (filled : letters ≠ [])
    (fixed : ∀ letter ∈ letters, upperLetter letter = [letter]) :
    IsRoleBase (truncate maxRoleBaseLength (String.ofList letters)) := by
  have shape : (truncate maxRoleBaseLength (String.ofList letters)).toList =
      letters.take maxRoleBaseLength := by
    rw [truncate, String.toList_ofList, String.toList_ofList]
  refine ⟨fun empty => ?_, ?_, fun letter member => ?_⟩
  · rw [empty] at shape
    rcases List.take_eq_nil_iff.mp shape.symm with zero | empty
    · cases zero
    · exact filled empty
  · rw [← String.length_toList]
    exact truncate_length _ _
  · rw [shape] at member
    exact fixed letter (List.mem_of_mem_take member)

/-- **Every schema has a base for the names of its roles**, and none has one too. -/
theorem isRoleBase_roleBase (schema : Option String) : IsRoleBase (roleBase schema) := by
  unfold roleBase
  dsimp only
  split
  · exact ⟨by decide, by decide, fun letter member => by fin_cases member <;> decide⟩
  · next named =>
    have fixed : ∀ letter ∈ upper (trim (schema.getD "").toList), upperLetter letter = [letter] :=
      fun letter => upperLetter_of_mem_upper
    have filled : upper (trim (schema.getD "").toList) ≠ [] := mt List.isEmpty_iff.mpr named
    obtain ⟨present, part⟩ := application_isPart filled
    exact isRoleBase_truncate present fun letter member => fixed letter (part member)

/-! ### Endings -/

/-- **An ending in capitals.** -/
structure IsEnding (ending : String) : Prop where
  solid : isSolid ending = true
  capitals : ∀ letter ∈ ending.toList, IsCapital letter

theorem isEnding_edit : IsEnding "_EDIT_ROLE" where
  solid := by decide
  capitals letter member := by fin_cases member <;> exact ⟨by decide, by decide⟩

theorem isEnding_view : IsEnding "_VIEW_ROLE" where
  solid := by decide
  capitals letter member := by fin_cases member <;> exact ⟨by decide, by decide⟩

/-- Blanks at the front of a text stand before its ending. -/
theorem trimStart_append_ending {ending : String} (isEnding : IsEnding ending)
    (front : List Char) :
    trimStart (front ++ ending.toList) = trimStart front ++ ending.toList := by
  have kept : trimStart ending.toList = ending.toList :=
    trimStart_eq_self (isFolded_of_capitals isEnding.capitals).start
  unfold trimStart at kept ⊢
  rw [List.dropWhile_append]
  split
  · next blank => rw [List.isEmpty_iff.mp blank, kept, List.nil_append]
  · rfl

/-- **Normalizing a name with an ending** takes at most blanks off its front: the letters stay as
they are, and none is cut off. -/
theorem normalize_append_ending {base ending : String} (isEnding : IsEnding ending)
    (fixed : ∀ letter ∈ base.toList, upperLetter letter = [letter])
    (fits : base.length + ending.length ≤ maxLength) :
    (normalize (base ++ ending)).toList = trimStart base.toList ++ ending.toList := by
  have ends : trimEnd (trimStart base.toList ++ ending.toList) =
      trimStart base.toList ++ ending.toList := by
    have whole := trimEnd_append_solid isEnding.solid (trimStart base.toList)
      (fun _ member => absurd member List.not_mem_nil)
    rwa [List.append_nil] at whole
  have capitals : ∀ letter ∈ trimStart base.toList ++ ending.toList,
      upperLetter letter = [letter] := by
    intro letter member
    rcases List.mem_append.mp member with front | own
    · exact fixed letter ((List.dropWhile_sublist isBlank).subset front)
    · exact (isEnding.capitals letter own).fixed
  have short : (trimStart base.toList ++ ending.toList).length ≤ maxLength := by
    have cut := (List.dropWhile_sublist (l := base.toList) isBlank).length_le
    rw [List.length_append, String.length_toList]
    rw [String.length_toList] at cut
    exact Nat.le_trans (Nat.add_le_add_right cut _) fits
  rw [normalize_toList, String.toList_append, trim, trimStart_append_ending isEnding,
    ends, upper_eq_self capitals, List.take_of_length_le short]

/-! ### Roles that are not named -/

/-- Whether no name is given for a role: none, or one of blanks. -/
def isUnnamed (named : Option String) : Bool :=
  named.all isAllBlank

/-- A role that is not named has the derived name. -/
theorem roleName_of_isUnnamed {named : Option String} (unnamed : isUnnamed named = true)
    (derived : String) : roleName named derived = derived := by
  cases named with
  | none => rfl
  | some name =>
    have blank : trimStart name.toList = [] := trimStart_eq_nil_iff.mpr (List.all_eq_true.mp unnamed)
    have empty : trimmed name = "" := by
      rw [trimmed, trim, blank]
      rfl
    rw [roleName, Option.map_some, empty]
    rfl

/-- **A role with a base and an ending**, as it is named and as it is created: the name is within the
limit, and what is stored of it is the name without blanks at its front, so the ending is whole. -/
structure IsRole (base ending name : String) : Prop where
  shape : name = base ++ ending
  short : name.length ≤ maxLength
  stored : ∃ stored, read? (written name) = some stored ∧
    stored.toList = trimStart base.toList ++ ending.toList

theorem isRole_append {base ending : String} (isBase : IsRoleBase base) (isEnding : IsEnding ending)
    (fits : ending.length ≤ maxLength - maxRoleBaseLength) : IsRole base ending (base ++ ending) := by
  have short : base.length + ending.length ≤ maxLength := by
    have room : maxRoleBaseLength ≤ maxLength := by decide
    have cut := isBase.short
    omega
  exact ⟨rfl, (String.length_append base ending).trans_le short, _, read?_written _,
    normalize_append_ending isEnding isBase.fixed short⟩

/-- **Roles that share a base.**

* `sound` — the base is neither empty nor too long;
* `edit`, `view`, `differ` — their names are the base with two endings;
* `created`, `apart` — just these two are created, and under different names. -/
structure AreDerived (base : String) (roles : Roles) (sections : List Section) : Prop where
  sound : IsRoleBase base
  edit : IsRole base "_EDIT_ROLE" roles.edit
  view : IsRole base "_VIEW_ROLE" roles.view
  differ : roles.edit ≠ roles.view
  created : (statements sections).filterMap Statement.createdRole? =
    [written roles.edit, written roles.view]
  apart : written roles.edit ≠ written roles.view

/-- Just the two roles are created. -/
theorem createdRoles_build (tables : List Table) (options : Options) :
    (statements (build tables options).1).filterMap Statement.createdRole? =
      [written options.roles.edit, written options.roles.view] := by
  have silent := filterMap_grantObject Statement.createdRole? fun _ _ _ _ => rfl
  rw [filterMap_statements_eq fun _ plain => plain.1, grantSection]
  simp only [List.filterMap_append, silent, List.append_nil]
  rfl

/-- **Roles that are not named are derived from the schema**, whichever schema it is: they have two
names with one base within the length limit, and the script creates two roles under different names
that have their whole endings. -/
theorem resolve_areDerived (schema : Option String) {edit view : Option String}
    (noEdit : isUnnamed edit = true) (noView : isUnnamed view = true) (tables : List Table)
    (options : Options) :
    AreDerived (roleBase schema) (Roles.resolve schema edit view)
      (build tables { options with roles := Roles.resolve schema edit view }).1 := by
  have isBase := isRoleBase_roleBase schema
  have names : Roles.resolve schema edit view =
      ⟨roleBase schema ++ "_EDIT_ROLE", roleBase schema ++ "_VIEW_ROLE"⟩ := by
    rw [Roles.resolve, roleName_of_isUnnamed noEdit, roleName_of_isUnnamed noView]
  have created := createdRoles_build tables
    { options with roles := Roles.resolve schema edit view }
  rw [names] at created ⊢
  have first := isRole_append isBase isEnding_edit (by decide)
  have second := isRole_append isBase isEnding_view (by decide)
  -- What is stored of the two names has the same front, as blanks are taken off the base alone.
  have apart : written (roleBase schema ++ "_EDIT_ROLE") ≠
      written (roleBase schema ++ "_VIEW_ROLE") := by
    intro same
    obtain ⟨one, readOne, shapeOne⟩ := first.stored
    obtain ⟨other, readOther, shapeOther⟩ := second.stored
    have alike : one = other := Option.some.inj (by rw [← readOne, ← readOther, same])
    rw [alike, shapeOther] at shapeOne
    exact absurd (List.append_cancel_left shapeOne) (by decide)
  exact ⟨isBase, first, second, fun same => apart (congrArg written same), created, apart⟩

/-- A schema whose application is made of blanks, and one role that is named by blanks. -/
theorem resolve_areDerived_blank :
    isUnnamed none = true ∧ isUnnamed (some " ") = true ∧
      AreDerived "  " (Roles.resolve (some "next  _wizas") none (some " "))
        (build [] ⟨"app", Roles.resolve (some "next  _wizas") none (some " "), [], []⟩).1 := by
  have noEdit : isUnnamed none = true := rfl
  have noView : isUnnamed (some " ") = true := by decide
  have derived := resolve_areDerived (some "next  _wizas") noEdit noView []
    ⟨"app", ⟨"", ""⟩, [], []⟩
  have base : roleBase (some "next  _wizas") = "  " := by decide +kernel
  rw [base] at derived
  exact ⟨noEdit, noView, derived⟩

end SchemaFerry.Script
