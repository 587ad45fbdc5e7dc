/-
**The family that a rewritten address tells of.**

Where no driver is named, the family is told from the address, in letters of either case. The lead
of a long form is taken off only in small letters, and what is left may tell of the other family.

* `ofAddress_lower`: in telling, only the case of `A` to `Z` is passed over;
* `told_descriptor`: every descriptor is taken for an address of the source, for it mentions a host;
* `told_postgresql_iff`: what is left of the long form of the source is one exactly if it goes on
  with two slashes or mentions a host;
* `keepsFamily`: exactly which addresses tell of the same family after they have been rewritten.
-/

import SchemaFerry.Proofs.Schema.Translation
import SchemaFerry.Settings.Family

namespace SchemaFerry

open SchemaFerry.Text SchemaFerry.Identifier

/-! ### Telling the family -/

/-- The connection to an address without a driver that is named. -/
def Connection.undriven (connection : Connection) (address : String) : Connection :=
  { connection with address := address, driver := none }

/-- The family that the letters of an address tell of. -/
def Family.told (letters : List Char) : Family :=
  Family.ofAddress ((trim letters).map Char.toLower)

/-- Only the case of `A` to `Z` is passed over in an address. -/
theorem ofAddress_lower (letters : List Char) :
    Family.ofAddress (lower letters) = Family.ofAddress (letters.map Char.toLower) := by
  have leads (lead : String) (sought : isSought lead.toList = true) :
      lead.toList.isPrefixOf (lower letters) =
        lead.toList.isPrefixOf (letters.map Char.toLower) := by
    rw [Bool.eq_iff_iff, List.isPrefixOf_iff_prefix, List.isPrefixOf_iff_prefix,
      prefix_lower_iff sought]
  have host : holds "host=".toList (lower letters) =
      holds "host=".toList (letters.map Char.toLower) := by
    rw [Bool.eq_iff_iff, holds_iff, holds_iff, infix_lower_iff (by decide)]
  simp only [Family.ofAddress, leads _ (by decide : isSought "jdbc:oracle:".toList = true),
    leads _ (by decide : isSought postgresLead.toList = true),
    leads _ (by decide : isSought "postgres://".toList = true),
    leads _ (by decide : isSought "postgresql://".toList = true), host]

theorem family_undriven (connection : Connection) (address : String) :
    (connection.undriven address).family = .ok (Family.told address.toList) :=
  congrArg Except.ok (ofAddress_lower _)

theorem Family.ofAddress_eq_postgres_iff {letters : List Char} :
    Family.ofAddress letters = .postgres ↔
      ¬ "jdbc:oracle:".toList <+: letters ∧
        (postgresLead.toList <+: letters ∨ "postgres://".toList <+: letters ∨
          "postgresql://".toList <+: letters ∨ "host=".toList <:+: letters) := by
  simp only [Family.ofAddress, ← List.isPrefixOf_iff_prefix, ← holds_iff]
  by_cases oracle : "jdbc:oracle:".toList.isPrefixOf letters = true
  · simp only [oracle, if_true, not_true, false_and, reduceCtorEq]
  · simp only [oracle, if_false, not_false_iff, true_and, ite_eq_left_iff, reduceCtorEq, imp_false,
      not_not, Bool.or_eq_true, or_assoc, Bool.false_eq_true]

/-- The letters hold `host=`, in letters of either case. -/
def MentionsHost (letters : List Char) : Prop :=
  "host=".toList <:+: letters.map Char.toLower

/-! ### Trimming what is put together -/

/-- In a text without blanks no letter is blank. -/
theorem isBlank_of_any {letters : List Char} (plain : letters.any isBlank = false) :
    ∀ letter ∈ letters, isBlank letter = false :=
  fun letter member => eq_false_of_ne_true (List.any_eq_false.mp plain letter member)

theorem trim_append_of_plain {lead : List Char} (present : lead ≠ [])
    (unbroken : lead.any isBlank = false) (rest : List Char) :
    trim (lead ++ rest) = lead ++ trimEnd rest := by
  have plain := isBlank_of_any unbroken
  have start : trimStart (lead ++ rest) = lead ++ rest := by
    obtain ⟨first, others, rfl⟩ := List.exists_cons_of_ne_nil present
    refine List.dropWhile_cons_of_neg ?_
    rw [plain first List.mem_cons_self]
    exact Bool.false_ne_true
  obtain ⟨front, last, rfl⟩ := (List.eq_nil_or_concat lead).resolve_left present
  rw [List.concat_eq_append] at plain start ⊢
  have finish : isBlank last = false :=
    plain last (List.mem_append_right _ List.mem_cons_self)
  rw [trim, start, List.append_assoc, List.singleton_append, trimEnd_append_cons finish,
    List.append_assoc, List.singleton_append]

theorem map_trimEnd (letters : List Char) :
    (trimEnd letters).map Char.toLower = trimEnd (letters.map Char.toLower) := by
  have same : isBlank ∘ Char.toLower = isBlank := funext isBlank_toLower
  rw [trimEnd, trimEnd, ← List.map_reverse, List.dropWhile_map, same, List.map_reverse]

/-- A word without blanks is in a text exactly if it is in it before the blanks at its end. -/
theorem infix_trimEnd_iff {word : List Char} (present : word ≠ [])
    (unbroken : word.any isBlank = false) {letters : List Char} :
    word <:+: trimEnd letters ↔ word <:+: letters := by
  have flipped : ∀ text : List Char, word.reverse <:+: trimStart text ↔ word.reverse <:+: text := by
    intro text
    induction text with
    | nil => rfl
    | cons first rest ih =>
      by_cases blank : isBlank first = true
      · have apart : ∀ image ∈ [first], image ∉ word.reverse := by
          rw [List.forall_mem_singleton, List.mem_reverse]
          intro member
          rw [isBlank_of_any unbroken first member] at blank
          cases blank
        rw [trimStart, List.dropWhile_cons_of_pos blank, ← trimStart, ih, ← List.singleton_append,
          infix_append_iff_of_not_mem (by simpa using present) apart]
      · rw [trimStart, List.dropWhile_cons_of_neg blank]
  rw [← List.reverse_infix, trimEnd, List.reverse_reverse, ← trimStart, flipped, List.reverse_infix]

/-! ### The long form of the source -/

theorem upToFirst_append {mark : Char} {front : List Char} (absent : mark ∉ front)
    (rest : List Char) : upToFirst mark (front ++ rest) = front ++ upToFirst mark rest := by
  rw [upToFirst, List.takeWhile_append_of_pos, upToFirst]
  intro letter member
  rw [bne_iff_ne]
  rintro rfl
  exact absent member

theorem postgresAddress_of_lead {address : String} {rest : List Char}
    (long : trim address.toList = postgresLead.toList ++ rest) :
    (postgresAddress address).toList = "postgresql:".toList ++ upToFirst '?' rest := by
  rw [postgresAddress, afterLead?_eq_some_iff.mpr long]
  simp only [String.toList_append, String.toList_ofList]

theorem postgresAddress_of_not_lead {address : String}
    (short : ¬ postgresLead.toList <+: trim address.toList) :
    (postgresAddress address).toList = trim address.toList := by
  rw [postgresAddress]
  split
  · next rest found => exact absurd ⟨rest, (afterLead?_eq_some found).symm⟩ short
  · rw [String.toList_ofList]

theorem ofAddress_postgresql_iff {letters : List Char} :
    Family.ofAddress ("postgresql:".toList ++ letters) = .postgres ↔
      "//".toList <+: letters ∨ "host=".toList <:+: letters := by
  rw [Family.ofAddress_eq_postgres_iff]
  simp [postgresLead, List.cons_prefix_cons, List.infix_cons_iff]

/-- A slash is the small form of no other letter. -/
theorem toLower_eq_slash_iff {letter : Char} : letter.toLower = '/' ↔ letter = '/' := by
  by_cases ascii : letter.toNat < 0x80
  · exact of_ascii (fun letter => letter.toLower = '/' ↔ letter = '/') (by decide +kernel) ascii
  · rw [toLower_of_foreign (Nat.not_lt.mp ascii)]

theorem slashes_prefix_map_iff {letters : List Char} :
    "//".toList <+: letters.map Char.toLower ↔ "//".toList <+: letters := by
  rcases letters with _ | ⟨first, _ | ⟨second, rest⟩⟩
  · rfl
  · simp [List.cons_prefix_cons]
  · simp [List.cons_prefix_cons, toLower_eq_slash_iff, eq_comm (a := '/')]

/-- **What is left of the long form tells of the source** exactly if it goes on with two slashes or
mentions a host. -/
theorem told_postgresql_iff {rest : List Char} :
    Family.told ("postgresql:".toList ++ upToFirst '?' rest) = .postgres ↔
      "//".toList <+: rest ∨ MentionsHost (upToFirst '?' rest) := by
  have whole : (trim ("postgresql:".toList ++ upToFirst '?' rest)).map Char.toLower =
      "postgresql:".toList ++ trimEnd ((upToFirst '?' rest).map Char.toLower) := by
    rw [trim_append_of_plain (by decide) (by decide), List.map_append, map_trimEnd]
    rfl
  have slashes : "//".toList <+: trimEnd ((upToFirst '?' rest).map Char.toLower) ↔
      "//".toList <+: rest := by
    constructor
    · intro front
      have within := front.trans (trimEnd_isFront _)
      exact (slashes_prefix_map_iff.mp within).trans (List.takeWhile_prefix _)
    · rintro ⟨more, rfl⟩
      rw [upToFirst_append (by decide), List.map_append]
      show _ <+: trimEnd (['/'] ++ '/' :: _)
      rw [trimEnd_append_cons rfl]
      exact List.prefix_append _ _
  rw [Family.told, whole, ofAddress_postgresql_iff, slashes, infix_trimEnd_iff (by decide)
    (by decide)]
  rfl

/-! ### The long form of the destination -/

/-- What follows the lead is a host, a port and an instance. -/
structure NamesInstance (rest : List Char) : Prop where
  pieces : rest.count ':' = 2
  noSlashes : ¬ "//".toList <+: rest
  noBracket : rest.head? ≠ some '('

/-- The start of a descriptor, up to the host. -/
def descriptorLead : List Char :=
  "(DESCRIPTION=(ADDRESS=(PROTOCOL=TCP)(HOST=".toList

theorem oracleAddress_of_not_lead {address : String}
    (short : ¬ oracleLead.toList <+: trim address.toList) :
    (oracleAddress address).toList = trim address.toList := by
  rw [oracleAddress]
  split
  · rw [String.toList_ofList]
  · next rest found => exact absurd ⟨rest, (afterLead?_eq_some found).symm⟩ short

/-- The long form is rewritten to a descriptor or to what follows the lead. -/
theorem oracleAddress_of_lead {address : String} {rest : List Char}
    (long : trim address.toList = oracleLead.toList ++ rest) :
    (NamesInstance rest ∧ ∃ more, (oracleAddress address).toList = descriptorLead ++ more) ∨
      (¬ NamesInstance rest ∧ (oracleAddress address).toList = rest) := by
  rw [oracleAddress, afterLead?_eq_some_iff.mpr long]
  simp only
  split
  · next form =>
    refine .inr ⟨fun named => ?_, String.toList_ofList⟩
    rcases Bool.or_eq_true .. |>.mp form with slashes | bracket
    · exact named.noSlashes (List.isPrefixOf_iff_prefix.mp slashes)
    · exact named.noBracket (beq_iff_eq.mp bracket)
  · next form =>
    rw [Bool.or_eq_true, not_or, List.isPrefixOf_iff_prefix, beq_iff_eq] at form
    have count := length_splitAtEach ':' rest
    split
    · next host port instanceName cut =>
      rw [cut] at count
      refine .inl ⟨⟨Nat.succ.inj count.symm, form.1, form.2⟩, ?_⟩
      simp only [String.toList_append, List.append_assoc]
      exact ⟨_, rfl⟩
    · next other =>
      refine .inr ⟨fun named => ?_, String.toList_ofList⟩
      rw [named.pieces] at count
      obtain ⟨_, _, _, cut⟩ := List.length_eq_three.mp count
      exact other _ _ _ cut

/-- **A descriptor tells of the source**: it mentions a host. -/
theorem told_descriptor (more : List Char) : Family.told (descriptorLead ++ more) = .postgres := by
  have small : descriptorLead.map Char.toLower =
      "(description=(address=(protocol=tcp)(".toList ++ "host=".toList := by
    decide
  rw [Family.told, trim_append_of_plain (by decide) (by decide), List.map_append, small,
    Family.ofAddress_eq_postgres_iff]
  refine ⟨by simp [List.cons_prefix_cons], .inr (.inr (.inr ?_))⟩
  exact List.infix_append _ _ _

/-! ### Rewritten addresses -/

/-- **Which addresses tell of the same family after they have been rewritten.**

* `oracle` — an address of the destination, unless it has the long form and what follows the lead is
  a host, a port and an instance, or tells of the source by itself;
* `postgres` — an address of the source, unless it has the long form in small letters and what
  follows the lead neither starts with two slashes nor mentions a host before the options;
* `lead` — and the long form of the source, known in letters of either case, loses its lead exactly
  if this stands in small letters. -/
structure KeepsFamily (connection : Connection) (address : String) : Prop where
  oracle : (connection.undriven address).family = .ok .oracle →
    ((connection.undriven (oracleAddress address)).family = .ok .oracle ↔
      ∀ rest, trim address.toList = oracleLead.toList ++ rest →
        ¬ NamesInstance rest ∧ (connection.undriven (String.ofList rest)).family = .ok .oracle)
  postgres : (connection.undriven address).family = .ok .postgres →
    ((connection.undriven (postgresAddress address)).family = .ok .postgres ↔
      ∀ rest, trim address.toList = postgresLead.toList ++ rest →
        "//".toList <+: rest ∨ MentionsHost (upToFirst '?' rest))
  lead : postgresLead.toList <+: lower (trim address.toList) →
    ("jdbc:".toList <+: lower (postgresAddress address).toList ↔
      ¬ postgresLead.toList <+: trim address.toList)

theorem told_trim (letters : List Char) : Family.told (trim letters) = Family.told letters := by
  rw [Family.told, trim_eq_self (isTrimmed_trim letters), Family.told]

/-- What holds of everything that may follow a lead holds of what follows it. -/
theorem forall_append_iff {lead rest letters : List Char} (same : lead ++ rest = letters)
    {holds : List Char → Prop} : (∀ other, letters = lead ++ other → holds other) ↔ holds rest := by
  subst same
  simp only [List.append_cancel_left_eq, forall_eq']

theorem told_oracleAddress_iff {address : String}
    (oracle : Family.told address.toList = .oracle) :
    Family.told (oracleAddress address).toList = .oracle ↔
      ∀ rest, trim address.toList = oracleLead.toList ++ rest →
        ¬ NamesInstance rest ∧ Family.told rest = .oracle := by
  by_cases long : oracleLead.toList <+: trim address.toList
  · obtain ⟨rest, same⟩ := long
    rw [forall_append_iff same]
    rcases oracleAddress_of_lead same.symm with ⟨named, more, rewritten⟩ | ⟨unnamed, rewritten⟩
    · rw [rewritten, told_descriptor]
      simp [named]
    · rw [rewritten]
      simp [unnamed]
  · rw [oracleAddress_of_not_lead long, told_trim]
    exact iff_of_true oracle fun rest same => absurd ⟨rest, same.symm⟩ long

theorem told_postgresAddress_iff {address : String}
    (postgres : Family.told address.toList = .postgres) :
    Family.told (postgresAddress address).toList = .postgres ↔
      ∀ rest, trim address.toList = postgresLead.toList ++ rest →
        "//".toList <+: rest ∨ MentionsHost (upToFirst '?' rest) := by
  by_cases long : postgresLead.toList <+: trim address.toList
  · obtain ⟨rest, same⟩ := long
    rw [forall_append_iff same, postgresAddress_of_lead same.symm, told_postgresql_iff]
  · rw [postgresAddress_of_not_lead long, told_trim]
    exact iff_of_true postgres fun rest same => absurd ⟨rest, same.symm⟩ long

theorem lower_postgresAddress_iff {address : String}
    (known : postgresLead.toList <+: lower (trim address.toList)) :
    "jdbc:".toList <+: lower (postgresAddress address).toList ↔
      ¬ postgresLead.toList <+: trim address.toList := by
  by_cases long : postgresLead.toList <+: trim address.toList
  · obtain ⟨rest, same⟩ := long
    rw [postgresAddress_of_lead same.symm, prefix_lower_iff (by decide)]
    refine iff_of_false ?_ (not_not_intro ⟨rest, same⟩)
    simp [List.cons_prefix_cons]
  · rw [postgresAddress_of_not_lead long]
    exact iff_of_true (List.IsPrefix.trans (by decide) known) long

/-- **Exactly these addresses keep their family**, whatever the connection is. -/
theorem keepsFamily (connection : Connection) (address : String) :
    KeepsFamily connection address := by
  constructor
  · intro told
    simp only [family_undriven, Except.ok.injEq, String.toList_ofList] at told ⊢
    exact told_oracleAddress_iff told
  · intro told
    simp only [family_undriven, Except.ok.injEq] at told ⊢
    exact told_postgresAddress_iff told
  · exact lower_postgresAddress_iff

/-- A host, a port and an instance become an address of the source, the short form of the source one
of the destination, and a lead in capitals stays. -/
theorem rewritten_addresses_stray :
    ((Connection.mk "jdbc:oracle:thin:@db:1521:ORCL" "a" "" "a" none "").family = .ok .oracle ∧
      (Connection.mk (oracleAddress "jdbc:oracle:thin:@db:1521:ORCL") "a" "" "a" none "").family =
        .ok .postgres) ∧
    ((Connection.mk "jdbc:postgresql:app" "a" "" "a" none "").family = .ok .postgres ∧
      (Connection.mk (postgresAddress "jdbc:postgresql:app") "a" "" "a" none "").family =
        .ok .oracle) ∧
    (postgresLead.toList <+: lower (trim "JDBC:POSTGRESQL://db:5432/app".toList) ∧
      postgresAddress "JDBC:POSTGRESQL://db:5432/app" = "JDBC:POSTGRESQL://db:5432/app") := by
  decide +kernel

end SchemaFerry
