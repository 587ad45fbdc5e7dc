/-
**Where an expression is cut.**

An expression has a cast if two colons stand behind letters that leave no text literal open
(`HasCast`). Letters leave none open if they are put together from text literals and from letters
that are no quotes (`AreClosed`), and that is so iff their quotes are even in number
(`areClosed_iff`), since a text literal has two quotes and two more for each quote of its text. The
scan keeps the parity of the quotes behind it in one truth value; so it finds a cast if there is one
(`beforeCast?_eq_none_iff`), and the first one of all (`isFirstCast_of_beforeCast?`).

The scan may as well be made over the octets of the expression (`castPlace?`): quotes and colons are
seen in the octets exactly where they stand in the letters, and the place that is found is always
the end of whole letters (`castPlace?_octets`).

* **`withoutCasts_cuts`** — a text literal with a cast behind it is cut to the literal; what has no
  cast is kept as it is; and whatever is cut is cut at its first cast, between two letters.
-/

import SchemaFerry.Proofs.Schema.Casts
import SchemaFerry.Proofs.Schema.Translation
import SchemaFerry.Proofs.Text.Octets

namespace SchemaFerry.Schema

open SchemaFerry.Text

/-! ### Letters that leave no literal open -/

/-- **Letters that leave no text literal open**: text literals, and letters that are no quotes. -/
inductive AreClosed : List Char → Prop
  | nil : AreClosed []
  | plain {letter : Char} {rest : List Char} (bare : letter ≠ '\'') (closed : AreClosed rest) :
      AreClosed (letter :: rest)
  | literal (body : List Char) {rest : List Char} (closed : AreClosed rest) :
      AreClosed (quote '\'' body ++ rest)

/-- **An expression has a cast**: two colons that are not inside a text literal. -/
def HasCast (letters : List Char) : Prop :=
  ∃ front after, letters = front ++ ':' :: ':' :: after ∧ AreClosed front

theorem count_doubled (mark : Char) (body : List Char) :
    (doubled mark body).count mark = 2 * body.count mark := by
  induction body with
  | nil => rfl
  | cons letter rest ih =>
    unfold doubled
    by_cases same : letter = mark
    · rw [if_pos same, same, List.count_cons_self, List.count_cons_self, List.count_cons_self, ih]
      omega
    · rw [if_neg same, List.count_cons_of_ne same, List.count_cons_of_ne same, ih]

theorem count_quote (mark : Char) (body : List Char) :
    (quote mark body).count mark = 2 * body.count mark + 2 := by
  unfold quote
  rw [List.count_cons_self, List.count_append, count_doubled, List.count_singleton_self]

theorem doubled_eq_self {mark : Char} {body : List Char} (absent : mark ∉ body) :
    doubled mark body = body := by
  induction body with
  | nil => rfl
  | cons letter rest ih =>
    rw [List.mem_cons, not_or] at absent
    rw [doubled, if_neg fun same => absent.1 same.symm, ih absent.2]

/-- With even quotes no literal is left open; with odd ones the first quote closes one. -/
theorem areClosed_or_closes (letters : List Char) :
    (letters.count '\'' % 2 = 0 → AreClosed letters) ∧
      (letters.count '\'' % 2 = 1 →
        ∃ body after, letters = body ++ '\'' :: after ∧ '\'' ∉ body ∧ AreClosed after) := by
  induction letters with
  | nil => exact ⟨fun _ => .nil, fun odd => absurd odd (by decide)⟩
  | cons letter rest ih =>
    obtain ⟨closed, closes⟩ := ih
    by_cases mark : letter = '\''
    · -- The quote opens a literal that the first quote of the rest closes, or closes one itself.
      subst mark
      rw [List.count_cons_self]
      refine ⟨fun even => ?_, fun odd => ⟨[], rest, rfl, List.not_mem_nil, closed (by omega)⟩⟩
      obtain ⟨body, after, rfl, absent, closed⟩ := closes (by omega)
      have literal := AreClosed.literal body closed
      rwa [quote, doubled_eq_self absent, List.cons_append, List.append_assoc,
        List.singleton_append] at literal
    · rw [List.count_cons_of_ne mark]
      refine ⟨fun even => .plain mark (closed even), fun odd => ?_⟩
      obtain ⟨body, after, rfl, absent, closed⟩ := closes odd
      exact ⟨letter :: body, after, rfl, List.not_mem_cons_of_ne_of_not_mem (Ne.symm mark) absent,
        closed⟩

/-- **No literal is left open iff the quotes are even in number.** -/
theorem areClosed_iff {letters : List Char} : AreClosed letters ↔ letters.count '\'' % 2 = 0 := by
  refine ⟨fun closed => ?_, (areClosed_or_closes letters).1⟩
  induction closed with
  | nil => rfl
  | plain bare _ ih => rwa [List.count_cons_of_ne bare]
  | literal body _ ih =>
    rw [List.count_append, count_quote]
    omega

instance : DecidablePred AreClosed := fun _ => decidable_of_iff _ areClosed_iff.symm

/-! ### The scan over letters -/

section Scan

variable {inLiteral : Bool} {letters front : List Char}

theorem toNat_flipped (flips : Bool) (count : Nat) :
    (count + 1) % 2 = flips.toNat ↔ count % 2 = (!flips).toNat := by
  cases flips <;> simp <;> omega

/-- The truth value of a scan is the parity of the quotes that are left up to the cut. -/
theorem parity_of_beforeCast? (cut : beforeCast? inLiteral letters = some front) :
    front.count '\'' % 2 = inLiteral.toNat := by
  induction letters generalizing inLiteral front with
  | nil => cases cut
  | cons letter rest ih =>
    rw [beforeCast?_cons] at cut
    split at cut
    · rename_i double
      obtain rfl := Option.some.inj cut
      rw [double.1]
      rfl
    · obtain ⟨others, found, rfl⟩ := Option.map_eq_some_iff.mp cut
      by_cases mark : letter = '\''
      · rw [if_pos mark] at found
        rw [mark, List.count_cons_self, toNat_flipped]
        exact ih found
      · rw [if_neg mark] at found
        rw [List.count_cons_of_ne mark]
        exact ih found

/-- Two colons outside literals are cut at, or something before them is. -/
theorem exists_beforeCast? (inLiteral : Bool) (after : List Char)
    (parity : front.count '\'' % 2 = inLiteral.toNat) :
    ∃ cut, beforeCast? inLiteral (front ++ ':' :: ':' :: after) = some cut ∧ cut <+: front := by
  induction front generalizing inLiteral with
  | nil =>
    cases inLiteral with
    | false => exact ⟨[], rfl, List.nil_prefix⟩
    | true => cases parity
  | cons letter rest ih =>
    rw [List.cons_append, beforeCast?_cons]
    split
    · exact ⟨[], rfl, List.nil_prefix⟩
    · have left : rest.count '\'' % 2 = (if letter = '\'' then !inLiteral else inLiteral).toNat := by
        by_cases mark : letter = '\''
        · rw [mark, List.count_cons_self, toNat_flipped] at parity
          rwa [if_pos mark]
        · rw [List.count_cons_of_ne mark] at parity
          rwa [if_neg mark]
      obtain ⟨cut, found, first⟩ := ih _ left
      rw [found]
      exact ⟨letter :: cut, rfl, List.cons_prefix_cons.mpr ⟨rfl, first⟩⟩

end Scan

section Cut

variable {letters front : List Char}

/-- **An expression is cut at its first cast.** -/
structure IsFirstCast (letters front : List Char) : Prop where
  outside : AreClosed front
  exists_cast : ∃ after, letters = front ++ ':' :: ':' :: after
  first : ∀ other after, letters = other ++ ':' :: ':' :: after → AreClosed other → front <+: other

theorem isFirstCast_of_beforeCast? (cut : beforeCast? false letters = some front) :
    IsFirstCast letters front where
  outside := areClosed_iff.mpr (parity_of_beforeCast? cut)
  exists_cast := exists_cast cut
  first other after shape closed := by
    obtain ⟨found, same, first⟩ := exists_beforeCast? false after (areClosed_iff.mp closed)
    rw [← shape, cut] at same
    obtain rfl := Option.some.inj same
    exact first

/-- **Nothing is cut iff there is no cast.** -/
theorem beforeCast?_eq_none_iff : beforeCast? false letters = none ↔ ¬ HasCast letters := by
  constructor
  · rintro uncut ⟨front, after, rfl, closed⟩
    obtain ⟨cut, found, _⟩ := exists_beforeCast? false after (areClosed_iff.mp closed)
    cases uncut.symm.trans found
  · intro uncast
    cases cut : beforeCast? false letters with
    | none => rfl
    | some front =>
      obtain ⟨outside, ⟨after, shape⟩, _⟩ := isFirstCast_of_beforeCast? cut
      exact absurd ⟨front, after, shape, outside⟩ uncast

instance : DecidablePred HasCast := fun letters =>
  decidable_of_iff (¬ beforeCast? false letters = none) <| by
    rw [beforeCast?_eq_none_iff, not_not]

end Cut

example : HasCast "'a::b'::text".toList ∧ ¬ HasCast "'a::b' || 'c''::d'".toList := by decide

/-! ### The scan over octets -/

/-- The octet of a quote. -/
def quoteOctet : UInt8 := UInt8.ofNat '\''.toNat

/-- The octet of a colon. -/
def colonOctet : UInt8 := UInt8.ofNat ':'.toNat

/-- The number of octets before the first cast, if there is one. The truth value says whether the
octets start inside a text literal. -/
def castPlace? (inLiteral : Bool) : List UInt8 → Option Nat
  | [] => none
  | octet :: rest =>
    if inLiteral = false ∧ octet = colonOctet ∧ rest.head? = some colonOctet then some 0
    else (castPlace? (if octet = quoteOctet then !inLiteral else inLiteral) rest).map (· + 1)

/-- Octets of 128 and more are passed over. -/
theorem castPlace?_append_of_wide {front : List UInt8}
    (wide : ∀ octet ∈ front, 128 ≤ octet.toNat) (inLiteral : Bool) (rest : List UInt8) :
    castPlace? inLiteral (front ++ rest) =
      (castPlace? inLiteral rest).map (· + front.length) := by
  induction front with
  | nil => exact (Option.map_id' (x := castPlace? inLiteral rest)).symm
  | cons octet front ih =>
    rw [List.forall_mem_cons] at wide
    have notColon : octet ≠ colonOctet := fun same => absurd wide.1 (by rw [same]; decide)
    have notQuote : octet ≠ quoteOctet := fun same => absurd wide.1 (by rw [same]; decide)
    rw [List.cons_append, castPlace?, if_neg fun cuts => notColon cuts.2.1, if_neg notQuote,
      ih wide.2, Option.map_map]
    rfl

/-- **The scans over letters and over octets cut at the same place**, between two letters. -/
theorem castPlace?_octets (inLiteral : Bool) (letters : List Char) :
    castPlace? inLiteral (octets letters) =
      (beforeCast? inLiteral letters).map fun front => (octets front).length := by
  induction letters generalizing inLiteral with
  | nil => rfl
  | cons letter rest ih =>
    by_cases small : letter.toNat < 128
    · have colon : UInt8.ofNat letter.toNat = colonOctet ↔ letter = ':' :=
        ofNat_toNat_inj small (by decide)
      have mark : UInt8.ofNat letter.toNat = quoteOctet ↔ letter = '\'' :=
        ofNat_toNat_inj small (by decide)
      have next : (octets rest).head? = some colonOctet ↔ rest.head? = some ':' :=
        octets_head?_iff (by decide) rest
      rw [octets_cons, utf8EncodeChar_of_small small, List.singleton_append, castPlace?,
        beforeCast?_cons]
      simp only [colon, mark, next]
      split
      · rfl
      · rw [ih, Option.map_map, Option.map_map]
        congr 1
        funext front
        simp [octets_cons, utf8EncodeChar_of_small small]
    · have wide : 128 ≤ letter.toNat := Nat.le_of_not_lt small
      have notColon : letter ≠ ':' := fun same => absurd wide (by rw [same]; decide)
      have notQuote : letter ≠ '\'' := fun same => absurd wide (by rw [same]; decide)
      rw [octets_cons, castPlace?_append_of_wide fun octet => le_of_mem_utf8EncodeChar wide,
        beforeCast?_cons_of_ne notColon, if_neg notQuote, ih, Option.map_map, Option.map_map]
      congr 1
      funext front
      simp [octets_cons, Nat.add_comm]

/-! ### What is left of an expression -/

/-- **What is left of an expression without its casts**: the expression if it has none, and else
the part before the first one, without the blanks around it. The octets up to the place where the
scan over octets stops are those of the letters of that part. -/
inductive IsWithoutCasts (letters : List Char) : List Char → Prop
  | whole (uncast : ¬ HasCast letters)
      (unfound : castPlace? false (utf8 (String.ofList letters)) = none) :
      IsWithoutCasts letters letters
  | cut {front : List Char} (cast : IsFirstCast letters front)
      (place : castPlace? false (utf8 (String.ofList letters)) =
        some (utf8 (String.ofList front)).length)
      (kept : utf8 (String.ofList front) <+: utf8 (String.ofList letters)) :
      IsWithoutCasts letters (trim front)

theorem isWithoutCasts (letters : List Char) : IsWithoutCasts letters (withoutCasts letters) := by
  have place := castPlace?_octets false letters
  rw [← utf8_ofList] at place
  unfold withoutCasts
  cases cut : beforeCast? false letters with
  | none =>
    rw [cut] at place
    exact .whole (beforeCast?_eq_none_iff.mp cut) place
  | some front =>
    rw [cut, Option.map_some, ← utf8_ofList] at place
    have first := isFirstCast_of_beforeCast? cut
    obtain ⟨after, shape⟩ := first.exists_cast
    refine .cut first place ?_
    rw [utf8_ofList, utf8_ofList, shape, octets_append]
    exact List.prefix_append _ _

/-- **A text literal is what is left of it with a cast behind it**, whatever its text and the cast
are; **an expression without a cast is kept as it is**; and every expression is cut at its first cast
or not at all, never inside the octets of a letter. -/
theorem withoutCasts_cuts :
    (∀ body after, withoutCasts (quote '\'' body ++ ':' :: ':' :: after) = quote '\'' body) ∧
      (∀ letters, ¬ HasCast letters → withoutCasts letters = letters) ∧
      ∀ letters, IsWithoutCasts letters (withoutCasts letters) := by
  refine ⟨fun body after => ?_, fun letters uncast => ?_, isWithoutCasts⟩
  · have literal := trim_eq_self (isTrimmed_quote body)
    exact (withoutCasts_of_isPassedOver (isPassedOver_quote body) literal).2 after
  · exact withoutCasts_of_no_cast (beforeCast?_eq_none_iff.mpr uncast)

end SchemaFerry.Schema
