import ImportBoundary.Number.Integer
import Mathlib.Data.List.TakeWhile

/-!
# Integers as they are written

Which texts denote an integer, as a grammar: blanks, a sign or none, digits of any script with single
underscores between them, blanks (`IsIntegerText`). Main statements: an integer is read from these texts
and no others, as long as there are not too many digits (`integer?_eq_some_iff`), and no text denotes
two integers (`IsIntegerText.unique`).
-/

namespace ImportBoundary.Number

open Text

/-! ## Definition -/

/-- Digits and their values. Single underscores may stand between them. -/
inductive IsNumeral : List Char → List Nat → Prop
  | single {c : Char} {d : Nat} (digit : digitValue? c = some d) : IsNumeral [c] [d]
  | next {c : Char} {d : Nat} {cs : List Char} {ds : List Nat} (digit : digitValue? c = some d)
    (rest : IsNumeral cs ds) : IsNumeral (c :: cs) (d :: ds)
  | apart {c : Char} {d : Nat} {cs : List Char} {ds : List Nat} (digit : digitValue? c = some d)
    (rest : IsNumeral cs ds) : IsNumeral (c :: '_' :: cs) (d :: ds)

/-- A sign, or none, and whether it negates. -/
inductive IsSign : List Char → Bool → Prop
  | none : IsSign [] false
  | plus : IsSign ['+'] false
  | minus : IsSign ['-'] true

/-- The text holds nothing but blanks that may surround an integer. -/
def AllPadding (cs : List Char) : Prop :=
  ∀ c ∈ cs, isPadding c = true

/-- The text is a sign and digits between blanks. -/
inductive IsIntegerText : List Char → Bool → List Nat → Prop
  | intro {before sign body after : List Char} {negative : Bool} {ds : List Nat}
    (blankBefore : AllPadding before) (signed : IsSign sign negative) (numeral : IsNumeral body ds)
    (blankAfter : AllPadding after) : IsIntegerText (before ++ (sign ++ body) ++ after) negative ds

/-- The integer of a sign and digits. -/
def signedValue (negative : Bool) (ds : List Nat) : Int :=
  if negative then -(ofDigits ds : Int) else ofDigits ds

/-- The text without the blanks at its ends. -/
def strip (cs : List Char) : List Char :=
  ((cs.dropWhile isPadding).reverse.dropWhile isPadding).reverse

/-- Whether a text starts with a sign that negates, and what stands behind its sign. -/
def cutSign (cs : List Char) : Bool × List Char :=
  match cs with
  | '-' :: rest => (true, rest)
  | '+' :: rest => (false, rest)
  | _ => (false, cs)

/-- The sign and the digits of a text. -/
def parts? (cs : List Char) : Option (Bool × List Nat) :=
  (digitsOf (cutSign (strip cs)).2).map fun ds => ((cutSign (strip cs)).1, ds)

/-- What is read from a text depends on its sign and its digits only. -/
theorem integer?_eq (cs : List Char) : integer? cs = (parts? cs).bind fun p =>
    if maxDigits < p.2.length then none else some (signedValue p.1 p.2) := by
  rw [integer?]
  split
  next negative body cut =>
    change cutSign (strip cs) = (negative, body) at cut
    rw [parts?, cut]
    cases digitsOf body <;> rfl

/-! ## Digits -/

theorem isBlank_of_isPadding {c : Char} (h : isPadding c = true) : isBlank c = true := by
  unfold isPadding at h
  split at h
  · rw [Bool.or_eq_true, beq_iff_eq, Bool.and_eq_true, decide_eq_true_eq, decide_eq_true_eq] at h
    rcases h with rfl | control
    · decide
    · exact (CharClass.contains_iff _ _).mpr ⟨(0x9, 0xD), by decide, control⟩
  · exact h

/-- Digits are no blanks. -/
theorem isPadding_of_digit {c : Char} {d : Nat} (digit : digitValue? c = some d) :
    isPadding c = false := by
  have apart : ∀ r ∈ digitClass.ranges, ∀ b ∈ blankClass.ranges, r.2 < b.1 ∨ b.2 < r.1 := by
    decide
  obtain ⟨r, found, -⟩ := Option.map_eq_some_iff.mp digit
  have inRange := List.find?_some found
  simp only [Bool.and_eq_true, decide_eq_true_eq] at inRange
  apply Bool.eq_false_iff.mpr
  intro padding
  obtain ⟨b, blank, inBlank⟩ :=
    (CharClass.contains_iff _ _).mp (isBlank_of_isPadding padding)
  have disjoint := apart r (List.mem_of_find?_eq_some found) b blank
  omega

theorem ne_of_digit {c : Char} {d : Nat} (digit : digitValue? c = some d) :
    c ≠ '_' ∧ c ≠ '-' ∧ c ≠ '+' := by
  refine ⟨?_, ?_, ?_⟩ <;> rintro rfl <;> exact absurd digit (by decide +revert)

theorem IsNumeral.head {cs : List Char} {ds : List Nat} (h : IsNumeral cs ds) :
    ∃ c d rest, cs = c :: rest ∧ digitValue? c = some d := by
  cases h with
  | single digit => exact ⟨_, _, _, rfl, digit⟩
  | next digit => exact ⟨_, _, _, rfl, digit⟩
  | apart digit => exact ⟨_, _, _, rfl, digit⟩

theorem IsNumeral.last {cs : List Char} {ds : List Nat} (h : IsNumeral cs ds) :
    ∃ rest c d, cs = rest ++ [c] ∧ digitValue? c = some d := by
  induction h with
  | single digit => exact ⟨[], _, _, rfl, digit⟩
  | @next first _ _ _ _ _ ih =>
    obtain ⟨rest, c, d, rfl, digit⟩ := ih
    exact ⟨first :: rest, c, d, rfl, digit⟩
  | @apart first _ _ _ _ _ ih =>
    obtain ⟨rest, c, d, rfl, digit⟩ := ih
    exact ⟨first :: '_' :: rest, c, d, rfl, digit⟩

theorem digitsOf_eq_some_iff {cs : List Char} {ds : List Nat} :
    digitsOf cs = some ds ↔ IsNumeral cs ds := by
  constructor
  · intro read
    fun_induction digitsOf cs generalizing ds with
    | case1 => cases read
    | case2 c =>
      obtain ⟨d, digit, rfl⟩ := Option.map_eq_some_iff.mp read
      exact .single digit
    | case3 c cs ih =>
      obtain ⟨d, digit, read⟩ := Option.bind_eq_some_iff.mp read
      obtain ⟨ds', rest, same⟩ := Option.bind_eq_some_iff.mp read
      obtain rfl := Option.some.inj same
      exact .apart digit (ih rest)
    | case4 c cs _ _ ih =>
      obtain ⟨d, digit, read⟩ := Option.bind_eq_some_iff.mp read
      obtain ⟨ds', rest, same⟩ := Option.bind_eq_some_iff.mp read
      obtain rfl := Option.some.inj same
      exact .next digit (ih rest)
  · intro numeral
    induction numeral with
    | single digit => simp [digitsOf, digit]
    | @next c d cs ds digit rest ih =>
      obtain ⟨first, e, more, rfl, digit'⟩ := rest.head
      have apart := (ne_of_digit digit').1
      rw [digitsOf, digit, ih]
      · rfl
      · exact fun none => absurd none (List.cons_ne_nil _ _)
      · exact fun _ same => apart (List.cons.inj same).1
    | apart digit _ ih => simp [digitsOf, digit, ih]

/-! ## Blanks and signs -/

/-- Nothing but the blanks around a core is stripped if no blank is at its ends. -/
theorem strip_append {before core after : List Char} (blankBefore : AllPadding before)
    (blankAfter : AllPadding after)
    (starts : ∃ first more, core = first :: more ∧ isPadding first = false)
    (ends : ∃ less last, core = less ++ [last] ∧ isPadding last = false) :
    strip (before ++ core ++ after) = core := by
  have left : (before ++ (core ++ after)).dropWhile isPadding = core ++ after := by
    obtain ⟨first, more, rfl, solid⟩ := starts
    rw [List.dropWhile_append_of_pos blankBefore, List.cons_append,
      List.dropWhile_cons_of_neg (Bool.eq_false_iff.mp solid)]
  have right : (after.reverse ++ core.reverse).dropWhile isPadding = core.reverse := by
    obtain ⟨less, last, rfl, solid⟩ := ends
    rw [List.dropWhile_append_of_pos fun c mem => blankAfter c (List.mem_reverse.mp mem),
      List.reverse_concat, List.dropWhile_cons_of_neg (Bool.eq_false_iff.mp solid)]
  rw [strip, List.append_assoc, left, List.reverse_append, right, List.reverse_reverse]

theorem exists_strip (cs : List Char) :
    ∃ before after, cs = before ++ strip cs ++ after ∧ AllPadding before ∧ AllPadding after := by
  refine ⟨cs.takeWhile isPadding, ((cs.dropWhile isPadding).reverse.takeWhile isPadding).reverse,
    ?_, fun _ => List.mem_takeWhile_imp, ?_⟩
  · rw [strip, List.append_assoc, ← List.reverse_append, List.takeWhile_append_dropWhile,
      List.reverse_reverse, List.takeWhile_append_dropWhile]
  · intro c mem
    exact List.mem_takeWhile_imp (List.mem_reverse.mp mem)

theorem exists_sign (cs : List Char) :
    ∃ sign, cs = sign ++ (cutSign cs).2 ∧ IsSign sign (cutSign cs).1 := by
  unfold cutSign
  split
  · exact ⟨_, rfl, .minus⟩
  · exact ⟨_, rfl, .plus⟩
  · exact ⟨_, rfl, .none⟩

theorem cutSign_append {sign body : List Char} {negative : Bool} (h : IsSign sign negative)
    {ds : List Nat} (numeral : IsNumeral body ds) : cutSign (sign ++ body) = (negative, body) := by
  cases h with
  | none =>
    obtain ⟨c, d, rest, rfl, digit⟩ := numeral.head
    obtain ⟨-, minus, plus⟩ := ne_of_digit digit
    rw [List.nil_append, cutSign]
    · exact fun _ same => minus (List.cons.inj same).1
    · exact fun _ same => plus (List.cons.inj same).1
  | plus => rfl
  | minus => rfl

/-- A sign and digits start and end with no blank. -/
theorem solid_ends {sign body : List Char} {negative : Bool} {ds : List Nat}
    (signed : IsSign sign negative) (numeral : IsNumeral body ds) :
    (∃ first more, sign ++ body = first :: more ∧ isPadding first = false) ∧
      ∃ less last, sign ++ body = less ++ [last] ∧ isPadding last = false := by
  constructor
  · cases signed with
    | none =>
      obtain ⟨c, d, rest, rfl, digit⟩ := numeral.head
      exact ⟨c, rest, rfl, isPadding_of_digit digit⟩
    | plus => exact ⟨'+', body, rfl, by decide⟩
    | minus => exact ⟨'-', body, rfl, by decide⟩
  · obtain ⟨rest, c, d, rfl, digit⟩ := numeral.last
    exact ⟨sign ++ rest, c, (List.append_assoc ..).symm, isPadding_of_digit digit⟩

/-! ## Texts -/

theorem parts?_eq_some_iff {cs : List Char} {negative : Bool} {ds : List Nat} :
    parts? cs = some (negative, ds) ↔ IsIntegerText cs negative ds := by
  constructor
  · intro read
    obtain ⟨ds', digits, same⟩ := Option.map_eq_some_iff.mp read
    obtain ⟨rfl, rfl⟩ := Prod.mk.inj same
    obtain ⟨before, after, whole, blankBefore, blankAfter⟩ := exists_strip cs
    obtain ⟨sign, core, signed⟩ := exists_sign (strip cs)
    have text := IsIntegerText.intro blankBefore signed (digitsOf_eq_some_iff.mp digits)
      blankAfter
    rwa [← core, ← whole] at text
  · rintro ⟨blankBefore, signed, numeral, blankAfter⟩
    obtain ⟨starts, ends⟩ := solid_ends signed numeral
    rw [parts?, strip_append blankBefore blankAfter starts ends, cutSign_append signed numeral,
      digitsOf_eq_some_iff.mpr numeral]
    rfl

/-- A text denotes one integer only. -/
theorem IsIntegerText.unique {cs : List Char} {negative negative' : Bool} {ds ds' : List Nat}
    (h : IsIntegerText cs negative ds) (h' : IsIntegerText cs negative' ds') :
    negative = negative' ∧ ds = ds' := by
  have same := (parts?_eq_some_iff.mpr h).symm.trans (parts?_eq_some_iff.mpr h')
  exact Prod.mk.inj (Option.some.inj same)

/-- An integer is read from the texts that denote it, unless they have too many digits. -/
theorem integer?_eq_some_iff {cs : List Char} {n : Int} :
    integer? cs = some n ↔
      ∃ negative ds, IsIntegerText cs negative ds ∧ ds.length ≤ maxDigits ∧
        n = signedValue negative ds := by
  rw [integer?_eq, Option.bind_eq_some_iff]
  constructor
  · rintro ⟨⟨negative, ds⟩, read, value⟩
    split at value
    · cases value
    · next short =>
      exact ⟨negative, ds, parts?_eq_some_iff.mp read, Nat.le_of_not_lt short,
        (Option.some.inj value).symm⟩
  · rintro ⟨negative, ds, spells, short, rfl⟩
    exact ⟨(negative, ds), parts?_eq_some_iff.mpr spells, if_neg (Nat.not_lt.mpr short)⟩

end ImportBoundary.Number
