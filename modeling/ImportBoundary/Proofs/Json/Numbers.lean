import ImportBoundary.Proofs.Json.Strings
import ImportBoundary.Proofs.Number.Shortest
import Mathlib.Data.List.TakeWhile

/-!
# JSON numbers that are read back

A number's text has parts (`Numeral`), and from such a text exactly these parts are read
(`Numeral.readNumber_text`). Integers and the numbers of binary64 are written as numerals, so they are
read back (`isScalarText_writeInt`, `isScalarText_writeFloat`); no word is taken for a number.
-/

namespace ImportBoundary.Json

open Text

/-! ## Digits and what follows them -/

/-- The text does not go on with a digit. -/
def NoDigit (rest : List Char) : Prop :=
  ∀ c ∈ rest.head?, isAsciiDigit c = false

/-- The text does not go on with anything that a number could have. -/
def EndsNumber (rest : List Char) : Prop :=
  ∀ c ∈ rest.head?, isAsciiDigit c = false ∧ c ≠ '.' ∧ c ≠ 'e' ∧ c ≠ 'E'

def AllDigits (ds : List Char) : Prop :=
  ∀ c ∈ ds, isAsciiDigit c = true

theorem EndsNumber.noDigit {rest : List Char} (h : EndsNumber rest) : NoDigit rest :=
  fun c hc => (h c hc).1

theorem AllDigits.append {xs ys : List Char} (hx : AllDigits xs) (hy : AllDigits ys) :
    AllDigits (xs ++ ys) := by
  intro c hc
  rcases List.mem_append.mp hc with hc | hc
  · exact hx c hc
  · exact hy c hc

theorem allDigits_zeros (count : Nat) : AllDigits (List.replicate count '0') := by
  intro c hc
  rw [List.eq_of_mem_replicate hc]
  rfl

theorem allDigits_toDigits (n : Nat) : AllDigits (Nat.toDigits 10 n) :=
  fun _ hc => isAsciiDigit_of_mem_toDigits hc

variable {ds rest : List Char}

theorem takeWhile_digits (digits : AllDigits ds) (ends : NoDigit rest) :
    (ds ++ rest).takeWhile isAsciiDigit = ds := by
  have none : rest.takeWhile isAsciiDigit = [] := by
    cases rest with
    | nil => rfl
    | cons c rest => exact List.takeWhile_cons_of_neg (by simp [ends c rfl])
  rw [List.takeWhile_append_of_pos digits, none, List.append_nil]

theorem dropWhile_digits (digits : AllDigits ds) (ends : NoDigit rest) :
    (ds ++ rest).dropWhile isAsciiDigit = rest := by
  rw [List.dropWhile_append_of_pos digits]
  cases rest with
  | nil => rfl
  | cons c rest => exact List.dropWhile_cons_of_neg (by simp [ends c rfl])

/-! ## The parts of a number -/

theorem wholeDigits_digits {d : Char} (positive : d ≠ '0') (digits : AllDigits (d :: ds))
    (ends : NoDigit rest) : wholeDigits (d :: ds ++ rest) = some (d :: ds, rest) := by
  have tail : AllDigits ds := fun c hc => digits c (List.mem_cons_of_mem _ hc)
  rw [List.cons_append, wholeDigits, if_pos (digits d (List.mem_cons_self ..)),
    takeWhile_digits tail ends, dropWhile_digits tail ends]
  simpa using positive

theorem fractionDigits_digits (some_digit : ds ≠ []) (digits : AllDigits ds) (ends : NoDigit rest) :
    fractionDigits ('.' :: ds ++ rest) = some (ds, rest) := by
  obtain ⟨d, ds, rfl⟩ := List.exists_cons_of_ne_nil some_digit
  have tail : AllDigits ds := fun c hc => digits c (List.mem_cons_of_mem _ hc)
  rw [List.cons_append, List.cons_append, fractionDigits, if_pos (digits d (List.mem_cons_self ..)),
    takeWhile_digits tail ends, dropWhile_digits tail ends]

theorem fractionDigits_none (h : ∀ c ∈ rest.head?, c ≠ '.') : fractionDigits rest = none := by
  unfold fractionDigits
  split
  · exact absurd rfl (h '.' rfl)
  · rfl

theorem exponentDigits_digits (negative : Bool) (some_digit : ds ≠ []) (digits : AllDigits ds)
    (ends : NoDigit rest) : exponentDigits negative (ds ++ rest) =
      some (if negative then -(valueInBase 10 ds : Int) else valueInBase 10 ds, rest) := by
  obtain ⟨d, ds, rfl⟩ := List.exists_cons_of_ne_nil some_digit
  have tail : AllDigits ds := fun c hc => digits c (List.mem_cons_of_mem _ hc)
  rw [List.cons_append, exponentDigits, if_pos (digits d (List.mem_cons_self ..)),
    takeWhile_digits tail ends, dropWhile_digits tail ends]

theorem exponentPart_exponentText (e : Int) (ends : NoDigit rest) :
    exponentPart ('e' :: Binary64.exponentText e ++ rest) = some (e, rest) := by
  have digits := (allDigits_zeros (2 - (Nat.toDigits 10 e.natAbs).length)).append
    (allDigits_toDigits e.natAbs)
  have some_digit : List.replicate (2 - (Nat.toDigits 10 e.natAbs).length) '0' ++
      Nat.toDigits 10 e.natAbs ≠ [] := by simp
  have value : valueInBase 10 (List.replicate (2 - (Nat.toDigits 10 e.natAbs).length) '0' ++
      Nat.toDigits 10 e.natAbs) = e.natAbs := by
    rw [valueInBase_append, valueInBase_zeros, valueInBase_toDigits (by decide) (by decide)]
    omega
  unfold Binary64.exponentText exponentPart
  split_ifs with below
  · simp only [List.cons_append, beq_self_eq_true, Bool.true_or, if_true]
    rw [exponentDigits_digits true some_digit digits ends, value, if_pos rfl,
      show -(e.natAbs : Int) = e by omega]
  · simp only [List.cons_append, beq_self_eq_true, Bool.true_or, if_true]
    rw [exponentDigits_digits false some_digit digits ends, value, if_neg Bool.false_ne_true,
      show (e.natAbs : Int) = e by omega]

theorem exponentPart_none (h : ∀ c ∈ rest.head?, c ≠ 'e' ∧ c ≠ 'E') : exponentPart rest = none := by
  cases rest with
  | nil => rfl
  | cons c rest => simp [exponentPart, h c rfl]

def sign (negative : Bool) : List Char :=
  if negative then ['-'] else []

/-- A number is read part by part. -/
theorem readNumber_parts (negative : Bool) {d : Char} {body whole fraction r₁ r₂ r₃ : List Char}
    {exponent : Option Int} (unsigned : d ≠ '-')
    (hw : wholeDigits (d :: body) = some (whole, r₁))
    (hf : (fractionDigits r₁).getD ([], r₁) = (fraction, r₂))
    (he : (exponentPart r₂).elim (none, r₂) (fun r => (some r.1, r.2)) = (exponent, r₃)) :
    readNumber (sign negative ++ d :: body) =
      if fraction.isEmpty && exponent.isNone then
        if Number.maxDigits < whole.length then .error (.longInteger whole.length)
        else .ok (.int (if negative then -(valueInBase 10 whole : Int) else valueInBase 10 whole), r₃)
      else .ok (.float (.ofDecimal negative (valueInBase 10 (whole ++ fraction))
        (exponent.getD 0 - fraction.length)), r₃) := by
  unfold readNumber
  cases negative <;> cases hf' : fractionDigits r₁ <;> rw [hf'] at hf <;>
    obtain ⟨rfl, rfl⟩ := Prod.mk.inj hf <;> cases he' : exponentPart _ <;> rw [he'] at he <;>
    obtain ⟨rfl, rfl⟩ := Prod.mk.inj he <;> simp [sign, unsigned, hw, hf', he']

/-! ## Numerals -/

/-- The parts of a number's text. Without a fraction there is no point. -/
structure Numeral where
  negative : Bool
  whole : List Char
  fraction : List Char
  exponent : Option Int

namespace Numeral

def pointText : List Char → List Char
  | [] => []
  | fraction => '.' :: fraction

theorem pointText_of_ne_nil {fraction : List Char} (h : fraction ≠ []) :
    pointText fraction = '.' :: fraction := by
  cases fraction with
  | nil => exact absurd rfl h
  | cons d ds => rfl

def exponentText : Option Int → List Char
  | none => []
  | some e => 'e' :: Binary64.exponentText e

def text (n : Numeral) : List Char :=
  sign n.negative ++ (n.whole ++ (pointText n.fraction ++ exponentText n.exponent))

/-- The digits before the point are a zero alone, or do not begin with one. -/
structure WellFormed (n : Numeral) : Prop where
  whole : n.whole = ['0'] ∨ ∃ d ds, n.whole = d :: ds ∧ d ≠ '0' ∧ AllDigits (d :: ds)
  fraction : AllDigits n.fraction

/-- All digits, without the point. -/
def digits (n : Numeral) : Nat :=
  valueInBase 10 (n.whole ++ n.fraction)

/-- The power of ten that the digits are taken times. -/
def scale (n : Numeral) : Int :=
  n.exponent.getD 0 - n.fraction.length

/-- A number without a point and without an exponent is an integer. -/
def value (n : Numeral) : Json :=
  if n.fraction = [] ∧ n.exponent = none then
    .int (if n.negative then -(valueInBase 10 n.whole : Int) else valueInBase 10 n.whole)
  else .float (.ofDecimal n.negative n.digits n.scale)

variable {n : Numeral} {fraction : List Char}

theorem WellFormed.exists_digit (h : n.WellFormed) :
    ∃ d ds, n.whole = d :: ds ∧ isAsciiDigit d = true := by
  rcases h.whole with zero | ⟨d, ds, whole, -, digits⟩
  · exact ⟨'0', [], zero, rfl⟩
  · exact ⟨d, ds, whole, digits d (List.mem_cons_self ..)⟩

theorem WellFormed.wholeDigits (h : n.WellFormed) (ends : NoDigit rest) :
    wholeDigits (n.whole ++ rest) = some (n.whole, rest) := by
  rcases h.whole with zero | ⟨d, ds, whole, positive, digits⟩
  · rw [zero]
    rfl
  · rw [whole]
    exact wholeDigits_digits positive digits ends

theorem noDigit_exponentText (exponent : Option Int) (ends : EndsNumber rest) :
    NoDigit (exponentText exponent ++ rest) := by
  cases exponent with
  | none => exact ends.noDigit
  | some e =>
    intro c hc
    obtain rfl : 'e' = c := Option.some.inj hc
    rfl

theorem noDigit_pointText (fraction : List Char) (exponent : Option Int) (ends : EndsNumber rest) :
    NoDigit (pointText fraction ++ (exponentText exponent ++ rest)) := by
  cases fraction with
  | nil => exact noDigit_exponentText exponent ends
  | cons d ds =>
    intro c hc
    obtain rfl : '.' = c := Option.some.inj hc
    rfl

theorem fractionDigits_text (h : AllDigits fraction) (exponent : Option Int)
    (ends : EndsNumber rest) :
    (fractionDigits (pointText fraction ++ (exponentText exponent ++ rest))).getD
        ([], pointText fraction ++ (exponentText exponent ++ rest)) =
      (fraction, exponentText exponent ++ rest) := by
  cases fraction with
  | nil =>
    have none : fractionDigits (exponentText exponent ++ rest) = none := by
      refine fractionDigits_none fun c hc => ?_
      cases exponent with
      | none => exact (ends c hc).2.1
      | some e =>
        obtain rfl : 'e' = c := Option.some.inj hc
        decide
    rw [pointText, List.nil_append, none, Option.getD_none]
  | cons d ds =>
    rw [pointText, fractionDigits_digits (by simp) h (noDigit_exponentText exponent ends),
      Option.getD_some]
    simp

theorem exponentPart_text (exponent : Option Int) (ends : EndsNumber rest) :
    (exponentPart (exponentText exponent ++ rest)).elim
        (none, exponentText exponent ++ rest) (fun r => (some r.1, r.2)) = (exponent, rest) := by
  cases exponent with
  | none =>
    have none : exponentPart rest = none := exponentPart_none fun c hc => (ends c hc).2.2
    rw [exponentText, List.nil_append, none, Option.elim_none]
  | some e => rw [exponentText, exponentPart_exponentText e ends.noDigit, Option.elim_some]

theorem readNumber_text (h : n.WellFormed) (ends : EndsNumber rest)
    (short : n.fraction = [] → n.exponent = none → n.whole.length ≤ Number.maxDigits) :
    readNumber (n.text ++ rest) = .ok (n.value, rest) := by
  obtain ⟨d, ds, first, digit⟩ := h.exists_digit
  have unsigned : d ≠ '-' := by
    rintro rfl
    cases digit
  have whole := h.wholeDigits (noDigit_pointText n.fraction n.exponent ends)
  rw [first, List.cons_append] at whole
  have parts := readNumber_parts n.negative unsigned whole
    (fractionDigits_text h.fraction n.exponent ends) (exponentPart_text n.exponent ends)
  rw [text, List.append_assoc, List.append_assoc, List.append_assoc, first, List.cons_append, parts,
    value, digits, scale, first]
  by_cases integer : n.fraction = [] ∧ n.exponent = none
  · obtain ⟨fraction, exponent⟩ := integer
    have few := Nat.not_lt.mpr (short fraction exponent)
    simp [fraction, exponent, ← first, few]
  · rw [if_neg integer, if_neg]
    simpa using integer

end Numeral

/-! ## Numbers as numerals -/

open Numeral

/-- The numeral of an integer. -/
def intNumeral (n : Int) : Numeral :=
  ⟨n < 0, Nat.toDigits 10 n.natAbs, [], none⟩

theorem text_intNumeral (n : Int) : (intNumeral n).text = writeInt n := by
  simp [intNumeral, text, sign, pointText, exponentText, writeInt]

theorem value_intNumeral (n : Int) : (intNumeral n).value = .int n := by
  rw [value, if_pos ⟨rfl, rfl⟩]
  simp only [intNumeral, valueInBase_toDigits (by decide : 1 < 10) (by decide), decide_eq_true_eq]
  congr 1
  split <;> omega

theorem wellFormed_intNumeral (n : Int) : (intNumeral n).WellFormed := by
  refine ⟨?_, nofun⟩
  rcases Nat.eq_zero_or_pos n.natAbs with zero | positive
  · exact .inl (by rw [intNumeral, zero]; rfl)
  · obtain ⟨d, ds, digits, nonzero⟩ := exists_toDigits_eq_cons positive
    exact .inr ⟨d, ds, digits, nonzero, digits ▸ allDigits_toDigits n.natAbs⟩

/-! ### Layouts of decimals -/

/-- Digits as a number's: there are some, and they do not begin with a zero. -/
structure Leading (ds : List Char) : Prop where
  digits : AllDigits ds
  first : ∃ d rest, ds = d :: rest ∧ d ≠ '0'

theorem leading_toDigits {n : Nat} (h : 0 < n) : Leading (Nat.toDigits 10 n) := by
  obtain ⟨d, ds, digits, nonzero⟩ := exists_toDigits_eq_cons h
  exact ⟨allDigits_toDigits n, d, ds, digits, nonzero⟩

theorem dropTrailingZeros_spec (h : Leading ds) :
    Leading (Binary64.dropTrailingZeros ds) ∧
      ∃ zeros, ds = Binary64.dropTrailingZeros ds ++ List.replicate zeros '0' := by
  obtain ⟨digits, d, rest, rfl, nonzero⟩ := h
  obtain ⟨kept, hk⟩ : ∃ kept, ((d :: rest).reverse.dropWhile (· = '0')).reverse = kept := ⟨_, rfl⟩
  obtain ⟨dropped, hd⟩ : ∃ ds, ((d :: rest).reverse.takeWhile (· = '0')).reverse = ds := ⟨_, rfl⟩
  have split : d :: rest = kept ++ dropped := by
    rw [← hk, ← hd, ← List.reverse_append, List.takeWhile_append_dropWhile, List.reverse_reverse]
  have zeros : dropped = List.replicate dropped.length '0' := by
    refine List.eq_replicate_of_mem fun c hc => ?_
    rw [← hd, List.mem_reverse] at hc
    simpa using List.mem_takeWhile_imp hc
  cases kept with
  | nil =>
    rw [List.nil_append] at split
    refine absurd (List.eq_of_mem_replicate (n := dropped.length) ?_) nonzero
    rw [← zeros, ← split]
    exact List.mem_cons_self ..
  | cons c kept =>
    have same : Binary64.dropTrailingZeros (d :: rest) = c :: kept := by
      rw [Binary64.dropTrailingZeros, hk]
    rw [same]
    refine ⟨⟨fun x hx => digits x ?_, c, kept, rfl, ?_⟩, dropped.length, by rw [← zeros, split]⟩
    · rw [split]
      exact List.mem_append_left _ hx
    · exact (List.cons.inj split).1 ▸ nonzero

/-- The numeral is no integer and stands for `digits * 10 ^ exponent`. -/
structure StandsFor (n : Numeral) (digits : Nat) (exponent : Int) : Prop where
  wellFormed : n.WellFormed
  noInteger : ¬ (n.fraction = [] ∧ n.exponent = none)
  same : (n.digits : ℚ) * 10 ^ n.scale = digits * 10 ^ exponent

/-- However a decimal is laid out, it is a numeral that stands for it. -/
theorem exists_numeral_layOut (negative : Bool) (h : Leading ds) (point : Int) :
    ∃ n : Numeral, n.negative = negative ∧ n.text = sign negative ++ Binary64.layOut ds point ∧
      StandsFor n (valueInBase 10 ds) (point - ds.length) := by
  obtain ⟨digits, d, rest, rfl, nonzero⟩ := h
  have tail : AllDigits rest := fun c hc => digits c (List.mem_cons_of_mem _ hc)
  unfold Binary64.layOut
  split_ifs with far left whole
  · refine ⟨⟨negative, [d], rest, some (point - 1)⟩, rfl, ?_, ⟨.inr ⟨d, [], rfl, nonzero, ?_⟩, tail⟩,
      nofun, ?_⟩
    · cases rest <;> simp [text, pointText, exponentText]
    · exact fun c hc => digits c (by simp_all)
    · rw [Numeral.digits, scale]
      simp only [List.singleton_append, Option.getD_some, List.length_cons]
      congr 2
      push_cast
      ring
  · refine ⟨⟨negative, ['0'], List.replicate (-point).toNat '0' ++ d :: rest, none⟩, rfl, ?_,
      ⟨.inl rfl, (allDigits_zeros _).append digits⟩, by simp, ?_⟩
    · simp [text, exponentText, pointText_of_ne_nil]
    · rw [Numeral.digits, scale, valueInBase_append, valueInBase_append, valueInBase_zeros]
      simp only [Option.getD_none, List.length_append, List.length_replicate]
      rw [show valueInBase 10 ['0'] = 0 from rfl, Nat.zero_mul, Nat.zero_mul, Nat.zero_add,
        Nat.zero_add]
      congr 2
      push_cast
      omega
  · refine ⟨⟨negative, d :: rest ++ List.replicate (point.toNat - (d :: rest).length) '0', ['0'],
      none⟩, rfl, ?_, ⟨.inr ⟨d, _, rfl, nonzero, digits.append (allDigits_zeros _)⟩,
        allDigits_zeros 1⟩, nofun, ?_⟩
    · simp [text, exponentText, pointText]
    · rw [Numeral.digits, scale, valueInBase_append, valueInBase_append, valueInBase_zeros]
      simp only [Option.getD_none, List.length_replicate, List.length_singleton, Nat.add_zero]
      obtain ⟨zeros, hz⟩ : ∃ zeros, point.toNat - (d :: rest).length = zeros := ⟨_, rfl⟩
      rw [show valueInBase 10 ['0'] = 0 from rfl, Nat.add_zero, Nat.pow_one, hz,
        show point - ((d :: rest).length : Int) = zeros by omega, zpow_natCast]
      push_cast
      rw [zpow_neg_one]
      ring
  · have more : (d :: rest).drop point.toNat ≠ [] := by
      rw [Ne, List.drop_eq_nil_iff]
      exact whole
    obtain ⟨places, hp⟩ : ∃ places, point.toNat = places + 1 := ⟨point.toNat - 1, by omega⟩
    refine ⟨⟨negative, (d :: rest).take point.toNat, (d :: rest).drop point.toNat, none⟩, rfl, ?_,
      ⟨.inr ⟨d, rest.take places, by rw [hp]; rfl, nonzero, ?_⟩, fun c hc => ?_⟩, ?_, ?_⟩
    · simp only [text, exponentText, pointText_of_ne_nil more, List.append_nil]
    · exact fun c hc => digits c (List.mem_of_mem_take (i := places + 1) hc)
    · exact digits c (List.mem_of_mem_drop hc)
    · exact fun integer => more integer.1
    · rw [Numeral.digits, scale, List.take_append_drop]
      simp only [Option.getD_none, List.length_drop]
      congr 2
      omega

/-- A decimal is laid out without the zeros at its end. -/
theorem exists_numeral_decimal (negative : Bool) {digits : Nat} (h : 0 < digits) (exponent : Int) :
    ∃ n : Numeral, n.negative = negative ∧
      n.text = sign negative ++ Binary64.layOut
        (Binary64.dropTrailingZeros (Nat.toDigits 10 digits))
        ((Nat.toDigits 10 digits).length + exponent) ∧
      StandsFor n digits exponent := by
  obtain ⟨leading, zeros, split⟩ := dropTrailingZeros_spec (leading_toDigits h)
  obtain ⟨n, signed, text, wellFormed, noInteger, same⟩ := exists_numeral_layOut negative leading
    ((Nat.toDigits 10 digits).length + exponent)
  refine ⟨n, signed, text, wellFormed, noInteger, same.trans ?_⟩
  have value := valueInBase_toDigits (by decide : 1 < 10) (by decide) digits
  have length := congrArg List.length split
  generalize Binary64.dropTrailingZeros (Nat.toDigits 10 digits) = kept at *
  rw [split, valueInBase_append, valueInBase_zeros, Nat.add_zero, List.length_replicate] at value
  rw [List.length_append, List.length_replicate] at length
  rw [length, show ((kept.length + zeros : Nat) : Int) + exponent - kept.length =
    zeros + exponent by omega, zpow_add₀ (by norm_num), zpow_natCast, ← value]
  push_cast
  ring

/-- The numeral is no integer, has the text of the number and is read as the number. -/
structure Spells (n : Numeral) (x : Binary64) : Prop where
  wellFormed : n.WellFormed
  noInteger : ¬ (n.fraction = [] ∧ n.exponent = none)
  text : n.text = x.chars
  value : n.value = .float x

theorem exists_spells_finite {m : Nat} {e : Int} (negative : Bool) (h : Binary64.InFormat m e) :
    ∃ n, Spells n (.finite negative m e) := by
  obtain ⟨n, rfl, text, wellFormed, noInteger, same⟩ := exists_numeral_decimal negative
    (Binary64.shortest_positive h) (Binary64.shortest m e).exponent
  refine ⟨n, wellFormed, noInteger, ?_, ?_⟩
  · rw [text, Binary64.chars, if_neg (Nat.pos_iff_ne_zero.mp h.positive)]
    rfl
  · have rounds := Binary64.roundsTo_shortest h
    rw [← same] at rounds
    rw [Numeral.value, if_neg noInteger, Binary64.ofDecimal_of_roundsTo h rounds]

theorem exists_spells_zero (negative : Bool) : ∃ n, Spells n (.zero negative) := by
  refine ⟨⟨negative, ['0'], ['0'], none⟩, ⟨.inl rfl, allDigits_zeros 1⟩, nofun, ?_, ?_⟩
  · simp [Binary64.chars, Binary64.zero, text, sign, pointText, exponentText]
  · rw [value, if_neg nofun]
    rfl

/-! ## Scalars -/

theorem readScalar_text {n : Numeral} (h : n.WellFormed) (ends : EndsNumber rest)
    (short : n.fraction = [] → n.exponent = none → n.whole.length ≤ Number.maxDigits) :
    readScalar (n.text ++ rest) = .ok (n.value, rest) := by
  have number := readNumber_text h ends short
  obtain ⟨d, ds, whole, digit⟩ := h.exists_digit
  -- a numeral starts with a digit, or with a minus and a digit, and no word does
  have apart (c : Char) (other : isAsciiDigit c = false) : c ≠ d := by
    rintro rfl
    rw [other] at digit
    cases digit
  have none : words.findSome? (fun w => (afterLiteral? w.1 (n.text ++ rest)).map
      fun rest => (w.2, rest)) = none := by
    cases negative : n.negative
    · simp [words, afterLiteral?, text, sign, negative, whole, apart 'n' rfl, apart 't' rfl,
        apart 'f' rfl, apart 'N' rfl, apart 'I' rfl, apart '-' rfl]
    · simp [words, afterLiteral?, text, sign, negative, whole, apart 'I' rfl]
  rw [readScalar, none]
  exact number

/-- The characters of words and numbers. -/
def inScalar (c : Char) : Bool :=
  (0x2B ≤ c.toNat && c.toNat ≤ 0x39) || (0x41 ≤ c.toNat && c.toNat ≤ 0x5A) ||
    (0x61 ≤ c.toNat && c.toNat ≤ 0x7A)

/-- The text consists of the characters of scalars and is read as the value. -/
structure IsScalarText (v : Json) (t : List Char) : Prop where
  some_char : t ≠ []
  chars : ∀ c ∈ t, inScalar c = true
  reads : ∀ rest, EndsNumber rest → readScalar (t ++ rest) = .ok (v, rest)

theorem AllDigits.inScalar (h : AllDigits ds) : ∀ c ∈ ds, inScalar c = true := by
  intro c hc
  have digit := h c hc
  simp only [isAsciiDigit, Bool.and_eq_true, decide_eq_true_eq, Char.le_def,
    UInt32.le_iff_toNat_le] at digit
  have low : 48 ≤ c.toNat := digit.1
  have high : c.toNat ≤ 57 := digit.2
  simp only [Json.inScalar, Bool.or_eq_true, Bool.and_eq_true, decide_eq_true_eq]
  omega

theorem inScalar_exponentText (e : Int) : ∀ c ∈ Binary64.exponentText e, inScalar c = true := by
  intro c hc
  rcases List.mem_append.mp hc with signed | digit
  · rcases List.mem_cons.mp signed with rfl | zero
    · split <;> rfl
    · exact (allDigits_zeros _).inScalar c zero
  · exact (allDigits_toDigits _).inScalar c digit

theorem Numeral.WellFormed.inScalar {n : Numeral} (h : n.WellFormed) :
    ∀ c ∈ n.text, inScalar c = true := by
  intro c hc
  simp only [Numeral.text, List.mem_append] at hc
  rcases hc with signed | digit | fractional | power
  · revert signed
    cases n.negative <;> simp [sign]
    rintro rfl
    rfl
  · rcases h.whole with zero | ⟨d, ds, whole, -, digits⟩
    · rw [zero] at digit
      exact (allDigits_zeros 1).inScalar c digit
    · exact digits.inScalar c (whole ▸ digit)
  · cases fraction : n.fraction with
    | nil =>
      rw [fraction] at fractional
      cases fractional
    | cons d ds =>
      rw [fraction] at fractional
      rcases List.mem_cons.mp fractional with rfl | digit
      · rfl
      · exact h.fraction.inScalar c (fraction ▸ digit)
  · cases exponent : n.exponent with
    | none =>
      rw [exponent] at power
      cases power
    | some e =>
      rw [exponent] at power
      rcases List.mem_cons.mp power with rfl | part
      · rfl
      · exact inScalar_exponentText e c part

theorem isScalarText_numeral {n : Numeral} (h : n.WellFormed)
    (short : n.fraction = [] → n.exponent = none → n.whole.length ≤ Number.maxDigits) :
    IsScalarText n.value n.text := by
  refine ⟨?_, h.inScalar, fun rest ends => readScalar_text h ends short⟩
  obtain ⟨d, ds, whole, -⟩ := h.exists_digit
  simp [Numeral.text, whole]

theorem isScalarText_null : IsScalarText .null "null".toList :=
  ⟨by decide, List.all_eq_true.mp rfl, fun _ _ => rfl⟩

theorem isScalarText_bool (b : Bool) :
    IsScalarText (.bool b) (if b then "true".toList else "false".toList) := by
  cases b <;> exact ⟨by decide, List.all_eq_true.mp rfl, fun _ _ => rfl⟩

theorem isScalarText_writeInt {n : Int}
    (short : (Nat.toDigits 10 n.natAbs).length ≤ Number.maxDigits) :
    IsScalarText (.int n) (writeInt n) := by
  rw [← text_intNumeral, ← value_intNumeral]
  exact isScalarText_numeral (wellFormed_intNumeral n) fun _ _ => short

/-- The numbers of the format, and those that are none. -/
inductive IsBinary64 : Binary64 → Prop
  | notANumber : IsBinary64 .notANumber
  | infinite (negative : Bool) : IsBinary64 (.infinite negative)
  | zero (negative : Bool) : IsBinary64 (.zero negative)
  | finite (negative : Bool) {m : Nat} {e : Int} (h : Binary64.InFormat m e) :
    IsBinary64 (.finite negative m e)

theorem isScalarText_writeFloat {x : Binary64} (h : IsBinary64 x) :
    IsScalarText (.float x) (writeFloat x) := by
  have finite {x : Binary64} (h : ∃ n, Spells n x) : IsScalarText (.float x) x.chars := by
    obtain ⟨n, wellFormed, noInteger, text, value⟩ := h
    rw [← text, ← value]
    exact isScalarText_numeral wellFormed fun f e => absurd ⟨f, e⟩ noInteger
  cases h with
  | notANumber => exact ⟨by decide, List.all_eq_true.mp rfl, fun _ _ => rfl⟩
  | infinite negative => cases negative <;> exact ⟨by decide, List.all_eq_true.mp rfl, fun _ _ => rfl⟩
  | zero negative => exact finite (exists_spells_zero negative)
  | finite negative format => exact finite (exists_spells_finite negative format)

end ImportBoundary.Json
