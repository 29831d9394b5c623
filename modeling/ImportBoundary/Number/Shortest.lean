import ImportBoundary.Number.Binary64

/-!
# Shortest decimals

A binary64 number is written with the fewest decimal digits that read back as the same number, and
of those the digits nearest to it. For one digit, two digits and so on the two decimals around the
number are tried; the first that lies in the interval of reals rounding to it is taken. The layout
(where exponents begin, the `.0` of whole numbers) is in `Binary64.text`.
-/

namespace ImportBoundary.Binary64

/-- A decimal `digits * 10 ^ exponent`. -/
structure Decimal where
  digits : Nat
  exponent : Int
  deriving DecidableEq, Repr

/-- The power of the base, split into numerator and denominator. -/
def powerRatio (base : Nat) (e : Int) : Nat × Nat :=
  if 0 ≤ e then (base.pow e.toNat, 1) else (1, base.pow (-e).toNat)

/-- The interval of reals that round to `m * 2 ^ e`, in quarters of the last place: its two ends,
and whether they belong to it. Below a power of two the numbers lie closer together. -/
def quarterBounds (m : Nat) (e : Int) : Nat × Nat × Bool :=
  let low := if m = mantissaBound / 2 ∧ minExponent < e then 4 * m - 1 else 4 * m - 2
  (low, 4 * m + 2, m % 2 = 0)

/-- The decimal with exponent `k` that lies in the interval of `m * 2 ^ e` and is nearest to it. -/
def nearestOnGrid (m : Nat) (e k : Int) : Option Nat :=
  let (u, d) := powerRatio 2 (e - 2)
  let (t, s) := powerRatio 10 k
  let (low, high, ends) := quarterBounds m e
  let exact := 4 * m * u * s
  let unit := t * d
  let inside := fun c : Nat =>
    let x := c * unit
    if ends then low * u * s ≤ x ∧ x ≤ high * u * s else low * u * s < x ∧ x < high * u * s
  let below := exact / unit
  let above := below + 1
  let gapBelow := exact - below * unit
  let gapAbove := above * unit - exact
  if inside below ∧ inside above then
    if gapBelow < gapAbove ∨ (gapBelow = gapAbove ∧ below % 2 = 0) then some below else some above
  else if inside below then some below
  else if inside above then some above
  else none

/-- The place of the decimal point: the number lies in `[10 ^ (p - 1), 10 ^ p)`. -/
def pointPlace (m : Nat) (e : Int) : Int :=
  let (u, d) := powerRatio 2 e
  ((Nat.toDigits 10 (m * u * Nat.pow 10 400 / d)).length : Int) - 400

/-- The decimal with the fewest digits that reads back as `m * 2 ^ e`; seventeen always suffice. -/
def shortest (m : Nat) (e : Int) : Decimal :=
  let p := pointPlace m e
  let onGrid (i : Nat) : Option Decimal :=
    let k : Int := p - (i + 1)
    (nearestOnGrid m e k).map fun c => ⟨c, k⟩
  ((List.range 17).findSome? onGrid).getD ⟨0, 0⟩

/-- The text of an exponent: a sign and at least two digits. -/
def exponentText (e : Int) : List Char :=
  let digits := Nat.toDigits 10 e.natAbs
  (if e < 0 then '-' else '+') :: List.replicate (2 - digits.length) '0' ++ digits

/-- The digits without zeros at their end, though never none at all. -/
def dropTrailingZeros (digits : List Char) : List Char :=
  match (digits.reverse.dropWhile (· = '0')).reverse with
  | [] => ['0']
  | kept => kept

/-- Digits with the decimal point `point` places from their left. Numbers from `10 ^ 16` on and
below `10 ^ (-4)` are written with an exponent. -/
def layOut (digits : List Char) (point : Int) : List Char :=
  if point ≤ -4 ∨ 16 < point then
    let fraction := digits.drop 1
    digits.take 1 ++ (if fraction.isEmpty then [] else '.' :: fraction) ++
      'e' :: exponentText (point - 1)
  else if point ≤ 0 then
    '0' :: '.' :: List.replicate (-point).toNat '0' ++ digits
  else if digits.length ≤ point.toNat then
    digits ++ List.replicate (point.toNat - digits.length) '0' ++ ['.', '0']
  else digits.take point.toNat ++ '.' :: digits.drop point.toNat

/-- The text of a number. -/
def chars : Binary64 → List Char
  | .notANumber => "nan".toList
  | .infinite negative => (if negative then ['-'] else []) ++ "inf".toList
  | .finite negative m e =>
    let body :=
      if m = 0 then "0.0".toList
      else
        let d := shortest m e
        let digits := Nat.toDigits 10 d.digits
        layOut (dropTrailingZeros digits) (digits.length + d.exponent)
    (if negative then ['-'] else []) ++ body

/-- The text of a number. -/
def text (x : Binary64) : String :=
  String.ofList x.chars

end ImportBoundary.Binary64
