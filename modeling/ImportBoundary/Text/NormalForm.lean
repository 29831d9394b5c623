import ImportBoundary.Text.CharacterForms

/-!
# Normal forms

Identifiers that are spelled with other forms of the same characters are one name, which is known by its
normal form (`normalForm`). In it every character is taken apart into those that it is a form of, the
marks are put in the order of their classes, and then all characters are put together that can be.

Hangul syllables are taken apart and put together by arithmetic.
-/

namespace ImportBoundary.Text

/-! ## Taking apart -/

/-- The code point of a Hangul syllable. -/
def isSyllable (code : Nat) : Bool :=
  0xAC00 ≤ code && code ≤ 0xD7A3

/-- The two or three letters of a syllable. -/
def lettersOf (syllable : Nat) : List Nat :=
  let index := syllable - 0xAC00
  let last := index % 28
  [0x1100 + index / 588, 0x1161 + index % 588 / 28] ++ if last = 0 then [] else [0x11A7 + last]

/-- What a character is a form of, or the character itself. -/
def partsOf (code : Nat) : List Nat :=
  if isSyllable code then lettersOf code
  else
    match formRuns.find? (·.covers code) with
    | some run => [run.form code]
    | none =>
      match formBlocks.findSome? (·.form? code) with
      | some form => [form]
      | none =>
        match sequenceBlocks.findSome? (·.form? code) with
        | some forms => forms
        | none =>
          match composites.find? (·.whole == code) with
          | some c => [c.first, c.mark]
          | none => [code]

/-- Takes characters apart as far as possible. There are composites of composites, but none of those have
more than two marks, so three times is enough. -/
def takeApart (codes : List Nat) : List Nat :=
  ((codes.flatMap partsOf).flatMap partsOf).flatMap partsOf

/-! ## The order of marks -/

/-- The class of a mark; zero for all that are no marks. -/
def markClass (code : Nat) : Nat :=
  ((markRuns.find? (·.covers code)).map (·.markClass)).getD 0

/-- Puts a character in front, or behind the marks of lower classes that are there. -/
def insertMark (code : Nat) : List Nat → List Nat
  | [] => [code]
  | next :: codes =>
    if 0 < markClass next ∧ markClass next < markClass code then next :: insertMark code codes
    else code :: next :: codes

/-- Puts the marks behind each character in the order of their classes. -/
def sortMarks (codes : List Nat) : List Nat :=
  codes.foldr insertMark []

/-! ## Putting together -/

/-- The syllable of two letters, or of a syllable of two letters and a third one. -/
def joinLetters? (first second : Nat) : Option Nat :=
  if (0x1100 ≤ first ∧ first ≤ 0x1112) ∧ 0x1161 ≤ second ∧ second ≤ 0x1175 then
    some (0xAC00 + ((first - 0x1100) * 21 + (second - 0x1161)) * 28)
  else if isSyllable first ∧ (first - 0xAC00) % 28 = 0 ∧ 0x11A8 ≤ second ∧ second ≤ 0x11C2 then
    some (first + (second - 0x11A7))
  else none

/-- The character that two characters are put together to. -/
def join? (first second : Nat) : Option Nat :=
  match joinLetters? first second with
  | some syllable => some syllable
  | none => (composites.find? fun c => c.first == first && c.mark == second).map (·.whole)

/-- Puts characters together with the one in front, which `marks` stand behind. One that comes behind a
mark of its own or a higher class is not put together with what is in front of it. -/
def putTogetherWith (front : Nat) (marks : List Nat) : List Nat → List Nat
  | [] => front :: marks
  | code :: codes =>
    let reaches := marks.all fun mark => decide (markClass mark < markClass code)
    match if reaches then join? front code else none with
    | some whole => putTogetherWith whole marks codes
    | none =>
      if markClass code = 0 then front :: marks ++ putTogetherWith code [] codes
      else putTogetherWith front (marks ++ [code]) codes

/-- Puts characters together, each mark with the character in front of the marks. -/
def putTogether : List Nat → List Nat
  | [] => []
  | code :: codes =>
    if markClass code = 0 then putTogetherWith code [] codes else code :: putTogether codes

/-- The text with all forms of a character replaced by one. -/
def normalForm (text : String) : String :=
  if text.toList.all (·.toNat < 128) then text
  else
    let codes := text.toList.map Char.toNat
    String.ofList ((putTogether (sortMarks (takeApart codes))).map Char.ofNat)

end ImportBoundary.Text
