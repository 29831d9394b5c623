import ImportBoundary.Number.Integer
import ImportBoundary.Text.LetterCase
import ImportBoundary.Text.Lines
import ImportBoundary.Text.Quoted

/-!
# Styles

A style is written as a list of words: attributes, a colour, a background and a link. Two spellings
of one style have one normal form (`normalize`); a text that is no style is its own, in small
letters. A colour whose parts are no numbers is neither: the text cannot be used at all.
-/

namespace ImportBoundary.Display

open Text

/-- What can be switched on or off. -/
inductive Attribute
  | bold
  | dim
  | italic
  | underline
  | blink
  | blink2
  | reverse
  | conceal
  | strike
  | underline2
  | frame
  | encircle
  | overline
  deriving DecidableEq, Repr

namespace Attribute

/-- The attributes in the order in which they are written. -/
def all : List Attribute :=
  [.bold, .dim, .italic, .underline, .blink, .blink2, .reverse, .conceal, .strike, .underline2,
    .frame, .encircle, .overline]

/-- The name of an attribute. -/
def name : Attribute → String
  | .bold => "bold"
  | .dim => "dim"
  | .italic => "italic"
  | .underline => "underline"
  | .blink => "blink"
  | .blink2 => "blink2"
  | .reverse => "reverse"
  | .conceal => "conceal"
  | .strike => "strike"
  | .underline2 => "underline2"
  | .frame => "frame"
  | .encircle => "encircle"
  | .overline => "overline"

/-- The short names. -/
def shortNames : List (String × Attribute) :=
  [("d", .dim), ("b", .bold), ("i", .italic), ("u", .underline), ("r", .reverse), ("c", .conceal),
    ("s", .strike), ("uu", .underline2), ("o", .overline)]

/-- The attribute of a name or a short name. -/
def ofName? (text : String) : Option Attribute :=
  (shortNames.lookup text).or (all.find? fun a => a.name == text)

end Attribute

/-- The colours that have a name. -/
def colorNames : List (List Char) := words "
  black red green yellow blue magenta cyan white bright_black bright_red bright_green
  bright_yellow bright_blue bright_magenta bright_cyan bright_white grey0 gray0 navy_blue
  dark_blue blue3 blue1 dark_green deep_sky_blue4 dodger_blue3 dodger_blue2 green4 spring_green4
  turquoise4 deep_sky_blue3 dodger_blue1 green3 spring_green3 dark_cyan light_sea_green
  deep_sky_blue2 deep_sky_blue1 spring_green2 cyan3 dark_turquoise turquoise2 green1
  spring_green1 medium_spring_green cyan2 cyan1 dark_red deep_pink4 purple4 purple3 blue_violet
  orange4 grey37 gray37 medium_purple4 slate_blue3 royal_blue1 chartreuse4 dark_sea_green4
  pale_turquoise4 steel_blue steel_blue3 cornflower_blue chartreuse3 cadet_blue sky_blue3
  steel_blue1 pale_green3 sea_green3 aquamarine3 medium_turquoise chartreuse2 sea_green2
  sea_green1 aquamarine1 dark_slate_gray2 dark_magenta dark_violet purple light_pink4 plum4
  medium_purple3 slate_blue1 yellow4 wheat4 grey53 gray53 light_slate_grey light_slate_gray
  medium_purple light_slate_blue dark_olive_green3 dark_sea_green light_sky_blue3 sky_blue2
  dark_sea_green3 dark_slate_gray3 sky_blue1 chartreuse1 light_green pale_green1 dark_slate_gray1
  red3 medium_violet_red magenta3 dark_orange3 indian_red hot_pink3 medium_orchid3 medium_orchid
  medium_purple2 dark_goldenrod light_salmon3 rosy_brown grey63 gray63 medium_purple1 gold3
  dark_khaki navajo_white3 grey69 gray69 light_steel_blue3 light_steel_blue yellow3
  dark_sea_green2 light_cyan3 light_sky_blue1 green_yellow dark_olive_green2 dark_sea_green1
  pale_turquoise1 deep_pink3 magenta2 hot_pink2 orchid medium_orchid1 orange3 light_pink3 pink3
  plum3 violet light_goldenrod3 tan misty_rose3 thistle3 plum2 khaki3 light_goldenrod2
  light_yellow3 grey84 gray84 light_steel_blue1 yellow2 dark_olive_green1 honeydew2 light_cyan1
  red1 deep_pink2 deep_pink1 magenta1 orange_red1 indian_red1 hot_pink dark_orange salmon1
  light_coral pale_violet_red1 orchid2 orchid1 orange1 sandy_brown light_salmon1 light_pink1
  pink1 plum1 gold1 navajo_white1 misty_rose1 thistle1 yellow1 light_goldenrod1 khaki1 wheat1
  cornsilk1 grey100 gray100 grey3 gray3 grey7 gray7 grey11 gray11 grey15 gray15 grey19 gray19
  grey23 gray23 grey27 gray27 grey30 gray30 grey35 gray35 grey39 gray39 grey42 gray42 grey46
  gray46 grey50 gray50 grey54 gray54 grey58 gray58 grey62 gray62 grey66 gray66 grey70 gray70
  grey74 gray74 grey78 gray78 grey82 gray82 grey85 gray85 grey89 gray89 grey93 gray93
".toList

/-- A part of a colour that should be a number: it has no digits, or too many. -/
structure BadNumber where
  part : List Char
  deriving DecidableEq, Repr

def BadNumber.message (bad : BadNumber) : String :=
  if bad.part.length ≤ Number.maxDigits then
    s!"invalid literal for int() with base 10: {quoted (String.ofList bad.part)}"
  else Number.longMessage bad.part.length

/-- The number that is a part of a colour. -/
def colorPart (part : List Char) : Except BadNumber Int :=
  match Number.integer? part with
  | some n => .ok n
  | none => .error ⟨part⟩

/-- The text between the brackets gives the red, green and blue parts of a colour. -/
def isColorParts (cs : List Char) : Except BadNumber Bool :=
  if cs.isEmpty || !cs.all fun c => isDigit c || c = ',' then .ok false
  else
    match splitAtChar ',' cs with
    | [red, green, blue] => do
      let parts ← [red, green, blue].mapM colorPart
      return parts.all (· ≤ 255)
    | _ => .ok false

/-- A colour by its red, green and blue parts, or by its number. -/
def isColorCode (cs : List Char) : Except BadNumber Bool :=
  match cs with
  | '#' :: digits => .ok (digits.length = 6 && digits.all fun c => (radixDigit? 16 c).isSome)
  | 'c' :: 'o' :: 'l' :: 'o' :: 'r' :: '(' :: rest =>
    let digits := rest.dropLast
    .ok (rest.getLast? = some ')' && rest.length ≤ 4 && !digits.isEmpty &&
      digits.all isAsciiDigit && valueInBase 10 digits ≤ 255)
  | 'r' :: 'g' :: 'b' :: '(' :: rest =>
    if rest.getLast? = some ')' then isColorParts rest.dropLast else .ok false
  | _ => .ok false

/-- The text is a colour. -/
def isColor (cs : List Char) : Except BadNumber Bool :=
  if cs = "default".toList || colorNames.contains cs then .ok true else isColorCode cs

/-- What a text looks like. An attribute that is not listed is left as it is. -/
structure Style where
  attributes : List (Attribute × Bool) := []
  color : Option (List Char) := none
  background : Option (List Char) := none
  link : Option (List Char) := none

namespace Style

/-- The text in small letters. -/
def lowered (cs : List Char) : List Char :=
  cs.map fun c => Char.ofNat (toLower c.toNat)

/-- The style with the words to come added, unless one of them means nothing. -/
def withWords (s : Style) : List (List Char) → Except BadNumber (Option Style)
  | [] => .ok (some s)
  | word :: rest => do
    let small := lowered word
    if small = "on".toList then
      match rest with
      | color :: rest =>
        if ← isColor (lowered color) then withWords { s with background := lowered color } rest
        else return none
      | [] => return none
    else if small = "not".toList then
      match rest with
      | name :: rest =>
        match Attribute.ofName? (String.ofList name) with
        | some a => withWords { s with attributes := (a, false) :: s.attributes } rest
        | none => return none
      | [] => return none
    else if small = "link".toList then
      match rest with
      | target :: rest => withWords { s with link := target } rest
      | [] => return none
    else
      match Attribute.ofName? (String.ofList small) with
      | some a => withWords { s with attributes := (a, true) :: s.attributes } rest
      | none =>
        if ← isColor small then withWords { s with color := small } rest else return none

/-- The style that a text describes. -/
def ofText? (cs : List Char) : Except BadNumber (Option Style) :=
  if dropBlank cs = "none".toList then .ok (some {}) else withWords {} (words cs)

/-- The attributes that are listed, each once, the last word on it counting. -/
def attributeWords (s : Style) : List (List Char) :=
  Attribute.all.filterMap fun a =>
    (s.attributes.lookup a).map fun on =>
      if on then a.name.toList else "not ".toList ++ a.name.toList

/-- The words of a style in their order. -/
def text (s : Style) : List Char :=
  let after (label : String) (value : Option (List Char)) :=
    value.toList.map fun v => label.toList ++ v
  let parts := s.attributeWords ++ after "" s.color ++ after "on " s.background ++
    after "link " s.link
  if parts.isEmpty then "none".toList else joinWith [' '] parts

/-- The normal form of a text that describes a style. -/
def normalize (cs : List Char) : Except BadNumber (List Char) := do
  match ← ofText? cs with
  | some s => return s.text
  | none => return lowered (dropBlank cs)

end Style

end ImportBoundary.Display
