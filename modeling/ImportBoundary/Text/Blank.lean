import ImportBoundary.Text.CharClass

/-!
# Blank characters

White space in the sense of Unicode: the separators and the controls that act as such. Core's
`Char.isWhitespace` knows four of them, all of which are blank here (`isBlank_of_isWhitespace`).
-/

namespace ImportBoundary.Text

/-- Unicode white space, the information separators U+001C to U+001F included. -/
def blankClass : CharClass := ⟨
  [
    (0x9, 0xD), (0x1C, 0x20), (0x85, 0x85), (0xA0, 0xA0), (0x1680, 0x1680), (0x2000, 0x200A),
    (0x2028, 0x2029), (0x202F, 0x202F), (0x205F, 0x205F), (0x3000, 0x3000)]⟩

/-- White space in the sense of Unicode. -/
def isBlank (c : Char) : Bool :=
  blankClass.contains c.toNat

theorem isBlank_of_isWhitespace {c : Char} (h : c.isWhitespace = true) : isBlank c = true := by
  simp only [Char.isWhitespace, Bool.or_eq_true, decide_eq_true_eq] at h
  rcases h with ((rfl | rfl) | rfl) | rfl <;> decide

/-- The text without the blanks it begins with. -/
def dropBlankLeft (cs : List Char) : List Char :=
  cs.dropWhile isBlank

/-- The text without the blanks at either end. -/
def dropBlank (cs : List Char) : List Char :=
  ((dropBlankLeft cs).reverse.dropWhile isBlank).reverse

/-- The text holds nothing but blanks. -/
def isAllBlank (cs : List Char) : Bool :=
  cs.all isBlank

/-- The words of a text, when `word` (last character first) has been read already. -/
def wordsFrom (word : List Char) : List Char → List (List Char)
  | [] => if word.isEmpty then [] else [word.reverse]
  | c :: cs =>
    if isBlank c then
      if word.isEmpty then wordsFrom [] cs else word.reverse :: wordsFrom [] cs
    else wordsFrom (c :: word) cs

/-- The pieces of a text between blanks. -/
def words (cs : List Char) : List (List Char) :=
  wordsFrom [] cs

end ImportBoundary.Text
