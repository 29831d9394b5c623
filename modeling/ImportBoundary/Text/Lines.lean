/-!
# Lines

Three notions of a line end: the newline alone (`splitNewlines`), the carriage return and its pair
with the newline read as one newline (`unifyNewlines`), and every character that Unicode counts as
a line boundary (`splitLines`).
-/

namespace ImportBoundary.Text

/-- The pieces between the separators: one more than there are separators. -/
def splitAtChar (sep : Char) : List Char → List (List Char)
  | [] => [[]]
  | c :: cs =>
    if c = sep then [] :: splitAtChar sep cs
    else
      match splitAtChar sep cs with
      | [] => [[c]]
      | piece :: pieces => (c :: piece) :: pieces

theorem splitAtChar_ne_nil (sep : Char) (cs : List Char) : splitAtChar sep cs ≠ [] := by
  cases cs with
  | nil => simp [splitAtChar]
  | cons c cs => rw [splitAtChar]; split <;> (try split) <;> simp

/-- The pieces with the separator put back between them. -/
def joinWith (sep : List Char) : List (List Char) → List Char
  | [] => []
  | [piece] => piece
  | piece :: pieces => piece ++ sep ++ joinWith sep pieces

/-- Joining the pieces gives the text back. -/
theorem joinWith_splitAtChar (sep : Char) (cs : List Char) :
    joinWith [sep] (splitAtChar sep cs) = cs := by
  induction cs with
  | nil => rfl
  | cons c cs ih =>
    rw [splitAtChar]
    split
    · next h =>
      subst h
      cases hs : splitAtChar c cs with
      | nil => exact absurd hs (splitAtChar_ne_nil c cs)
      | cons p ps => rw [hs] at ih; simp [joinWith, ih]
    · split
      · next h => exact absurd h (splitAtChar_ne_nil sep cs)
      · next p ps h =>
        rw [h] at ih
        cases ps <;> simp_all [joinWith]

/-- The lines of a text that ends its lines with the newline; the last may be empty. -/
def splitNewlines (cs : List Char) : List (List Char) :=
  splitAtChar '\n' cs

/-- Every carriage return, with the newline after it if there is one, becomes a newline. -/
def unifyNewlines : List Char → List Char
  | [] => []
  | '\r' :: '\n' :: cs => '\n' :: unifyNewlines cs
  | '\r' :: cs => '\n' :: unifyNewlines cs
  | c :: cs => c :: unifyNewlines cs

/-- A character that ends a line by Unicode's rules. -/
def isLineEnd (c : Char) : Bool :=
  (0x0A ≤ c.toNat && c.toNat ≤ 0x0D) || (0x1C ≤ c.toNat && c.toNat ≤ 0x1E) || c.toNat == 0x85 ||
    c.toNat == 0x2028 || c.toNat == 0x2029

/-- The lines still to come, when `line` (last character first) has been read already. -/
def splitLinesFrom (line : List Char) : List Char → List (List Char)
  | [] => if line.isEmpty then [] else [line.reverse]
  | '\r' :: '\n' :: cs => line.reverse :: splitLinesFrom [] cs
  | c :: cs =>
    if isLineEnd c then line.reverse :: splitLinesFrom [] cs else splitLinesFrom (c :: line) cs

/-- The lines by Unicode's line ends; a line end at the end of the text starts no further line. -/
def splitLines (cs : List Char) : List (List Char) :=
  splitLinesFrom [] cs

end ImportBoundary.Text
