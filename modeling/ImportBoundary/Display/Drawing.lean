import ImportBoundary.Display.Layout
import ImportBoundary.Display.Markup

/-!
# Drawings

What a terminal is asked to show as markup: a line, or a table.
-/

namespace ImportBoundary.Display

/-- Texts that are markup: one that stands alone, or the columns of a table with `count` rows. -/
inductive Drawing
  | line (text : String)
  | table (columns : List (List String)) (count : Nat)

/-- A table whose texts are markup, column by column. -/
def markedTable (columns : List (List String)) (count : Nat) : Except Markup.Fault String := do
  let shown ← columns.mapM fun column => column.mapM fun text => Markup.plain text.toList
  return table shown count

/-- What a drawing shows. -/
def Drawing.shown : Drawing → Except Markup.Fault String
  | .line text => do return endLines (shownLines (← Markup.plain text.toList))
  | .table columns count => markedTable columns count

end ImportBoundary.Display
