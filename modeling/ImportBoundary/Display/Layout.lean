import ImportBoundary.Display.Width
import ImportBoundary.Text.Lines

/-!
# Layout

Panels and tables in the cells of a terminal. The lines of a panel are taken to fit into it, and those
of a table into the terminal; nothing is wrapped.
-/

namespace ImportBoundary.Display

open Text

/-- The cells in a line of the terminal. -/
def screenWidth : Nat := 200

/-- Controls that would move the cursor, and are left out: bell, backspace, vertical tab, form feed
and carriage return. -/
def isSilent (c : Char) : Bool :=
  [7, 8, 11, 12, 13].contains c.toNat

/-- Text with blanks up to the next of the stops, which come every eight cells. -/
def padToStop (cs : List Char) : List Char :=
  cs ++ List.replicate (8 - width cs % 8) ' '

/-- A line with blanks in the place of its tabs. -/
def expandTabs (line : List Char) : List Char :=
  let parts := splitAtChar '\t' line
  parts.dropLast.flatMap padToStop ++ parts.getLast?.getD []

/-- The lines of a text as they are shown. -/
def shownLines (cs : List Char) : List (List Char) :=
  (splitNewlines (cs.filter fun c => !isSilent c)).map expandTabs

/-- The text of some lines, each ended by a newline. -/
def endLines (lines : List (List Char)) : String :=
  String.ofList (lines.flatMap fun line => line ++ ['\n'])

/-! ## Panels -/

/-- A part of a panel's border. -/
def border (count : Nat) : List Char :=
  List.replicate count '─'

/-- The upper border of a panel, with the title in its middle. -/
def panelTop (title : String) : List Char :=
  let shown := ' ' :: title.toList ++ [' ']
  let free := screenWidth - 2 - width shown
  '╭' :: border (free / 2) ++ shown ++ border (free - free / 2) ++ ['╮']

/-- The lower border of a panel. -/
def panelBottom : List Char :=
  '╰' :: border (screenWidth - 2) ++ ['╯']

/-- A line within a panel. -/
def panelLine (line : List Char) : List Char :=
  '│' :: ' ' :: padTo (screenWidth - 4) line ++ [' ', '│']

/-- A text in a panel that is as wide as the terminal. -/
def panel (title : String) (content : List Char) : String :=
  endLines (panelTop title :: (shownLines content).map panelLine ++ [panelBottom])

/-! ## Tables -/

/-- A column of a table: what stands in its rows. -/
abbrev Column := List (List Char)

/-- The cells that a text needs. -/
def cellWidth (cs : List Char) : Nat :=
  ((splitLines (cs.filter fun c => !isSilent c)).map width).foldl max 0

/-- The cells that the widest text of a column needs. -/
def columnWidth (column : Column) : Nat :=
  (column.map cellWidth).foldl max 0

/-- The lines of the row `row`: as many as its highest text has, the columns two cells apart. -/
def rowLines (columns : List Column) (row : Nat) : List (List Char) :=
  let texts := columns.map fun column =>
    (columnWidth column, shownLines (column.getD row []))
  let height := (texts.map fun t => t.2.length).foldl max 0
  (List.range height).map fun n =>
    ' ' :: joinWith [' ', ' '] (texts.map fun t => padTo t.1 (t.2.getD n [])) ++ [' ']

/-- Some columns with `count` rows. -/
def table (columns : List Column) (count : Nat) : String :=
  endLines ((List.range count).flatMap (rowLines columns))

end ImportBoundary.Display
