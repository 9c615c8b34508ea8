import LayeredSettings.Console.Layout

namespace LayeredSettings

/-- A table of two columns with a title. The first column is never broken. -/
structure Table where
  title : String
  header : String × String
  rows : List (String × String)
  deriving Repr

namespace Table

/-- The characters at which a text is measured line by line. Only line feeds among
them end a line where it is shown. -/
def isLineSeparator (c : Char) : Bool :=
  [10, 28, 29, 30, 0x85, 0x2028, 0x2029].contains c.toNat

/-- The cells a column needs. Tabs do not count here. -/
def columnWidth (texts : List String) : Nat :=
  (texts.flatMap fun text =>
    let unified := (text.toList.filter (!isTerminalControl ·)).map fun c =>
      if isLineSeparator c then '\n' else c
    (splitAt '\n' unified).map textWidth).foldl max 0

def padRight (cells : Nat) (line : List Char) : List Char :=
  line ++ List.replicate (cells - textWidth line) ' '

/-- A line in the middle of some cells. -/
def centred (cells : Nat) (line : List Char) : List Char :=
  padRight cells (List.replicate ((cells - textWidth line) / 2) ' ' ++ line)

/-- A border: its ends, the line between them, and where it meets the columns. -/
def border (left line middle right : Char) (widths : Nat × Nat) : List Char :=
  left :: List.replicate (widths.1 + 2) line ++ middle :: List.replicate (widths.2 + 2) line ++ [right]

def rowLine (bar : Char) (widths : Nat × Nat) (first second : List Char) : List Char :=
  [bar, ' '] ++ padRight widths.1 first ++ [' ', bar, ' '] ++ padRight widths.2 second ++ [' ', bar]

/-- The lines of a row, as many as the higher of its cells needs. -/
def rowLines (bar : Char) (widths : Nat × Nat) (row : String × String) : List (List Char) :=
  let first := (shownLines row.1.toList).map (cutLine .ellipsis widths.1)
  let second := wrapped .ellipsis widths.2 row.2.toList
  (List.range (max first.length second.length)).map fun n =>
    rowLine bar widths (first.getD n []) (second.getD n [])

/-- The columns' widths on a terminal. Only the second column gives way if there is too
little room. -/
def widths (cells : Nat) (table : Table) : Nat × Nat :=
  let first := columnWidth (table.header.1 :: table.rows.map Prod.fst)
  let second := columnWidth (table.header.2 :: table.rows.map Prod.snd)
  (first, min second (cells - (first + 7)))

/-- The table with borders, heavy ones around its header. -/
def lines (cells : Nat) (table : Table) : List (List Char) :=
  let widths := table.widths cells
  [centred (widths.1 + widths.2 + 7) table.title.toList, border '┏' '━' '┳' '┓' widths] ++
    rowLines '┃' widths table.header ++ [border '┡' '━' '╇' '┩' widths] ++
    table.rows.flatMap (rowLines '│' widths) ++ [border '└' '─' '┴' '┘' widths]

end Table

end LayeredSettings
