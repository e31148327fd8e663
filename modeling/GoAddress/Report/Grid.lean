import GoAddress.Pattern.Entry
import GoAddress.Text.Split
import GoAddress.Text.Width

/-!
# Tables

Cells in a frame of box-drawing characters. A cell holds one or more lines, each with a blank on
either side; a column is as wide as its widest line, and rows are filled up with empty cells.
-/

namespace GoAddress.Grid

/-- The lines of a cell. -/
def cellLines (text : String) : List String :=
  (Text.splitOn '\n' text.toList).map String.ofList

/-- The lines of a row's cells, filled up to the number of columns. -/
def rowCells (columns : Nat) (row : List String) : List (List String) :=
  (row ++ List.replicate (columns - row.length) "").map cellLines

/-- The width of each column without the blanks at its sides; at least one. -/
def columnWidths (columns : Nat) (rows : List (List (List String))) : List Nat :=
  (List.range columns).map fun i =>
    rows.foldl (fun width row =>
      ((row[i]?).getD []).foldl (fun width line => max width (Text.displayWidth line)) width) 1

/-- A line of a cell, filled up to the width of its column. -/
def padded (width : Nat) (line : String) : String :=
  " " ++ line ++ String.ofList (List.replicate (width - Text.displayWidth line) ' ') ++ " "

/-- One line of a row. -/
def rowLine (widths : List Nat) (row : List (List String)) (k : Nat) : String :=
  let cells := List.zipWith (fun width lines => padded width ((lines[k]?).getD "")) widths row
  "│" ++ "┆".intercalate cells ++ "│"

/-- The lines of a row: as many as its highest cell has. -/
def rowLines (widths : List Nat) (row : List (List String)) : List String :=
  let height := row.foldl (fun height lines => max height lines.length) 1
  (List.range height).map (rowLine widths row)

/-- A horizontal rule. -/
def rule (left fill cross right : String) (widths : List Nat) : String :=
  left ++ cross.intercalate (widths.map fun width =>
    String.join (List.replicate (width + 2) fill)) ++ right

/-- Lists of lines with a line between neighbours. -/
def separated (line : String) : List (List String) → List String
  | [] => []
  | [lines] => lines
  | lines :: next :: rest => lines ++ line :: separated line (next :: rest)

/-- A table with a header. -/
def render (headers : List String) (rows : List (List String)) : String :=
  let columns := rows.foldl (fun n row => max n row.length) headers.length
  let header := rowCells columns headers
  let body := rows.map (rowCells columns)
  let widths := columnWidths columns (header :: body)
  "\n".intercalate (
    [rule "╭" "─" "┬" "╮" widths] ++ rowLines widths header ++ [rule "╞" "═" "╪" "╡" widths] ++
    separated (rule "├" "╌" "┼" "┤" widths) (body.map (rowLines widths)) ++
    [rule "╰" "─" "┴" "╯" widths])

/-- Entries with address, kind and note. -/
def entries (es : List Entry) : String :=
  render ["Address", "Kind", "Info"] (es.map fun e => [e.path, e.kind, e.note.getD ""])

/-- Packages with the number of symbols of each kind and of all; a sum stands below several. -/
def packages (rows : List (String × List (String × Nat) × Nat)) : String :=
  let lines := rows.map fun (package, kinds, count) =>
    [package, Text.joinStrings ", " (kinds.map fun (kind, n) => s!"{kind}: {n}"), toString count]
  let total := if rows.length > 1 then
      [["TOTAL", "", toString (rows.foldl (fun n (_, _, count) => n + count) 0)]]
    else []
  render ["Package", "Kinds", "Symbols"] (lines ++ total)

/-- The packages that a scope adds and takes away. -/
def scope (included excluded : List String) : String :=
  let mark := fun (b : Bool) => if b then "yes" else ""
  render ["Package", "Included", "Excluded"]
    (included.map (fun p => [p, "yes", mark (excluded.contains p)]) ++
      (excluded.filter (!included.contains ·)).map fun p => [p, "", "yes"])

end GoAddress.Grid
