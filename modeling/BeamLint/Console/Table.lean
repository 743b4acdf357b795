import BeamLint.Console.Wrap

/-!
# Tables on a console

A table with a title above it, a header and rows. Every column is as wide as its widest cell, except
that the last one takes what is left of the console and its cells are broken into lines.
-/

namespace BeamLint.Console

/-- The text with spaces after it up to `width` characters. -/
def padTo (width : Nat) (text : List Char) : List Char :=
  text ++ List.replicate (width - text.length) ' '

/-- The text with spaces around it up to `width` characters. -/
def centerIn (width : Nat) (text : List Char) : List Char :=
  padTo width (List.replicate ((width - text.length) / 2) ' ' ++ text)

/-- A horizontal line: its ends, what joins the columns, and what fills them. -/
def border (left joint right fill : Char) (widths : List Nat) : List Char :=
  left :: [joint].intercalate (widths.map fun w => List.replicate (w + 2) fill) ++ [right]

/-- One line of a row between vertical lines. -/
def rowLine (bar : Char) (widths : List Nat) (cells : List (List Char)) : List Char :=
  bar :: (widths.zip cells).flatMap fun (w, cell) => ' ' :: padTo w cell ++ [' ', bar]

/-- The lines of a row: as many as its tallest cell has. -/
def rowLines (bar : Char) (widths : List Nat) (cells : List (List Char)) : List (List Char) :=
  let wrapped := (widths.zip cells).map fun (w, cell) => wrap w cell
  let height := wrapped.foldl (fun h lines => max h lines.length) 0
  (List.range height).map fun i => rowLine bar widths (wrapped.map fun lines => lines.getD i [])

/-- The widths of the columns of a table with the given rows, header included. -/
def columnWidths (rows : List (List (List Char))) : List Nat :=
  let count := rows.foldl (fun n row => max n row.length) 0
  let natural := (List.range count).map fun i =>
    rows.foldl (fun w row => max w (row.getD i []).length) 0
  let inner := natural.dropLast
  let room := columns - (count + 1) - 2 * count - inner.foldl (· + ·) 0
  inner ++ (natural.getLast?.map fun w => min w room).toList

/-- A table. -/
def table (title : String) (header : List String) (rows : List (List String)) : String :=
  let header := header.map String.toList
  let rows := rows.map fun row => row.map String.toList
  let widths := columnWidths (header :: rows)
  let top := border '┏' '┳' '┓' '━' widths
  let lines :=
    [centerIn top.length title.toList, top] ++ rowLines '┃' widths header ++
      [border '┡' '╇' '┩' '━' widths] ++ rows.flatMap (rowLines '│' widths) ++
      [border '└' '┴' '┘' '─' widths]
  String.ofList (lines.flatMap fun line => line ++ ['\n'])

end BeamLint.Console
