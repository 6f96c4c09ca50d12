import FirmwareGlue.Text.Blank
import FirmwareGlue.Text.Width

/-!
# Listings

A listing has a row of headings and a row for each entry. A column is as wide as its widest cell,
two blanks separate columns, and lines have no blanks at their ends. Empty cells show a hyphen. The
rows may be numbered in a column of their own, which is aligned to the right. A cell with line
breaks takes several lines. A listing without entries is empty.
-/

namespace FirmwareGlue.CommandLine

structure Listing where
  headings : List String
  rows : List (List String)
  numbered : Bool := false
  indent : String := ""
  deriving DecidableEq

namespace Listing

/-- What an empty cell shows. -/
def placeholder : String := "-"

def shown (cell : String) : String :=
  if cell = "" then placeholder else cell

/-- All rows with the headings first, and with the numbers if the rows are numbered. -/
def allRows (l : Listing) : List (List String) :=
  let rows := l.rows.map fun row => row.map shown
  if l.numbered then
    ("#" :: l.headings) :: rows.zipIdx.map fun entry => toString (entry.2 + 1) :: entry.1
  else l.headings :: rows

/-- The columns of the widest line of a cell. -/
def cellWidth (cell : String) : Nat :=
  ((Text.splitAt '\n' cell).map Text.width).foldl max 0

def widths (rows : List (List String)) : List Nat :=
  match rows with
  | [] => []
  | first :: _ =>
    first.zipIdx.map fun entry =>
      (rows.map fun row => cellWidth (row.getD entry.2 "")).foldl max 0

def padded (right : Bool) (width : Nat) (line : String) : String :=
  let blanks := "".pushn ' ' (width - Text.width line)
  if right then blanks ++ line else line ++ blanks

def rowLines (l : Listing) (widths : List Nat) (row : List String) : List String :=
  let cells := row.map (Text.splitAt '\n')
  let height := (cells.map List.length).foldl max 0
  (List.range height).map fun i =>
    let line := String.intercalate "  " (((cells.zip widths).zipIdx).map fun entry =>
      padded (l.numbered && entry.2 = 0) entry.1.2 (entry.1.1.getD i ""))
    l.indent ++ Text.trimRight line ++ "\n"

def text (l : Listing) : String :=
  if l.rows.isEmpty then ""
  else
    let rows := l.allRows
    String.join (rows.flatMap (l.rowLines (widths rows)))

end Listing

end FirmwareGlue.CommandLine
