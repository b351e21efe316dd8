/-!
# Columns of a table

Cells padded with spaces to a width; a longer cell keeps all its characters.
-/

namespace AccessSync.Text

/-- The cell at the left of a column of the given width. -/
def alignLeft (width : Nat) (cell : String) : String :=
  cell ++ String.ofList (List.replicate (width - cell.length) ' ')

/-- The cell at the right of a column of the given width. -/
def alignRight (width : Nat) (cell : String) : String :=
  String.ofList (List.replicate (width - cell.length) ' ') ++ cell

end AccessSync.Text
