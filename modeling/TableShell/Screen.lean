import TableShell.Screen.Drawing
import TableShell.Text.Width

/-!
# The screen of the shell

The line is drawn for a terminal that gives characters and texts the widths of Unicode.
-/

namespace TableShell

/-- The widths of Unicode. -/
instance unicodeWidths : ColumnWidths where
  char := Text.charWidth
  text := Text.displayWidth

end TableShell
