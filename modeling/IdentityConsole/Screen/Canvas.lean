import IdentityConsole.Screen.Area
import IdentityConsole.Screen.Style

/-!
# The canvas

The cells of a screen, row by row. A cell shows a symbol; of a symbol that is two cells wide the
second cell shows a blank of its own.
-/

namespace IdentityConsole

structure Cell where
  symbol : String
  foreground : Color
  background : Color
  bold : Bool
  underlined : Bool
deriving DecidableEq, Repr

namespace Cell

def blank : Cell := ⟨" ", .reset, .reset, false, false⟩

/-- A style is laid over what is there. -/
def styled (style : Style) (cell : Cell) : Cell :=
  { cell with
    foreground := style.foreground.getD cell.foreground
    background := style.background.getD cell.background
    bold := cell.bold || style.bold
    underlined := cell.underlined || style.underlined }

def put (symbol : String) (style : Style) (cell : Cell) : Cell :=
  { cell with symbol }.styled style

def append (symbol : String) (style : Style) (cell : Cell) : Cell :=
  { cell with symbol := cell.symbol ++ symbol }.styled style

end Cell

structure Canvas where
  width : Nat
  height : Nat
  cells : Array Cell
deriving DecidableEq, Repr

namespace Canvas

def blank (width height : Nat) : Canvas :=
  ⟨width, height, Array.replicate (width * height) .blank⟩

def area (canvas : Canvas) : Area :=
  ⟨0, 0, canvas.width, canvas.height⟩

def cell? (canvas : Canvas) (x y : Nat) : Option Cell :=
  if x < canvas.width ∧ y < canvas.height then canvas.cells[y * canvas.width + x]? else none

/-- Changes one cell; there is nothing outside the canvas to change. -/
def change (canvas : Canvas) (x y : Nat) (f : Cell → Cell) : Canvas :=
  if x < canvas.width ∧ y < canvas.height then
    { canvas with cells := canvas.cells.modify (y * canvas.width + x) f }
  else canvas

/-- Changes all cells of an area. -/
def changeArea (canvas : Canvas) (area : Area) (f : Cell → Cell) : Canvas :=
  (List.range area.height).foldl
    (fun canvas row =>
      (List.range area.width).foldl
        (fun canvas column => canvas.change (area.x + column) (area.y + row) f) canvas)
    canvas

def style (canvas : Canvas) (area : Area) (style : Style) : Canvas :=
  canvas.changeArea area (Cell.styled style)

def clear (canvas : Canvas) (area : Area) : Canvas :=
  canvas.changeArea area fun _ => .blank

def row (canvas : Canvas) (y : Nat) : List Cell :=
  (canvas.cells.extract (y * canvas.width) ((y + 1) * canvas.width)).toList

def rows (canvas : Canvas) : List (List Cell) :=
  (List.range canvas.height).map canvas.row

end Canvas

end IdentityConsole
