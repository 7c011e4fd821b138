import IdentityConsole.Screen.Paragraph

/-!
# Panels
-/

namespace IdentityConsole.Canvas

/-- Puts one symbol into every cell of an area. -/
def fill (area : Area) (symbol : String) (style : Style) (canvas : Canvas) : Canvas :=
  canvas.changeArea area (Cell.put symbol style)

/-- A rule in the last row of an area. -/
def drawRule (area : Area) (style : Style) (canvas : Canvas) : Canvas :=
  if area.isEmpty then canvas
  else canvas.fill (area.row (area.height - 1)) "─" style

/-- A border around an area. Where there is no room for all of it, the upper left comes first. -/
def drawBorder (area : Area) (style : Style) (canvas : Canvas) : Canvas :=
  if area.isEmpty then canvas
  else
    let lastColumn := area.right - 1
    let lastRow := area.bottom - 1
    let corner (x y : Nat) (symbol : String) (canvas : Canvas) : Canvas :=
      canvas.change x y (Cell.put symbol style)
    canvas
      |>.fill { area with width := 1 } "│" style
      |>.fill (area.row 0) "─" style
      |>.fill ⟨lastColumn, area.y, 1, area.height⟩ "│" style
      |>.fill ⟨area.x, lastRow, area.width, 1⟩ "─" style
      |> corner lastColumn lastRow "┘"
      |> corner lastColumn area.y "┐"
      |> corner area.x lastRow "└"
      |> corner area.x area.y "┌"

/-- A title in the upper border of an area. -/
def drawTitle (area : Area) (title : Line) (canvas : Canvas) : Canvas :=
  let place : Area := ⟨area.x + 1, area.y, min (area.width - 2) title.width, 1⟩
  if area.isEmpty then canvas else (canvas.style place .title).drawLine place title

/-- A border with a title in it. -/
def drawPanel (area : Area) (title : String) (style : Style) (canvas : Canvas) : Canvas :=
  (canvas.drawBorder area style).drawTitle area (.ofText title)

/-- The first of the rows that are shown when the row at `selected` must be among them. -/
def firstShown (selected height : Nat) : Nat :=
  selected + 1 - height

/-- Draws rows, each a line over a background of its own style, so that the one at `selected` is
shown. -/
def drawItems (area : Area) (items : List (Line × Style)) (selected : Nat) (canvas : Canvas) :
    Canvas :=
  if area.isEmpty then canvas
  else
    let first := firstShown (min selected (items.length - 1)) area.height
    ((items.drop first).take area.height).zipIdx.foldl
      (fun canvas item =>
        let place := area.row item.2
        (canvas.style place item.1.2).drawLine place item.1.1)
      canvas

end IdentityConsole.Canvas
