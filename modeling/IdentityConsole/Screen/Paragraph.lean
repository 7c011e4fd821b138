import IdentityConsole.Screen.Line

/-!
# Paragraphs

Lines below each other. A line that is too long is cut off or goes on in the next row, where it is
broken after a word if it can be.
-/

namespace IdentityConsole

namespace Line

/-- As many glyphs as fit; those that are wider than the whole row are left out. -/
def cut (width : Nat) : Nat → List Glyph → List Glyph
  | _, [] => []
  | used, glyph :: rest =>
    if width < glyph.width then cut width used rest
    else if width < used + glyph.width then []
    else glyph :: cut width (used + glyph.width) rest

/-- A line while it is broken: the rows that are done, the row to which whole words have been added,
and the blanks and the word that come after it. -/
structure Breaking where
  rows : List (List Glyph)
  row : List Glyph
  blanks : List Glyph
  word : List Glyph
  inWord : Bool

namespace Breaking

open Glyph (widthOf)

def start : Breaking := ⟨[], [], [], [], false⟩

/-- Adds the blanks and the word to the row. -/
def commit (state : Breaking) : Breaking :=
  { state with row := state.row ++ state.blanks ++ state.word, blanks := [], word := [] }

/-- Leaves out the blanks that would still have fitted in a row. -/
def dropBlanks : Nat → List Glyph → List Glyph
  | _, [] => []
  | room, glyph :: rest =>
    if room < glyph.width then glyph :: rest else dropBlanks (room - glyph.width) rest

def add (glyph : Glyph) (state : Breaking) : Breaking :=
  if glyph.isBlank then { state with blanks := state.blanks ++ [glyph], inWord := false }
  else { state with word := state.word ++ [glyph], inWord := true }

def step (width : Nat) (state : Breaking) (glyph : Glyph) : Breaking :=
  if width < glyph.width then state
  else
    let overflows :=
      state.row.isEmpty && width < widthOf state.word + widthOf state.blanks + glyph.width
    let state := if (state.inWord && glyph.isBlank) || overflows then state.commit else state
    let used := widthOf state.row
    if width ≤ used ∨
        (0 < glyph.width ∧ width ≤ used + widthOf state.blanks + widthOf state.word) then
      let blanks := dropBlanks (width - used) state.blanks
      let state := { state with rows := state.rows ++ [state.row], row := [], blanks }
      if glyph.isBlank && blanks.isEmpty then state else state.add glyph
    else state.add glyph

def finish (state : Breaking) : List (List Glyph) :=
  let rows :=
    if state.row.isEmpty && state.word.isEmpty && !state.blanks.isEmpty then state.rows ++ [[]]
    else state.rows
  let last := state.row ++ state.blanks ++ state.word
  if !last.isEmpty then rows ++ [last] else if rows.isEmpty then [[]] else rows

end Breaking

/-- The rows of a line in a given width. -/
def broken (width : Nat) (line : Line) : List (List Glyph) :=
  (line.glyphs.foldl (Breaking.step width) .start).finish

end Line

namespace Canvas

/-- Draws glyphs in a row. Those without width are left out. -/
def drawRow (x y : Nat) (canvas : Canvas) : List Glyph → Canvas
  | [] => canvas
  | glyph :: rest =>
    if glyph.width = 0 then drawRow x y canvas rest
    else
      let symbol := if glyph.symbol = "" then " " else glyph.symbol
      drawRow (x + glyph.width) y (canvas.change x y (Cell.put symbol glyph.style)) rest

def drawRows (area : Area) (rows : List (List Glyph)) (canvas : Canvas) : Canvas :=
  if area.isEmpty then canvas
  else
    (rows.take area.height).zipIdx.foldl
      (fun canvas row => canvas.drawRow area.x (area.y + row.2) row.1) canvas

/-- A paragraph whose lines are cut off. -/
def drawParagraph (area : Area) (lines : List Line) (canvas : Canvas) : Canvas :=
  canvas.drawRows area (lines.map fun line => Line.cut area.width 0 line.glyphs)

/-- A paragraph whose lines are broken. -/
def drawBroken (area : Area) (lines : List Line) (canvas : Canvas) : Canvas :=
  canvas.drawRows area (lines.flatMap (Line.broken area.width))

end Canvas

end IdentityConsole
