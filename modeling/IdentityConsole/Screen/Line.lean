import IdentityConsole.Screen.Canvas
import IdentityConsole.Text.Blank
import IdentityConsole.Text.Cluster

/-!
# Lines of styled text
-/

namespace IdentityConsole

structure Span where
  text : String
  style : Style
deriving DecidableEq, Repr

abbrev Line := List Span

/-- A cluster as it is drawn. -/
structure Glyph where
  symbol : String
  width : Nat
  style : Style
deriving DecidableEq, Repr

namespace Glyph

def ofCluster (style : Style) (cluster : List Char) : Glyph :=
  ⟨String.ofList cluster, Text.clusterWidth cluster, style⟩

/-- Whether a line may be broken here. -/
def isBlank (glyph : Glyph) : Bool :=
  glyph.symbol = "\u200b" ||
    (glyph.symbol.toList.all Text.isBlank && glyph.symbol ≠ "\u00a0")

/-- The cells that glyphs take beside each other. -/
def widthOf (glyphs : List Glyph) : Nat :=
  glyphs.foldr (Glyph.width · + ·) 0

end Glyph

namespace Span

def plain (text : String) : Span := ⟨text, .plain⟩

/-- The glyphs of a text; line feeds are not drawn. -/
def glyphs (span : Span) : List Glyph :=
  ((Text.clusters span.text.toList).filter (· ≠ ['\n'])).map (Glyph.ofCluster span.style)

def width (span : Span) : Nat :=
  (Text.clusters span.text.toList).foldr (Text.clusterWidth · + ·) 0

end Span

namespace Line

/-- The pieces between line ends. A carriage return before a line feed belongs to the line end. -/
def pieces : List Char → List (List Char)
  | [] => [[]]
  | '\r' :: '\n' :: rest => [] :: pieces rest
  | '\n' :: rest => [] :: pieces rest
  | c :: rest =>
    match pieces rest with
    | [] => [[c]]
    | piece :: others => (c :: piece) :: others

/-- A text on one line, without its line ends. -/
def ofText (text : String) : Line :=
  (pieces text.toList).map fun piece => .plain (String.ofList piece)

def styled (text : String) (style : Style) : Line :=
  [⟨text, style⟩]

def empty : Line := []

def glyphs (line : Line) : List Glyph :=
  line.flatMap Span.glyphs

def width (line : Line) : Nat :=
  line.foldr (Span.width · + ·) 0

end Line

namespace Canvas

/-- Draws glyphs from left to right up to the end of an area. A glyph without width is added to the
cell before it; the cells a wide glyph covers become blank. -/
def drawGlyphs (x y right start : Nat) (first : Bool) (canvas : Canvas) : List Glyph → Canvas
  | [] => canvas
  | glyph :: rest =>
    let next := x + glyph.width
    if right < next then canvas
    else
      let drawn :=
        if first then canvas.change x y (Cell.put glyph.symbol glyph.style)
        else if x = start then canvas.change x y (Cell.append glyph.symbol glyph.style)
        else if glyph.width = 0 then canvas.change (x - 1) y (Cell.append glyph.symbol glyph.style)
        else canvas.change x y (Cell.put glyph.symbol glyph.style)
      let covered := drawn.clear ⟨x + 1, y, glyph.width - 1, 1⟩
      drawGlyphs next y right start false covered rest

def drawSpans (area : Area) (canvas : Canvas) : List Span → Canvas
  | [] => canvas
  | span :: rest =>
    let width := span.width
    if area.width = 0 then canvas
    else if width = 0 then drawSpans area canvas rest
    else
      let canvas := canvas.drawGlyphs area.x area.y area.right area.x true span.glyphs
      let taken := min width area.width
      drawSpans { area with x := area.x + taken, width := area.width - taken } canvas rest

/-- Draws a line in the first row of an area. -/
def drawLine (area : Area) (line : Line) (canvas : Canvas) : Canvas :=
  if area.isEmpty then canvas else canvas.drawSpans (area.row 0) line

end Canvas

end IdentityConsole
