import IdentityConsole.Screen.Canvas
import IdentityConsole.Text.Cluster

/-!
# A canvas as terminal output
-/

namespace IdentityConsole.Terminal

def control (parameters : String) : String :=
  String.ofList [Char.ofNat 0x1B, '['] ++ parameters

def color (reset rgb : String) : Color → String
  | .reset => reset
  | .white => rgb ++ "5;15"
  | .rgb red green blue =>
    rgb ++ "2;" ++ toString red ++ ";" ++ toString green ++ ";" ++ toString blue

/-- What makes the following symbols look like a cell. -/
def look (cell : Cell) : String :=
  control ("0;" ++ color "39" "38;" cell.foreground ++ ";" ++ color "49" "48;" cell.background ++
    (if cell.bold then ";1" else "") ++ (if cell.underlined then ";4" else "") ++ "m")

/-- The cells of a row; a cell that the symbol before it covers is left out. -/
def row (covered : Bool) : List Cell → String
  | [] => ""
  | cell :: rest =>
    if covered then row false rest
    else look cell ++ cell.symbol ++ row (Text.clusterWidth cell.symbol.toList = 2) rest

/-- The whole screen, drawn from its upper left corner. -/
def frame (canvas : Canvas) : String :=
  control "H" ++ control "2J" ++ "\r\n".intercalate (canvas.rows.map (row false)) ++ control "0m"

def enter : String := control "?1049h"

def leave : String := control "?1049l"

end IdentityConsole.Terminal
