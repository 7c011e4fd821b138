/-!
# Areas

Rectangles of cells, counted from the upper left corner of the screen.
-/

namespace IdentityConsole

structure Area where
  x : Nat
  y : Nat
  width : Nat
  height : Nat
deriving DecidableEq, Repr

namespace Area

def isEmpty (area : Area) : Bool :=
  area.width = 0 || area.height = 0

def right (area : Area) : Nat :=
  area.x + area.width

def bottom (area : Area) : Nat :=
  area.y + area.height

/-- One row of an area, from its top. -/
def row (area : Area) (index : Nat) : Area :=
  ⟨area.x, area.y + index, area.width, 1⟩

/-- Inside a frame of one cell. -/
def framed (area : Area) : Area :=
  ⟨min (area.x + 1) area.right, min (area.y + 1) area.bottom, area.width - 2, area.height - 2⟩

/-- Above a rule of one cell. -/
def ruled (area : Area) : Area :=
  { area with height := area.height - 1 }

/-- A rectangle of the given size in the middle of an area, as far as it fits. -/
def centered (width height : Nat) (area : Area) : Area :=
  ⟨area.x + (area.width - width) / 2, area.y + (area.height - height) / 2, min width area.width,
    min height area.height⟩

end Area

end IdentityConsole
