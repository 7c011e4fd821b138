/-!
# Prefixes within a byte budget

A text that is too long is cut at a boundary between its characters: the last one within the budget,
which is looked for from the budget backwards, byte by byte.
-/

namespace IdentityConsole.Text

/-- The boundary between characters of a text that is so many bytes from its front, if there is one.
-/
def boundaryAt? (text : String) (offset : Nat) : Option text.Pos :=
  if h : (⟨offset⟩ : String.Pos.Raw).IsValid text then some (text.pos ⟨offset⟩ h) else none

/-- Goes back from an offset to the nearest boundary. A search that gets past the front of the text
has failed. -/
def boundaryBefore? (text : String) : Nat → Option text.Pos
  | 0 => boundaryAt? text 0
  | offset + 1 =>
    match boundaryAt? text (offset + 1) with
    | some boundary => some boundary
    | none => boundaryBefore? text offset

/-- Every text has a boundary at its front. -/
theorem isSome_boundaryBefore? (text : String) (offset : Nat) :
    (boundaryBefore? text offset).isSome = true := by
  induction offset with
  | zero =>
    have hfront : (⟨0⟩ : String.Pos.Raw).IsValid text := String.Pos.Raw.isValid_zero
    rw [boundaryBefore?, boundaryAt?, dif_pos hfront]
    rfl
  | succ offset ih =>
    rw [boundaryBefore?]
    split
    · rfl
    · exact ih

def boundaryBefore (text : String) (offset : Nat) : text.Pos :=
  (boundaryBefore? text offset).get (isSome_boundaryBefore? text offset)

/-- A text of more than `budget` bytes is cut at a character and says how long it was. -/
def withinBudget (budget : Nat) (text : String) : String :=
  if text.utf8ByteSize ≤ budget then text
  else
    (text.sliceTo (boundaryBefore text budget)).copy ++ "... (truncated, " ++
      toString text.utf8ByteSize ++ " total bytes)"

end IdentityConsole.Text
