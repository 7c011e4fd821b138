import IdentityConsole.Screen.Area

/-!
# Areas in the middle of others

A terminal counts its cells in words of sixteen bits. In an area whose edges are such words, the
place in its middle is computed without a sum that overflows.
-/

namespace IdentityConsole

namespace Area

/-- The cells of an area. -/
def Contains (area : Area) (x y : Nat) : Prop :=
  area.x ≤ x ∧ x < area.right ∧ area.y ≤ y ∧ y < area.bottom

structure Within (inner outer : Area) : Prop where
  left : outer.x ≤ inner.x
  right : inner.right ≤ outer.right
  top : outer.y ≤ inner.y
  bottom : inner.bottom ≤ outer.bottom

theorem Within.contains {inner outer : Area} (h : inner.Within outer) {x y : Nat}
    (hcell : inner.Contains x y) : outer.Contains x y := by
  obtain ⟨hleft, hright, htop, hbottom⟩ := hcell
  exact ⟨Nat.le_trans h.left hleft, Nat.lt_of_lt_of_le hright h.right, Nat.le_trans h.top htop,
    Nat.lt_of_lt_of_le hbottom h.bottom⟩

theorem isEmpty_eq_false {area : Area} :
    area.isEmpty = false ↔ 0 < area.width ∧ 0 < area.height := by
  simp only [isEmpty, Bool.or_eq_false_iff, decide_eq_false_iff_not]
  omega

theorem within_row {area : Area} {index : Nat} (h : index < area.height) :
    (area.row index).Within area := by
  constructor <;> simp only [row, right, bottom] <;> omega

theorem within_framed (area : Area) : area.framed.Within area := by
  constructor <;> simp only [framed, right, bottom] <;> omega

/-- A part of an area that is as large as asked for where it fits, with as much room before it as
after it but for a cell. -/
structure IsMiddle (width height : Nat) (place area : Area) : Prop where
  within : place.Within area
  width : place.width = if width ≤ area.width then width else area.width
  height : place.height = if height ≤ area.height then height else area.height
  columns : ∃ before after, place.x = area.x + before ∧ place.right + after = area.right ∧
    before ≤ after ∧ after ≤ before + 1
  rows : ∃ before after, place.y = area.y + before ∧ place.bottom + after = area.bottom ∧
    before ≤ after ∧ after ≤ before + 1

theorem isMiddle_centered (width height : Nat) (area : Area) :
    (centered width height area).IsMiddle width height area where
  within := by constructor <;> simp only [centered, right, bottom] <;> omega
  width := by
    simp only [centered]
    split <;> omega
  height := by
    simp only [centered]
    split <;> omega
  columns := by
    refine ⟨(area.width - width) / 2, (area.width - width) - (area.width - width) / 2, rfl, ?_⟩
    simp only [centered, right]
    omega
  rows := by
    refine ⟨(area.height - height) / 2, (area.height - height) - (area.height - height) / 2, rfl,
      ?_⟩
    simp only [centered, bottom]
    omega

end Area

/-! ### Words -/

/-- An area in words of sixteen bits. -/
structure WordArea where
  x : UInt16
  y : UInt16
  width : UInt16
  height : UInt16
deriving DecidableEq, Repr

namespace WordArea

def toArea (area : WordArea) : Area :=
  ⟨area.x.toNat, area.y.toNat, area.width.toNat, area.height.toNat⟩

/-- A sum, unless it overflows. -/
def sum? (a b : UInt16) : Option UInt16 :=
  if a.toNat + b.toNat ≤ 65535 then some (a + b) else none

/-- A difference that stops at zero. -/
def difference (a b : UInt16) : UInt16 :=
  if b ≤ a then a - b else 0

/-- An area from its corner and its size, which is cut where an edge would not be a word. -/
def ofCorner (x y width height : UInt16) : WordArea :=
  ⟨x, y, min width (65535 - x), min height (65535 - y)⟩

/-- The place in the middle of an area, computed in words. -/
def centered? (width height : UInt16) (area : WordArea) : Option WordArea := do
  let x ← sum? area.x (difference area.width width / 2)
  let y ← sum? area.y (difference area.height height / 2)
  return ofCorner x y (min width area.width) (min height area.height)

theorem sum?_eq_some {a b : UInt16} (h : a.toNat + b.toNat ≤ 65535) :
    ∃ sum, sum? a b = some sum ∧ sum.toNat = a.toNat + b.toNat := by
  refine ⟨a + b, if_pos h, ?_⟩
  rw [UInt16.toNat_add]
  exact Nat.mod_eq_of_lt (Nat.lt_succ_of_le h)

theorem toNat_difference (a b : UInt16) : (difference a b).toNat = a.toNat - b.toNat := by
  unfold difference
  split
  · next h => exact UInt16.toNat_sub_of_le a b h
  · next h =>
    have hlt : a.toNat < b.toNat := Nat.lt_of_not_le h
    rw [Nat.sub_eq_zero_of_le (Nat.le_of_lt hlt)]
    rfl

theorem toNat_half_difference (a b : UInt16) :
    (difference a b / 2).toNat = (a.toNat - b.toNat) / 2 := by
  rw [UInt16.toNat_div, toNat_difference]
  rfl

theorem toNat_min (a b : UInt16) : (min a b).toNat = min a.toNat b.toNat := by
  change (if a ≤ b then a else b).toNat = _
  by_cases h : a ≤ b
  · rw [if_pos h, Nat.min_eq_left (UInt16.le_iff_toNat_le.mp h)]
  · have hle : b.toNat ≤ a.toNat := Nat.le_of_not_le h
    rw [if_neg h, Nat.min_eq_right hle]

theorem toArea_ofCorner {x y width height : UInt16} (hright : x.toNat + width.toNat ≤ 65535)
    (hbottom : y.toNat + height.toNat ≤ 65535) :
    (ofCorner x y width height).toArea = ⟨x.toNat, y.toNat, width.toNat, height.toNat⟩ := by
  have huncut {corner size : UInt16} (h : corner.toNat + size.toNat ≤ 65535) :
      (min size (65535 - corner)).toNat = size.toNat := by
    have hroom : (65535 - corner).toNat = 65535 - corner.toNat :=
      UInt16.toNat_sub_of_le 65535 corner (Nat.le_of_lt_succ corner.toNat_lt)
    rw [toNat_min, hroom]
    omega
  rw [ofCorner, toArea, huncut hright, huncut hbottom]

/-- The words come to what the numbers come to. -/
theorem centered?_eq_some (width height : UInt16) {area : WordArea}
    (hright : area.x.toNat + area.width.toNat ≤ 65535)
    (hbottom : area.y.toNat + area.height.toNat ≤ 65535) :
    ∃ place, area.centered? width height = some place ∧
      place.toArea = Area.centered width.toNat height.toNat area.toArea := by
  have hx := toNat_half_difference area.width width
  have hy := toNat_half_difference area.height height
  obtain ⟨x, hsumx, hx'⟩ : ∃ x, sum? area.x (difference area.width width / 2) = some x ∧
      x.toNat = area.x.toNat + (difference area.width width / 2).toNat :=
    sum?_eq_some (by omega)
  obtain ⟨y, hsumy, hy'⟩ : ∃ y, sum? area.y (difference area.height height / 2) = some y ∧
      y.toNat = area.y.toNat + (difference area.height height / 2).toNat :=
    sum?_eq_some (by omega)
  have hwidth := toNat_min width area.width
  have hheight := toNat_min height area.height
  refine ⟨ofCorner x y (min width area.width) (min height area.height), ?_, ?_⟩
  · rw [centered?, hsumx, hsumy]
    rfl
  · rw [toArea_ofCorner (by omega) (by omega), Area.centered, toArea, hx', hy', hx, hy, hwidth,
      hheight]

end WordArea

end IdentityConsole
