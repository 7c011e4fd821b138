import IdentityConsole.Proofs.Screen.Area
import IdentityConsole.Screen.Panel
import IdentityConsole.Screen.Paragraph

/-!
# What is drawn in an area stays in it

Whatever is drawn comes down to changes of single cells. Each way to draw in an area changes cells
of that area alone, so that all other cells of the canvas stay as they were.
-/

namespace IdentityConsole

theorem Glyph.widthOf_cons (glyph : Glyph) (rest : List Glyph) :
    widthOf (glyph :: rest) = glyph.width + widthOf rest := rfl

namespace Canvas

/-- Only cells of an area have changed. -/
structure ChangesWithin (area : Area) (before after : Canvas) : Prop where
  width : after.width = before.width
  height : after.height = before.height
  cell? : ∀ x y, ¬area.Contains x y → after.cell? x y = before.cell? x y

namespace ChangesWithin

variable {area inner : Area} {canvas first second third : Canvas}

theorem refl (area : Area) (canvas : Canvas) : ChangesWithin area canvas canvas :=
  ⟨rfl, rfl, fun _ _ _ => rfl⟩

theorem trans (h : ChangesWithin area first second) (h' : ChangesWithin area second third) :
    ChangesWithin area first third where
  width := h'.width.trans h.width
  height := h'.height.trans h.height
  cell? x y houtside := (h'.cell? x y houtside).trans (h.cell? x y houtside)

theorem mono (h : ChangesWithin inner first second)
    (hcells : ∀ {x y}, inner.Contains x y → area.Contains x y) :
    ChangesWithin area first second where
  width := h.width
  height := h.height
  cell? x y houtside := h.cell? x y fun hcell => houtside (hcells hcell)

theorem foldl {α : Type} {draw : Canvas → α → Canvas} {items : List α}
    (h : ∀ canvas, ∀ item ∈ items, ChangesWithin area canvas (draw canvas item)) :
    ChangesWithin area canvas (items.foldl draw canvas) := by
  induction items generalizing canvas with
  | nil => exact refl area canvas
  | cons item rest ih =>
    have hitem := h canvas item List.mem_cons_self
    have hrest : ChangesWithin area (draw canvas item) (rest.foldl draw (draw canvas item)) :=
      ih fun canvas other hmem => h canvas other (List.mem_cons_of_mem item hmem)
    exact hitem.trans hrest

end ChangesWithin

variable {area : Area} {canvas : Canvas}

/-! ### Cells -/

/-- Cells at different places are kept at different places. -/
theorem index_inj {width x y x' y' : Nat} (hx : x < width) (hx' : x' < width)
    (h : y * width + x = y' * width + x') : x = x' ∧ y = y' := by
  have hcolumn : x = x' := by
    have hmod := congrArg (· % width) h
    simpa [Nat.mul_add_mod_self_right, Nat.mod_eq_of_lt hx, Nat.mod_eq_of_lt hx'] using hmod
  refine ⟨hcolumn, ?_⟩
  rw [hcolumn] at h
  exact Nat.eq_of_mul_eq_mul_right (by omega) (Nat.add_right_cancel h)

theorem changesWithin_change {x y : Nat} (f : Cell → Cell) (h : area.Contains x y) :
    ChangesWithin area canvas (canvas.change x y f) := by
  unfold change
  split
  · next hplace =>
    refine ⟨rfl, rfl, fun x' y' houtside => ?_⟩
    unfold cell?
    split
    · next hplace' =>
      have hne : y * canvas.width + x ≠ y' * canvas.width + x' := by
        intro heq
        obtain ⟨rfl, rfl⟩ := index_inj hplace.1 hplace'.1 heq
        exact houtside h
      dsimp only
      rw [Array.getElem?_modify, if_neg hne]
    · rfl
  · exact .refl area canvas

theorem changesWithin_changeArea (area : Area) (f : Cell → Cell) :
    ChangesWithin area canvas (canvas.changeArea area f) := by
  unfold changeArea
  apply ChangesWithin.foldl
  intro canvas row hrow
  apply ChangesWithin.foldl
  intro canvas column hcolumn
  rw [List.mem_range] at hrow hcolumn
  apply changesWithin_change
  simp only [Area.Contains, Area.right, Area.bottom]
  omega

/-! ### Borders and titles -/

theorem changesWithin_drawBorder (area : Area) (style : Style) :
    ChangesWithin area canvas (canvas.drawBorder area style) := by
  unfold drawBorder
  cases hempty : area.isEmpty with
  | true => exact .refl area canvas
  | false =>
    obtain ⟨hwidth, hheight⟩ := Area.isEmpty_eq_false.mp hempty
    have hside {side : Area} {symbol : String} {canvas : Canvas} (hwithin : side.Within area) :
        ChangesWithin area canvas (canvas.fill side symbol style) :=
      (changesWithin_changeArea side _).mono hwithin.contains
    have hcorner {x y : Nat} {symbol : String} {canvas : Canvas} (hplace : area.Contains x y) :
        ChangesWithin area canvas (canvas.change x y (Cell.put symbol style)) :=
      changesWithin_change _ hplace
    have hleft : Area.Within { area with width := 1 } area := by
      constructor <;> simp only [Area.right, Area.bottom] <;> omega
    have hright : Area.Within ⟨area.right - 1, area.y, 1, area.height⟩ area := by
      constructor <;> simp only [Area.right, Area.bottom] <;> omega
    have hbottom : Area.Within ⟨area.x, area.bottom - 1, area.width, 1⟩ area := by
      constructor <;> simp only [Area.right, Area.bottom] <;> omega
    have hcorners : area.Contains (area.right - 1) (area.bottom - 1) ∧
        area.Contains (area.right - 1) area.y ∧ area.Contains area.x (area.bottom - 1) ∧
        area.Contains area.x area.y := by
      simp only [Area.Contains, Area.right, Area.bottom]
      omega
    exact (hside hleft).trans <| (hside (Area.within_row hheight)).trans <|
      (hside hright).trans <| (hside hbottom).trans <| (hcorner hcorners.1).trans <|
      (hcorner hcorners.2.1).trans <| (hcorner hcorners.2.2.1).trans (hcorner hcorners.2.2.2)

/-- Glyphs end before the right edge, and those without width go into cells that are drawn. -/
theorem changesWithin_drawGlyphs {x y right start : Nat} {first : Bool} {glyphs : List Glyph}
    (hstart : start ≤ x) (hroom : start < right) (hfirst : first = true → x = start) :
    ChangesWithin ⟨start, y, right - start, 1⟩ canvas
      (drawGlyphs x y right start first canvas glyphs) := by
  induction glyphs generalizing x first canvas with
  | nil => exact .refl _ canvas
  | cons glyph rest ih =>
    have hplace {column : Nat} {f : Cell → Cell} (hleft : start ≤ column)
        (hright : column < right) :
        ChangesWithin ⟨start, y, right - start, 1⟩ canvas (canvas.change column y f) := by
      apply changesWithin_change
      simp only [Area.Contains, Area.right, Area.bottom]
      omega
    unfold drawGlyphs
    dsimp only
    split
    · exact .refl _ canvas
    · next hfits =>
      have hcovered (canvas : Canvas) : ChangesWithin ⟨start, y, right - start, 1⟩ canvas
          (canvas.clear ⟨x + 1, y, glyph.width - 1, 1⟩) := by
        apply (changesWithin_changeArea _ _).mono
        simp only [Area.Contains, Area.right, Area.bottom]
        omega
      refine .trans ?_ ((hcovered _).trans (ih (by omega) fun h => absurd h Bool.false_ne_true))
      split
      · next hisFirst =>
        have hx := hfirst hisFirst
        exact hplace hstart (by omega)
      · split
        · exact hplace hstart (by omega)
        · split
          · exact hplace (by omega) (by omega)
          · exact hplace hstart (by omega)

theorem changesWithin_drawSpans {area : Area} {spans : List Span} (hheight : 0 < area.height) :
    ChangesWithin area canvas (drawSpans area canvas spans) := by
  induction spans generalizing area canvas with
  | nil => exact .refl area canvas
  | cons span rest ih =>
    unfold drawSpans
    dsimp only
    split
    · exact .refl area canvas
    · next hwidth =>
      split
      · exact ih hheight
      · have hglyphs : ChangesWithin area canvas
            (canvas.drawGlyphs area.x area.y area.right area.x true span.glyphs) := by
          refine (changesWithin_drawGlyphs (Nat.le_refl _) ?_ fun _ => rfl).mono ?_
          · simp only [Area.right]
            omega
          · simp only [Area.Contains, Area.right, Area.bottom]
            omega
        refine hglyphs.trans (ChangesWithin.mono (ih ?_) ?_)
        · exact hheight
        · simp only [Area.Contains, Area.right, Area.bottom]
          omega

theorem changesWithin_drawLine (area : Area) (line : Line) :
    ChangesWithin area canvas (canvas.drawLine area line) := by
  unfold drawLine
  cases hempty : area.isEmpty with
  | true => exact .refl area canvas
  | false =>
    obtain ⟨-, hheight⟩ := Area.isEmpty_eq_false.mp hempty
    exact (changesWithin_drawSpans Nat.one_pos).mono (Area.within_row hheight).contains

theorem changesWithin_drawTitle (area : Area) (title : Line) :
    ChangesWithin area canvas (canvas.drawTitle area title) := by
  unfold drawTitle
  cases hempty : area.isEmpty with
  | true => exact .refl area canvas
  | false =>
    obtain ⟨hwidth, hheight⟩ := Area.isEmpty_eq_false.mp hempty
    have hplace : Area.Within ⟨area.x + 1, area.y, min (area.width - 2) title.width, 1⟩ area := by
      constructor <;> simp only [Area.right, Area.bottom] <;> omega
    exact ((changesWithin_changeArea _ _).trans (changesWithin_drawLine _ _)).mono hplace.contains

theorem changesWithin_drawPanel (area : Area) (title : String) (style : Style) :
    ChangesWithin area canvas (canvas.drawPanel area title style) :=
  (changesWithin_drawBorder area style).trans (changesWithin_drawTitle area _)

/-! ### Paragraphs -/

theorem widthOf_cut {width used : Nat} {glyphs : List Glyph} (h : used ≤ width) :
    used + Glyph.widthOf (Line.cut width used glyphs) ≤ width := by
  induction glyphs generalizing used with
  | nil => exact h
  | cons glyph rest ih =>
    unfold Line.cut
    split
    · exact ih h
    · split
      · exact h
      · have hrest : used + glyph.width +
            Glyph.widthOf (Line.cut width (used + glyph.width) rest) ≤ width :=
          ih (by omega)
        rw [Glyph.widthOf_cons]
        omega

theorem changesWithin_drawRow {x y : Nat} {glyphs : List Glyph}
    (hleft : area.x ≤ x) (hright : x + Glyph.widthOf glyphs ≤ area.right)
    (hrow : area.y ≤ y ∧ y < area.bottom) :
    ChangesWithin area canvas (canvas.drawRow x y glyphs) := by
  induction glyphs generalizing x canvas with
  | nil => exact .refl area canvas
  | cons glyph rest ih =>
    rw [Glyph.widthOf_cons] at hright
    unfold drawRow
    split
    · exact ih hleft (by omega)
    · next hwidth =>
      have hcell : area.Contains x y := ⟨hleft, by omega, hrow.1, hrow.2⟩
      exact (changesWithin_change _ hcell).trans (ih (by omega) (by omega))

theorem changesWithin_drawRows {rows : List (List Glyph)}
    (h : ∀ row ∈ rows, Glyph.widthOf row ≤ area.width) :
    ChangesWithin area canvas (canvas.drawRows area rows) := by
  unfold drawRows
  cases area.isEmpty with
  | true => exact .refl area canvas
  | false =>
    apply ChangesWithin.foldl
    intro canvas row hrow
    have hindex := List.snd_lt_of_mem_zipIdx hrow
    have hwidth := h row.1 (List.mem_of_mem_take (List.fst_mem_of_mem_zipIdx hrow))
    rw [List.length_take] at hindex
    apply changesWithin_drawRow (Nat.le_refl _)
    · rw [Area.right]
      omega
    · rw [Area.bottom]
      omega

theorem changesWithin_drawParagraph (area : Area) (lines : List Line) :
    ChangesWithin area canvas (canvas.drawParagraph area lines) := by
  apply changesWithin_drawRows
  intro row hrow
  obtain ⟨line, -, rfl⟩ := List.mem_map.mp hrow
  have hcut : 0 + Glyph.widthOf (Line.cut area.width 0 line.glyphs) ≤ area.width :=
    widthOf_cut (Nat.zero_le _)
  omega

end Canvas

end IdentityConsole
