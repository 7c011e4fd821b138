import IdentityConsole.Proofs.Screen.Confined
import IdentityConsole.Screen.Screen

/-!
# Overlays stay on the screen

An overlay has a place in the middle of the screen, as large as the overlay is or as the screen
allows. Outside that place the screen looks as it did without the overlay.
-/

namespace IdentityConsole.Screen

variable {app : App} {canvas : Canvas}

/-- The width and the height of the overlay that is open. -/
def overlaySize? (app : App) : Option (UInt16 × UInt16) :=
  if app.view.isLogin then some (50, if app.form.error.isSome then 11 else 9)
  else
    match app.mode with
    | .help => some (52, 24)
    | .confirmingQuit => some (46, 6)
    | .enteringPath => some (50, 3)
    | .normal | .editing | .quitting => none

theorem changesWithin_drawOver (area : Area) (title : Option String) (lines : List Line) :
    Canvas.ChangesWithin area canvas (drawOver area title lines canvas) := by
  have hcleared : Canvas.ChangesWithin area canvas (canvas.clear area) :=
    Canvas.changesWithin_changeArea area _
  have hlines (canvas : Canvas) :
      Canvas.ChangesWithin area canvas (canvas.drawParagraph area.framed lines) :=
    (Canvas.changesWithin_drawParagraph area.framed lines).mono (Area.within_framed area).contains
  cases title with
  | none => exact hcleared.trans ((Canvas.changesWithin_drawBorder area _).trans (hlines _))
  | some title =>
    exact hcleared.trans ((Canvas.changesWithin_drawPanel area title _).trans (hlines _))

theorem drawOverlay_of_none (h : overlaySize? app = none) : drawOverlay app canvas = canvas := by
  unfold overlaySize? at h
  unfold drawOverlay
  split at h
  · cases h
  · next hview =>
    rw [if_neg hview]
    cases hmode : app.mode with
    | help | confirmingQuit | enteringPath =>
      rw [hmode] at h
      cases h
    | normal | editing | quitting => rfl

theorem drawOverlay_of_some {width height : UInt16} (h : overlaySize? app = some (width, height)) :
    ∃ title lines, drawOverlay app canvas =
      drawOver (.centered width.toNat height.toNat canvas.area) title lines canvas := by
  unfold overlaySize? at h
  unfold drawOverlay
  split at h
  · next hview =>
    rw [if_pos hview]
    cases h
    unfold drawLogin
    cases app.form.error with
    | none => exact ⟨none, _, rfl⟩
    | some error => exact ⟨none, _, rfl⟩
  · next hview =>
    rw [if_neg hview]
    cases hmode : app.mode with
    | help =>
      rw [hmode] at h
      cases h
      exact ⟨none, _, rfl⟩
    | confirmingQuit =>
      rw [hmode] at h
      cases h
      exact ⟨none, _, rfl⟩
    | enteringPath =>
      rw [hmode] at h
      cases h
      exact ⟨some " Go to ", _, rfl⟩
    | normal | editing | quitting =>
      rw [hmode] at h
      cases h

/-- **The place of an overlay is found without overflow, lies in the middle of the screen, and
nothing is drawn outside it.** -/
theorem drawOverlay_centered (width height : UInt16) (area : WordArea)
    (hright : area.x.toNat + area.width.toNat ≤ 65535)
    (hbottom : area.y.toNat + area.height.toNat ≤ 65535) :
    ∃ place, area.centered? width height = some place ∧
      place.toArea = .centered width.toNat height.toNat area.toArea ∧
      place.toArea.IsMiddle width.toNat height.toNat area.toArea ∧
      ∀ (app : App) (canvas : Canvas), canvas.area = area.toArea →
        (overlaySize? app = none → drawOverlay app canvas = canvas) ∧
        (overlaySize? app = some (width, height) →
          Canvas.ChangesWithin place.toArea canvas (drawOverlay app canvas)) := by
  obtain ⟨place, hplace, hcentered⟩ := WordArea.centered?_eq_some width height hright hbottom
  refine ⟨place, hplace, hcentered, ?_, ?_⟩
  · rw [hcentered]
    exact Area.isMiddle_centered ..
  · intro app canvas harea
    refine ⟨drawOverlay_of_none, fun hsize => ?_⟩
    obtain ⟨title, lines, hdraw⟩ := drawOverlay_of_some hsize
    rw [hdraw, harea, hcentered]
    exact changesWithin_drawOver ..

/-- In an area that is smaller than the overlay and ends at the last cell, all of it is the place.
-/
theorem drawOverlay_centered_corner :
    ∃ area : WordArea, area = ⟨65505, 65530, 30, 5⟩ ∧ area.centered? 46 10 = some area ∧
      area.toArea.IsMiddle 46 10 area.toArea := by
  obtain ⟨place, hplace, -, hmiddle, -⟩ :=
    drawOverlay_centered 46 10 ⟨65505, 65530, 30, 5⟩ (by decide) (by decide)
  have hwhole : WordArea.centered? 46 10 ⟨65505, 65530, 30, 5⟩ = some ⟨65505, 65530, 30, 5⟩ := by
    decide
  obtain rfl : _ = place := Option.some.inj (hwhole.symm.trans hplace)
  exact ⟨_, rfl, hwhole, hmiddle⟩

end IdentityConsole.Screen
