import IdentityConsole.Proofs.Session.Storing
import IdentityConsole.Screen.Screen

/-!
# The password on the screen

Of the password the screen shows how many characters it has, and of twenty or more not even that.
Only the login view shows so much; all other views draw the same whatever the password.
-/

namespace IdentityConsole

namespace App

def withPassword (password : String) (app : App) : App :=
  { app with form := { app.form with password } }

/-- Apps that differ in the password alone, if at all. -/
def EqualButPassword (app other : App) : Prop :=
  app.withPassword "" = other.withPassword ""

theorem EqualButPassword.eq {app other : App} (h : app.EqualButPassword other) :
    other = app.withPassword other.form.password :=
  calc other = (other.withPassword "").withPassword other.form.password := rfl
    _ = (app.withPassword "").withPassword other.form.password :=
      congrArg (withPassword other.form.password) (Eq.symm h)
    _ = app.withPassword other.form.password := rfl

end App

namespace Screen

variable {app : App} {password other : String}

/-! ### Masks -/

/-- Two passwords have the same mask when they are of the same length, or when both are at least as
long as a mask can be. -/
theorem masked_eq_masked_iff : masked password = masked other ↔
    password.length = other.length ∨ 20 ≤ password.length ∧ 20 ≤ other.length := by
  have hlength : masked password = masked other ↔
      min password.length maskedLength = min other.length maskedLength := by
    rw [masked, masked, String.ofList_inj]
    constructor
    · intro h
      simpa only [List.length_replicate] using congrArg List.length h
    · exact congrArg (List.replicate · '*')
  rw [hlength, maskedLength]
  omega

/-! ### The parts of the screen -/

theorem drawTitleBar_withPassword (area : Area) (canvas : Canvas) :
    drawTitleBar area (app.withPassword password) canvas = drawTitleBar area app canvas :=
  rfl

theorem drawTabs_withPassword (area : Area) (canvas : Canvas) :
    drawTabs area (app.withPassword password) canvas = drawTabs area app canvas :=
  rfl

theorem drawView_withPassword (area : Area) (canvas : Canvas) :
    drawView area (app.withPassword password) canvas = drawView area app canvas :=
  rfl

theorem drawStatus_withPassword (area : Area) (canvas : Canvas) :
    drawStatus area (app.withPassword password) canvas = drawStatus area app canvas :=
  rfl

/-- The overlay is the only part that looks at the password, and it looks at its mask. -/
theorem drawOverlay_withPassword (h : app.view.isLogin = true →
      masked app.form.password = masked password) (canvas : Canvas) :
    drawOverlay (app.withPassword password) canvas = drawOverlay app canvas := by
  change (if app.view.isLogin then drawLogin (app.withPassword password).form canvas else _) = _
  unfold drawOverlay
  split
  · next hlogin =>
    change drawOver _ none
      (loginLines app.form.username (masked password) app.form.focus app.form.error) canvas = _
    rw [← h hlogin]
    rfl
  · rfl

theorem draw_withPassword (h : app.view.isLogin = true →
      masked app.form.password = masked password) (width height : Nat) :
    draw (app.withPassword password) width height = draw app width height := by
  unfold draw
  simp only [drawTitleBar_withPassword, drawTabs_withPassword, drawView_withPassword,
    drawStatus_withPassword, drawOverlay_withPassword h]

/-- **The screen does not reveal the password.** Apps that differ in the password alone draw the
same on every terminal if their passwords are of the same length, or both have twenty characters or
more. -/
theorem draw_equalButPassword {app other : App} (h : app.EqualButPassword other)
    (hlength : app.form.password.length = other.form.password.length ∨
      20 ≤ app.form.password.length ∧ 20 ≤ other.form.password.length) (width height : Nat) :
    draw app width height = draw other width height := by
  have hmask : masked app.form.password = masked other.form.password :=
    masked_eq_masked_iff.mpr hlength
  rw [h.eq, draw_withPassword fun _ => hmask]

theorem draw_equalButPassword_long :
    ∃ app : App, app.view = .login none ∧ app.form.username = "alice" ∧
      draw (app.withPassword "correct horse battery") 80 24 =
        draw (app.withPassword "correct horse battery staple") 80 24 := by
  have hstart (config : Config) (file : ConfigFile) (outside : Outside) :
      (App.start "http://identity" config file outside).view = .login none :=
    rfl
  have hequal (app : App) : (app.withPassword "correct horse battery").EqualButPassword
      (app.withPassword "correct horse battery staple") :=
    rfl
  have hlong : 20 ≤ "correct horse battery".length ∧
      20 ≤ "correct horse battery staple".length := by
    decide
  exact ⟨.start "http://identity" ⟨some "alice", none⟩ (.inHome "/home/alice" .absent)
    (.aliceStored .never), hstart .., rfl, draw_equalButPassword (hequal _) (.inr hlong) 80 24⟩

end Screen

end IdentityConsole
