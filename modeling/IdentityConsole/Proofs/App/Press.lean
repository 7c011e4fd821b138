import IdentityConsole.App.Key
import IdentityConsole.Proofs.Console.Run

/-!
# What a key comes to

On the login view a key fills in the form, submits it, or quits. Elsewhere it types, moves the
cursor, goes to another view, or asks something of the server, as the mode has it. This file lists
the cases once, with all that is known of the app afterwards; what runs of the app keep is derived
from the list and never opens a handler of keys.
-/

namespace IdentityConsole

theorem View.eq_list_of_listKind? {view : View} {kind : Kind} (h : view.listKind? = some kind) :
    ∃ rows, view = .list kind rows := by
  cases view with
  | list shown rows =>
    cases h
    exact ⟨rows, rfl⟩
  | login returnTo | dashboard | detail shown id record notice => cases h

namespace Console

/-- The console with another log. -/
def relogged (log : List Event) (console : Console) : Console :=
  { console with outside := { console.outside with log } }

theorem delete?_eq_some {console : Console} {kind : Kind} (h : console.view.listKind? = some kind)
    (id : String) : console.delete? id = some (console.begin (.delete kind id)) := by
  simp only [delete?, h]

end Console

/-- A key is a command in these modes. After the question whether to quit was answered, nothing
stands above the view any more. -/
def Mode.takesCommands : Mode → Bool
  | .normal | .quitting => true
  | .enteringPath | .editing | .help | .confirmingQuit => false

theorem Mode.ne_editing_of_takesCommands {mode : Mode} (h : mode.takesCommands = true) :
    mode ≠ .editing := by
  rintro rfl
  cases h

namespace App

variable {app : App}

/-! ### Keys that ask something of the server -/

/-- The key deletes the record in the row under the cursor. -/
structure Deletes (app : App) (key : Key) (kind : Kind) (id : String) : Prop where
  key : key = .char 'd' ∨ key = .delete
  mode : app.mode.takesCommands = true
  kind : app.view.listKind? = some kind
  row : app.view.rowId? app.selection = some id

/-- The key saves the record shown. -/
structure Saves (app : App) (key : Key) (kind : Kind) (id : String) (record : kind.Record) :
    Prop where
  key : key = .char 's'
  mode : app.mode.takesCommands = true
  view : ∃ notice, app.view = .detail kind id (some record) notice

/-- The key submits the login form. -/
structure Submits (app : App) (key : Key) : Prop where
  key : key = .enter
  view : app.view.isLogin = true
  focus : app.form.focus = .password ∨ app.form.focus = .button
  username : app.form.username ≠ ""
  password : app.form.password ≠ ""

theorem deleteSelected_eq {kind : Kind} {id : String} (hkind : app.view.listKind? = some kind)
    (hrow : app.view.rowId? app.selection = some id) :
    app.deleteSelected =
      { app with
        console := app.console.begin (.delete kind id)
        status := some (deletingStatus id) } := by
  unfold deleteSelected
  rw [hrow]
  dsimp only
  rw [Console.delete?_eq_some hkind]

theorem save_eq {kind : Kind} {id : String} {record : kind.Record} {notice : Option String}
    (hview : app.view = .detail kind id (some record) notice) :
    app.save =
      { app with
        console :=
          { app.console.begin (.update kind id record) with
            view := .detail kind id (some record) none }
        status := some savingStatus } := by
  have hsave : app.console.save? = some
      { app.console.begin (.update kind id record) with
        view := .detail kind id (some record) none } := by
    have hshown : app.console.view = .detail kind id (some record) notice := hview
    simp [Console.save?, hshown, View.clearNotice]
  unfold save
  rw [hsave]

theorem press_of_takesCommands (hview : app.view.isLogin = false)
    (hmode : app.mode.takesCommands = true) (key : Key) (reply : Http.Reply) :
    app.press key reply = (false, app.pressOnScreen key) := by
  unfold App.press
  rw [if_neg (Bool.eq_false_iff.mp hview)]
  split
  case h_5 | h_6 => rfl
  all_goals
    next hmode' =>
      rw [hmode'] at hmode
      cases hmode

theorem Deletes.press {key : Key} {kind : Kind} {id : String} (h : app.Deletes key kind id)
    (reply : Http.Reply) :
    (app.press key reply).2 =
      { app with
        console := app.console.begin (.delete kind id)
        status := some (deletingStatus id) } := by
  obtain ⟨hkey, hmode, hkind, hrow⟩ := h
  obtain ⟨rows, hview⟩ := View.eq_list_of_listKind? hkind
  have hlogin : app.view.isLogin = false := by rw [hview]; rfl
  have hpress : app.pressOnScreen key = app.deleteSelected := by
    have hscreen : app.pressOnScreen key = app.pressOnView key := by
      rcases hkey with rfl | rfl <;> rfl
    rw [hscreen]
    unfold pressOnView
    rw [hview]
    rcases hkey with rfl | rfl <;> rfl
  rw [press_of_takesCommands hlogin hmode, hpress, deleteSelected_eq hkind hrow]

theorem Saves.press {key : Key} {kind : Kind} {id : String} {record : kind.Record}
    (h : app.Saves key kind id record) (reply : Http.Reply) :
    (app.press key reply).2 =
      { app with
        console :=
          { app.console.begin (.update kind id record) with
            view := .detail kind id (some record) none }
        status := some savingStatus } := by
  obtain ⟨rfl, hmode, notice, hview⟩ := h
  have hlogin : app.view.isLogin = false := by rw [hview]; rfl
  have hpress : app.pressOnScreen (.char 's') = app.save := by
    change app.pressOnView (.char 's') = app.save
    unfold pressOnView
    rw [hview]
    rfl
  rw [press_of_takesCommands hlogin hmode, hpress, save_eq hview]

theorem Submits.press {key : Key} (h : app.Submits key) (reply : Http.Reply) :
    (app.press key reply).2 = (app.attemptLogin reply).2 := by
  obtain ⟨rfl, hview, hfocus, -, -⟩ := h
  rcases hfocus with hfocus | hfocus <;> simp [App.press, pressOnLogin, hview, hfocus]

/-! ### All keys -/

/-- What a key comes to, and whether it quits. -/
inductive Pressed (app : App) (key : Key) (reply : Http.Reply) : Bool × App → Prop
  | form {quits : Bool} {form : LoginForm} {mode : Mode} (hview : app.view.isLogin = true)
      (hmode : mode = if quits then .quitting else app.mode) :
      Pressed app key reply (quits, { app with form, mode })
  | submitted (hsubmits : app.Submits key) :
      Pressed app key reply (false, (app.attemptLogin reply).2)
  | overlay {quits : Bool} {mode : Mode} {pathInput editBuffer : String}
      (hview : app.view.isLogin = false) (hediting : mode = .editing → app.mode = .editing)
      (hquitting : mode = .quitting → quits = true ∨ app.mode = .quitting) :
      Pressed app key reply (quits, { app with mode, pathInput, editBuffer })
  | cursor {selection : Nat} (hview : app.view.isLogin = false)
      (hmode : app.mode.takesCommands = true)
      (hselection : selection ≤ app.selection ∨ selection < app.selectableCount) :
      Pressed app key reply (false, { app with selection })
  | edit {field : Field} {value : String} (hmode : app.mode.takesCommands = true)
      (hfield : app.selectedField? = some field) (hvalue : app.view.field? field = some value) :
      Pressed app key reply (false, { app with editBuffer := value, mode := .editing })
  | committed (hmode : app.mode = .editing) : Pressed app key reply (false, app.commitEdit)
  | navigated {pathInput : String} (route : Route) (hview : app.view.isLogin = false) :
      Pressed app key reply (false, { app with pathInput }.navigateTo route)
  | signedOut : Pressed app key reply (false, app.logout)
  | deleted {kind : Kind} {id : String} (hdeletes : app.Deletes key kind id) :
      Pressed app key reply
        (false,
          { app with
            console := app.console.begin (.delete kind id)
            status := some (deletingStatus id) })
  | saved {kind : Kind} {id : String} {record : kind.Record}
      (hsaves : app.Saves key kind id record) :
      Pressed app key reply
        (false,
          { app with
            console :=
              { app.console.begin (.update kind id record) with
                view := .detail kind id (some record) none }
            status := some savingStatus })

section Handlers

variable {reply : Http.Reply}

theorem pressed_idle {key : Key} (hview : app.view.isLogin = false) :
    app.Pressed key reply (false, app) :=
  .overlay hview id .inr

theorem pressed_onLogin (hview : app.view.isLogin = true) (key : Key) :
    app.Pressed key reply (app.pressOnLogin key reply) := by
  have hform : ∀ form : LoginForm, app.Pressed key reply (false, { app with form }) :=
    fun _ => .form hview rfl
  have htyped : ∀ username password : String → String,
      app.Pressed key reply (false, app.changeForm username password) := by
    intro username password
    unfold changeForm
    split
    · exact hform _
    · exact hform _
    · exact hform app.form
  have hsubmit : key = .enter → (app.form.focus = .password ∨ app.form.focus = .button) →
      app.Pressed key reply (false, (app.attemptLogin reply).2) := by
    intro hkey hfocus
    by_cases hmissing : app.form.username = "" ∨ app.form.password = ""
    · unfold attemptLogin
      rw [if_pos hmissing]
      exact hform _
    · obtain ⟨husername, hpassword⟩ := not_or.mp hmissing
      exact .submitted ⟨hkey, hview, hfocus, husername, hpassword⟩
  unfold pressOnLogin
  split
  · exact .form hview rfl
  iterate 4 exact hform _
  · split
    · exact hform _
    · next hfocus => exact hsubmit rfl (.inl hfocus)
    · next hfocus => exact hsubmit rfl (.inr hfocus)
  · exact htyped _ _
  · exact htyped _ _
  · exact hform app.form

section Overlays

variable (hview : app.view.isLogin = false)

include hview

/-- What a mode other than the editor opens or closes. -/
theorem pressed_overlay {key : Key} {mode : Mode} {pathInput editBuffer : String}
    (hediting : mode ≠ .editing) (hquitting : mode ≠ .quitting) :
    app.Pressed key reply (false, { app with mode, pathInput, editBuffer }) :=
  .overlay hview (fun h => absurd h hediting) (fun h => absurd h hquitting)

theorem pressed_onHelp (key : Key) : app.Pressed key reply (false, app.pressOnHelp key) := by
  unfold pressOnHelp
  split
  iterate 3 exact pressed_overlay hview (by decide) (by decide)
  exact pressed_idle hview

theorem pressed_onQuestion (key : Key) : app.Pressed key reply (app.pressOnQuestion key) := by
  unfold pressOnQuestion
  split
  iterate 3 exact .overlay hview (by rintro ⟨⟩) fun _ => .inl rfl
  iterate 3 exact pressed_overlay hview (by decide) (by decide)
  exact pressed_idle hview

theorem pressed_onPath (key : Key) : app.Pressed key reply (false, app.pressOnPath key) := by
  unfold pressOnPath
  split
  · exact pressed_overlay hview (by decide) (by decide)
  · exact .navigated _ hview
  · exact .overlay hview id .inr
  · exact .overlay hview id .inr
  · exact pressed_idle hview

theorem pressed_onEditor (hmode : app.mode = .editing) (key : Key) :
    app.Pressed key reply (false, app.pressOnEditor key) := by
  unfold pressOnEditor
  split
  · exact pressed_overlay hview (by decide) (by decide)
  · exact .committed hmode
  · exact .overlay hview id .inr
  · exact .overlay hview id .inr
  · exact pressed_idle hview

theorem pressed_openSelected (key : Key) :
    app.Pressed key reply (false, app.openSelected) := by
  unfold openSelected
  split
  · exact .navigated _ hview
  · exact pressed_idle hview

theorem pressed_goBack (key : Key) : app.Pressed key reply (false, app.goBack) := by
  unfold goBack
  split
  · exact .navigated _ hview
  · exact .navigated _ hview
  · exact pressed_idle hview
  · exact pressed_idle hview

theorem pressed_switchBy (change : Tab → Tab) (key : Key) :
    app.Pressed key reply (false, app.switchBy change) := by
  unfold switchBy
  split
  · exact .navigated _ hview
  · exact pressed_idle hview

variable (hmode : app.mode.takesCommands = true)

include hmode

theorem pressed_selectNext (step : Nat) (key : Key) :
    app.Pressed key reply (false, app.selectNext step) := by
  unfold selectNext
  dsimp only
  split
  · exact .cursor hview hmode (.inr (by omega))
  · exact pressed_idle hview

theorem pressed_selectPrevious (step : Nat) (key : Key) :
    app.Pressed key reply (false, app.selectPrevious step) :=
  .cursor hview hmode (.inl (Nat.sub_le _ _))

theorem pressed_startEdit (key : Key) : app.Pressed key reply (false, app.startEdit) := by
  unfold startEdit
  split
  · next value h =>
    obtain ⟨field, hfield, hvalue⟩ := Option.bind_eq_some_iff.mp h
    exact .edit hmode hfield hvalue
  · exact pressed_idle hview

theorem pressed_deleteSelected {key : Key} (hkey : key = .char 'd' ∨ key = .delete) :
    app.Pressed key reply (false, app.deleteSelected) := by
  cases hrow : app.view.rowId? app.selection with
  | none =>
    unfold deleteSelected
    rw [hrow]
    exact pressed_idle hview
  | some id =>
    cases hkind : app.console.view.listKind? with
    | none =>
      unfold deleteSelected Console.delete?
      rw [hrow, hkind]
      exact pressed_idle hview
    | some kind =>
      rw [deleteSelected_eq hkind hrow]
      exact .deleted ⟨hkey, hmode, hkind, hrow⟩

theorem pressed_save {key : Key} (hkey : key = .char 's') :
    app.Pressed key reply (false, app.save) := by
  cases hsave : app.console.save? with
  | none =>
    unfold save
    rw [hsave]
    exact pressed_idle hview
  | some later =>
    obtain ⟨kind, id, record, notice, hshown, -⟩ := Console.save?_eq hsave
    rw [save_eq hshown]
    exact .saved ⟨hkey, hmode, notice, hshown⟩

theorem pressed_onView (key : Key) : app.Pressed key reply (false, app.pressOnView key) := by
  unfold pressOnView
  split
  · split
    · exact pressed_openSelected hview _
    · exact pressed_deleteSelected hview hmode (.inl rfl)
    · exact pressed_deleteSelected hview hmode (.inr rfl)
    · exact pressed_idle hview
  · split
    · exact pressed_startEdit hview hmode _
    · exact pressed_startEdit hview hmode _
    · exact pressed_save hview hmode rfl
    · exact pressed_idle hview
  · exact pressed_idle hview
  · exact pressed_idle hview

theorem pressed_onScreen (key : Key) : app.Pressed key reply (false, app.pressOnScreen key) := by
  unfold pressOnScreen
  split
  iterate 3 exact pressed_overlay hview (by decide) (by decide)
  · exact .signedOut
  iterate 4 exact .navigated _ hview
  iterate 2 exact pressed_switchBy hview _ _
  iterate 2 exact pressed_selectPrevious hview hmode 1 _
  iterate 2 exact pressed_selectNext hview hmode 1 _
  · exact pressed_selectPrevious hview hmode pageStep _
  · exact pressed_selectNext hview hmode pageStep _
  iterate 2 exact pressed_goBack hview _
  · exact pressed_onView hview hmode _

end Overlays

end Handlers

theorem pressed (app : App) (key : Key) (reply : Http.Reply) :
    app.Pressed key reply (app.press key reply) := by
  unfold press
  split
  · next hview => exact pressed_onLogin hview key
  · next hview =>
    have hview : app.view.isLogin = false := Bool.eq_false_iff.mpr hview
    split
    · exact pressed_onHelp hview key
    · exact pressed_onQuestion hview key
    · exact pressed_onPath hview key
    · next hmode => exact pressed_onEditor hview hmode key
    · next hmode => exact pressed_onScreen hview (by rw [hmode]; rfl) key
    · next hmode => exact pressed_onScreen hview (by rw [hmode]; rfl) key

/-! ### Logins that are submitted -/

theorem rememberUsername_eq (username : String) (app : App) :
    ∃ config configFile log, app.rememberUsername username =
      { app with config, configFile, console := app.console.relogged log } := by
  unfold rememberUsername
  dsimp only
  split
  · exact ⟨_, _, app.console.outside.log, rfl⟩
  · exact ⟨_, _, _, rfl⟩

/-- A login that fails is noted in the form, which stays as it is. One that succeeds clears the
password and begins anew. -/
theorem attemptLogin_cases (husername : app.form.username ≠ "") (hpassword : app.form.password ≠ "")
    (reply : Http.Reply) :
    (∃ error log, (app.console.login app.form.username app.form.password reply).1 = .error error ∧
      (app.attemptLogin reply).2 =
        { app with
          console :=
            (app.console.login app.form.username app.form.password reply).2.relogged log
          form := { app.form with error := some error.advice } }) ∨
    ∃ user log config configFile status,
      (app.console.login app.form.username app.form.password reply).1 = .ok user ∧
      (app.attemptLogin reply).2 =
        { app with
          console :=
            (app.console.login app.form.username app.form.password reply).2.relogged log
          config, configFile
          form := { app.form with password := "", error := none }
          selection := 0
          mode := .normal
          status } := by
  have hcomplete : ¬ (app.form.username = "" ∨ app.form.password = "") :=
    not_or.mpr ⟨husername, hpassword⟩
  unfold attemptLogin
  dsimp only
  rw [if_neg hcomplete]
  generalize app.console.login app.form.username app.form.password reply = result
  obtain ⟨error | user, console⟩ := result
  · exact .inl ⟨error, _, rfl, rfl⟩
  · right
    dsimp only
    obtain ⟨config, configFile, log, hremember⟩ := rememberUsername_eq app.form.username
      { app with console, form := { app.form with error := none } }
    rw [hremember]
    exact ⟨user, log, config, configFile, _, rfl, rfl⟩

end App

end IdentityConsole
