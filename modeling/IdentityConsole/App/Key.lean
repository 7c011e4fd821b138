import IdentityConsole.App.App
import IdentityConsole.App.Input

/-!
# Keys
-/

namespace IdentityConsole

inductive Key
  | char (c : Char)
  | enter
  | escape
  | tab
  | backTab
  | backspace
  | delete
  | insert
  | up
  | down
  | left
  | right
  | pageUp
  | pageDown
  | home
  | end
  | function (number : Nat)
deriving DecidableEq, Repr

namespace App

/-- How far a page moves the cursor. -/
def pageStep : Nat := 10

def nextFocus : LoginFocus → LoginFocus
  | .username => .password
  | .password => .button
  | .button => .username

def previousFocus : LoginFocus → LoginFocus
  | .username => .button
  | .password => .username
  | .button => .password

def setFocus (focus : LoginFocus) (app : App) : App :=
  { app with form := { app.form with focus } }

/-- Changes the text of the login form that has the focus. -/
def changeForm (username password : String → String) (app : App) : App :=
  match app.form.focus with
  | .username => { app with form := { app.form with username := username app.form.username } }
  | .password => { app with form := { app.form with password := password app.form.password } }
  | .button => app

/-- A key on the login view, and whether it quits. Why a login failed is shown in the form. -/
def pressOnLogin (key : Key) (reply : Http.Reply) (app : App) : Bool × App :=
  match key with
  | .escape => (true, { app with mode := .quitting })
  | .down | .tab => (false, app.setFocus (nextFocus app.form.focus))
  | .up | .backTab => (false, app.setFocus (previousFocus app.form.focus))
  | .enter =>
    match app.form.focus with
    | .username => (false, app.setFocus .password)
    | .password | .button => (false, (app.attemptLogin reply).2)
  | .backspace => (false, app.changeForm Input.erase Input.erase)
  | .char c =>
    (false,
      app.changeForm (Input.type Input.acceptsUsername c) (Input.type Input.acceptsPassword c))
  | _ => (false, app)

def pressOnHelp (key : Key) (app : App) : App :=
  match key with
  | .escape | .char '?' | .char 'q' => { app with mode := .normal }
  | _ => app

def pressOnQuestion (key : Key) (app : App) : Bool × App :=
  match key with
  | .char 'y' | .char 'Y' | .enter => (true, { app with mode := .quitting })
  | .char 'n' | .char 'N' | .escape => (false, { app with mode := .normal })
  | _ => (false, app)

def pressOnPath (key : Key) (app : App) : App :=
  match key with
  | .escape => app.cancelPathEntry
  | .enter => app.submitPath
  | .backspace => { app with pathInput := Input.erase app.pathInput }
  | .char c => { app with pathInput := Input.type Input.acceptsPath c app.pathInput }
  | _ => app

def pressOnEditor (key : Key) (app : App) : App :=
  match key with
  | .escape => app.cancelEdit
  | .enter => app.commitEdit
  | .backspace => { app with editBuffer := Input.erase app.editBuffer }
  | .char c => { app with editBuffer := Input.type Input.acceptsField c app.editBuffer }
  | _ => app

/-- Keys that mean something on lists or on records only. -/
def pressOnView (key : Key) (app : App) : App :=
  match app.view with
  | .list .. =>
    match key with
    | .enter => app.openSelected
    | .char 'd' | .delete => app.deleteSelected
    | _ => app
  | .detail .. =>
    match key with
    | .enter | .char 'e' => app.startEdit
    | .char 's' => app.save
    | _ => app
  | .login _ | .dashboard => app

def switchBy (change : Tab → Tab) (app : App) : App :=
  match app.tab? with
  | some tab => app.switchTab (change tab)
  | none => app

def pressOnScreen (key : Key) (app : App) : App :=
  match key with
  | .char 'q' => { app with mode := .confirmingQuit }
  | .char '?' => { app with mode := .help }
  | .char ':' => app.startPathEntry
  | .char 'L' => app.logout
  | .char '1' => app.switchTab .dashboard
  | .char '2' => app.switchTab (.collection .users)
  | .char '3' => app.switchTab (.collection .groups)
  | .char '4' => app.switchTab (.collection .policies)
  | .left => app.switchBy Tab.previous
  | .right => app.switchBy Tab.next
  | .up | .char 'k' => app.selectPrevious 1
  | .down | .char 'j' => app.selectNext 1
  | .pageUp => app.selectPrevious pageStep
  | .pageDown => app.selectNext pageStep
  | .escape | .backspace => app.goBack
  | key => app.pressOnView key

/-- What a key does, and whether it quits; `reply` answers the login it may start. -/
def press (key : Key) (reply : Http.Reply) (app : App) : Bool × App :=
  if app.view.isLogin then app.pressOnLogin key reply
  else
    match app.mode with
    | .help => (false, app.pressOnHelp key)
    | .confirmingQuit => app.pressOnQuestion key
    | .enteringPath => (false, app.pressOnPath key)
    | .editing => (false, app.pressOnEditor key)
    | .normal | .quitting => (false, app.pressOnScreen key)

end App

end IdentityConsole
