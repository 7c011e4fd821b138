import IdentityConsole.App.Tab
import IdentityConsole.Config
import IdentityConsole.Console.Console

/-!
# The app

The app adds to the console what is needed to work it from a terminal: a login form, a cursor in the
rows of a list or in the fields of a record, an editor, and texts that report on progress.
-/

namespace IdentityConsole

inductive Mode
  | normal
  | enteringPath
  | editing
  | help
  | confirmingQuit
  | quitting
deriving DecidableEq, Repr

inductive LoginFocus
  | username
  | password
  | button
deriving DecidableEq, Repr

structure LoginForm where
  username : String
  password : String
  focus : LoginFocus
  error : Option String
deriving DecidableEq, Repr

namespace LoginForm

/-- The form as it is when the login view opens. -/
def opened (form : LoginForm) : LoginForm :=
  { form with focus := if form.username = "" then .username else .password }

end LoginForm

/-- `selection` is the cursor, and `seenRedirects` the redirects to login the app knows of. -/
structure App where
  console : Console
  config : Config
  configFile : ConfigFile
  mode : Mode
  form : LoginForm
  selection : Nat
  editBuffer : String
  pathInput : String
  status : Option String
  seenRedirects : Nat

namespace App

def start (address : String) (config : Config) (configFile : ConfigFile) (outside : Outside) :
    App where
  console := .start address outside
  config
  configFile
  mode := .normal
  form := ⟨config.lastUsername.getD "", "", .username, none⟩
  selection := 0
  editBuffer := ""
  pathInput := ""
  status := none
  seenRedirects := 0

def view (app : App) : View :=
  app.console.view

def tab? (app : App) : Option Tab :=
  Tab.ofRoute? app.console.route

def note (event : Event) (app : App) : App :=
  { app with console := app.console.note event }

/-! ## Navigation -/

def settle (app : App) : App :=
  { app with
    selection := 0
    mode := .normal
    form := if app.view.isLogin then app.form.opened else app.form }

def navigateTo (route : Route) (app : App) : App :=
  settle { app with console := app.console.navigateTo route }

def navigate (path : String) (app : App) : App :=
  app.navigateTo (.parse path)

def switchTab (tab : Tab) (app : App) : App :=
  app.navigateTo tab.route

/-- Opens the record in the row under the cursor. -/
def openSelected (app : App) : App :=
  match app.view.listKind?, app.view.rowId? app.selection with
  | some kind, some id => app.navigateTo (.detail kind id)
  | _, _ => app

/-- From a record to its list, and from a list to the dashboard. -/
def goBack (app : App) : App :=
  match app.console.route with
  | .detail kind _ => app.navigateTo (.list kind)
  | .list _ => app.navigateTo .dashboard
  | .login | .dashboard => app

def startPathEntry (app : App) : App :=
  { app with pathInput := app.console.route.path, mode := .enteringPath }

def cancelPathEntry (app : App) : App :=
  { app with pathInput := "", mode := .normal }

def submitPath (app : App) : App :=
  navigate (Text.trim app.pathInput) { app with pathInput := "" }

/-! ## The cursor -/

/-- How many rows or fields the cursor can stand on. -/
def selectableCount (app : App) : Nat :=
  match app.view with
  | .detail .. => app.view.fields.length
  | _ => app.view.rowCount

def selectNext (step : Nat) (app : App) : App :=
  let count := app.selectableCount
  if 0 < count then { app with selection := min (app.selection + step) (count - 1) } else app

def selectPrevious (step : Nat) (app : App) : App :=
  { app with selection := app.selection - step }

def selectedField? (app : App) : Option Field :=
  app.view.fields[app.selection]?

/-! ## Signing in and out -/

/-- Keeps the name of who signed in for the next time. -/
def rememberUsername (username : String) (app : App) : App :=
  let config := { app.config with lastUsername := some username }
  match app.configFile.save config with
  | .ok configFile => { app with config, configFile }
  | .error error => { app with config }.note (.configNotSaved error)

def attemptLogin (reply : Http.Reply) (app : App) : Except LoginError Unit × App :=
  let form := app.form
  if form.username = "" ∨ form.password = "" then
    let error := LoginError.credentialsRequired
    (.error error, { app with form := { form with error := some error.report.message } })
  else
    match app.console.login form.username form.password reply with
    | (.ok user, console) =>
      let app := { app with console, form := { form with error := none } }
      let app := app.rememberUsername form.username
      (.ok (), { app with
        form := { app.form with password := "" }
        selection := 0
        mode := .normal
        status := some ("Signed in as " ++ user.displayName) })
    | (.error error, console) =>
      (.error error,
        { app with console, form := { form with error := some error.advice } }.note
          (.loginFailed error))

def logout (app : App) : App :=
  settle { app with
    console := app.console.logout
    form := { app.form with password := "", error := none }
    status := some "Signed out" }

/-! ## Records -/

def deletingStatus (id : String) : String :=
  "Deleting " ++ id ++ "..."

def savingStatus : String := "Saving..."

def deleteSelected (app : App) : App :=
  match app.view.rowId? app.selection with
  | none => app
  | some id =>
    match app.console.delete? id with
    | some console => { app with console, status := some (deletingStatus id) }
    | none => app

def startEdit (app : App) : App :=
  match app.selectedField?.bind fun field => app.view.field? field with
  | some value => { app with editBuffer := value, mode := .editing }
  | none => app

/-- Writes what was typed into the field under the cursor. -/
def commitEdit (app : App) : App :=
  match app.selectedField? with
  | none => { app with mode := .normal }
  | some field =>
    let console := (app.console.setField? field app.editBuffer).getD app.console
    { app with console, editBuffer := "", mode := .normal }

def cancelEdit (app : App) : App :=
  { app with editBuffer := "", mode := .normal }

def save (app : App) : App :=
  match app.console.save? with
  | some console => { app with console, status := some savingStatus }
  | none => app

/-! ## Results -/

def isDeleting (status : String) : Bool :=
  "Deleting".toList.isPrefixOf status.toList

def sessionExpired : String := "Your session has expired. Please sign in again."

/-- After a redirect to login that the server forced. -/
def showExpired (app : App) : App :=
  settle { app.note .sessionRejected with
    seenRedirects := app.console.loginRedirects
    form := { app.form with password := "", error := some sessionExpired }
    status := none }

/-- Keeps the cursor in range and the status up to date. -/
def refresh (app : App) : App :=
  let count := app.selectableCount
  let selection := if count ≤ app.selection then count - 1 else app.selection
  let status :=
    match app.view.notice? with
    | some notice => some notice
    | none => app.status.filter (!isDeleting ·)
  { app with selection, status }

/-- Applies the results that have arrived. -/
def tick (app : App) : App :=
  let (applied, console) := app.console.poll
  let app := { app with console }
  if applied = 0 then app
  else if console.loginRedirects ≠ app.seenRedirects then app.showExpired
  else app.refresh

end App

end IdentityConsole
