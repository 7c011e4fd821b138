import IdentityConsole.Console.Scope
import IdentityConsole.Console.Task
import IdentityConsole.Session.Session

/-!
# The console

The console holds the session, the route and the view. A route that needs a session is admitted
only with one. Each entered view has a generation of its own; the requests a view has in flight end
with it, and results that were still waiting then are dropped when their turn comes.
-/

namespace IdentityConsole

/-- A request in flight. -/
structure Pending where
  generation : Nat
  task : Task
  sent : Sent

/-- A result that waits for its turn. -/
structure Delivery where
  generation : Nat
  outcome : Outcome

structure Console where
  client : Client
  session : Session
  route : Route
  view : View
  scope : Scope
  inFlight : List Pending
  results : List Delivery
  loginRedirects : Nat
  outside : Outside

namespace Console

/-- A console over stored entries takes over the session it finds there, and waits at the login
view. -/
def start (address : String) (outside : Outside) : Console :=
  let (session, outside) := Session.initial.restore outside
  { client := .ofAddress address
    session
    route := .login
    view := .login none
    scope := .opened 0
    inFlight := []
    results := []
    loginRedirects := 0
    outside }

def note (event : Event) (console : Console) : Console :=
  { console with outside := console.outside.note event }

/-- Starts a task of the current view. One that cannot be sent has failed already. -/
def begin (task : Task) (console : Console) : Console :=
  match console.client.send task.request console.outside with
  | (.ok sent, outside) =>
    { console with
      outside
      inFlight := console.inFlight ++ [⟨console.scope.generation, task, sent⟩] }
  | (.error error, outside) =>
    { console with
      outside
      results := console.results ++ [⟨console.scope.generation, task.failed error⟩] }

def beginLoad (console : Console) : Console :=
  match Task.ofRoute? console.route with
  | some task => console.begin task
  | none => console

/-- Leaves the current view, with everything it had in flight, for that of a route. -/
def enter (route : Route) (returnTo : Option Route) (console : Console) : Console :=
  beginLoad { console with
    route
    view := .ofRoute route returnTo
    scope := console.scope.next
    inFlight := [] }

def navigateTo (route : Route) (console : Console) : Console :=
  match route.admission console.session.isSignedIn with
  | .show route => console.enter route none
  | .loginFirst returnTo => (console.note (.sentToLogin returnTo)).enter .login (some returnTo)

def navigate (path : String) (console : Console) : Console :=
  console.navigateTo (.parse path)

def signOut (console : Console) : Console :=
  let (session, outside) := console.session.logout console.outside
  { console with session, outside }

/-- Ends the session because the server no longer accepts its token. The storage is not consulted
again, so that a token which could not be removed from it is not used either. -/
def forceLogin (console : Console) : Console :=
  let console := console.note (.loginForced console.route)
  let console := { console with loginRedirects := console.loginRedirects + 1 }
  console.signOut.enter .login none

/-- Signs in and goes where one wanted to go. -/
def login (username password : String) (reply : Http.Reply) (console : Console) :
    Except LoginError Identity × Console :=
  let (result, session, outside) :=
    console.session.login console.client username password reply console.outside
  let console := { console with session, outside }
  match result with
  | .ok user => (.ok user, console.navigateTo (console.view.returnTo?.getD .dashboard))
  | .error error => (.error error, console)

def logout (console : Console) : Console :=
  console.signOut.navigateTo .login

/-- Deletes a record of the list shown. Its row stays until the server has confirmed. -/
def delete? (id : String) (console : Console) : Option Console :=
  match console.view.listKind? with
  | some kind => some (console.begin (.delete kind id))
  | none => none

def setField? (field : Field) (value : String) (console : Console) : Option Console :=
  (console.view.setField? field value).map fun view => { console with view }

/-- Sends the record shown to the server, once it has been loaded. -/
def save? (console : Console) : Option Console :=
  match console.view with
  | .detail kind id (some record) _ =>
    let console := console.begin (.update kind id record)
    some { console with view := console.view.clearNotice }
  | _ => none

/-- The reply to the request in flight at `index`, the oldest having index 0. -/
def respond? (index : Nat) (reply : Http.Reply) (console : Console) : Option Console :=
  match console.inFlight[index]? with
  | some pending =>
    let (response, outside) := Client.receive pending.sent reply console.outside
    some { console with
      outside
      inFlight := console.inFlight.eraseIdx index
      results := console.results ++ [⟨pending.generation, pending.task.outcome response⟩] }
  | none => none

def apply (outcome : Outcome) (console : Console) : Console :=
  match outcome with
  | .loaded data =>
    match console.view.install? data with
    | some view => { console with view }
    | none => console.note (.dataMismatch console.route)
  | .deleted kind id =>
    match console.view.remove? kind id with
    | some view => { console with view }.note (.deleted kind id)
    | none => console
  | .updated kind id =>
    { console with view := (console.view.markUpdated? kind id).getD console.view }.note
      (.updated kind id)
  | .failed _ .unauthorized => console.forceLogin
  | .failed action error => console.note (.requestFailed action console.route error)

/-- Applies a result unless it comes from a view that was left. -/
def deliver (delivery : Delivery) (console : Console) : Bool × Console :=
  if delivery.generation = console.scope.generation then (true, console.apply delivery.outcome)
  else (false, console)

/-- Delivers the results in order and counts those that were applied. -/
def deliverAll (applied : Nat) (console : Console) : List Delivery → Nat × Console
  | [] => (applied, console)
  | delivery :: rest =>
    let (current, console) := console.deliver delivery
    deliverAll (if current then applied + 1 else applied) console rest

/-- Delivers all results that wait. -/
def poll (console : Console) : Nat × Console :=
  deliverAll 0 { console with results := [] } console.results

/-- Delivers the next result, if one waits. -/
def next? (console : Console) : Option (Bool × Console) :=
  match console.results with
  | [] => none
  | delivery :: rest => some ({ console with results := rest }.deliver delivery)

end Console

end IdentityConsole
