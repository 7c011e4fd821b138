import IdentityConsole.Config
import IdentityConsole.Route
import IdentityConsole.Session.Error

/-!
# The log
-/

namespace IdentityConsole

inductive Level
  | error
  | warn
  | info
deriving DecidableEq, Repr

def Level.text : Level → String
  | .error => "ERROR"
  | .warn => "WARN"
  | .info => "INFO"

/-- What is worth a line in the log. -/
inductive Event
  | tokenUnreadable (error : StorageError)
  | unauthorizedResponse (address : String)
  | sessionUnreadable (error : RestoreError)
  | loggedIn (user : String)
  | rollbackFailed (error : StorageError)
  | entryNotCleared (key : String) (error : StorageError)
  | loggedOut
  | sentToLogin (requested : Route)
  | loginForced (shown : Route)
  | dataMismatch (route : Route)
  | deleted (kind : Kind) (id : String)
  | updated (kind : Kind) (id : String)
  | requestFailed (action : String) (route : Route) (error : ApiError)
  | configNotSaved (error : ConfigError)
  | configNotLoaded (error : ConfigError)
  | loginFailed (error : LoginError)
  | sessionRejected
  | starting (address : String)
  | stopping
deriving Repr

namespace Event

def level : Event → Level
  | .requestFailed .. | .loginFailed _ => .error
  | .tokenUnreadable _ | .unauthorizedResponse _ | .sessionUnreadable _ | .rollbackFailed _
  | .entryNotCleared .. | .loginForced _ | .dataMismatch _ | .configNotSaved _
  | .configNotLoaded _ => .warn
  | .loggedIn _ | .loggedOut | .sentToLogin _ | .deleted .. | .updated .. | .sessionRejected
  | .starting _ | .stopping => .info

def message : Event → String
  | .tokenUnreadable _ => "Failed to read token from storage, sending anonymous request"
  | .unauthorizedResponse _ => "Unauthorized response"
  | .sessionUnreadable _ => "Ignoring unreadable persisted session"
  | .loggedIn _ => "Login successful"
  | .rollbackFailed _ => "Failed to roll back persisted token"
  | .entryNotCleared .. => "Failed to clear persisted session key"
  | .loggedOut => "Logged out"
  | .sentToLogin _ => "Not signed in, redirecting to login"
  | .loginForced _ => "Unauthorized response, returning to login"
  | .dataMismatch _ => "Loaded data does not match the current view"
  | .deleted .. => "Deleted"
  | .updated .. => "Updated"
  | .requestFailed .. => "Request failed"
  | .configNotSaved _ => "Failed to save config"
  | .configNotLoaded _ => "Failed to load config, using defaults"
  | .loginFailed _ => "Login failed"
  | .sessionRejected => "Session rejected by server"
  | .starting _ => "CIM Console starting"
  | .stopping => "CIM Console shutting down"

/-- What the event is about. Of an error only its own message is given, without its causes. -/
def fields : Event → List (String × String)
  | .tokenUnreadable error | .rollbackFailed error => [("error", error.report.message)]
  | .unauthorizedResponse address => [("url", address)]
  | .sessionUnreadable error => [("error", error.report.message)]
  | .loggedIn user => [("user", user)]
  | .entryNotCleared key error => [("key", key), ("error", error.report.message)]
  | .sentToLogin requested => [("requested", requested.path)]
  | .loginForced shown => [("from", shown.path)]
  | .dataMismatch route => [("route", route.path)]
  | .deleted kind id | .updated kind id => [("kind", kind.segment), ("id", id)]
  | .requestFailed action route error =>
    [("action", action), ("route", route.path), ("error", error.message)]
  | .configNotSaved error | .configNotLoaded error => [("error", error.report.message)]
  | .loginFailed error => [("error", error.report.message)]
  | .starting address => [("api", address)]
  | .loggedOut | .sessionRejected | .stopping => []

end Event

end IdentityConsole
