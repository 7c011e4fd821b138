import IdentityConsole.Records.Kind
import IdentityConsole.Text.Segments

/-!
# Routes

Every screen has a path. A path that leads nowhere leads to the dashboard.
-/

namespace IdentityConsole

inductive Route
  | login
  | dashboard
  | list (kind : Kind)
  | detail (kind : Kind) (id : String)
deriving DecidableEq, Repr

namespace Route

/-- The part of a location before its query and its fragment. -/
def withoutQuery (location : List Char) : List Char :=
  location.takeWhile fun c => !(c == '?' || c == '#')

def ofSegments : List String → Route
  | [segment] =>
    if segment = "login" then .login
    else
      match Kind.ofSegment? segment with
      | some kind => .list kind
      | none => .dashboard
  | [segment, id] =>
    match Kind.ofSegment? segment with
    | some kind => .detail kind (Text.Percent.decode id)
    | none => .dashboard
  | _ => .dashboard

def parse (location : String) : Route :=
  ofSegments (Text.segments '/' (withoutQuery location.toList))

def path : Route → String
  | .login => "/login"
  | .dashboard => "/dashboard"
  | .list kind => kind.collectionPath
  | .detail kind id => kind.itemPath id

/-- Only the login screen may be seen without being signed in. -/
def isProtected : Route → Bool
  | .login => false
  | _ => true

def kind? : Route → Option Kind
  | .list kind | .detail kind _ => some kind
  | .login | .dashboard => none

end Route

/-- What becomes of a request to show a route. -/
inductive Admission
  | show (route : Route)
  | loginFirst (returnTo : Route)
deriving DecidableEq, Repr

def Route.admission (route : Route) (signedIn : Bool) : Admission :=
  if route.isProtected && !signedIn then .loginFirst route else .show route

end IdentityConsole
