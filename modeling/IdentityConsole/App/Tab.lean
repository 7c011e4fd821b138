import IdentityConsole.Route

/-!
# Tabs
-/

namespace IdentityConsole

inductive Tab
  | dashboard
  | collection (kind : Kind)
deriving DecidableEq, Repr

namespace Tab

def all : List Tab := .dashboard :: Kind.all.map .collection

def title : Tab → String
  | .dashboard => "Dashboard"
  | .collection kind => kind.plural

def route : Tab → Route
  | .dashboard => .dashboard
  | .collection kind => .list kind

/-- The tab a route belongs to; a record belongs to the tab of its collection. -/
def ofRoute? : Route → Option Tab
  | .login => none
  | .dashboard => some .dashboard
  | .list kind | .detail kind _ => some (.collection kind)

def next : Tab → Tab
  | .dashboard => .collection .users
  | .collection .users => .collection .groups
  | .collection .groups => .collection .policies
  | .collection .policies => .dashboard

def previous : Tab → Tab
  | .dashboard => .collection .policies
  | .collection .users => .dashboard
  | .collection .groups => .collection .users
  | .collection .policies => .collection .groups

end Tab

end IdentityConsole
