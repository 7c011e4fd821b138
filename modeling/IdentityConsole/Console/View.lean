import IdentityConsole.Records.Record
import IdentityConsole.Route

/-!
# Views

What is shown for a route. A list or a record is absent until it has been loaded.
-/

namespace IdentityConsole

inductive View
  | login (returnTo : Option Route)
  | dashboard
  | list (kind : Kind) (rows : Option (List kind.Record))
  | detail (kind : Kind) (id : String) (record : Option kind.Record) (notice : Option String)

/-- What a view asked the server for. -/
inductive Loaded
  | rows (kind : Kind) (records : List kind.Record)
  | record (kind : Kind) (record : kind.Record)

namespace View

/-- The view with which a route opens. -/
def ofRoute (route : Route) (returnTo : Option Route) : View :=
  match route with
  | .login => .login returnTo
  | .dashboard => .dashboard
  | .list kind => .list kind none
  | .detail kind id => .detail kind id none none

def isLogin : View → Bool
  | .login _ => true
  | _ => false

def returnTo? : View → Option Route
  | .login returnTo => returnTo
  | _ => none

def listKind? : View → Option Kind
  | .list kind _ => some kind
  | _ => none

def detail? : View → Option (Kind × String)
  | .detail kind id _ _ => some (kind, id)
  | _ => none

def isLoading : View → Bool
  | .list _ rows => rows.isNone
  | .detail _ _ record _ => record.isNone
  | .login _ | .dashboard => false

/-- Puts loaded data where it belongs; other views have no place for it. -/
def install? : View → Loaded → Option View
  | .list kind _, .rows other records =>
    if h : other = kind then some (.list kind (some (h ▸ records))) else none
  | .detail kind id _ notice, .record other record =>
    if h : other = kind then some (.detail kind id (some (h ▸ record)) notice) else none
  | _, _ => none

def rowIds : View → List String
  | .list _ (some rows) => rows.map Record.id
  | _ => []

def rowCount (view : View) : Nat :=
  view.rowIds.length

def rowId? (view : View) (index : Nat) : Option String :=
  view.rowIds[index]?

/-- Takes the rows with an id out of a list of that kind, if there are any. -/
def remove? (kind : Kind) (id : String) : View → Option View
  | .list shown (some rows) =>
    if shown = kind ∧ rows.any (Record.id · = id) then
      some (.list shown (some (rows.filter (Record.id · ≠ id))))
    else none
  | _ => none

def updatedNotice (kind : Kind) : String :=
  kind.singular ++ " updated successfully"

/-- Notes that the record shown was saved. -/
def markUpdated? (kind : Kind) (id : String) : View → Option View
  | .detail shown shownId record _ =>
    if shown = kind ∧ shownId = id then
      some (.detail shown shownId record (some (updatedNotice kind)))
    else none
  | _ => none

/-- The fields offered for editing. -/
def fields : View → List Field
  | .detail kind _ _ _ => Record.fields kind
  | _ => []

def field? (field : Field) : View → Option String
  | .detail _ _ (some record) _ => some (Record.field record field)
  | _ => none

/-- Edits the record shown; what was noted about it no longer holds. -/
def setField? (field : Field) (value : String) : View → Option View
  | .detail kind id (some record) _ =>
    some (.detail kind id (some (Record.setField record field value)) none)
  | _ => none

def notice? : View → Option String
  | .detail _ _ _ notice => notice
  | _ => none

def clearNotice : View → View
  | .detail kind id record _ => .detail kind id record none
  | view => view

end View

end IdentityConsole
