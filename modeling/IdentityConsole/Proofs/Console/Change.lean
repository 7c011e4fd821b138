import IdentityConsole.Console.Task

/-!
# What changes a view

Between being entered and being left a view changes for three reasons only: a result arrives, the
record shown is edited, or it is sent to the server and the notice about an earlier save goes. None
of them makes it the view of another route.
-/

namespace IdentityConsole

/-- The server did not accept the token of a request. -/
def Outcome.isRejection : Outcome → Bool
  | .failed _ .unauthorized => true
  | _ => false

def Outcome.isLoaded : Outcome → Bool
  | .loaded _ => true
  | _ => false

def Outcome.isDeleted : Outcome → Bool
  | .deleted .. => true
  | _ => false

inductive Change
  | result (outcome : Outcome)
  | edit (field : Field) (value : String)
  | save

def Change.outcome? : Change → Option Outcome
  | .result outcome => some outcome
  | _ => none

def Change.isLoaded : Change → Bool
  | .result outcome => outcome.isLoaded
  | _ => false

namespace View

/-- The route a view is for. -/
def route : View → Route
  | .login _ => .login
  | .dashboard => .dashboard
  | .list kind _ => .list kind
  | .detail kind id _ _ => .detail kind id

/-- A view after a result. A result for which it has no place leaves it as it is. -/
def afterResult (view : View) : Outcome → View
  | .loaded data => (view.install? data).getD view
  | .deleted kind id => (view.remove? kind id).getD view
  | .updated kind id => (view.markUpdated? kind id).getD view
  | .failed .. => view

def after (view : View) : Change → View
  | .result outcome => view.afterResult outcome
  | .edit field value => (view.setField? field value).getD view
  | .save => view.clearNotice

/-- A view after several changes, the first of them first. -/
def replay (view : View) (changes : List Change) : View :=
  changes.foldl after view

theorem replay_append (view : View) (first later : List Change) :
    view.replay (first ++ later) = (view.replay first).replay later :=
  List.foldl_append

@[simp]
theorem replay_singleton (view : View) (change : Change) :
    view.replay [change] = view.after change := rfl

@[simp]
theorem route_ofRoute (route : Route) (returnTo : Option Route) :
    (ofRoute route returnTo).route = route := by
  cases route <;> rfl

theorem route_of_listKind? {view : View} {kind : Kind} (h : view.listKind? = some kind) :
    view.route = .list kind := by
  cases view with
  | list shown rows => cases h; rfl
  | login returnTo | dashboard | detail shown id record notice => cases h

theorem listKind?_of_route_eq {view : View} {kind : Kind} (h : view.route = .list kind) :
    view.listKind? = some kind := by
  cases view with
  | list shown rows => cases h; rfl
  | login returnTo | dashboard | detail shown id record notice => cases h

theorem returnTo?_eq_none_of_route_ne {view : View} (h : view.route ≠ .login) :
    view.returnTo? = none := by
  cases view with
  | login returnTo => exact absurd rfl h
  | dashboard | list kind rows | detail kind id record notice => rfl

@[simp]
theorem returnTo?_ofRoute_login (returnTo : Option Route) :
    (ofRoute .login returnTo).returnTo? = returnTo := rfl

theorem ofRoute_returnTo? (route : Route) (returnTo : Option Route) :
    ofRoute route (ofRoute route returnTo).returnTo? = ofRoute route returnTo := by
  cases route <;> rfl

theorem returnTo?_ofRoute_none (route : Route) : (ofRoute route none).returnTo? = none := by
  cases route <;> rfl

/-- With its route and its way back a login view is determined. -/
theorem eq_ofRoute_of_route_eq_login {view : View} (h : view.route = .login) :
    view = ofRoute .login view.returnTo? := by
  cases view with
  | login returnTo => rfl
  | dashboard | list kind rows | detail kind id record notice => cases h

/-! ### Each kind of change keeps the route -/

theorem route_install? {view view' : View} {data : Loaded} (h : view.install? data = some view') :
    view'.route = view.route := by
  unfold install? at h
  split at h
  · split at h
    · cases h; rfl
    · cases h
  · split at h
    · cases h; rfl
    · cases h
  · cases h

theorem route_remove? {view view' : View} {kind : Kind} {id : String}
    (h : view.remove? kind id = some view') : view'.route = view.route := by
  unfold remove? at h
  split at h
  · split at h
    · cases h; rfl
    · cases h
  · cases h

theorem route_markUpdated? {view view' : View} {kind : Kind} {id : String}
    (h : view.markUpdated? kind id = some view') : view'.route = view.route := by
  unfold markUpdated? at h
  split at h
  · split at h
    · cases h; rfl
    · cases h
  · cases h

theorem route_setField? {view view' : View} {field : Field} {value : String}
    (h : view.setField? field value = some view') : view'.route = view.route := by
  unfold setField? at h
  split at h
  · cases h; rfl
  · cases h

theorem route_clearNotice (view : View) : view.clearNotice.route = view.route := by
  cases view <;> rfl

/-- What may be replaced by a view of the same route keeps its route when it is. -/
theorem route_getD {view : View} {replaced : Option View}
    (h : ∀ view', replaced = some view' → view'.route = view.route) :
    (replaced.getD view).route = view.route := by
  cases replaced with
  | none => rfl
  | some view' => exact h view' rfl

@[simp]
theorem route_afterResult (view : View) (outcome : Outcome) :
    (view.afterResult outcome).route = view.route := by
  cases outcome with
  | loaded data => exact route_getD fun _ => route_install?
  | deleted kind id => exact route_getD fun _ => route_remove?
  | updated kind id => exact route_getD fun _ => route_markUpdated?
  | failed action error => rfl

@[simp]
theorem route_after (view : View) (change : Change) : (view.after change).route = view.route := by
  cases change with
  | result outcome => exact route_afterResult view outcome
  | edit field value => exact route_getD fun _ => route_setField?
  | save => exact route_clearNotice view

theorem route_replay (view : View) (changes : List Change) :
    (view.replay changes).route = view.route := by
  induction changes generalizing view with
  | nil => rfl
  | cons change rest ih =>
    change ((view.after change).replay rest).route = view.route
    rw [ih, route_after]

/-- Only a login view has a way back, and nothing changes it. -/
theorem returnTo?_after (view : View) (change : Change) :
    (view.after change).returnTo? = view.returnTo? := by
  cases view with
  | login returnTo =>
    cases change with
    | result outcome => cases outcome <;> rfl
    | edit field value => rfl
    | save => rfl
  | dashboard | list kind rows | detail kind id record notice =>
    rw [returnTo?_eq_none_of_route_ne (by rw [route_after]; simp [route])]
    rfl

theorem returnTo?_replay (view : View) (changes : List Change) :
    (view.replay changes).returnTo? = view.returnTo? := by
  induction changes generalizing view with
  | nil => rfl
  | cons change rest ih =>
    change ((view.after change).replay rest).returnTo? = view.returnTo?
    rw [ih, returnTo?_after]

end View

end IdentityConsole
