import IdentityConsole.Proofs.Console.Detail

/-!
# The notice of a save

A detail view notes that a save was confirmed, until something is edited or saved again.
-/

namespace IdentityConsole

def Task.isUpdate : Task → Bool
  | .update .. => true
  | _ => false

/-- Whether an outcome says how a save went. -/
def Outcome.answersSave : Outcome → Bool
  | .updated .. => true
  | .failed action _ => Kind.all.any fun kind => action = "update " ++ kind.noun
  | _ => false

/-- What may make another record of the one shown, or of the one at the server. -/
def Change.disturbs : Change → Bool
  | .edit .. | .save => true
  | .result _ => false

namespace Task

variable {task : Task} {outcome : Outcome}

theorem answersSave_failed (task : Task) (error : ApiError) :
    (task.failed error).answersSave = task.isUpdate := by
  cases task with
  | loadList kind | loadRecord kind id | update kind id record => cases kind <;> rfl
  | delete kind id => rfl

theorem Yields.answersSave (h : task.Yields outcome) : outcome.answersSave = task.isUpdate := by
  obtain ⟨error, rfl⟩ | ⟨response, hresult⟩ := h.failed_or_result
  · exact answersSave_failed task error
  · cases task with
    | loadList kind | loadRecord kind id =>
      obtain ⟨_, -, ⟨⟩⟩ := bind_eq_ok.mp hresult
      rfl
    | delete kind id | update kind id record =>
      cases hresult
      rfl

theorem eq_update_of_isUpdate (h : task.isUpdate = true) :
    ∃ kind id record, task = .update kind id record := by
  cases task with
  | update kind id record => exact ⟨kind, id, record, rfl⟩
  | loadList kind | loadRecord kind id | delete kind id => cases h

theorem Yields.updated_or_failed {kind : Kind} {id : String} {record : kind.Record}
    (h : (update kind id record).Yields outcome) :
    outcome = .updated kind id ∨ ∃ error, outcome = (update kind id record).failed error := by
  obtain hfailed | ⟨response, hresult⟩ := h.failed_or_result
  · exact .inr hfailed
  · cases hresult
    exact .inl rfl

theorem isUpdate_of_ofRoute? {route : Route} (h : ofRoute? route = some task) :
    task.isUpdate = false := by
  cases route with
  | login | dashboard => cases h
  | list kind | detail kind id => cases h; rfl

end Task

namespace View

@[simp]
theorem notice?_ofRoute (route : Route) (returnTo : Option Route) :
    (ofRoute route returnTo).notice? = none := by
  cases route <;> rfl

/-- What does not answer a save leaves the notice. -/
theorem notice?_afterResult {outcome : Outcome} (h : outcome.answersSave = false) (view : View) :
    (view.afterResult outcome).notice? = view.notice? := by
  cases outcome with
  | updated kind id => cases h
  | failed action error => rfl
  | deleted kind id =>
    cases view with
    | list shown rows =>
      cases rows with
      | none => rfl
      | some rows =>
        rw [afterResult_deleted_list]
        rfl
    | login returnTo | dashboard | detail shown shownId record notice => rfl
  | loaded data =>
    cases view with
    | list shown rows =>
      obtain ⟨rows', hloaded⟩ := afterResult_loaded_list shown rows data
      rw [hloaded]
      rfl
    | detail shown shownId record notice =>
      obtain ⟨installed, hloaded⟩ := afterResult_loaded_detail shown shownId data
      rw [hloaded]
      rfl
    | login returnTo | dashboard => cases data <;> rfl

/-- A notice was there before, or a save of the view is confirmed. -/
theorem notice?_of_afterResult {view : View} {outcome : Outcome} {text : String}
    (h : (view.afterResult outcome).notice? = some text) :
    view.notice? = some text ∨ ∃ kind id, view.route = .detail kind id ∧
      outcome = .updated kind id ∧ text = updatedNotice kind := by
  cases outcome with
  | loaded data | deleted other id =>
    rw [notice?_afterResult rfl] at h
    exact .inl h
  | failed action error => exact .inl h
  | updated other otherId =>
    cases view with
    | login returnTo | dashboard | list kind rows => cases h
    | detail kind id record notice =>
      rw [afterResult_updated_detail] at h
      split at h
      · next hsame =>
        obtain ⟨rfl, rfl⟩ := hsame
        exact .inr ⟨kind, id, rfl, rfl, (Option.some.inj h).symm⟩
      · exact .inl h

theorem notice?_setField? {view view' : View} {field : Field} {value : String}
    (h : view.setField? field value = some view') : view'.notice? = none := by
  unfold setField? at h
  split at h
  · cases h
    rfl
  · cases h

theorem notice?_clearNotice (view : View) : view.clearNotice.notice? = none := by
  cases view <;> rfl

theorem notice?_of_listKind? {view : View} {kind : Kind} (h : view.listKind? = some kind) :
    view.notice? = none := by
  cases view with
  | list shown rows => rfl
  | login returnTo | dashboard | detail shown id record notice => cases h

theorem eq_detail_of_notice? {view : View} {text : String} (h : view.notice? = some text) :
    ∃ kind id record, view = .detail kind id record (some text) := by
  cases view with
  | detail kind id record notice =>
    cases h
    exact ⟨kind, id, record, rfl⟩
  | login returnTo | dashboard | list kind rows => cases h

end View

/-- An edit or a save that takes place takes the notice away. -/
theorem Console.notice?_replay_changed {console : Console} {action : Console.Action}
    (h : console.changed action ≠ []) :
    (console.view.replay (console.changed action)).notice? = none := by
  cases action with
  | setField field value =>
    simp only [changed] at h ⊢
    split
    · next hedit =>
      obtain ⟨later, hlater⟩ := Option.isSome_iff_exists.mp hedit
      obtain ⟨view, hview, -⟩ := Option.map_eq_some_iff.mp hlater
      rw [View.replay_singleton, View.after, hview]
      exact View.notice?_setField? hview
    · next hedit => exact absurd (if_neg hedit) h
  | save =>
    simp only [changed] at h ⊢
    split
    · exact View.notice?_clearNotice _
    · next hsave => exact absurd (if_neg hsave) h
  | _ => exact absurd rfl h

/-! ### What a notice says in any run -/

/-- A notice follows a confirmation, with no edit and no save between. -/
def Visit.Confirmed (visit : Visit) : Prop :=
  ∀ text, visit.view.notice? = some text → ∃ kind id before since,
    visit.route = .detail kind id ∧ text = View.updatedNotice kind ∧
    visit.changes = before ++ .result (.updated kind id) :: since ∧
    ∀ change ∈ since, change.disturbs = false

namespace Visit.Confirmed

variable {visit : Visit}

theorem of_notice?_eq_none (h : visit.view.notice? = none) : visit.Confirmed := by
  intro text htext
  rw [h] at htext
  cases htext

theorem result (h : visit.Confirmed) (outcome : Outcome) :
    (visit.add [] [.result outcome]).Confirmed := by
  intro text htext
  rw [view_add, View.replay_singleton] at htext
  obtain hbefore | ⟨kind, id, hroute, rfl, rfl⟩ := View.notice?_of_afterResult htext
  · obtain ⟨kind, id, before, since, hroute, hnotice, hchanges, hsince⟩ := h text hbefore
    refine ⟨kind, id, before, since ++ [.result outcome], hroute, hnotice, ?_, ?_⟩
    · simp [add, hchanges]
    · intro change hmem
      rcases List.mem_append.mp hmem with hmem | hmem
      · exact hsince change hmem
      · rw [List.mem_singleton.mp hmem]
        rfl
  · refine ⟨kind, id, visit.changes, [], ?_, rfl, rfl, fun change hmem => ?_⟩
    · rw [← hroute, route_view]
      rfl
    · exact absurd hmem List.not_mem_nil

theorem act {chronicle : Chronicle} (hfaithful : chronicle.Faithful chronicle.console.results)
    (h : chronicle.visit.Confirmed) (action : Console.Action) :
    (chronicle.visit.add (chronicle.console.begun action)
      (chronicle.console.changed action)).Confirmed := by
  cases hchanged : chronicle.console.changed action with
  | nil =>
    intro text htext
    rw [view_add] at htext
    obtain ⟨kind, id, before, since, hroute, hnotice, hchanges, hsince⟩ := h text htext
    exact ⟨kind, id, before, since, hroute, hnotice, by simp [add, hchanges], hsince⟩
  | cons change rest =>
    refine of_notice?_eq_none ?_
    rw [view_add, ← hfaithful.view, ← hchanged]
    exact Console.notice?_replay_changed (by rw [hchanged]; exact List.cons_ne_nil _ _)

theorem invariant : Invariant Confirmed where
  opened _ route returnTo := of_notice?_eq_none (View.notice?_ofRoute route returnTo)
  deliver _ _ h := h.result _
  act action hfaithful h := h.act hfaithful action
  arrive _ h := h

end Visit.Confirmed

end IdentityConsole
