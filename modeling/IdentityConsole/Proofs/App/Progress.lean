import Mathlib.Data.List.Induction
import IdentityConsole.Proofs.App.Cursor
import IdentityConsole.Proofs.Console.Notice

/-!
# Reports on progress

A key that deletes or saves reports that it does. The report is taken down when a result reaches the
view, unless it reports on a save and the results are failures. Leaving the view takes the request
away and not the report.
-/

namespace IdentityConsole

/-! ### What is owed to the view shown -/

namespace Console

/-- The request of a task is in flight, or a result of it waits for the view shown. -/
def Owes (console : Console) (task : Task) : Prop :=
  (∃ pending ∈ console.inFlight, pending.task = task) ∨
    ∃ outcome ∈ console.awaited, task.Yields outcome

variable {console later : Console} {task : Task}

theorem awaited_append (console : Console) (more : List Delivery) :
    ({ console with results := console.results ++ more } : Console).awaited =
      console.awaited ++ outcomesOf console.scope.generation more :=
  outcomesOf_append ..

namespace Owes

theorem congr (h : console.Owes task) (hinFlight : later.inFlight = console.inFlight)
    (hawaited : later.awaited = console.awaited) : later.Owes task := by
  unfold Owes
  rw [hinFlight, hawaited]
  exact h

theorem begin (task : Task) (console : Console) : (console.begin task).Owes task := by
  rcases begin_cases task console with ⟨log, sent, hbegin⟩ | ⟨log, error, hbegin⟩
  · refine .inl ⟨⟨console.scope.generation, task, sent⟩, ?_, rfl⟩
    rw [hbegin]
    exact List.mem_append_right _ List.mem_cons_self
  · refine .inr ⟨task.failed error, mem_outcomesOf.mpr ?_, task.yields_failed error⟩
    rw [hbegin]
    exact ⟨_, List.mem_append_right _ List.mem_cons_self, rfl, rfl⟩

/-- Nothing that waits is lost when more arrives. -/
theorem append (h : console.Owes task) (more : List Delivery) :
    ({ console with results := console.results ++ more } : Console).Owes task := by
  rcases h with hpending | ⟨outcome, hmem, hyields⟩
  · exact .inl hpending
  · refine .inr ⟨outcome, ?_, hyields⟩
    rw [awaited_append]
    exact List.mem_append_left _ hmem

/-- A reply turns a request in flight into a result. -/
theorem respond (h : console.Owes task) (htimely : console.Timely) {index : Nat}
    {reply : Http.Reply} (hrespond : console.respond? index reply = some later) :
    later.Owes task := by
  obtain ⟨pending, log, hpending, rfl⟩ := respond?_eq hrespond
  rcases h with ⟨other, hmem, htask⟩ | ⟨outcome, hmem, hyields⟩
  · obtain ⟨place, hplace⟩ := List.mem_iff_getElem?.mp hmem
    by_cases hsame : place = index
    · rw [hsame, hpending] at hplace
      obtain rfl := Option.some.inj hplace
      refine .inr ⟨pending.task.outcome (Response.ofReply reply), mem_outcomesOf.mpr ?_,
        ⟨Response.ofReply reply, by rw [htask]⟩⟩
      exact ⟨_, List.mem_append_right _ List.mem_cons_self, htimely.inFlight pending hmem, rfl⟩
    · refine .inl ⟨other, List.mem_eraseIdx_iff_getElem?.mpr ⟨place, hsame, hplace⟩, htask⟩
  · refine .inr ⟨outcome, ?_, hyields⟩
    rw [awaited, outcomesOf_append]
    exact List.mem_append_left _ hmem

end Owes

/-- Results that do not lead away from the view leave what is in flight. -/
theorem deliverEach_stays (console : Console) (deliveries : List Delivery) :
    console.scope.generation ≤ (console.deliverEach deliveries).scope.generation ∧
      ((console.deliverEach deliveries).scope.generation = console.scope.generation →
        (console.deliverEach deliveries).inFlight = console.inFlight) := by
  refine deliverEach_induction (motive := fun later =>
    console.scope.generation ≤ later.scope.generation ∧
      (later.scope.generation = console.scope.generation → later.inFlight = console.inFlight))
    ?_ ⟨Nat.le_refl _, fun _ => rfl⟩ deliveries
  rintro later delivery ⟨hle, hstays⟩
  rcases deliver_cases delivery later with
    ⟨log, -, -, hdeliver⟩ | ⟨log, -, -, hdeliver⟩ | ⟨-, hdeliver⟩
  · rw [hdeliver]
    refine ⟨Nat.le_succ_of_le hle, fun hsame => ?_⟩
    have hnext : later.scope.generation + 1 = console.scope.generation := hsame
    omega
  · rw [hdeliver]
    exact ⟨hle, hstays⟩
  · rw [hdeliver]
    exact ⟨hle, hstays⟩

/-- The view was left, or all that is owed to it is owed to it still. -/
def Continues (console later : Console) : Prop :=
  console.scope.generation < later.scope.generation ∨
    later.scope.generation = console.scope.generation ∧ ∀ task, console.Owes task → later.Owes task

theorem Continues.congr (hgeneration : later.scope.generation = console.scope.generation)
    (hinFlight : later.inFlight = console.inFlight) (hresults : later.results = console.results) :
    console.Continues later := by
  refine .inr ⟨hgeneration, fun task h => h.congr hinFlight ?_⟩
  rw [awaited, awaited, hgeneration, hresults]

theorem Continues.navigateTo {before : Console}
    (h : before.scope.generation = console.scope.generation) (route : Route) :
    console.Continues (before.navigateTo route) := by
  obtain ⟨log, hnavigate⟩ := navigateTo_eq route before
  left
  rw [hnavigate, enter_generation, ← h]
  exact Nat.lt_succ_self _

theorem Continues.login (username password : String) (reply : Http.Reply) (console : Console) :
    console.Continues (console.login username password reply).2 := by
  obtain ⟨storage, log, posts, -, ⟨error, h⟩ | ⟨user, token, h⟩⟩ :=
    login_cases username password reply console
  · rw [h]
    exact .congr rfl rfl rfl
  · rw [h]
    refine navigateTo ?_ _
    rfl

end Console

/-! ### What notices say -/

namespace View

theorem isSome_notice?_afterResult {view : View} (h : view.notice?.isSome = true)
    (outcome : Outcome) : (view.afterResult outcome).notice?.isSome = true := by
  cases hanswers : outcome.answersSave with
  | false => rwa [notice?_afterResult hanswers]
  | true =>
    cases outcome with
    | loaded data | deleted kind id => cases hanswers
    | failed action error => exact h
    | updated kind id =>
      obtain ⟨text, htext⟩ := Option.isSome_iff_exists.mp h
      obtain ⟨shown, shownId, record, rfl⟩ := eq_detail_of_notice? htext
      rw [afterResult_updated_detail]
      dsimp only [notice?]
      split <;> rfl

/-- A save that is confirmed is noted, whatever else arrives. -/
theorem isSome_notice?_replay {view : View} {kind : Kind} {id : String}
    (hroute : view.route = .detail kind id) {outcomes : List Outcome}
    (hmem : .updated kind id ∈ outcomes) :
    (view.replay (outcomes.map .result)).notice?.isSome = true := by
  have hkeeps : ∀ (rest : List Outcome) {view : View}, view.notice?.isSome = true →
      (view.replay (rest.map .result)).notice?.isSome = true := by
    intro rest
    induction rest with
    | nil => exact fun h => h
    | cons outcome rest ih => exact fun h => ih (isSome_notice?_afterResult h outcome)
  induction outcomes generalizing view with
  | nil => cases hmem
  | cons outcome rest ih =>
    rcases List.mem_cons.mp hmem with rfl | hmem
    · refine hkeeps rest ?_
      cases view with
      | detail shown shownId record notice =>
        cases hroute
        rw [View.after, afterResult_updated_detail, if_pos ⟨rfl, rfl⟩]
        rfl
      | login returnTo | dashboard | list shown rows => cases hroute
    · refine ih ?_ hmem
      rw [View.after, route_afterResult, hroute]

end View

theorem Console.Chronicled.notice? {console : Console} (h : console.Chronicled Visit.Confirmed)
    {text : String} (htext : console.view.notice? = some text) :
    ∃ kind, text = View.updatedNotice kind := by
  obtain ⟨chronicle, rfl, hfaithful, hconfirmed⟩ := h
  rw [hfaithful.view] at htext
  obtain ⟨kind, id, before, since, -, hnotice, -⟩ :=
    hconfirmed _ chronicle.visit_mem_visits text htext
  exact ⟨kind, hnotice⟩

theorem Task.Yields.route_of_updated {task : Task} {kind : Kind} {id : String}
    (h : task.Yields (.updated kind id)) : task.route = .detail kind id := by
  obtain ⟨error, ⟨⟩⟩ | ⟨response, hresult⟩ := h.failed_or_result
  cases task with
  | loadList other | loadRecord other otherId =>
    obtain ⟨_, -, ⟨⟩⟩ := bind_eq_ok.mp hresult
  | delete other otherId => cases hresult
  | update other otherId record =>
    cases hresult
    rfl

/-- What is confirmed to the view shown was saved from it. -/
theorem Console.Recorded.route_of_updated {console : Console} (h : console.Recorded) {kind : Kind}
    {id : String} (hmem : .updated kind id ∈ console.awaited) :
    console.view.route = .detail kind id := by
  obtain ⟨chronicle, rfl, hfaithful⟩ := h
  obtain ⟨delivery, hdelivery, hcurrent, houtcome⟩ := mem_outcomesOf.mp hmem
  obtain ⟨task, hbegun, hyields⟩ :=
    (hfaithful.arrived delivery hdelivery).2 (hcurrent.trans hfaithful.generation.symm)
  rw [houtcome] at hyields
  rw [hfaithful.view, Visit.route_view, ← hfaithful.begun task hbegun, hyields.route_of_updated]

/-! ### Reports -/

/-- What reports that a task is under way, if anything does. -/
def Task.report? : Task → Option String
  | .delete _ id => some (App.deletingStatus id)
  | .update .. => some App.savingStatus
  | .loadList _ | .loadRecord .. => none

namespace App

/-- A text that reports on progress. -/
def Reports (text : String) : Prop :=
  text = savingStatus ∨ ∃ id, text = deletingStatus id

theorem isDeleting_deletingStatus (id : String) : isDeleting (deletingStatus id) = true := by
  rw [isDeleting, deletingStatus, String.toList_append, String.toList_append]
  exact List.isPrefixOf_iff_prefix.mpr ⟨' ' :: id.toList ++ "...".toList, rfl⟩

/-- No other text that is ever shown is a report. -/
theorem Reports.head? {text : String} (h : Reports text) :
    text.toList.head? = some 'D' ∨ text.toList.take 2 = ['S', 'a'] := by
  rcases h with rfl | ⟨id, rfl⟩
  · exact .inr rfl
  · left
    rw [deletingStatus, String.toList_append, String.toList_append]
    rfl

theorem not_reports_updatedNotice (kind : Kind) : ¬ Reports (View.updatedNotice kind) := by
  intro h
  have hhead := h.head?
  revert hhead
  cases kind <;> decide

theorem not_reports_signedIn (name : String) : ¬ Reports ("Signed in as " ++ name) := by
  intro h
  have hhead := h.head?
  rw [String.toList_append] at hhead
  rcases hhead with hhead | hhead <;> simp at hhead

theorem not_reports_signedOut : ¬ Reports "Signed out" := by
  intro h
  have hhead := h.head?
  revert hhead
  decide

variable {app later : App} {key : Key} {reply : Http.Reply} {text : String}

/-- The key begins a task that is reported on. -/
inductive Announces (app : App) (key : Key) : Task → Prop
  | delete {kind : Kind} {id : String} (h : app.Deletes key kind id) :
      Announces app key (.delete kind id)
  | save {kind : Kind} {id : String} {record : kind.Record} (h : app.Saves key kind id record) :
      Announces app key (.update kind id record)

/-- A login either leaves the report on progress or replaces it. -/
theorem attemptLogin_status (app : App) (reply : Http.Reply) :
    (app.attemptLogin reply).2.status = app.status ∨
      ∃ name, (app.attemptLogin reply).2.status = some ("Signed in as " ++ name) := by
  unfold attemptLogin
  dsimp only
  split
  · exact .inl rfl
  · split
    · exact .inr ⟨_, rfl⟩
    · exact .inl rfl

theorem attemptLogin_continues (hsubmits : app.Submits key) (reply : Http.Reply) :
    app.console.Continues (app.attemptLogin reply).2.console := by
  have hlogin := Console.Continues.login app.form.username app.form.password reply app.console
  obtain ⟨error, log, -, h⟩ | ⟨user, log, config, configFile, status, -, h⟩ :=
    attemptLogin_cases hsubmits.username hsubmits.password reply
  · rw [h]
    exact hlogin
  · rw [h]
    exact hlogin

theorem commitEdit_continues (app : App) : app.console.Continues app.commitEdit.console := by
  unfold commitEdit
  split
  · exact .congr rfl rfl rfl
  · next field _ =>
    cases hedit : app.console.setField? field app.editBuffer with
    | none => exact .congr rfl rfl rfl
    | some console =>
      rw [Option.getD_some, Console.setField?_eq hedit]
      exact .congr rfl rfl rfl

theorem commitEdit_status (app : App) : app.commitEdit.status = app.status := by
  unfold commitEdit
  split <;> rfl

/-- A report that stands after a key was put up by it, or it stood before. -/
theorem Pressed.reports {result : Bool × App} (h : app.Pressed key reply result)
    (htext : Reports text) (hstatus : result.2.status = some text) :
    (∃ task, app.Announces key task ∧ task.report? = some text ∧
      result.2.console.scope.generation = app.console.scope.generation ∧
      result.2.console.Owes task) ∨
    app.status = some text ∧ app.console.Continues result.2.console := by
  cases h with
  | form | overlay | cursor | edit => exact .inr ⟨hstatus, .congr rfl rfl rfl⟩
  | submitted hsubmits =>
    obtain hsame | ⟨name, hname⟩ := app.attemptLogin_status reply
    · exact .inr ⟨hsame ▸ hstatus, attemptLogin_continues hsubmits reply⟩
    · rw [hname] at hstatus
      exact absurd (Option.some.inj hstatus ▸ htext) (not_reports_signedIn name)
  | committed => exact .inr ⟨app.commitEdit_status ▸ hstatus, app.commitEdit_continues⟩
  | navigated route => exact .inr ⟨hstatus, .navigateTo rfl route⟩
  | signedOut => exact absurd (Option.some.inj hstatus ▸ htext) not_reports_signedOut
  | @deleted kind id hdeletes =>
    refine .inl ⟨.delete kind id, .delete hdeletes, hstatus, ?_, .begin _ _⟩
    exact congrArg Scope.generation (Console.begin_scope ..)
  | @saved kind id record hsaves =>
    refine .inl ⟨.update kind id record, .save hsaves, hstatus, ?_,
      (Console.Owes.begin _ app.console).congr rfl rfl⟩
    exact congrArg Scope.generation (Console.begin_scope ..)

/-! ### Ticks -/

/-- A failure of the task, though no rejection of the session, waits for the view shown. -/
def Fails (app : App) (task : Task) : Prop :=
  ∃ error, error ≠ .unauthorized ∧ task.failed error ∈ app.console.awaited

theorem tick_inFlight (h : app.tick.console.scope.generation = app.console.scope.generation) :
    app.tick.console.inFlight = app.console.inFlight := by
  obtain ⟨log, htick⟩ := app.tick_console
  rw [htick, Console.poll_snd] at h ⊢
  exact (Console.deliverEach_stays _ _).2 h

theorem tick_loginRedirects (h : ∃ outcome ∈ app.console.awaited, outcome.isRejection = true) :
    app.console.loginRedirects < app.tick.console.loginRedirects := by
  obtain ⟨log, htick⟩ := app.tick_console
  let emptied : Console := { app.console with results := [] }
  have hrejected : emptied.loginRedirects <
      (emptied.deliverEach app.console.results).loginRedirects :=
    (@Console.deliverEach_rejection emptied _ h).2
  rw [htick, Console.poll_snd]
  exact hrejected

/-- Results that reach the view leave no report but that on a save, and that only where there is no
notice. -/
theorem refresh_status (htext : Reports text)
    (hnotice : ∀ notice, app.view.notice? = some notice → ¬ Reports notice)
    (h : app.refresh.status = some text) :
    app.view.notice? = none ∧ app.status = some text ∧ text = savingStatus := by
  simp only [refresh] at h
  cases hshown : app.view.notice? with
  | some notice =>
    rw [hshown] at h
    exact absurd (Option.some.inj h ▸ htext) (hnotice notice hshown)
  | none =>
    rw [hshown] at h
    obtain ⟨hstatus, hkept⟩ := Option.filter_eq_some_iff.mp h
    refine ⟨rfl, hstatus, htext.resolve_right ?_⟩
    rintro ⟨id, rfl⟩
    rw [isDeleting_deletingStatus] at hkept
    cases hkept

/-- A save that is owed to the view and is not confirmed by the results that reach it has failed, or
is owed to it still. -/
theorem owes_or_fails {task : Task} (hrecorded : app.console.Recorded)
    (htask : task.report? = some savingStatus)
    (hkept : ∀ outcome ∈ app.console.awaited, outcome.isRejection = false)
    (hnotice : (app.view.replay (app.console.awaited.map .result)).notice? = none)
    (hinFlight : later.console.inFlight = app.console.inFlight) (h : app.console.Owes task) :
    later.console.Owes task ∨ app.Fails task := by
  rcases h with ⟨pending, hmem, hpending⟩ | ⟨outcome, hmem, hyields⟩
  · exact .inl (.inl ⟨pending, hinFlight ▸ hmem, hpending⟩)
  · right
    cases task with
    | loadList kind | loadRecord kind id => cases htask
    | delete kind id =>
      have hprefix := isDeleting_deletingStatus id
      rw [Option.some.inj htask] at hprefix
      exact absurd hprefix (by decide)
    | update kind id record =>
      obtain rfl | ⟨error, rfl⟩ := hyields.updated_or_failed
      · -- The save was begun for the view shown, and so its confirmation would be noted there.
        have hconfirmed :
            (app.view.replay (app.console.awaited.map .result)).notice?.isSome = true :=
          View.isSome_notice?_replay (hrecorded.route_of_updated hmem) hmem
        rw [hnotice] at hconfirmed
        cases hconfirmed
      · refine ⟨error, ?_, hmem⟩
        rintro rfl
        cases hkept _ hmem

/-- A report that stands after a tick stood before. What was owed to the view still is, or it is a
save that failed. -/
theorem tick_reports (hsound : app.Sound) (hnoted : app.console.Chronicled Visit.Confirmed)
    (htext : Reports text) (hstatus : app.tick.status = some text) :
    app.status = some text ∧
      app.tick.console.scope.generation = app.console.scope.generation ∧
      ∀ task, task.report? = some text → app.console.Owes task →
        app.tick.console.Owes task ∨ text = savingStatus ∧ app.Fails task := by
  have hlater : (app.step .tick).console.Chronicled Visit.Confirmed :=
    chronicled_step Visit.Confirmed.invariant hnoted .tick
  have hinFlight := app.tick_inFlight
  have hrejected := app.tick_loginRedirects
  have hticked := app.ticked
  rw [step] at hlater
  generalize app.tick = later at hticked hstatus hlater hinFlight hrejected
  cases hticked with
  | nothing hnone =>
    refine ⟨hstatus, rfl, fun task _ howes => .inl (howes.congr rfl ?_)⟩
    rw [hnone]
    rfl
  | @refreshed console hconsole =>
    have hgeneration : console.scope.generation = app.console.scope.generation :=
      congrArg Scope.generation hconsole.scope
    have hkept : ∀ outcome ∈ app.console.awaited, outcome.isRejection = false := by
      intro outcome hmem
      by_contra hrejection
      have hmore : app.console.loginRedirects < console.loginRedirects :=
        hrejected ⟨outcome, hmem, Bool.not_eq_false _ ▸ hrejection⟩
      exact absurd hconsole.loginRedirects (Nat.ne_of_gt hmore)
    have hnotice : ∀ notice, console.view.notice? = some notice → ¬ Reports notice := by
      intro notice hshown
      obtain ⟨kind, rfl⟩ := hlater.notice? hshown
      exact not_reports_updatedNotice kind
    obtain ⟨hnone, hbefore, hsaving⟩ :=
      @refresh_status { app with console } text htext hnotice hstatus
    refine ⟨hbefore, hgeneration, fun task htask howes => ?_⟩
    subst hsaving
    have hshown : (app.view.replay (app.console.awaited.map .result)).notice? = none :=
      (congrArg View.notice? hconsole.view).symm.trans hnone
    exact (owes_or_fails hnoted.recorded htask hkept hshown (hinFlight hgeneration) howes).imp_right
      fun hfails => ⟨rfl, hfails⟩
  | foreseen hview hredirects => exact absurd hsound.seen (Nat.ne_of_gt hredirects)
  | expired => cases hstatus

/-! ### Runs -/

/-- A report that stands after a step was put up by a key, or it stood before; and then the view was
left, or what was owed to it still is, or it is a save of whose failure a tick has heard. -/
theorem step_reports {action : Action} (hsound : app.Sound)
    (hnoted : app.console.Chronicled Visit.Confirmed) (htext : Reports text)
    (hstatus : (app.step action).status = some text) :
    (∃ key reply task, action = .press key reply ∧ app.Announces key task ∧
      task.report? = some text ∧
      (app.step action).console.scope.generation = app.console.scope.generation ∧
      (app.step action).console.Owes task) ∨
    app.status = some text ∧
      (app.console.scope.generation < (app.step action).console.scope.generation ∨
        (app.step action).console.scope.generation = app.console.scope.generation ∧
          ∀ task, task.report? = some text → app.console.Owes task →
            (app.step action).console.Owes task ∨
              action = .tick ∧ text = savingStatus ∧ app.Fails task) := by
  have hcontinues : app.status = some text → app.console.Continues (app.step action).console →
      app.status = some text ∧
        (app.console.scope.generation < (app.step action).console.scope.generation ∨
          (app.step action).console.scope.generation = app.console.scope.generation ∧
            ∀ task, task.report? = some text → app.console.Owes task →
              (app.step action).console.Owes task ∨
                action = .tick ∧ text = savingStatus ∧ app.Fails task) :=
    fun hbefore h => ⟨hbefore, h.imp_right fun hstayed =>
      ⟨hstayed.1, fun task _ howes => .inl (hstayed.2 task howes)⟩⟩
  cases action with
  | press key reply =>
    rcases (app.pressed key reply).reports htext hstatus with
      ⟨task, hannounces, htask, hgeneration, howes⟩ | ⟨hbefore, h⟩
    · exact .inl ⟨key, reply, task, rfl, hannounces, htask, hgeneration, howes⟩
    · exact .inr (hcontinues hbefore h)
  | tick =>
    obtain ⟨hbefore, hgeneration, howes⟩ := tick_reports hsound hnoted htext hstatus
    exact .inr ⟨hbefore, .inr ⟨hgeneration, fun task htask h =>
      (howes task htask h).imp_right fun hfails => ⟨rfl, hfails⟩⟩⟩
  | respond index reply =>
    refine .inr (hcontinues hstatus ?_)
    simp only [step, Console.step]
    cases hrespond : app.console.respond? index reply with
    | none => exact .congr rfl rfl rfl
    | some console =>
      obtain ⟨pending, log, -, hconsole⟩ := Console.respond?_eq hrespond
      refine .inr ⟨by rw [hconsole]; rfl, fun task howes => ?_⟩
      exact howes.respond hnoted.recorded.timely hrespond
  | late delivery =>
    refine .inr (hcontinues hstatus ?_)
    simp only [step, Console.step]
    split
    · exact .inr ⟨rfl, fun task howes => howes.append _⟩
    · exact .congr rfl rfl rfl
  | outside storage network configFile => exact .inr (hcontinues hstatus (.congr rfl rfl rfl))

/-- A report that stands was put up by a key and has stood ever since. The view in which the key was
pressed has been left since, or the task is still owed to it, or it is a save of whose failure a
tick has heard since. -/
theorem reports_since {start : App} (hsound : start.Sound)
    (hnoted : start.console.Chronicled Visit.Confirmed) (hstart : start.status = none)
    {actions : List Action} (htext : Reports text)
    (hstatus : (start.run actions).status = some text) :
    ∃ before key reply since task, actions = before ++ .press key reply :: since ∧
      (start.run before).Announces key task ∧ task.report? = some text ∧
      (∀ part, part <+: since →
        (start.run (before ++ .press key reply :: part)).status = some text) ∧
      ((start.run before).console.scope.generation <
          (start.run actions).console.scope.generation ∨
        ((start.run actions).console.scope.generation =
            (start.run before).console.scope.generation ∧
          (start.run actions).console.Owes task) ∨
        text = savingStatus ∧ ∃ between after, since = between ++ .tick :: after ∧
          (start.run (before ++ .press key reply :: between)).Fails task) := by
  -- From the end of the run, as the key that matters is the last one that put up the report.
  induction actions using List.reverseRecOn with
  | nil =>
    rw [run_nil, hstart] at hstatus
    cases hstatus
  | append_singleton actions action ih =>
    have hsound' : (start.run actions).Sound :=
      run_induction (fun _ action h => h.step action) hsound actions
    have hnoted' : (start.run actions).console.Chronicled Visit.Confirmed :=
      run_induction (motive := fun app => app.console.Chronicled Visit.Confirmed)
        (fun _ action h => chronicled_step Visit.Confirmed.invariant h action) hnoted actions
    rw [run_concat] at hstatus ⊢
    rcases step_reports hsound' hnoted' htext hstatus with
      ⟨key, reply, task, rfl, hannounces, htask, hgeneration, howes⟩ | ⟨hbefore, hkeeps⟩
    · refine ⟨actions, key, reply, [], task, rfl, hannounces, htask, fun part hpart => ?_,
        .inr (.inl ⟨hgeneration, howes⟩)⟩
      rw [List.prefix_nil.mp hpart, run_concat]
      exact hstatus
    · obtain ⟨before, key, reply, since, task, rfl, hannounces, htask, hstands, hsince⟩ :=
        ih hbefore
      refine ⟨before, key, reply, since ++ [action], task, by simp, hannounces, htask,
        fun part hpart => ?_, ?_⟩
      · rcases List.prefix_concat_iff.mp hpart with rfl | hpart
        · rw [← run_concat] at hstatus
          simpa using hstatus
        · exact hstands part hpart
      · rcases hsince with hleft | ⟨hsame, howes⟩ | ⟨hsaving, between, after, rfl, hfails⟩
        · left
          rcases hkeeps with hlater | ⟨hlater, -⟩
          · exact Nat.lt_trans hleft hlater
          · rw [hlater]
            exact hleft
        · rcases hkeeps with hlater | ⟨hlater, hkeeps⟩
          · exact .inl (hsame ▸ hlater)
          · rcases hkeeps task htask howes with howes | ⟨rfl, hsaving, hfails⟩
            · exact .inr (.inl ⟨hlater.trans hsame, howes⟩)
            · exact .inr (.inr ⟨hsaving, since, [], rfl, hfails⟩)
        · exact .inr (.inr ⟨hsaving, between, after ++ [action], by simp, hfails⟩)

/-- **A report on progress outlives its request in two ways only.** Where nothing is in flight and
no result waits for the view shown, a report that stands was put up by the key that began the task,
and either the view in which the key was pressed has been left since, or the task is a save and a
tick has heard since that it failed. -/
theorem run_reports {address : String} {config : Config} {configFile : ConfigFile}
    {outside : Outside} {start app : App} {actions : List Action}
    (hstart : start = opened address config configFile outside) (hrun : app = start.run actions)
    (hinFlight : app.console.inFlight = []) (hawaited : app.console.awaited = [])
    (htext : Reports text) (hstatus : app.status = some text) :
    ∃ before key reply since task, actions = before ++ .press key reply :: since ∧
      (start.run before).Announces key task ∧ task.report? = some text ∧
      (∀ part, part <+: since →
        (start.run (before ++ .press key reply :: part)).status = some text) ∧
      ((start.run before).console.scope.generation < app.console.scope.generation ∨
        text = savingStatus ∧ ∃ between after, since = between ++ .tick :: after ∧
          (start.run (before ++ .press key reply :: between)).Fails task) := by
  have hsound : start.Sound := hstart ▸ Sound.opened address config configFile outside
  have hnoted : start.console.Chronicled Visit.Confirmed :=
    hstart ▸ chronicled_run Visit.Confirmed.invariant address config configFile outside []
  have hblank : start.status = none := hstart ▸ rfl
  subst hrun
  obtain ⟨before, key, reply, since, task, hactions, hannounces, htask, hstands, hsince⟩ :=
    reports_since hsound hnoted hblank htext hstatus
  refine ⟨before, key, reply, since, task, hactions, hannounces, htask, hstands, ?_⟩
  rcases hsince with hleft | ⟨-, ⟨pending, hmem, -⟩ | ⟨outcome, hmem, -⟩⟩ | hfails
  · exact .inl hleft
  · rw [hinFlight] at hmem
    cases hmem
  · rw [hawaited] at hmem
    cases hmem
  · exact .inr hfails

def oneUser : String :=
  "\x7b\"data\":[\x7b\"id\":\"u1\"\x7d]\x7d"

def theUser : String :=
  "\x7b\"id\":\"u1\"\x7d"

/-- Alice opens a user, saves it, and the server fails. -/
def savingInVain : List Action :=
  [.press (.char '2') .dropped, .respond 0 (.response 200 (Text.Utf8.encode oneUser) true), .tick,
    .press .enter .dropped, .respond 0 (.response 200 (Text.Utf8.encode theUser) true), .tick,
    .press (.char 's') .dropped, .respond 0 (.response 500 [] true)]

/-- Alice deletes a user and goes elsewhere before the server has answered. -/
def deletingInPassing : List Action :=
  [.press (.char '2') .dropped, .respond 0 (.response 200 (Text.Utf8.encode oneUser) true), .tick,
    .press (.char 'd') .dropped, .press (.char '1') .dropped]

/-- A save that failed is reported on still. -/
theorem run_reports_savingInVain :
    let app := aliceOpened.run (savingInVain ++ [.tick])
    app.console.inFlight = [] ∧ app.console.awaited = [] ∧ app.status = some savingStatus ∧
    ∃ before key reply since task, savingInVain ++ [.tick] = before ++ .press key reply :: since ∧
      (aliceOpened.run before).Announces key task ∧ task.report? = some savingStatus ∧
      (∀ part, part <+: since →
        (aliceOpened.run (before ++ .press key reply :: part)).status = some savingStatus) ∧
      ((aliceOpened.run before).console.scope.generation < app.console.scope.generation ∨
        ∃ between after, since = between ++ .tick :: after ∧
          (aliceOpened.run (before ++ .press key reply :: between)).Fails task) := by
  intro app
  obtain ⟨hinFlight, hawaited, hstatus⟩ : app.console.inFlight.length = 0 ∧
      app.console.awaited.length = 0 ∧ app.status = some savingStatus := by
    decide +kernel
  have hinFlight := List.eq_nil_of_length_eq_zero hinFlight
  have hawaited := List.eq_nil_of_length_eq_zero hawaited
  have hstart : aliceOpened =
      opened "http://identity" .initial (.inHome "/home/alice" .absent) (.aliceStored .never) := rfl
  have hrun : app = aliceOpened.run (savingInVain ++ [.tick]) := rfl
  obtain ⟨before, key, reply, since, task, hactions, hannounces, htask, hstands, hsince⟩ :=
    run_reports hstart hrun hinFlight hawaited (.inl rfl) hstatus
  exact ⟨hinFlight, hawaited, hstatus, before, key, reply, since, task, hactions, hannounces,
    htask, hstands, hsince.imp_right And.right⟩

/-- The report stands where a save has failed, and where the view was left before a deletion was
answered. -/
theorem run_reports_stuck :
    let failed := aliceOpened.run (savingInVain ++ [.tick])
    let left := aliceOpened.run (deletingInPassing ++ [.tick])
    failed.status = some "Saving..." ∧ left.status = some "Deleting u1..." ∧
    ¬ ∀ (app : App) (actions : List Action), app = aliceOpened.run (actions ++ [.tick]) →
      app.console.inFlight = [] → app.console.results = [] →
      ∀ text, app.status = some text → ¬ Reports text := by
  intro failed left
  obtain ⟨hinFlight, hresults, hstatus, hleft⟩ : failed.console.inFlight.length = 0 ∧
      failed.console.results.length = 0 ∧ failed.status = some "Saving..." ∧
      left.status = some "Deleting u1..." := by
    decide +kernel
  refine ⟨hstatus, hleft, fun h => ?_⟩
  exact h failed savingInVain rfl (List.eq_nil_of_length_eq_zero hinFlight)
    (List.eq_nil_of_length_eq_zero hresults) "Saving..." hstatus (.inl rfl)

end App

end IdentityConsole
