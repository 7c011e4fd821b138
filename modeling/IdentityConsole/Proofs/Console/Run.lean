import IdentityConsole.Console.Console
import IdentityConsole.Proofs.Console.Change
import IdentityConsole.Proofs.Session.Change

/-!
# Runs of the console

Anything may happen to a console in any order: its operations, replies to the requests in flight,
late results of views that were left, and changes of what is outside it. This file says what each
operation does to the console as a whole; the invariants of its runs are derived from that.
-/

namespace IdentityConsole

namespace Console

/-- A request may have been answered at the moment in which its view was left. Its result then
joins the others late. Outside, the entries and their faults may change at any time, as may who
listens. -/
inductive Action
  | navigate (path : String)
  | navigateTo (route : Route)
  | login (username password : String) (reply : Http.Reply)
  | logout
  | forceLogin
  | delete (id : String)
  | setField (field : Field) (value : String)
  | save
  | poll
  | wait
  | respond (index : Nat) (reply : Http.Reply)
  | late (delivery : Delivery)
  | outside (storage : Storage) (network : Http.Network)

/-- The deliveries among the actions, and all others. -/
@[elab_as_elim]
theorem Action.delivery_cases {motive : Action → Prop} (poll : motive .poll) (wait : motive .wait)
    (other : ∀ action, action ≠ .poll → action ≠ .wait → motive action) (action : Action) :
    motive action := by
  by_cases hpoll : action = .poll
  · rw [hpoll]
    exact poll
  · by_cases hwait : action = .wait
    · rw [hwait]
      exact wait
    · exact other action hpoll hwait

/-- What cannot be done leaves the console as it is. -/
def step (console : Console) : Action → Console
  | .navigate path => console.navigate path
  | .navigateTo route => console.navigateTo route
  | .login username password reply => (console.login username password reply).2
  | .logout => console.logout
  | .forceLogin => console.forceLogin
  | .delete id => (console.delete? id).getD console
  | .setField field value => (console.setField? field value).getD console
  | .save => console.save?.getD console
  | .poll => console.poll.2
  | .wait => (console.next?.map Prod.snd).getD console
  | .respond index reply => (console.respond? index reply).getD console
  | .late delivery =>
    if delivery.generation < console.scope.generation then
      { console with results := console.results ++ [delivery] }
    else console
  | .outside storage network =>
    { console with outside := { console.outside with storage, network } }

def run (console : Console) (actions : List Action) : Console :=
  actions.foldl step console

@[simp]
theorem run_nil (console : Console) : console.run [] = console := rfl

@[simp]
theorem run_cons (console : Console) (action : Action) (rest : List Action) :
    console.run (action :: rest) = (console.step action).run rest := rfl

/-- What every step keeps holds after every run. -/
theorem run_induction {motive : Console → Prop}
    (hstep : ∀ console action, motive console → motive (console.step action)) {console : Console}
    (hstart : motive console) (actions : List Action) : motive (console.run actions) := by
  induction actions generalizing console with
  | nil => exact hstart
  | cons action rest ih => exact ih (hstep console action hstart)

/-! ### Requests -/

section Begin

variable (task : Task) (console : Console)

/-- What becomes of a task depends on whether its request can be sent. -/
theorem begin_eq :
    ∃ log, console.begin task =
      match (console.client.send task.request console.outside).1 with
      | .ok sent =>
        { console with
          outside := { console.outside with log, sent := console.outside.sent ++ [sent] }
          inFlight := console.inFlight ++ [⟨console.scope.generation, task, sent⟩] }
      | .error error =>
        { console with
          outside := { console.outside with log }
          results := console.results ++ [⟨console.scope.generation, task.failed error⟩] } := by
  obtain ⟨log, hsend⟩ := console.client.send_snd task.request console.outside
  refine ⟨log, ?_⟩
  unfold begin
  generalize console.client.send task.request console.outside = result at hsend
  obtain ⟨sent | sent, outside⟩ := result
  · dsimp only at hsend ⊢
    rw [hsend]
    simp [Except.toOption]
  · dsimp only at hsend ⊢
    rw [hsend]
    rfl

/-- A task that is begun is in flight, or has failed already. -/
theorem begin_cases :
    (∃ log sent, console.begin task =
      { console with
        outside := { console.outside with log, sent := console.outside.sent ++ [sent] }
        inFlight := console.inFlight ++ [⟨console.scope.generation, task, sent⟩] }) ∨
    ∃ log error, console.begin task =
      { console with
        outside := { console.outside with log }
        results := console.results ++ [⟨console.scope.generation, task.failed error⟩] } := by
  obtain ⟨log, hbegin⟩ := begin_eq task console
  cases hsend : (console.client.send task.request console.outside).1 with
  | ok sent => exact .inl ⟨log, sent, by rw [hbegin, hsend]⟩
  | error error => exact .inr ⟨log, error, by rw [hbegin, hsend]⟩

@[simp]
theorem begin_route : (console.begin task).route = console.route := by
  rcases begin_cases task console with ⟨log, sent, h⟩ | ⟨log, error, h⟩ <;> rw [h]

@[simp]
theorem begin_view : (console.begin task).view = console.view := by
  rcases begin_cases task console with ⟨log, sent, h⟩ | ⟨log, error, h⟩ <;> rw [h]

@[simp]
theorem begin_session : (console.begin task).session = console.session := by
  rcases begin_cases task console with ⟨log, sent, h⟩ | ⟨log, error, h⟩ <;> rw [h]

@[simp]
theorem begin_scope : (console.begin task).scope = console.scope := by
  rcases begin_cases task console with ⟨log, sent, h⟩ | ⟨log, error, h⟩ <;> rw [h]

@[simp]
theorem begin_loginRedirects : (console.begin task).loginRedirects = console.loginRedirects := by
  rcases begin_cases task console with ⟨log, sent, h⟩ | ⟨log, error, h⟩ <;> rw [h]

theorem begin_results : ∃ failed, (console.begin task).results = console.results ++ failed := by
  rcases begin_cases task console with ⟨log, sent, h⟩ | ⟨log, error, h⟩
  · exact ⟨[], by rw [h, List.append_nil]⟩
  · exact ⟨_, by rw [h]⟩

theorem begin_sent : ∃ sent, (console.begin task).outside.sent = console.outside.sent ++ sent := by
  rcases begin_cases task console with ⟨log, sent, h⟩ | ⟨log, error, h⟩
  · exact ⟨[sent], by rw [h]⟩
  · exact ⟨[], by rw [h, List.append_nil]⟩

end Begin

/-! ### Entering a view -/

section Enter

variable (route : Route) (returnTo : Option Route) (console : Console)

/-- The console in a view of which nothing has been loaded yet. -/
def opened : Console :=
  { console with
    route
    view := .ofRoute route returnTo
    scope := console.scope.next
    inFlight := [] }

theorem enter_eq : console.enter route returnTo =
    match Task.ofRoute? route with
    | some task => (console.opened route returnTo).begin task
    | none => console.opened route returnTo := rfl

/-- A view is opened, and at most one task is begun in it. -/
theorem enter_cases :
    console.enter route returnTo = console.opened route returnTo ∨
    ∃ task, Task.ofRoute? route = some task ∧
      console.enter route returnTo = (console.opened route returnTo).begin task := by
  cases h : Task.ofRoute? route with
  | none => exact .inl (by rw [enter_eq, h])
  | some task => exact .inr ⟨task, rfl, by rw [enter_eq, h]⟩

@[simp]
theorem enter_route : (console.enter route returnTo).route = route := by
  rcases enter_cases route returnTo console with h | ⟨task, -, h⟩ <;> simp [h, opened]

@[simp]
theorem enter_view : (console.enter route returnTo).view = .ofRoute route returnTo := by
  rcases enter_cases route returnTo console with h | ⟨task, -, h⟩ <;> simp [h, opened]

@[simp]
theorem enter_session : (console.enter route returnTo).session = console.session := by
  rcases enter_cases route returnTo console with h | ⟨task, -, h⟩ <;> simp [h, opened]

@[simp]
theorem enter_generation :
    (console.enter route returnTo).scope.generation = console.scope.generation + 1 := by
  rcases enter_cases route returnTo console with h | ⟨task, -, h⟩ <;>
    simp [h, opened, Scope.next, Scope.opened]

@[simp]
theorem enter_loginRedirects :
    (console.enter route returnTo).loginRedirects = console.loginRedirects := by
  rcases enter_cases route returnTo console with h | ⟨task, -, h⟩ <;> simp [h, opened]

theorem enter_results :
    ∃ failed, (console.enter route returnTo).results = console.results ++ failed := by
  rcases enter_cases route returnTo console with h | ⟨task, -, h⟩
  · exact ⟨[], by rw [h, List.append_nil]; rfl⟩
  · obtain ⟨failed, hfailed⟩ := begin_results task (console.opened route returnTo)
    exact ⟨failed, by rw [h, hfailed]; rfl⟩

end Enter

/-- The view that a navigation enters, with its way back. -/
def destination (console : Console) (route : Route) : Route × Option Route :=
  match route.admission console.session.isSignedIn with
  | .show route => (route, none)
  | .loginFirst returnTo => (.login, some returnTo)

theorem navigateTo_eq (route : Route) (console : Console) :
    ∃ log, console.navigateTo route =
      { console with outside := { console.outside with log } }.enter
        (console.destination route).1 (console.destination route).2 := by
  unfold navigateTo destination
  cases route.admission console.session.isSignedIn with
  | «show» route => exact ⟨console.outside.log, rfl⟩
  | loginFirst returnTo => exact ⟨_, rfl⟩

theorem destination_signedIn {console : Console} (h : console.session.isSignedIn = true)
    (route : Route) : console.destination route = (route, none) := by
  simp [destination, Route.admission, h]

theorem destination_signedOut {console : Console} (h : console.session.isSignedIn = false)
    (route : Route) :
    console.destination route =
      (.login, if route.isProtected then some route else none) := by
  cases route <;> simp [destination, Route.admission, h, Route.isProtected]

/-! ### Ending the session -/

theorem signOut_eq (console : Console) :
    ∃ log, console.signOut =
      { console with
        session := console.session.announce .signedOut
        outside := { console.outside with storage := console.outside.storage.cleared, log } } := by
  obtain ⟨log, h⟩ := console.session.logout_eq console.outside
  refine ⟨log, ?_⟩
  unfold signOut
  rw [h]

/-- The console at the login view, without a session. -/
def signedOut (console : Console) (log : List Event) : Console :=
  { console with
    session := console.session.announce .signedOut
    outside := { console.outside with storage := console.outside.storage.cleared, log } }.opened
    .login none

theorem forceLogin_eq (console : Console) :
    ∃ log, console.forceLogin =
      { console.signedOut log with loginRedirects := console.loginRedirects + 1 } := by
  obtain ⟨log, h⟩ := signOut_eq
    { console.note (.loginForced console.route) with loginRedirects := console.loginRedirects + 1 }
  refine ⟨log, ?_⟩
  change opened .login none (signOut
    { console.note (.loginForced console.route) with
      loginRedirects := console.loginRedirects + 1 }) = _
  rw [h]
  rfl

theorem logout_eq (console : Console) : ∃ log, console.logout = console.signedOut log := by
  obtain ⟨log, h⟩ := signOut_eq console
  refine ⟨log, ?_⟩
  change console.signOut.opened .login none = _
  rw [h]
  rfl

/-! ### Signing in -/

/-- What a login sends: the request for a token. -/
def AsksForToken (console : Console) (username password : String) (sent : Sent) : Prop :=
  ∃ token, console.client.prepare (Client.tokenRequest username password) token
    console.outside.network = .ok sent

/-- A failed login changes only what is outside. A successful one also signs in, and goes on from
there. -/
theorem login_cases (username password : String) (reply : Http.Reply) (console : Console) :
    ∃ storage log posts,
      (∀ sent ∈ posts, console.AsksForToken username password sent) ∧
      let outside := { console.outside with storage, log, sent := console.outside.sent ++ posts }
      ((∃ error, console.login username password reply = (.error error, { console with outside })) ∨
        ∃ user token, console.login username password reply =
          (.ok user,
            { console with
              session := console.session.announce (.signedIn user token)
              outside }.navigateTo (console.view.returnTo?.getD .dashboard))) := by
  obtain ⟨storage, log, posts, houtside, hposts⟩ :=
    Session.login_outside console.client username password reply console.session console.outside
  refine ⟨storage, log, posts,
    fun sent hsent => Client.prepare_of_send_eq_ok (hposts sent hsent), ?_⟩
  unfold login
  rcases Session.login_cases console.client username password reply console.session
    console.outside with ⟨error, hresult, hsession⟩ | ⟨user, token, hresult, hsession⟩
  · left
    refine ⟨error, ?_⟩
    dsimp only
    rw [hresult, hsession, houtside]
  · right
    refine ⟨user, token, ?_⟩
    dsimp only
    rw [hresult, hsession, houtside]

/-! ### Changing what is shown -/

theorem setField?_eq {field : Field} {value : String} {console console' : Console}
    (h : console.setField? field value = some console') :
    console' = { console with view := console.view.after (.edit field value) } := by
  obtain ⟨view, hview, rfl⟩ := Option.map_eq_some_iff.mp h
  simp [View.after, hview]

theorem save?_eq {console console' : Console} (h : console.save? = some console') :
    ∃ kind id record notice, console.view = .detail kind id (some record) notice ∧
      console' =
        { console.begin (.update kind id record) with view := console.view.after .save } := by
  unfold save? at h
  split at h
  · next kind id record notice hview =>
    refine ⟨kind, id, record, notice, hview, ?_⟩
    rw [← Option.some.inj h, begin_view]
    rfl
  · cases h

/-! ### Results -/

/-- A result changes the view and nothing else but the log, unless it is a rejection. -/
theorem apply_eq {outcome : Outcome} (h : outcome.isRejection = false) (console : Console) :
    ∃ log, console.apply outcome =
      { console with
        view := console.view.afterResult outcome
        outside := { console.outside with log } } := by
  cases outcome with
  | loaded data =>
    simp only [apply, View.afterResult]
    split
    · next view hview => exact ⟨console.outside.log, by simp [hview]⟩
    · next hview => exact ⟨_, by rw [hview]; rfl⟩
  | deleted kind id =>
    simp only [apply, View.afterResult]
    split
    · next view hview => exact ⟨_, by rw [hview]; rfl⟩
    · next hview => exact ⟨console.outside.log, by simp [hview]⟩
  | updated kind id => exact ⟨_, rfl⟩
  | failed action error =>
    cases error
    case unauthorized => cases h
    all_goals exact ⟨_, rfl⟩

theorem apply_rejection {outcome : Outcome} (h : outcome.isRejection = true) (console : Console) :
    console.apply outcome = console.forceLogin := by
  cases outcome with
  | loaded data | deleted kind id | updated kind id => cases h
  | failed action error =>
    cases error
    case unauthorized => rfl
    all_goals cases h

theorem deliver_current {delivery : Delivery} {console : Console}
    (h : delivery.generation = console.scope.generation) :
    console.deliver delivery = (true, console.apply delivery.outcome) := by
  simp [deliver, h]

theorem deliver_rejection {delivery : Delivery} {console : Console}
    (hcurrent : delivery.generation = console.scope.generation)
    (hrejection : delivery.outcome.isRejection = true) :
    ∃ log, console.deliver delivery =
      (true, { console.signedOut log with loginRedirects := console.loginRedirects + 1 }) := by
  obtain ⟨log, hforced⟩ := forceLogin_eq console
  exact ⟨log, by rw [deliver_current hcurrent, apply_rejection hrejection, hforced]⟩

theorem deliver_kept {delivery : Delivery} {console : Console}
    (hcurrent : delivery.generation = console.scope.generation)
    (hrejection : delivery.outcome.isRejection = false) :
    ∃ log, console.deliver delivery =
      (true,
        { console with
          view := console.view.afterResult delivery.outcome
          outside := { console.outside with log } }) := by
  obtain ⟨log, happly⟩ := apply_eq hrejection console
  exact ⟨log, by rw [deliver_current hcurrent, happly]⟩

theorem deliver_stale {delivery : Delivery} {console : Console}
    (h : delivery.generation ≠ console.scope.generation) :
    console.deliver delivery = (false, console) := by
  simp [deliver, h]

/-- A result that is delivered ends the session, changes the view, or is dropped. -/
theorem deliver_cases (delivery : Delivery) (console : Console) :
    (∃ log, delivery.generation = console.scope.generation ∧
      delivery.outcome.isRejection = true ∧
      console.deliver delivery =
        (true, { console.signedOut log with loginRedirects := console.loginRedirects + 1 })) ∨
    (∃ log, delivery.generation = console.scope.generation ∧
      delivery.outcome.isRejection = false ∧
      console.deliver delivery =
        (true,
          { console with
            view := console.view.afterResult delivery.outcome
            outside := { console.outside with log } })) ∨
    (delivery.generation ≠ console.scope.generation ∧
      console.deliver delivery = (false, console)) := by
  by_cases hcurrent : delivery.generation = console.scope.generation
  · cases hrejection : delivery.outcome.isRejection with
    | true =>
      obtain ⟨log, h⟩ := deliver_rejection hcurrent hrejection
      exact .inl ⟨log, hcurrent, rfl, h⟩
    | false =>
      obtain ⟨log, h⟩ := deliver_kept hcurrent hrejection
      exact .inr (.inl ⟨log, hcurrent, rfl, h⟩)
  · exact .inr (.inr ⟨hcurrent, deliver_stale hcurrent⟩)

/-- Applying a result begins nothing, so that no other result comes of it at once. -/
@[simp]
theorem deliver_results (delivery : Delivery) (console : Console) :
    (console.deliver delivery).2.results = console.results := by
  rcases deliver_cases delivery console with
    ⟨log, -, -, h⟩ | ⟨log, -, -, h⟩ | ⟨-, h⟩
  · rw [h]
    rfl
  · rw [h]
  · rw [h]

/-- The console after several results, the first of them first. -/
def deliverEach (console : Console) (deliveries : List Delivery) : Console :=
  deliveries.foldl (fun console delivery => (console.deliver delivery).2) console

@[simp]
theorem deliverEach_cons (console : Console) (delivery : Delivery) (rest : List Delivery) :
    console.deliverEach (delivery :: rest) = (console.deliver delivery).2.deliverEach rest := rfl

@[simp]
theorem deliverEach_results (console : Console) (deliveries : List Delivery) :
    (console.deliverEach deliveries).results = console.results := by
  induction deliveries generalizing console with
  | nil => rfl
  | cons delivery rest ih => rw [deliverEach_cons, ih, deliver_results]

theorem deliverAll_snd (applied : Nat) (console : Console) (deliveries : List Delivery) :
    (deliverAll applied console deliveries).2 = console.deliverEach deliveries := by
  induction deliveries generalizing applied console with
  | nil => rfl
  | cons delivery rest ih => exact ih _ _

theorem poll_snd (console : Console) :
    console.poll.2 = { console with results := [] }.deliverEach console.results :=
  deliverAll_snd 0 _ _

theorem step_wait_nil {console : Console} (h : console.results = []) :
    console.step .wait = console := by
  simp [step, next?, h]

theorem step_wait_cons {console : Console} {delivery : Delivery} {rest : List Delivery}
    (h : console.results = delivery :: rest) :
    console.step .wait = ({ console with results := rest }.deliver delivery).2 := by
  simp [step, next?, h]

/-- What every delivery keeps is kept by all of them. -/
theorem deliverEach_induction {motive : Console → Prop}
    (hdeliver : ∀ console delivery, motive console → motive (console.deliver delivery).2)
    {console : Console} (hstart : motive console) (deliveries : List Delivery) :
    motive (console.deliverEach deliveries) := by
  induction deliveries generalizing console with
  | nil => exact hstart
  | cons delivery rest ih => exact ih (hdeliver console delivery hstart)

/-- A reply makes a result of a request in flight. -/
theorem respond?_of_pending {index : Nat} {pending : Pending} {console : Console}
    (h : console.inFlight[index]? = some pending) (reply : Http.Reply) :
    ∃ log, console.respond? index reply = some
      { console with
        outside := { console.outside with log }
        inFlight := console.inFlight.eraseIdx index
        results := console.results ++
          [⟨pending.generation, pending.task.outcome (Response.ofReply reply)⟩] } := by
  obtain ⟨log, hreceive⟩ := Client.receive_snd pending.sent reply console.outside
  have hresult : Client.receive pending.sent reply console.outside =
      (Response.ofReply reply, { console.outside with log }) :=
    Prod.ext (Client.receive_fst _ _ _) hreceive
  refine ⟨log, ?_⟩
  unfold respond?
  rw [h]
  dsimp only
  rw [hresult]

theorem respond?_of_none {index : Nat} {console : Console} (h : console.inFlight[index]? = none)
    (reply : Http.Reply) : console.respond? index reply = none := by
  unfold respond?
  rw [h]

theorem respond?_eq {index : Nat} {reply : Http.Reply} {console console' : Console}
    (h : console.respond? index reply = some console') :
    ∃ pending log, console.inFlight[index]? = some pending ∧ console' =
      { console with
        outside := { console.outside with log }
        inFlight := console.inFlight.eraseIdx index
        results := console.results ++
          [⟨pending.generation, pending.task.outcome (Response.ofReply reply)⟩] } := by
  cases hpending : console.inFlight[index]? with
  | none =>
    rw [respond?_of_none hpending] at h
    cases h
  | some pending =>
    obtain ⟨log, hrespond⟩ := respond?_of_pending hpending reply
    rw [hrespond] at h
    exact ⟨pending, log, rfl, (Option.some.inj h).symm⟩

end Console

end IdentityConsole
