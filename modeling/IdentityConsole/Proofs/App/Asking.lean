import IdentityConsole.Proofs.App.Run
import IdentityConsole.Proofs.Console.Loading

/-!
# What a key asks of the server

Only keys ask for anything. A key deletes, saves, or submits the login form where it is the key for
that and there is something to delete, save or submit; and a key that enters a view loads it. No key
asks for two of these, and none for anything else.
-/

namespace IdentityConsole

theorem Task.isLoad_of_ofRoute? {route : Route} {task : Task} (h : ofRoute? route = some task) :
    task.isLoad = true := by
  cases route with
  | login | dashboard => cases h
  | list kind | detail kind id =>
    cases h
    rfl

theorem Task.method_of_isLoad {task : Task} (h : task.isLoad = true) :
    task.request.method = .get := by
  cases task with
  | loadList kind | loadRecord kind id => rfl
  | delete kind id | update kind id record => cases h

theorem Client.tokenRequests_of_complete {username password : String} (husername : username ≠ "")
    (hpassword : password ≠ "") (client : Client) (outside : Outside) :
    client.tokenRequests username password outside =
      (client.send (tokenRequest username password) outside).1.toOption.toList := by
  unfold tokenRequests
  rw [if_neg (not_or.mpr ⟨husername, hpassword⟩)]

namespace Console

/-- A view is kept, or another is entered and asked for. -/
inductive Moves (console : Console) (posts : List Sent) (later : Console) : Prop
  | stayed (hasks : console.Asks posts none later)
      (hgeneration : later.scope.generation = console.scope.generation)
  | entered (hasks : console.Asks posts (Task.ofRoute? later.view.route) later)
      (hgeneration : later.scope.generation = console.scope.generation + 1)

variable {console before later : Console}

namespace Moves

variable {posts : List Sent}

/-- It does not matter what is logged. -/
theorem relogged (h : console.Moves posts later) (log : List Event) :
    console.Moves posts (later.relogged log) := by
  cases h with
  | stayed h hgeneration => exact .stayed (h.congr rfl rfl rfl rfl rfl) hgeneration
  | entered h hgeneration => exact .entered (h.congr rfl rfl rfl rfl rfl) hgeneration

theorem refl (console : Console) : console.Moves [] console :=
  .stayed (.nothing (List.append_nil _).symm (.inl rfl) rfl) rfl

theorem enter (hclient : before.client = console.client)
    (hnetwork : before.outside.network = console.outside.network)
    (hsent : before.outside.sent = console.outside.sent ++ posts)
    (hresults : before.results = console.results)
    (hgeneration : before.scope.generation = console.scope.generation) (route : Route)
    (returnTo : Option Route) : console.Moves posts (before.enter route returnTo) := by
  refine .entered ?_ (by rw [enter_generation, hgeneration])
  rw [enter_view, View.route_ofRoute, enter_eq]
  cases Task.ofRoute? route with
  | none => exact .nothing hsent (.inr rfl) hresults
  | some task =>
    have hrequests := requests_begin task (before.opened route returnTo)
    refine .task ?_ ?_ ?_ ?_ ?_ (.inr rfl) ?_ hrequests
    · exact hclient
    · exact hnetwork
    · exact (begin_storage task _).symm
    · rw [begin_scope]
    · exact hsent
    · exact hresults

theorem navigateTo (route : Route) (console : Console) :
    console.Moves [] (console.navigateTo route) := by
  obtain ⟨log, h⟩ := navigateTo_eq route console
  rw [h]
  refine enter ?_ ?_ ?_ ?_ ?_ _ _
  · rfl
  · rfl
  · exact (List.append_nil _).symm
  · rfl
  · rfl

theorem logout (console : Console) : console.Moves [] console.logout := by
  obtain ⟨log, h⟩ := logout_eq console
  rw [h]
  exact .entered (.nothing (List.append_nil _).symm (.inr rfl) rfl) rfl

theorem login (username password : String) (reply : Http.Reply) (console : Console) :
    console.Moves (console.client.tokenRequests username password console.outside)
      (console.login username password reply).2 := by
  obtain ⟨storage, log, houtside⟩ :=
    Session.login_snd console.client username password reply console.session console.outside
  unfold Console.login
  generalize console.session.login console.client username password reply console.outside =
    signing at houtside
  obtain ⟨result, session, outside⟩ := signing
  dsimp only at houtside ⊢
  subst houtside
  cases result with
  | error error => exact .stayed (.nothing rfl (.inl rfl) rfl) rfl
  | ok user =>
    obtain ⟨log', hnavigate⟩ := navigateTo_eq (console.view.returnTo?.getD .dashboard) _
    dsimp only
    rw [hnavigate]
    refine enter ?_ ?_ ?_ ?_ ?_ _ _
    all_goals rfl

theorem setField (field : Field) (value : String) (console : Console) :
    console.Moves [] ((console.setField? field value).getD console) := by
  cases hedit : console.setField? field value with
  | none => exact refl console
  | some later =>
    rw [Option.getD_some, setField?_eq hedit]
    exact .stayed (.nothing (List.append_nil _).symm (.inl rfl) rfl) rfl

end Moves

end Console

namespace App

variable {app later : App} {key : Key} {reply : Http.Reply}

/-! ### Which keys ask -/

/-- What asks for a deletion determines it, and asks for nothing else. -/
theorem Deletes.unique {kind other : Kind} {id otherId : String} (h : app.Deletes key kind id)
    (h' : app.Deletes key other otherId) : other = kind ∧ otherId = id :=
  ⟨Option.some.inj (h'.kind.symm.trans h.kind), Option.some.inj (h'.row.symm.trans h.row)⟩

theorem Deletes.not_saves {kind other : Kind} {id otherId : String} {record : other.Record}
    (h : app.Deletes key kind id) : ¬ app.Saves key other otherId record := by
  intro h'
  obtain ⟨notice, hview⟩ := h'.view
  have hkind := h.kind
  rw [hview] at hkind
  cases hkind

theorem Deletes.not_submits {kind : Kind} {id : String} (h : app.Deletes key kind id) :
    ¬ app.Submits key := by
  intro h'
  obtain ⟨rows, hview⟩ := View.eq_list_of_listKind? h.kind
  have hlogin := h'.view
  rw [hview] at hlogin
  cases hlogin

theorem Saves.not_submits {kind : Kind} {id : String} {record : kind.Record}
    (h : app.Saves key kind id record) : ¬ app.Submits key := by
  intro h'
  obtain ⟨notice, hview⟩ := h.view
  have hlogin := h'.view
  rw [hview] at hlogin
  cases hlogin

/-- What a key asks for, by what it is pressed on: the requests for a token, and a task. -/
structure Asked (app : App) (key : Key) (later : App) (posts : List Sent) (task? : Option Task) :
    Prop where
  asks : app.console.Asks posts task? later.console
  submits : app.Submits key → posts =
    (app.console.client.send (Client.tokenRequest app.form.username app.form.password)
      app.console.outside).1.toOption.toList
  departs : app.Submits key → app.console.client.Departs
    (Client.tokenRequest app.form.username app.form.password) app.console.outside posts
  not_submits : ¬ app.Submits key → posts = []
  deletes : ∀ kind id, task? = some (.delete kind id) ↔ app.Deletes key kind id
  saves : ∀ kind id record, task? = some (.update kind id record) ↔ app.Saves key kind id record
  loads : ∀ task, task.isLoad = true → (task? = some task ↔
    later.console.scope.generation = app.console.scope.generation + 1 ∧
      Task.ofRoute? later.view.route = some task)

theorem Deletes.asked {kind : Kind} {id : String} (h : app.Deletes key kind id)
    (reply : Http.Reply) : app.Asked key (app.press key reply).2 [] (some (.delete kind id)) := by
  rw [h.press reply]
  refine ⟨Console.asks_begin _ _, fun hsubmits => absurd hsubmits h.not_submits,
    fun hsubmits => absurd hsubmits h.not_submits, fun _ => rfl, fun other otherId => ?_,
    fun other otherId record => ?_, fun task hload => ?_⟩
  · constructor
    · rintro ⟨⟩
      exact h
    · intro h'
      obtain ⟨rfl, rfl⟩ := h.unique h'
      rfl
  · exact iff_of_false (by rintro ⟨⟩) h.not_saves
  · constructor
    · rintro ⟨⟩
      cases hload
    · rintro ⟨hgeneration, -⟩
      rw [Console.begin_scope] at hgeneration
      omega

theorem Saves.asked {kind : Kind} {id : String} {record : kind.Record}
    (h : app.Saves key kind id record) (reply : Http.Reply) :
    app.Asked key (app.press key reply).2 [] (some (.update kind id record)) := by
  rw [h.press reply]
  refine ⟨?_, fun hsubmits => absurd hsubmits h.not_submits,
    fun hsubmits => absurd hsubmits h.not_submits, fun _ => rfl, fun other otherId => ?_,
    fun other otherId record' => ?_, fun task hload => ?_⟩
  · exact (Console.asks_begin (.update kind id record) app.console).congr rfl rfl rfl rfl rfl
  · exact iff_of_false (by rintro ⟨⟩) fun h' => h'.not_saves h
  · constructor
    · rintro ⟨⟩
      exact h
    · intro h'
      obtain ⟨notice, hview⟩ := h.view
      obtain ⟨notice', hview'⟩ := h'.view
      rw [hview] at hview'
      cases hview'
      rfl
  · constructor
    · rintro ⟨⟩
      cases hload
    · rintro ⟨hgeneration, -⟩
      have hsame : (app.console.begin (.update kind id record)).scope.generation =
          app.console.scope.generation := by rw [Console.begin_scope]
      exact absurd (hgeneration.symm.trans hsame) (Nat.succ_ne_self _)

/-- A key that neither deletes nor saves asks for what it enters. -/
theorem asked_of_moves {posts : List Sent} (hmoves : app.console.Moves posts later.console)
    (hsubmits : app.Submits key → posts =
      (app.console.client.send (Client.tokenRequest app.form.username app.form.password)
        app.console.outside).1.toOption.toList)
    (hsilent : ¬ app.Submits key → posts = [])
    (hdeletes : ∀ kind id, ¬ app.Deletes key kind id)
    (hsaves : ∀ kind id record, ¬ app.Saves key kind id record) :
    ∃ task?, app.Asked key later posts task? := by
  have hdeparts : app.Submits key → app.console.client.Departs
      (Client.tokenRequest app.form.username app.form.password) app.console.outside posts := by
    intro h
    rw [hsubmits h]
    exact Client.departs_departing _ _ _
  obtain ⟨hasks, hgeneration⟩ | ⟨hasks, hgeneration⟩ := hmoves
  · refine ⟨none, hasks, hsubmits, hdeparts, hsilent, fun kind id => ?_, fun kind id record => ?_,
      fun task hload => ?_⟩
    · exact iff_of_false (by rintro ⟨⟩) (hdeletes kind id)
    · exact iff_of_false (by rintro ⟨⟩) (hsaves kind id record)
    · refine iff_of_false (by rintro ⟨⟩) ?_
      rintro ⟨hentered, -⟩
      exact absurd (hentered.symm.trans hgeneration) (Nat.succ_ne_self _)
  · refine ⟨_, hasks, hsubmits, hdeparts, hsilent, fun kind id => ?_, fun kind id record => ?_,
      fun task hload => ?_⟩
    · refine iff_of_false (fun h => ?_) (hdeletes kind id)
      cases Task.isLoad_of_ofRoute? h
    · refine iff_of_false (fun h => ?_) (hsaves kind id record)
      cases Task.isLoad_of_ofRoute? h
    · exact (and_iff_right hgeneration).symm

theorem attemptLogin_moves (husername : app.form.username ≠ "") (hpassword : app.form.password ≠ "")
    (reply : Http.Reply) :
    app.console.Moves
      (app.console.client.tokenRequests app.form.username app.form.password app.console.outside)
      (app.attemptLogin reply).2.console := by
  have hmoves := Console.Moves.login app.form.username app.form.password reply app.console
  obtain ⟨error, log, -, h⟩ | ⟨user, log, config, configFile, status, -, h⟩ :=
    attemptLogin_cases husername hpassword reply
  · rw [h]
    exact hmoves.relogged log
  · rw [h]
    exact hmoves.relogged log

theorem commitEdit_moves (app : App) : app.console.Moves [] app.commitEdit.console := by
  unfold commitEdit
  split
  · exact .refl app.console
  · exact .setField _ _ app.console

theorem Pressed.moves {result : Bool × App} (h : app.Pressed key reply result)
    (hsubmits : ¬ app.Submits key) (hdeletes : ∀ kind id, ¬ app.Deletes key kind id)
    (hsaves : ∀ kind id record, ¬ app.Saves key kind id record) :
    app.console.Moves [] result.2.console := by
  cases h with
  | form | overlay | cursor | edit => exact .refl app.console
  | submitted h => exact absurd h hsubmits
  | committed => exact app.commitEdit_moves
  | navigated route => exact .navigateTo route app.console
  | signedOut => exact .logout app.console
  | deleted h => exact absurd h (hdeletes _ _)
  | saved h => exact absurd h (hsaves _ _ _)

/-- What any key asks for. -/
theorem press_asked (app : App) (key : Key) (reply : Http.Reply) :
    ∃ posts task?, app.Asked key (app.press key reply).2 posts task? := by
  by_cases hdeletes : ∃ kind id, app.Deletes key kind id
  · obtain ⟨kind, id, hdeletes⟩ := hdeletes
    exact ⟨_, _, hdeletes.asked reply⟩
  by_cases hsaves : ∃ kind id record, app.Saves key kind id record
  · obtain ⟨kind, id, record, hsaves⟩ := hsaves
    exact ⟨_, _, hsaves.asked reply⟩
  simp only [not_exists] at hdeletes hsaves
  by_cases hsubmits : app.Submits key
  · have hmoves := attemptLogin_moves hsubmits.username hsubmits.password reply
    rw [← hsubmits.press reply] at hmoves
    have hposts := Client.tokenRequests_of_complete hsubmits.username hsubmits.password
      app.console.client app.console.outside
    exact ⟨_, asked_of_moves hmoves (fun _ => hposts) (fun h => absurd hsubmits h) hdeletes hsaves⟩
  · have hmoves := (app.pressed key reply).moves hsubmits hdeletes hsaves
    exact ⟨_, asked_of_moves hmoves (fun h => absurd h hsubmits) (fun _ => rfl) hdeletes hsaves⟩

/-! ### What asks for nothing -/

theorem tick_quiet (app : App) : app.console.Quiet app.tick.console := by
  obtain ⟨log, h⟩ := app.tick_console
  have hquiet := Console.quiet_poll app.console
  rw [h]
  exact ⟨hquiet.sent, hquiet.inFlight, hquiet.results⟩

/-- But for keys, nothing that happens sends anything. -/
theorem step_sent_of_not_press {action : Action} (h : ∀ key reply, action ≠ .press key reply)
    (app : App) :
    (app.step action).console.outside.sent = app.console.outside.sent ∧
      (app.step action).console.inFlight.Sublist app.console.inFlight := by
  cases action with
  | press key reply => exact absurd rfl (h key reply)
  | tick =>
    have hquiet := app.tick_quiet
    refine ⟨hquiet.sent, ?_⟩
    rcases hquiet.inFlight with hkept | hended
    · exact hkept ▸ List.Sublist.refl _
    · exact hended ▸ List.nil_sublist _
  | respond index reply =>
    simp only [step, Console.step]
    cases hrespond : app.console.respond? index reply with
    | none => exact ⟨rfl, List.Sublist.refl _⟩
    | some console =>
      obtain ⟨pending, log, -, rfl⟩ := Console.respond?_eq hrespond
      exact ⟨rfl, List.eraseIdx_sublist _ _⟩
  | late delivery =>
    simp only [step, Console.step]
    split <;> exact ⟨rfl, List.Sublist.refl _⟩
  | outside storage network configFile => exact ⟨rfl, List.Sublist.refl _⟩

/-! ### Until it quits -/

/-- Whether what happens quits the app. -/
def quits (app : App) : Action → Bool
  | .press key reply => (app.press key reply).1
  | _ => false

/-- Nothing among the actions quits the app. -/
def Runs (app : App) : List Action → Prop
  | [] => True
  | action :: rest => app.quits action = false ∧ (app.step action).Runs rest

theorem Pressed.quitting {result : Bool × App} (h : app.Pressed key reply result)
    (hmode : result.2.mode = .quitting) : result.1 = true ∨ app.mode = .quitting := by
  cases h with
  | @form quits form mode hview hkept =>
    cases quits with
    | true => exact .inl rfl
    | false => exact .inr (hkept.symm.trans hmode)
  | submitted hsubmits =>
    obtain ⟨error, log, -, h⟩ | ⟨user, log, config, configFile, status, -, h⟩ :=
      attemptLogin_cases hsubmits.username hsubmits.password reply
    · rw [h] at hmode
      exact .inr hmode
    · rw [h] at hmode
      cases hmode
  | overlay hview hediting hquitting => exact hquitting hmode
  | cursor | deleted | saved => exact .inr hmode
  | committed =>
    unfold commitEdit at hmode
    split at hmode <;> cases hmode
  | edit | navigated | signedOut => cases hmode

theorem step_quitting {action : Action} (h : (app.step action).mode = .quitting) :
    app.quits action = true ∨ app.mode = .quitting := by
  cases action with
  | press key reply => exact (app.pressed key reply).quitting h
  | tick =>
    simp only [step, tick] at h
    split at h
    · exact .inr h
    · split at h
      · cases h
      · exact .inr h
  | respond | late | outside => exact .inr h

theorem Runs.mode_ne_quitting {actions : List Action} (h : app.Runs actions)
    (hmode : app.mode ≠ .quitting) : (app.run actions).mode ≠ .quitting := by
  induction actions generalizing app with
  | nil => exact hmode
  | cons action rest ih =>
    refine ih h.2 fun hquitting => ?_
    rcases step_quitting hquitting with hquits | hbefore
    · rw [h.1] at hquits
      cases hquits
    · exact hmode hbefore

/-! ### The opening -/

theorem start_sent (address : String) (outside : Outside) :
    (Console.start address outside).outside.sent = outside.sent := by
  unfold Console.start Session.restore
  cases Session.stored outside.storage with
  | ok state => rfl
  | error error => rfl

/-- Neither the dashboard nor the login view loads anything. -/
theorem opened_sent (address : String) (config : Config) (configFile : ConfigFile)
    (outside : Outside) :
    (opened address config configFile outside).console.outside.sent = outside.sent ∧
      (opened address config configFile outside).console.inFlight = [] ∧
      (opened address config configFile outside).console.results = [] := by
  have hparse : Route.parse "/dashboard" = .dashboard := by decide
  have hopened : (opened address config configFile outside).console =
      (Console.start address outside).navigateTo .dashboard := by
    rw [← hparse]
    rfl
  have hnone : Task.ofRoute?
      ((Console.start address outside).destination .dashboard).1 = none := by
    unfold Console.destination
    cases (Console.start address outside).session.isSignedIn <;> rfl
  obtain ⟨log, hnavigate⟩ := Console.navigateTo_eq .dashboard (Console.start address outside)
  rw [hopened, hnavigate, Console.enter_eq, hnone]
  exact ⟨start_sent address outside, rfl, rfl⟩

/-- **A key asks the server for just what it is the key for**, one request at most beside that of a
login, and nothing else that happens asks for anything. -/
theorem run_asked (address : String) (config : Config) (configFile : ConfigFile)
    (outside : Outside) (actions : List Action) :
    let start := opened address config configFile outside
    let app := start.run actions
    start.console.outside.sent = outside.sent ∧ start.console.inFlight = [] ∧
    start.console.results = [] ∧
    (start.Runs actions → app.mode ≠ .quitting) ∧
    app.console.Quiet app.tick.console ∧
    (∀ action, (∀ key reply, action ≠ .press key reply) →
      (app.step action).console.outside.sent = app.console.outside.sent ∧
      (app.step action).console.inFlight.Sublist app.console.inFlight) ∧
    (∀ key reply, ∃ posts task?, app.Asked key (app.press key reply).2 posts task?) ∧
    (∀ username password, (Client.tokenRequest username password).method = .post ∧
      (Client.tokenRequest username password).path = "/token") ∧
    (∀ kind id, (Task.delete kind id).request = .delete (kind.itemPath id)) ∧
    (∀ kind id record,
      (Task.update kind id record).request = .put (kind.itemPath id) (Record.toJson record)) ∧
    ∀ task : Task, task.isLoad = true → task.request.method = .get := by
  intro start app
  obtain ⟨hsent, hinFlight, hresults⟩ := opened_sent address config configFile outside
  exact ⟨hsent, hinFlight, hresults, fun h => h.mode_ne_quitting (by rintro ⟨⟩), app.tick_quiet,
    fun action h => step_sent_of_not_press h app, app.press_asked, fun _ _ => ⟨rfl, rfl⟩,
    fun _ _ => rfl, fun _ _ _ => rfl, fun task => Task.method_of_isLoad⟩

end App

end IdentityConsole
