import IdentityConsole.Proofs.App.Run
import IdentityConsole.Proofs.Console.Guard
import IdentityConsole.Proofs.Route

/-!
# Paths that are typed

The prompt for a path opens with that of the route shown, which is read back as that route. Off the
login view the two keys that open and submit it therefore enter the same route again. On the login
view they fill in the form.
-/

namespace IdentityConsole

theorem Route.isProtected_readBack (route : Route) :
    route.readBack.isProtected = route.isProtected := by
  cases route with
  | login | dashboard | list kind => rfl
  | detail kind id =>
    rw [readBack]
    split <;> rfl

theorem View.isLogin_ofRoute {route : Route} (h : route ≠ .login) (returnTo : Option Route) :
    (View.ofRoute route returnTo).isLogin = false := by
  cases route with
  | login => exact absurd rfl h
  | dashboard | list kind | detail kind id => rfl

namespace Console

variable {console : Console}

theorem Guarded.relogged (h : console.Guarded) (log : List Event) :
    (console.relogged log).Guarded :=
  h.of_view rfl rfl rfl rfl

/-- A route is entered where its session is there. -/
theorem navigateTo_admitted {route : Route}
    (h : route.isProtected = true → console.session.isSignedIn = true) :
    (console.navigateTo route).route = route ∧
      (console.navigateTo route).view = .ofRoute route none := by
  have hdestination : console.destination route = (route, none) := by
    cases hsession : console.session.isSignedIn with
    | true => exact destination_signedIn hsession route
    | false =>
      rw [destination_signedOut hsession]
      cases route with
      | login => rfl
      | dashboard | list kind | detail kind id =>
        rw [h rfl] at hsession
        cases hsession
  obtain ⟨log, hnavigate⟩ := navigateTo_eq route console
  rw [hnavigate, hdestination, enter_route, enter_view]
  exact ⟨rfl, rfl⟩

theorem Guarded.isSignedIn_of_isProtected (h : console.Guarded)
    (hroute : console.route.isProtected = true) : console.session.isSignedIn = true := by
  refine h.isSignedIn_of_route_ne fun hlogin => ?_
  rw [hlogin] at hroute
  cases hroute

theorem Guarded.route_ne_login (h : console.Guarded) (hview : console.view.isLogin = false) :
    console.route ≠ .login := by
  intro hroute
  rw [View.isLogin_iff_route.mpr (h.view_route.trans hroute)] at hview
  cases hview

end Console

namespace App

variable {app : App}

theorem guarded_step (h : app.console.Guarded) (action : Action) :
    (app.step action).console.Guarded := by
  obtain ⟨done, log, hconsole⟩ := app.step_console action
  rw [hconsole]
  exact (Console.run_induction (fun _ action h => h.step action) h done).relogged log

theorem guarded_run (address : String) (config : Config) (configFile : ConfigFile)
    (outside : Outside) (actions : List Action) :
    ((opened address config configFile outside).run actions).console.Guarded :=
  run_induction (motive := fun app => app.console.Guarded) (fun _ action h => guarded_step h action)
    ((Console.guarded_start address outside).step (.navigate "/dashboard")) actions

/-- The app where a route was just entered. -/
structure Entered (app : App) (destination : Route) : Prop where
  route : app.console.route = destination
  view : app.view = .ofRoute destination none
  mode : app.mode = .normal
  selection : app.selection = 0

theorem entered_navigateTo {route : Route}
    (h : route.isProtected = true → app.console.session.isSignedIn = true) :
    (app.navigateTo route).Entered route := by
  obtain ⟨hroute, hview⟩ := Console.navigateTo_admitted h
  exact ⟨hroute, hview, rfl, rfl⟩

theorem submitPath_eq (app : App) :
    app.submitPath = { app with pathInput := "" }.navigateTo (.parse (Text.trim app.pathInput)) :=
  rfl

theorem startPathEntry_submitPath (app : App) :
    app.startPathEntry.submitPath =
      { app with pathInput := "" }.navigateTo (.parse app.console.route.path) := by
  have htrim : Text.trim app.startPathEntry.pathInput = app.console.route.path :=
    Route.trim_path app.console.route
  rw [submitPath_eq, htrim]
  rfl

theorem entered_startPathEntry_submitPath (h : app.console.Guarded) :
    app.startPathEntry.submitPath.Entered (.parse app.console.route.path) := by
  rw [startPathEntry_submitPath]
  refine entered_navigateTo fun hprotected => ?_
  rw [Route.parse_path, Route.isProtected_readBack] at hprotected
  exact h.isSignedIn_of_isProtected hprotected

theorem run_colon_enter (hview : app.view.isLogin = false)
    (hmode : app.mode.takesCommands = true) (reply reply' : Http.Reply) :
    app.run [.press (.char ':') reply, .press .enter reply'] =
      app.startPathEntry.submitPath := by
  have hopened : (app.press (.char ':') reply).2 = app.startPathEntry := by
    rw [press_of_takesCommands hview hmode]
    rfl
  have hshown : app.startPathEntry.view.isLogin = false := hview
  rw [run_cons, run_cons, run_nil, step, step, hopened]
  unfold press
  rw [hshown]
  rfl

theorem entered_of_typed (h : app.console.Guarded) (hview : app.view.isLogin = false)
    (hmode : app.mode = .enteringPath) (reply : Http.Reply) :
    (app.step (.press .enter reply)).Entered (.parse (Text.trim app.pathInput)) := by
  have hpress : (app.press .enter reply).2 = app.submitPath := by
    unfold press
    rw [hview, hmode]
    rfl
  rw [step, hpress, submitPath_eq]
  exact entered_navigateTo fun _ => h.isSignedIn_of_route_ne (h.route_ne_login hview)

theorem press_colon_onLogin (hview : app.view.isLogin = true) (reply : Http.Reply) :
    ∃ form, app.press (.char ':') reply = (false, { app with form }) := by
  have hpress : app.press (.char ':') reply = app.pressOnLogin (.char ':') reply := by
    unfold press
    rw [hview]
    rfl
  rw [hpress]
  unfold pressOnLogin changeForm
  cases app.form.focus with
  | username => exact ⟨_, rfl⟩
  | password => exact ⟨_, rfl⟩
  | button => exact ⟨app.form, rfl⟩

/-- **Routes and paths round-trip, and the prompt for a path leads back to where one is.** -/
theorem run_pathEntry (address : String) (config : Config) (configFile : ConfigFile)
    (outside : Outside) (actions : List Action) :
    let app := (opened address config configFile outside).run actions
    (∀ route : Route, (∀ kind, route ≠ .detail kind "") → Route.parse route.path = route) ∧
    (∀ kind, Route.parse (Route.detail kind "").path = .list kind) ∧
    (∀ location, Route.parse (Route.parse location).path = Route.parse location) ∧
    app.startPathEntry.submitPath.Entered (.parse app.console.route.path) ∧
    (app.view.isLogin = false → app.mode.takesCommands = true → ∀ reply reply',
      app.run [.press (.char ':') reply, .press .enter reply'] = app.startPathEntry.submitPath) ∧
    (app.view.isLogin = false → app.mode = .enteringPath → ∀ reply,
      let route := Route.parse (Text.trim app.pathInput)
      let led := app.step (.press .enter reply)
      led.Entered route ∧
      (route ≠ .login → ∀ reply' reply'',
        (led.run [.press (.char ':') reply', .press .enter reply'']).Entered route)) ∧
    (app.view.isLogin = true → ∀ reply,
      ∃ form, app.press (.char ':') reply = (false, { app with form })) := by
  intro app
  have h : app.console.Guarded := guarded_run address config configFile outside actions
  refine ⟨fun route hroute => by rw [Route.parse_path, Route.readBack_eq_self hroute],
    fun kind => by rw [Route.parse_path]; rfl, Route.parse_path_parse,
    entered_startPathEntry_submitPath h, run_colon_enter, fun hview hmode reply => ?_,
    press_colon_onLogin⟩
  have hled := entered_of_typed h hview hmode reply
  refine ⟨hled, fun hroute reply' reply'' => ?_⟩
  have hshown := View.isLogin_ofRoute hroute none
  rw [← hled.view] at hshown
  have hagain := entered_startPathEntry_submitPath (guarded_step h (.press .enter reply))
  rw [hled.route, Route.parse_path_parse] at hagain
  rw [run_colon_enter hshown (by rw [hled.mode]; rfl)]
  exact hagain

/-- Alice, whose name is kept, is about to go to the login view by its path. -/
def typingLogin : App :=
  (opened "http://identity" ⟨some "alice", none⟩
    (.inHome "/home/alice" .absent) (.aliceStored .never)).run
      ((Key.char ':' :: List.replicate 10 .backspace ++ "/login".toList.map Key.char).map
        fun key => .press key .dropped)

/-- The form of the login view takes the colon for her password, and Enter submits it. -/
theorem run_colon_enter_onLogin :
    typingLogin.pathInput = "/login" ∧
    (typingLogin.step (.press .enter .dropped)).Entered .login ∧
    ((typingLogin.step (.press .enter .dropped)).run
      [.press (.char ':') .dropped, .press .enter .granting]).console.route = .dashboard ∧
    ¬ ∀ (app : App) (reply reply' reply'' : Http.Reply), app.view.isLogin = false →
      app.mode = .enteringPath →
      ((app.step (.press .enter reply)).run
        [.press (.char ':') reply', .press .enter reply'']).Entered
          (.parse (Text.trim app.pathInput)) := by
  obtain ⟨hinput, hview, hmode, hlater⟩ :
      typingLogin.pathInput = "/login" ∧ typingLogin.view.isLogin = false ∧
      typingLogin.mode = .enteringPath ∧
      ((typingLogin.step (.press .enter .dropped)).run
        [.press (.char ':') .dropped, .press .enter .granting]).console.route = .dashboard := by
    decide +kernel
  have hparse : Route.parse (Text.trim typingLogin.pathInput) = .login := by
    rw [hinput]
    decide
  have hguarded : typingLogin.console.Guarded := guarded_run ..
  have hled := entered_of_typed hguarded hview hmode .dropped
  rw [hparse] at hled
  refine ⟨hinput, hled, hlater, fun h => ?_⟩
  have hentered := h typingLogin .dropped .dropped .granting hview hmode
  rw [hparse] at hentered
  have hroute := hentered.route
  rw [hlater] at hroute
  cases hroute

end App

end IdentityConsole
