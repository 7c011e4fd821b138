import IdentityConsole.Proofs.App.Press
import IdentityConsole.Proofs.Console.Poll

/-!
# Runs of the app

Keys, ticks and replies follow on each other in any order, and what is outside may change between
them. In every run mode, form and cursor fit the view that is shown.
-/

namespace IdentityConsole

namespace Console

/-- A console of which there is a chronicle, all visits of which have a property. -/
def Chronicled (holds : Visit → Prop) (console : Console) : Prop :=
  ∃ chronicle : Chronicle, chronicle.console = console ∧ chronicle.Faithful console.results ∧
    ∀ visit ∈ chronicle.visits, holds visit

namespace Chronicled

variable {holds : Visit → Prop} {console : Console}

theorem recorded (h : console.Chronicled holds) : console.Recorded := by
  obtain ⟨chronicle, hconsole, hfaithful, -⟩ := h
  exact ⟨chronicle, hconsole, hfaithful⟩

theorem step (inv : Visit.Invariant holds) (h : console.Chronicled holds) (action : Action) :
    (console.step action).Chronicled holds := by
  obtain ⟨chronicle, rfl, hfaithful, hholds⟩ := h
  refine ⟨chronicle.step action, chronicle.step_console action, ?_,
    inv.step_visits action hfaithful hholds⟩
  rw [← chronicle.step_console action]
  exact hfaithful.step action

theorem relogged (h : console.Chronicled holds) (log : List Event) :
    (console.relogged log).Chronicled holds := by
  obtain ⟨chronicle, rfl, hfaithful, hholds⟩ := h
  exact ⟨{ chronicle with console := chronicle.console.relogged log }, rfl,
    hfaithful.congr rfl rfl rfl rfl (List.Sublist.refl _), hholds⟩

theorem start (inv : Visit.Invariant holds) (address : String) (outside : Outside) :
    (start address outside).Chronicled holds :=
  ⟨.start address outside, rfl, .start address outside,
    inv.forall_visits_run address outside []⟩

/-- What the view of a record shows is what its visit does. -/
theorem shows (h : console.Chronicled Visit.Coherent) {kind : Kind} {id : String}
    {record : Option kind.Record} {notice : Option String}
    (hview : console.view = .detail kind id record notice) :
    ∃ visit : Visit, visit.Shows kind id record := by
  obtain ⟨chronicle, rfl, hfaithful, hcoherent⟩ := h
  have hroute : chronicle.visit.route = .detail kind id := by
    rw [← Visit.route_view, ← hfaithful.view, hview]
    rfl
  obtain ⟨shown, notice', hshown, hshows⟩ :=
    (hcoherent _ chronicle.visit_mem_visits).shows hroute
  rw [← hfaithful.view, hview] at hshown
  cases hshown
  exact ⟨chronicle.visit, hshows⟩

end Chronicled

@[simp]
theorem navigateTo_loginRedirects (route : Route) (console : Console) :
    (console.navigateTo route).loginRedirects = console.loginRedirects := by
  obtain ⟨log, h⟩ := navigateTo_eq route console
  rw [h, enter_loginRedirects]

theorem logout_loginRedirects (console : Console) :
    console.logout.loginRedirects = console.loginRedirects := by
  obtain ⟨log, h⟩ := logout_eq console
  rw [h]
  rfl

theorem login_loginRedirects (username password : String) (reply : Http.Reply)
    (console : Console) :
    (console.login username password reply).2.loginRedirects = console.loginRedirects := by
  obtain ⟨storage, log, posts, -, ⟨error, h⟩ | ⟨user, token, h⟩⟩ :=
    login_cases username password reply console
  · rw [h]
  · rw [h, navigateTo_loginRedirects]

theorem login_view_of_error {username password : String} {reply : Http.Reply} {console : Console}
    {error : LoginError} (h : (console.login username password reply).1 = .error error) :
    (console.login username password reply).2.view = console.view := by
  obtain ⟨storage, log, posts, -, ⟨error', hlogin⟩ | ⟨user, token, hlogin⟩⟩ :=
    login_cases username password reply console
  · rw [hlogin]
  · rw [hlogin] at h
    cases h

end Console

namespace App

/-- What happens to an app. The results of requests that were answered when their view was left come
late, and anybody may change what is outside. -/
inductive Action
  | press (key : Key) (reply : Http.Reply)
  | tick
  | respond (index : Nat) (reply : Http.Reply)
  | late (delivery : Delivery)
  | outside (storage : Storage) (network : Http.Network) (configFile : ConfigFile)

def step (app : App) : Action → App
  | .press key reply => (app.press key reply).2
  | .tick => app.tick
  | .respond index reply => { app with console := app.console.step (.respond index reply) }
  | .late delivery => { app with console := app.console.step (.late delivery) }
  | .outside storage network configFile =>
    { app with console := app.console.step (.outside storage network), configFile }

def run (app : App) (actions : List Action) : App :=
  actions.foldl step app

@[simp]
theorem run_nil (app : App) : app.run [] = app := rfl

@[simp]
theorem run_cons (app : App) (action : Action) (rest : List Action) :
    app.run (action :: rest) = (app.step action).run rest := rfl

theorem run_append (app : App) (actions later : List Action) :
    app.run (actions ++ later) = (app.run actions).run later :=
  List.foldl_append

theorem run_concat (app : App) (actions : List Action) (action : Action) :
    app.run (actions ++ [action]) = (app.run actions).step action := by
  rw [run_append]
  rfl

/-- What every step keeps holds after every run. -/
theorem run_induction {motive : App → Prop}
    (hstep : ∀ app action, motive app → motive (app.step action)) {app : App}
    (hstart : motive app) (actions : List Action) : motive (app.run actions) := by
  induction actions generalizing app with
  | nil => exact hstart
  | cons action rest ih => exact ih (hstep app action hstart)

/-- An app opens with the dashboard, or with the login view that leads there. -/
def opened (address : String) (config : Config) (configFile : ConfigFile) (outside : Outside) :
    App :=
  (start address config configFile outside).navigate "/dashboard"

variable {app later : App}

/-! ### Its console -/

/-- To its console an app does only what may happen to consoles, and notes more in the log. -/
theorem Pressed.console {key : Key} {reply : Http.Reply} {result : Bool × App}
    (h : app.Pressed key reply result) :
    ∃ done log, result.2.console = (app.console.run done).relogged log := by
  have hnothing : ∃ done log, app.console = (app.console.run done).relogged log :=
    ⟨[], app.console.outside.log, rfl⟩
  have hone : ∀ action, result.2.console = app.console.step action →
      ∃ done log, result.2.console = (app.console.run done).relogged log :=
    fun action h => ⟨[action], (app.console.step action).outside.log, h⟩
  cases h with
  | form | overlay | cursor | edit => exact hnothing
  | submitted hsubmits =>
    obtain ⟨error, log, -, h⟩ | ⟨user, log, config, configFile, status, -, h⟩ :=
      attemptLogin_cases hsubmits.username hsubmits.password reply
    · exact ⟨[.login app.form.username app.form.password reply], log, by rw [h]; rfl⟩
    · exact ⟨[.login app.form.username app.form.password reply], log, by rw [h]; rfl⟩
  | committed =>
    unfold commitEdit
    split
    · exact hnothing
    · next field _ => exact ⟨[.setField field app.editBuffer], _, rfl⟩
  | navigated route => exact hone (.navigateTo route) rfl
  | signedOut => exact hone .logout rfl
  | @deleted kind id hdeletes =>
    refine hone (.delete id) ?_
    have hkind : app.console.view.listKind? = some kind := hdeletes.kind
    rw [Console.step, Console.delete?_eq_some hkind, Option.getD_some]
  | @saved kind id record hsaves =>
    obtain ⟨notice, hview⟩ := hsaves.view
    refine hone .save ?_
    rw [Console.step, Console.save?_detail hview, Option.map_some, Option.getD_some]

theorem tick_console (app : App) :
    ∃ log, app.tick.console = app.console.poll.2.relogged log := by
  unfold tick
  dsimp only
  split
  · exact ⟨app.console.poll.2.outside.log, rfl⟩
  · split
    · exact ⟨_, rfl⟩
    · exact ⟨app.console.poll.2.outside.log, rfl⟩

theorem step_console (app : App) (action : Action) :
    ∃ done log, (app.step action).console = (app.console.run done).relogged log := by
  cases action with
  | press key reply => exact (app.pressed key reply).console
  | tick =>
    obtain ⟨log, h⟩ := app.tick_console
    exact ⟨[.poll], log, h⟩
  | respond index reply => exact ⟨[.respond index reply], _, rfl⟩
  | late delivery => exact ⟨[.late delivery], _, rfl⟩
  | outside storage network configFile => exact ⟨[.outside storage network], _, rfl⟩

theorem chronicled_step {holds : Visit → Prop} (inv : Visit.Invariant holds)
    (h : app.console.Chronicled holds) (action : Action) :
    (app.step action).console.Chronicled holds := by
  obtain ⟨done, log, hconsole⟩ := app.step_console action
  rw [hconsole]
  exact (Console.run_induction (fun _ action h => h.step inv action) h done).relogged log

theorem chronicled_run {holds : Visit → Prop} (inv : Visit.Invariant holds) (address : String)
    (config : Config) (configFile : ConfigFile) (outside : Outside) (actions : List Action) :
    ((opened address config configFile outside).run actions).console.Chronicled holds :=
  run_induction (motive := fun app => app.console.Chronicled holds)
    (fun _ action h => chronicled_step inv h action)
    ((Console.Chronicled.start inv address outside).step inv (.navigate "/dashboard")) actions

/-! ### Ticks -/

/-- The cursor keeps its place as far as there are rows or fields. -/
theorem refresh_selection (app : App) :
    app.refresh.selection = min app.selection (app.selectableCount - 1) := by
  simp only [refresh]
  split <;> omega

/-- What a tick comes to. An app that knows of all redirects to login is sent there as soon as there
is another; the third case is that of an app that had been told of it in advance. -/
inductive Ticked (app : App) : App → Prop
  | nothing (hnone : app.console.awaited = []) :
      Ticked app { app with console := { app.console with results := [] } }
  | refreshed {console : Console}
      (hconsole : console.Agrees
        { app.console with view := app.view.replay (app.console.awaited.map .result) }) :
      Ticked app { app with console }.refresh
  | foreseen {console : Console} (hview : console.view.isLogin = true)
      (hredirects : app.console.loginRedirects < app.seenRedirects) :
      Ticked app { app with console }.refresh
  | expired {console : Console} (hredirects : console.loginRedirects ≠ app.seenRedirects) :
      Ticked app { app with console }.showExpired

theorem ticked (app : App) : app.Ticked app.tick := by
  have hpolled := app.console.polled
  unfold tick
  generalize app.console.poll = result at hpolled
  cases hpolled with
  | nothing hnone => exact .nothing hnone
  | @shown applied console hpositive hkept hconsole =>
    dsimp only
    rw [if_neg (Nat.ne_of_gt hpositive)]
    split
    · next hredirects => exact .expired hredirects
    · exact .refreshed hconsole
  | @ended applied console hpositive hview hredirects =>
    dsimp only
    rw [if_neg (Nat.ne_of_gt hpositive)]
    split
    · next hredirects => exact .expired hredirects
    · next hsame => exact .foreseen hview (not_not.mp hsame ▸ hredirects)

/-! ### What every run keeps -/

/-- Mode, form and cursor fit the view shown, and the app knows of all redirects to login. -/
structure Sound (app : App) : Prop where
  seen : app.seenRedirects = app.console.loginRedirects
  mode : app.view.isLogin = true → app.mode = .normal ∨ app.mode = .quitting
  password : app.view.isLogin = false → app.form.password = ""
  selection : app.selection = 0 ∨ app.selection < app.selectableCount

theorem selectableCount_congr (h : later.view = app.view) :
    later.selectableCount = app.selectableCount := by
  unfold selectableCount
  rw [h]

theorem selectableCount_detail {kind : Kind} {id : String} {record : Option kind.Record}
    {notice : Option String} (hview : app.view = .detail kind id record notice) :
    app.selectableCount = (Record.fields kind).length := by
  unfold selectableCount
  rw [hview]
  rfl

@[simp]
theorem settle_password (app : App) : app.settle.form.password = app.form.password := by
  unfold settle
  dsimp only
  split <;> rfl

namespace Sound

/-- The app where a view is entered. -/
theorem settle (hseen : app.seenRedirects = app.console.loginRedirects)
    (hpassword : app.form.password = "") : app.settle.Sound where
  seen := hseen
  mode _ := .inl rfl
  password _ := by rw [settle_password, hpassword]
  selection := .inl rfl

/-- The app where the view stays, with as many rows or fields as before. -/
theorem of_stayed (h : app.Sound) (hseen : later.seenRedirects = later.console.loginRedirects)
    (hlogin : later.view.isLogin = app.view.isLogin)
    (hcount : later.selectableCount = app.selectableCount)
    (hmode : later.mode = app.mode ∨ later.mode = .normal)
    (hpassword : later.form.password = app.form.password)
    (hselection : later.selection = app.selection) : later.Sound where
  seen := hseen
  mode hview := by
    rcases hmode with hmode | hmode
    · rw [hmode]
      exact h.mode (hlogin ▸ hview)
    · exact .inl hmode
  password hview := by
    rw [hpassword]
    exact h.password (hlogin ▸ hview)
  selection := by
    rw [hselection, hcount]
    exact h.selection

theorem of_view (h : app.Sound) {console : Console} (hview : console.view = app.view)
    (hredirects : console.loginRedirects = app.console.loginRedirects) :
    ({ app with console } : App).Sound :=
  h.of_stayed (h.seen.trans hredirects.symm) (congrArg View.isLogin hview)
    (selectableCount_congr hview) (.inl rfl) rfl rfl

theorem opened (address : String) (config : Config) (configFile : ConfigFile) (outside : Outside) :
    (opened address config configFile outside).Sound := by
  refine settle (Eq.symm ?_) rfl
  exact Console.navigateTo_loginRedirects (.parse "/dashboard") (.start address outside)

theorem attemptLogin (h : app.Sound) {key : Key} (hsubmits : app.Submits key)
    (reply : Http.Reply) : (app.attemptLogin reply).2.Sound := by
  have hseen := h.seen.trans
    (Console.login_loginRedirects app.form.username app.form.password reply app.console).symm
  obtain ⟨error, log, hlogin, hlater⟩ | ⟨user, log, config, configFile, status, -, hlater⟩ :=
    attemptLogin_cases hsubmits.username hsubmits.password reply
  · have hview := Console.login_view_of_error hlogin
    rw [hlater]
    exact h.of_stayed hseen (congrArg View.isLogin hview) (selectableCount_congr hview) (.inl rfl)
      rfl rfl
  · rw [hlater]
    exact ⟨hseen, fun _ => .inl rfl, fun _ => rfl, .inl rfl⟩

theorem commitEdit (h : app.Sound) : app.commitEdit.Sound := by
  unfold App.commitEdit
  split
  · exact h.of_stayed h.seen rfl rfl (.inr rfl) rfl rfl
  · next field _ =>
    cases hview : app.console.view with
    | detail kind id record notice =>
      rw [Console.setField?_detail hview]
      cases record with
      | none => exact h.of_stayed h.seen rfl rfl (.inr rfl) rfl rfl
      | some record =>
        refine h.of_stayed h.seen ?_ ?_ (.inr rfl) rfl rfl
        · rw [App.view, App.view, hview]
          rfl
        · rw [selectableCount_detail hview]
          rfl
    | login returnTo | dashboard | list kind rows =>
      have hnone : app.console.setField? field app.editBuffer = none := by
        simp [Console.setField?, hview, View.setField?]
      rw [hnone]
      exact h.of_stayed h.seen rfl rfl (.inr rfl) rfl rfl

theorem pressed (h : app.Sound) {key : Key} {reply : Http.Reply} {result : Bool × App}
    (hpressed : app.Pressed key reply result) : result.2.Sound := by
  cases hpressed with
  | @form quits form mode hview hmode =>
    refine ⟨h.seen, fun _ => ?_, fun hleft => absurd hview (Bool.eq_false_iff.mp hleft),
      h.selection⟩
    subst hmode
    cases quits with
    | true => exact .inr rfl
    | false => exact h.mode hview
  | submitted hsubmits => exact h.attemptLogin hsubmits reply
  | overlay hview =>
    exact ⟨h.seen, fun hlogin => absurd hlogin (Bool.eq_false_iff.mp hview),
      fun _ => h.password hview, h.selection⟩
  | cursor hview hmode hselection =>
    refine ⟨h.seen, h.mode, h.password, ?_⟩
    rcases hselection with hle | hlt
    · rcases h.selection with hzero | hlt
      · exact .inl (Nat.eq_zero_of_le_zero (hzero ▸ hle))
      · exact .inr (Nat.lt_of_le_of_lt hle hlt)
    · exact .inr hlt
  | @edit field value hmode hfield hvalue =>
    have hview : app.view.isLogin = false := by
      cases hshown : app.view with
      | login returnTo =>
        rw [hshown] at hvalue
        cases hvalue
      | dashboard | list kind rows | detail kind id record notice => rfl
    exact ⟨h.seen, fun hlogin => absurd hlogin (Bool.eq_false_iff.mp hview), h.password,
      h.selection⟩
  | committed => exact h.commitEdit
  | navigated route hview =>
    exact settle (h.seen.trans (Console.navigateTo_loginRedirects route app.console).symm)
      (h.password hview)
  | signedOut => exact settle (h.seen.trans app.console.logout_loginRedirects.symm) rfl
  | @deleted kind id =>
    have hview := Console.begin_view (.delete kind id) app.console
    exact h.of_stayed (h.seen.trans (Console.begin_loginRedirects ..).symm)
      (congrArg View.isLogin hview) (selectableCount_congr hview) (.inl rfl) rfl rfl
  | @saved kind id record hsaves =>
    obtain ⟨notice, hview⟩ := hsaves.view
    refine h.of_stayed (h.seen.trans (Console.begin_loginRedirects ..).symm) ?_ ?_ (.inl rfl) rfl
      rfl
    · rw [hview]
      rfl
    · rw [selectableCount_detail hview]
      rfl

theorem ticked (h : app.Sound) (hticked : app.Ticked later) : later.Sound := by
  cases hticked with
  | nothing => exact h.of_view rfl rfl
  | @refreshed console hconsole =>
    have hlogin : console.view.isLogin = app.view.isLogin := by
      rw [Bool.eq_iff_iff, View.isLogin_iff_route, View.isLogin_iff_route, hconsole.view]
      dsimp only
      rw [View.route_replay]
    refine ⟨h.seen.trans hconsole.loginRedirects.symm, fun hview => ?_, fun hview => ?_, ?_⟩
    · exact h.mode (hlogin ▸ hview)
    · exact h.password (hlogin ▸ hview)
    · have hcount : ({ app with console } : App).refresh.selectableCount =
          ({ app with console } : App).selectableCount := rfl
      rw [refresh_selection, hcount]
      omega
  | foreseen hview hredirects => exact absurd h.seen (Nat.ne_of_gt hredirects)
  | expired => exact settle rfl rfl

theorem step (h : app.Sound) (action : Action) : (app.step action).Sound := by
  cases action with
  | press key reply => exact h.pressed (app.pressed key reply)
  | tick => exact h.ticked app.ticked
  | respond index reply =>
    simp only [App.step, Console.step]
    cases hrespond : app.console.respond? index reply with
    | none => exact h
    | some console =>
      obtain ⟨pending, log, -, rfl⟩ := Console.respond?_eq hrespond
      exact h.of_view rfl rfl
  | late delivery =>
    simp only [App.step, Console.step]
    split
    · exact h.of_view rfl rfl
    · exact h
  | outside storage network configFile =>
    exact h.of_stayed h.seen rfl rfl (.inl rfl) rfl rfl

end Sound

theorem sound_run (address : String) (config : Config) (configFile : ConfigFile)
    (outside : Outside) (actions : List Action) :
    ((opened address config configFile outside).run actions).Sound :=
  run_induction (fun _ action h => h.step action)
    (Sound.opened address config configFile outside) actions

end App

end IdentityConsole
