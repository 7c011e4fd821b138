import IdentityConsole.Proofs.Console.Effect

/-!
# Signed out means at the login view

However its operations, the replies and the faults of the storage follow on each other: a console
that is signed out stands at the login view and sends nothing but the requests for a token of its
logins; it always shows the view of its route; and a login view leads back to a protected route
only, so that a login that succeeds leaves it.
-/

namespace IdentityConsole.Console

structure Guarded (console : Console) : Prop where
  view_route : console.view.route = console.route
  route_of_signedOut : console.session.isSignedIn = false → console.route = .login
  returnTo_protected : ∀ route, console.view.returnTo? = some route → route.isProtected = true

namespace Guarded

/-- What neither navigates nor touches the session keeps a console guarded. -/
theorem of_view {console console' : Console} (h : console.Guarded)
    (hview : console'.view.route = console.view.route)
    (hreturnTo : console'.view.returnTo? = console.view.returnTo?)
    (hroute : console'.route = console.route) (hsession : console'.session = console.session) :
    console'.Guarded where
  view_route := by rw [hview, hroute, h.view_route]
  route_of_signedOut := by
    rw [hsession, hroute]
    exact h.route_of_signedOut
  returnTo_protected := by
    rw [hreturnTo]
    exact h.returnTo_protected

theorem of_change {console console' : Console} (h : console.Guarded) (change : Change)
    (hview : console'.view = console.view.after change)
    (hroute : console'.route = console.route) (hsession : console'.session = console.session) :
    console'.Guarded :=
  h.of_view (by rw [hview, View.route_after]) (by rw [hview, View.returnTo?_after]) hroute hsession

/-- Where a session is needed it is there: a signed-out console is not at any other route. -/
theorem isSignedIn_of_route_ne {console : Console} (h : console.Guarded)
    (hroute : console.route ≠ .login) : console.session.isSignedIn = true := by
  cases hsession : console.session.isSignedIn with
  | false => exact absurd (h.route_of_signedOut hsession) hroute
  | true => rfl

theorem login_of_signedOut {console : Console} (h : console.Guarded)
    (hsession : console.session.isSignedIn = false) :
    console.view = .login console.view.returnTo? :=
  View.eq_ofRoute_of_route_eq_login (h.view_route.trans (h.route_of_signedOut hsession))

end Guarded

theorem guarded_enter (console : Console) {route : Route} {returnTo : Option Route}
    (hroute : console.session.isSignedIn = false → route = .login)
    (hreturnTo : ∀ back, (View.ofRoute route returnTo).returnTo? = some back →
      back.isProtected = true) :
    (console.enter route returnTo).Guarded where
  view_route := by rw [enter_view, enter_route, View.route_ofRoute]
  route_of_signedOut := by
    rw [enter_session, enter_route]
    exact hroute
  returnTo_protected := by
    rw [enter_view]
    exact hreturnTo

theorem guarded_enter_destination (route : Route) (log : List Event) (console : Console) :
    ({ console with outside := { console.outside with log } }.enter
      (console.destination route).1 (console.destination route).2).Guarded := by
  cases hsession : console.session.isSignedIn with
  | true =>
    rw [destination_signedIn hsession]
    refine guarded_enter _ (fun hout => ?_) fun back hback => ?_
    · exact absurd hout (by simp [hsession])
    · rw [View.returnTo?_ofRoute_none] at hback
      cases hback
  | false =>
    rw [destination_signedOut hsession]
    refine guarded_enter _ (fun _ => rfl) fun back hback => ?_
    rw [View.returnTo?_ofRoute_login] at hback
    split at hback
    · next hprotected =>
      cases hback
      exact hprotected
    · cases hback

theorem guarded_of_login {console : Console} (hroute : console.route = .login)
    (hview : console.view = .login none) : console.Guarded where
  view_route := by rw [hview, hroute]; rfl
  route_of_signedOut _ := hroute
  returnTo_protected back hback := by
    rw [hview] at hback
    cases hback

theorem guarded_start (address : String) (outside : Outside) : (start address outside).Guarded :=
  guarded_of_login rfl rfl

theorem Guarded.deliver {console : Console} (h : console.Guarded) (delivery : Delivery) :
    (console.deliver delivery).2.Guarded := by
  rcases deliver_cases delivery console with
    ⟨log, -, -, hdeliver⟩ | ⟨log, -, -, hdeliver⟩ | ⟨-, hdeliver⟩
  · rw [hdeliver]
    exact guarded_of_login rfl rfl
  · rw [hdeliver]
    exact h.of_change (.result delivery.outcome) rfl rfl rfl
  · rw [hdeliver]
    exact h

theorem Guarded.effect {console later : Console} {action : Action} (h : console.Guarded)
    (heffect : console.Effect action later) : later.Guarded := by
  cases heffect with
  | nothing => exact h
  | navigate path log => exact guarded_enter_destination _ log console
  | navigateTo route log => exact guarded_enter_destination route log console
  | loginFailed => exact h.of_view rfl rfl rfl rfl
  | signedIn =>
    refine guarded_enter _ (fun hout => ?_) fun back hback => ?_
    · cases hout
    · rw [View.returnTo?_ofRoute_none] at hback
      cases hback
  | logout log => exact guarded_of_login rfl rfl
  | forceLogin log => exact guarded_of_login rfl rfl
  | delete id hkind =>
    exact h.of_view (by rw [begin_view]) (by rw [begin_view]) (begin_route ..) (begin_session ..)
  | @setField field value hedit => exact h.of_change (.edit field value) rfl rfl rfl
  | save hview => exact h.of_change .save rfl (begin_route ..) (begin_session ..)
  | respond reply log hpending => exact h.of_view rfl rfl rfl rfl
  | late hlate => exact h.of_view rfl rfl rfl rfl
  | outside storage network => exact h.of_view rfl rfl rfl rfl

theorem Guarded.step {console : Console} (h : console.Guarded) (action : Action) :
    (console.step action).Guarded := by
  cases action using Action.delivery_cases with
  | poll =>
    have hempty : { console with results := [] }.Guarded := h.of_view rfl rfl rfl rfl
    simp only [Console.step, poll_snd]
    exact deliverEach_induction (fun _ delivery h => h.deliver delivery) hempty console.results
  | wait =>
    cases hresults : console.results with
    | nil => rwa [step_wait_nil hresults]
    | cons delivery rest =>
      rw [step_wait_cons hresults]
      have hrest : { console with results := rest }.Guarded := h.of_view rfl rfl rfl rfl
      exact hrest.deliver delivery
  | other action hpoll hwait => exact h.effect (step_effect hpoll hwait console)

/-! ### What a console sends -/

/-- On its way to a later console it sends at most the request for a token of its login, and then
other requests only if it is signed in there. -/
def SendsGuarded (console : Console) (action : Action) (later : Console) : Prop :=
  ∃ posts others,
    later.outside.sent = console.outside.sent ++ posts ++ others ∧
    (∀ sent ∈ posts, ∃ username password reply,
      action = .login username password reply ∧ console.AsksForToken username password sent) ∧
    (others ≠ [] → later.session.isSignedIn = true)

theorem sendsGuarded_of_sent_eq {console later : Console} {action : Action}
    (h : later.outside.sent = console.outside.sent) : console.SendsGuarded action later :=
  ⟨[], [], by simp [h], by simp, fun hne => absurd rfl hne⟩

theorem sendsGuarded_of_route {console later : Console} {action : Action} {others : List Sent}
    (hlater : later.Guarded) (hsent : later.outside.sent = console.outside.sent ++ others)
    (hroute : others ≠ [] → later.route ≠ .login) : console.SendsGuarded action later :=
  ⟨[], others, by simpa using hsent, by simp,
    fun hne => hlater.isSignedIn_of_route_ne (hroute hne)⟩

/-- The login view loads nothing. -/
theorem enter_sent (route : Route) (returnTo : Option Route) (console : Console) :
    ∃ others, (console.enter route returnTo).outside.sent = console.outside.sent ++ others ∧
      (others ≠ [] → (console.enter route returnTo).route ≠ .login) := by
  rw [enter_route]
  rcases enter_cases route returnTo console with henter | ⟨task, htask, henter⟩
  · exact ⟨[], by simp [henter, opened], fun hne => absurd rfl hne⟩
  · obtain ⟨others, hothers⟩ := begin_sent task (console.opened route returnTo)
    refine ⟨others, by rw [henter, hothers]; rfl, fun _ hroute => ?_⟩
    rw [hroute] at htask
    cases htask

/-- Applying a result sends nothing, not even when it ends the session. -/
theorem deliver_sent (delivery : Delivery) (console : Console) :
    (console.deliver delivery).2.outside.sent = console.outside.sent := by
  rcases deliver_cases delivery console with
    ⟨log, -, -, hdeliver⟩ | ⟨log, -, -, hdeliver⟩ | ⟨-, hdeliver⟩
  · rw [hdeliver]
    rfl
  · rw [hdeliver]
  · rw [hdeliver]

theorem deliverEach_sent (console : Console) (deliveries : List Delivery) :
    (console.deliverEach deliveries).outside.sent = console.outside.sent :=
  deliverEach_induction (motive := fun later => later.outside.sent = console.outside.sent)
    (fun _ delivery h => (deliver_sent delivery _).trans h) rfl deliveries

theorem Guarded.sendsGuarded_effect {console later : Console} {action : Action}
    (h : console.Guarded) (heffect : console.Effect action later) :
    console.SendsGuarded action later := by
  have hlater := h.effect heffect
  cases heffect with
  | navigate path log | navigateTo route log =>
    obtain ⟨others, hsent, hroute⟩ := enter_sent _ _ _
    exact sendsGuarded_of_route hlater hsent hroute
  | @loginFailed username password reply storage log posts error hposts =>
    exact ⟨posts, [], by simp,
      fun sent hsent => ⟨username, password, reply, rfl, hposts sent hsent⟩,
      fun hne => absurd rfl hne⟩
  | @signedIn username password reply storage log posts user token hposts =>
    obtain ⟨others, hsent, hroute⟩ := enter_sent _ _ _
    exact ⟨posts, others, hsent,
      fun sent hsent => ⟨username, password, reply, rfl, hposts sent hsent⟩,
      fun hne => hlater.isSignedIn_of_route_ne (hroute hne)⟩
  | @delete kind id hkind =>
    obtain ⟨others, hsent⟩ := begin_sent (.delete kind id) console
    refine sendsGuarded_of_route hlater hsent fun _ hroute => ?_
    rw [begin_route, ← h.view_route, View.route_of_listKind? hkind] at hroute
    cases hroute
  | @save kind id record notice hview =>
    obtain ⟨others, hsent⟩ := begin_sent (.update kind id record) console
    refine sendsGuarded_of_route hlater hsent fun _ hroute => ?_
    rw [begin_route, ← h.view_route, hview] at hroute
    cases hroute
  | nothing | logout | forceLogin | setField | respond | late | outside =>
    exact sendsGuarded_of_sent_eq rfl

theorem Guarded.sendsGuarded {console : Console} (h : console.Guarded) (action : Action) :
    console.SendsGuarded action (console.step action) := by
  cases action using Action.delivery_cases with
  | poll =>
    refine sendsGuarded_of_sent_eq ?_
    simp only [Console.step, poll_snd]
    exact deliverEach_sent _ _
  | wait =>
    refine sendsGuarded_of_sent_eq ?_
    cases hresults : console.results with
    | nil => rw [step_wait_nil hresults]
    | cons delivery rest => rw [step_wait_cons hresults, deliver_sent]
  | other action hpoll hwait => exact h.sendsGuarded_effect (step_effect hpoll hwait console)

/-- A successful login ends where one wanted to go, which is not the login view again. -/
theorem Guarded.route_login {console : Console} (h : console.Guarded) {username password : String}
    {reply : Http.Reply} {user : Identity}
    (hlogin : (console.login username password reply).1 = .ok user) :
    (console.login username password reply).2.route = console.view.returnTo?.getD .dashboard ∧
      (console.login username password reply).2.route ≠ .login := by
  have heffect : console.Effect (.login username password reply)
      (console.login username password reply).2 :=
    step_effect (by rintro ⟨⟩) (by rintro ⟨⟩) console
  generalize (console.login username password reply).2 = later at heffect ⊢
  cases heffect with
  | nothing hentered => simp [entered?, hlogin] at hentered
  | loginFailed storage log posts error hposts hfailed =>
    rw [hfailed] at hlogin
    cases hlogin
  | signedIn =>
    rw [enter_route]
    refine ⟨rfl, fun hroute => ?_⟩
    cases hback : console.view.returnTo? with
    | none => simp [hback] at hroute
    | some back =>
      have hprotected := h.returnTo_protected back hback
      simp only [hback, Option.getD_some] at hroute
      rw [hroute] at hprotected
      cases hprotected

theorem guarded_run (address : String) (outside : Outside) (actions : List Action) :
    ((start address outside).run actions).Guarded :=
  run_induction (fun _ action h => h.step action) (guarded_start address outside) actions

/-- **The guard holds in every run**, whatever the storage holds and however it fails. -/
theorem run_guarded (address : String) (outside : Outside) (actions : List Action) :
    let console := (start address outside).run actions
    (console.session.isSignedIn = false →
      console.route = .login ∧ console.view = .login console.view.returnTo?) ∧
    (∀ action, console.SendsGuarded action (console.step action)) ∧
    console.view.route = console.route ∧
    (∀ back, (View.ofRoute console.route back).route = console.view.route) ∧
    (∀ back, console.view.returnTo? = some back → back.isProtected = true) ∧
    ∀ username password reply user, (console.login username password reply).1 = .ok user →
      (console.login username password reply).2.route = console.view.returnTo?.getD .dashboard ∧
      (console.login username password reply).2.route ≠ .login := by
  intro console
  have h : console.Guarded := guarded_run address outside actions
  refine ⟨fun hsession => ⟨h.route_of_signedOut hsession, h.login_of_signedOut hsession⟩,
    h.sendsGuarded, h.view_route, fun back => ?_, h.returnTo_protected,
    fun _ _ _ _ => h.route_login⟩
  rw [View.route_ofRoute, h.view_route]

end IdentityConsole.Console
