import IdentityConsole.Proofs.Console.Guard
import IdentityConsole.Proofs.Console.Stored

/-!
# Tokens of ended sessions

The end of a session removes its token, but a removal may fail. The token is then still attached to
the request with which the next login asks for another one, and to no request beside those. Where it
was removed it is not used again at all.
-/

namespace IdentityConsole

open Storage (tokenKey userKey)

/-- The token is stored, whether or not it can be read at the moment. -/
def Storage.Holds (storage : Storage) (token : String) : Prop :=
  ∃ entries, storage.store.entries = .ok entries ∧ entries.get? tokenKey = some token

/-- The request with which a login asks for a token. -/
def Sent.IsLogin (sent : Sent) : Prop :=
  sent.method = .post ∧
    ∃ username password, sent.body = (Client.tokenRequest username password).body

namespace Storage

variable {storage later : Storage} {token : String}

theorem holds_of_get (h : storage.get tokenKey = .ok (some token)) : storage.Holds token := by
  unfold Storage.get at h
  split at h
  · cases h
  · rw [Store.get_eq] at h
    cases hentries : storage.store.entries with
    | error error =>
      rw [hentries] at h
      cases h
    | ok entries =>
      rw [hentries] at h
      exact ⟨entries, hentries, Except.ok.inj h⟩

theorem Holds.eq_of_set {other : String} (h : later.Holds token)
    (hset : storage.set tokenKey other = .ok later) : other = token := by
  obtain ⟨entries, hentries, htoken⟩ := h
  obtain ⟨before, -, -, hlater, -⟩ := Store.entries_of_set (set_eq_ok_iff.mp hset).2.1
  rw [hlater] at hentries
  cases hentries
  rw [Dict.get?_insert_self] at htoken
  exact Option.some.inj htoken

theorem Holds.of_set_user {text : String} (h : later.Holds token)
    (hset : storage.set userKey text = .ok later) : storage.Holds token := by
  obtain ⟨entries, hentries, htoken⟩ := h
  obtain ⟨before, hbefore, -, hlater, -⟩ := Store.entries_of_set (set_eq_ok_iff.mp hset).2.1
  rw [hlater] at hentries
  cases hentries
  rw [Dict.get?_insert_of_ne (by decide)] at htoken
  exact ⟨before, hbefore, htoken⟩

theorem not_holds_of_remove (hremove : storage.remove tokenKey = .ok later) :
    ¬later.Holds token := by
  rintro ⟨entries, hentries, htoken⟩
  obtain ⟨before, -, hlater, -⟩ := Store.entries_of_remove (remove_eq_ok_iff.mp hremove).2.1
  rw [hlater] at hentries
  cases hentries
  rw [Dict.get?_erase_self] at htoken
  cases htoken

theorem Holds.of_without_user (h : (storage.without userKey).Holds token) :
    storage.Holds token := by
  unfold without at h
  split at h
  · next later hremove =>
    obtain ⟨entries, hentries, htoken⟩ := h
    obtain ⟨before, hbefore, hlater, -⟩ :=
      Store.entries_of_remove (remove_eq_ok_iff.mp hremove).2.1
    rw [hlater] at hentries
    cases hentries
    rw [Dict.get?_erase_of_ne (by decide)] at htoken
    exact ⟨before, hbefore, htoken⟩
  · exact h

/-- A sign-out leaves a token only where it was, and where it could not be removed. -/
theorem Holds.of_cleared (h : storage.cleared.Holds token) : storage.Holds token := by
  have h := Holds.of_without_user h
  unfold without at h
  split at h
  · next hremove => exact absurd h (not_holds_of_remove hremove)
  · exact h

end Storage

namespace Session

theorem Persisted.not_holds {user : Identity} {token other : String} {storage later : Storage}
    (h : Persisted user other storage (.ok ()) later) (hne : other ≠ token) :
    ¬later.Holds token := by
  intro hholds
  cases h with
  | stored htoken huser => exact hne ((hholds.of_set_user huser).eq_of_set htoken)

/-- A login that is issued another token leaves one stored only by failing, and where it was. -/
theorem LoggedIn.of_holds {session later : Session} {storage stored : Storage}
    {issued : Option String} {result : Except LoginError Identity} {token : String}
    (h : LoggedIn session storage issued result later stored) (hissued : issued ≠ some token)
    (hholds : stored.Holds token) : later = session ∧ storage.Holds token := by
  have hne : ∀ {other : String}, issued = some other → other ≠ token := by
    rintro other hother rfl
    exact hissued hother
  cases h with
  | refused error => exact ⟨rfl, hholds⟩
  | notStored hother hstored =>
    refine ⟨rfl, ?_⟩
    cases hstored with
    | tokenRefused htoken => exact hholds
    | userRefused htoken huser hrollback =>
      exact absurd hholds (Storage.not_holds_of_remove hrollback)
    | rollbackRefused htoken huser hrollback =>
      exact absurd (hholds.eq_of_set htoken) (hne hother)
  | signedIn hother huser hstored => exact absurd hholds (hstored.not_holds (hne hother))

end Session

namespace Console

/-- Nobody stores the token again: no login is issued it, and nobody else writes it. -/
def Spares (token : String) (console : Console) : List Action → Prop
  | [] => True
  | action :: rest =>
    (∀ username password reply, action = .login username password reply →
      console.client.issued? username password reply console.outside ≠ some token) ∧
    (∀ storage network, action = .outside storage network → storage.Holds token →
      console.outside.storage.Holds token) ∧
    (console.step action).Spares token rest

variable {console : Console} {token : String} {action : Action}

theorem holds_of_step (hspares : console.Spares token [action])
    (h : (console.step action).outside.storage.Holds token) :
    console.outside.storage.Holds token := by
  have hstep : (console.step action).outside.storage.Holds token →
      console.outside.storage.Holds token :=
    step_stored (motive := fun _ storage => storage.Holds token →
      console.outside.storage.Holds token) id ?cleared ?login ?outside
  · exact hstep h
  case cleared => exact fun _ storage hbefore hcleared => hbefore hcleared.of_cleared
  case login =>
    intro username password reply haction result later stored hlogged hholds
    exact (hlogged.of_holds (hspares.1 username password reply haction) hholds).2
  case outside => exact fun storage network haction => hspares.2.1 storage network haction

/-- Whoever is signed in has another token stored. -/
def Retired (token : String) (console : Console) : Prop :=
  console.session.isSignedIn = true → ¬console.outside.storage.Holds token

theorem Retired.step (h : console.Retired token) (hspares : console.Spares token [action]) :
    (console.step action).Retired token := by
  refine step_stored (motive := fun session storage =>
    session.isSignedIn = true → ¬storage.Holds token) h ?_ ?_ ?_
  · intro session storage _ hsignedIn
    cases hsignedIn
  · intro username password reply haction result later stored hlogged hsignedIn hholds
    obtain ⟨hsession, hbefore⟩ :=
      hlogged.of_holds (hspares.1 username password reply haction) hholds
    rw [hsession] at hsignedIn
    exact h hsignedIn hbefore
  · intro storage network haction hsignedIn hholds
    exact h hsignedIn (hspares.2.1 storage network haction hholds)

/-! ### What is sent -/

theorem begin_carries (task : Task) (console : Console) :
    ∃ others, (console.begin task).outside.sent = console.outside.sent ++ others ∧
      ∀ sent ∈ others, ∀ token, sent.Carries token → console.outside.storage.Holds token := by
  refine ⟨_, begin_outside_sent task console, fun sent hmem token hcarries => ?_⟩
  exact Storage.holds_of_get (Client.get_of_send (Client.mem_toList_toOption.mp hmem) hcarries)

theorem enter_carries (route : Route) (returnTo : Option Route) (console : Console) :
    ∃ others, (console.enter route returnTo).outside.sent = console.outside.sent ++ others ∧
      ∀ sent ∈ others, route ≠ .login ∧
        ∀ token, sent.Carries token → console.outside.storage.Holds token := by
  rcases enter_cases route returnTo console with henter | ⟨task, htask, henter⟩
  · refine ⟨[], ?_, fun _ hmem => absurd hmem List.not_mem_nil⟩
    rw [henter, List.append_nil]
    rfl
  · obtain ⟨others, hsent, hcarries⟩ := begin_carries task (console.opened route returnTo)
    refine ⟨others, by rw [henter, hsent]; rfl, fun sent hmem => ⟨?_, hcarries sent hmem⟩⟩
    rintro rfl
    cases htask

/-- What is sent on the way to a later console: the request of a login, with the token stored
before, and the requests of its view, with the token stored then. -/
def Sends (console later : Console) : Prop :=
  ∃ posts others, later.outside.sent = console.outside.sent ++ posts ++ others ∧
    (∀ sent ∈ posts, sent.IsLogin ∧
      ∀ token, sent.Carries token → console.outside.storage.Holds token) ∧
    ∀ sent ∈ others, later.route ≠ .login ∧
      ∀ token, sent.Carries token → later.outside.storage.Holds token

theorem sends_of_sent_eq {later : Console} (h : later.outside.sent = console.outside.sent) :
    console.Sends later :=
  ⟨[], [], by simp [h], by simp, by simp⟩

theorem sends_enter {before : Console} {posts : List Sent} (route : Route)
    (returnTo : Option Route) (hsent : before.outside.sent = console.outside.sent ++ posts)
    (hposts : ∀ sent ∈ posts, sent.IsLogin ∧
      ∀ token, sent.Carries token → console.outside.storage.Holds token) :
    console.Sends (before.enter route returnTo) := by
  obtain ⟨others, hothers, hcarries⟩ := enter_carries route returnTo before
  refine ⟨posts, others, by rw [hothers, hsent], hposts, fun sent hmem => ?_⟩
  rw [enter_route, enter_storage]
  exact hcarries sent hmem

theorem sends_begin {later : Console} (task : Task)
    (hsent : later.outside.sent = (console.begin task).outside.sent)
    (hstorage : later.outside.storage = console.outside.storage) (hroute : later.route ≠ .login) :
    console.Sends later := by
  obtain ⟨others, hothers, hcarries⟩ := begin_carries task console
  refine ⟨[], others, by rw [hsent, hothers, List.append_nil], by simp, fun sent hmem => ?_⟩
  rw [hstorage]
  exact ⟨hroute, hcarries sent hmem⟩

theorem login_sends (username password : String) (reply : Http.Reply) (console : Console) :
    console.Sends (console.login username password reply).2 := by
  obtain ⟨storage, log, posts, houtside, hposts⟩ :=
    Session.login_outside console.client username password reply console.session console.outside
  have hposts : ∀ sent ∈ posts, sent.IsLogin ∧
      ∀ token, sent.Carries token → console.outside.storage.Holds token := by
    intro sent hmem
    have hsend := hposts sent hmem
    obtain ⟨token, hprepare⟩ := Client.prepare_of_send_eq_ok hsend
    obtain ⟨-, hmethod, hbody⟩ := Client.of_prepare hprepare
    refine ⟨⟨hmethod, username, password, hbody⟩, fun token hcarries => ?_⟩
    exact Storage.holds_of_get (Client.get_of_send hsend hcarries)
  dsimp only [login]
  split
  · obtain ⟨log', hnavigate⟩ := navigateTo_eq (console.view.returnTo?.getD .dashboard) _
    rw [hnavigate]
    exact sends_enter _ _ (by rw [houtside]) hposts
  · exact ⟨posts, [], by rw [houtside, List.append_nil], hposts, by simp⟩

theorem Guarded.sends (h : console.Guarded) (action : Action) :
    console.Sends (console.step action) := by
  cases action using Action.delivery_cases with
  | poll =>
    refine sends_of_sent_eq ?_
    simp only [Console.step, poll_snd]
    exact deliverEach_sent _ _
  | wait =>
    refine sends_of_sent_eq ?_
    cases hresults : console.results with
    | nil => rw [step_wait_nil hresults]
    | cons delivery rest => rw [step_wait_cons hresults, deliver_sent]
  | other action hpoll hwait =>
    have heffect := step_effect hpoll hwait console
    generalize hlater : console.step action = later at heffect ⊢
    cases heffect with
    | @loginFailed username password reply | @signedIn username password reply =>
      rw [← hlater]
      exact login_sends username password reply console
    | navigate path log | navigateTo route log =>
      exact sends_enter _ _ (List.append_nil _).symm (by simp)
    | @delete kind id hkind =>
      refine sends_begin (.delete kind id) rfl (begin_storage _ _) fun hroute => ?_
      rw [begin_route, ← h.view_route, View.route_of_listKind? hkind] at hroute
      cases hroute
    | @save kind id record notice hview =>
      refine sends_begin (.update kind id record) rfl (begin_storage _ _) fun hroute => ?_
      rw [begin_route, ← h.view_route, hview] at hroute
      cases hroute
    | nothing | logout | forceLogin | setField | respond | late | outside =>
      exact sends_of_sent_eq rfl

theorem Guarded.run_retired (h : console.Guarded) (hretired : console.Retired token)
    {actions : List Action} (hspares : console.Spares token actions) :
    ∃ new, (console.run actions).outside.sent = console.outside.sent ++ new ∧
      (∀ sent ∈ new, sent.Carries token → sent.IsLogin) ∧
      (¬console.outside.storage.Holds token → ∀ sent ∈ new, ¬sent.Carries token) := by
  induction actions generalizing console with
  | nil => exact ⟨[], (List.append_nil _).symm, by simp, by simp⟩
  | cons action rest ih =>
    have hfirst : console.Spares token [action] := ⟨hspares.1, hspares.2.1, trivial⟩
    have hlater := h.step action
    have hretired' := hretired.step hfirst
    obtain ⟨posts, others, hsent, hposts, hothers⟩ := h.sends action
    obtain ⟨new, hrun, hlogins, hnone⟩ := ih hlater hretired' hspares.2.2
    refine ⟨posts ++ others ++ new, ?_, ?_, ?_⟩
    · rw [run_cons, hrun, hsent]
      simp only [List.append_assoc]
    · intro sent hmem hcarries
      rcases List.mem_append.mp hmem with hmem | hmem
      · rcases List.mem_append.mp hmem with hmem | hmem
        · exact (hposts sent hmem).1
        · obtain ⟨hroute, hholds⟩ := hothers sent hmem
          have hsignedIn := hlater.isSignedIn_of_route_ne hroute
          exact absurd (hholds token hcarries) (hretired' hsignedIn)
      · exact hlogins sent hmem hcarries
    · intro hunheld sent hmem hcarries
      rcases List.mem_append.mp hmem with hmem | hmem
      · rcases List.mem_append.mp hmem with hmem | hmem
        · exact hunheld ((hposts sent hmem).2 token hcarries)
        · exact hunheld (holds_of_step hfirst ((hothers sent hmem).2 token hcarries))
      · exact hnone (fun hheld => hunheld (holds_of_step hfirst hheld)) sent hmem hcarries

/-- **The token of an ended session comes with no request but that of a login**, as long as nobody
stores it again, and with none at all where it could be removed. -/
theorem run_signedOut_token (address : String) (outside : Outside) (history : List Action)
    (token : String) (actions : List Action)
    (hsignedOut : ((start address outside).run history).session.isSignedIn = false)
    (hspares : ((start address outside).run history).Spares token actions) :
    let console := (start address outside).run history
    ∃ new, (console.run actions).outside.sent = console.outside.sent ++ new ∧
      (∀ sent ∈ new, sent.Carries token → sent.IsLogin) ∧
      (¬console.outside.storage.Holds token → ∀ sent ∈ new, ¬sent.Carries token) := by
  intro console
  refine (guarded_run address outside history).run_retired ?_ hspares
  intro hsignedIn
  rw [hsignedOut] at hsignedIn
  cases hsignedIn

/-- Nothing can be removed from the storage any more. -/
def withoutRemoval : Outside :=
  .aliceStored ⟨false, true, []⟩

/-- A login that the server rejects. -/
def rejectedLogin : Action :=
  .login "bob" "secret" (.response 401 [] true)

theorem run_signedOut_token_withoutRemoval :
    let console := (start "http://identity" withoutRemoval).run [.forceLogin]
    console.session.isSignedIn = false ∧
    ∃ new, (console.run [rejectedLogin]).outside.sent = console.outside.sent ++ new ∧
      (∀ sent ∈ new, sent.Carries "abc123" → sent.IsLogin) := by
  have hsignedOut : ((start "http://identity" withoutRemoval).run
      [.forceLogin]).session.isSignedIn = false := by decide +kernel
  have hspares : ((start "http://identity" withoutRemoval).run [.forceLogin]).Spares "abc123"
      [rejectedLogin] := by
    refine ⟨?_, ?_, trivial⟩
    · rintro username password reply ⟨⟩
      decide +kernel
    · rintro storage network ⟨⟩
  obtain ⟨new, hsent, hlogins, -⟩ :=
    run_signedOut_token "http://identity" withoutRemoval [.forceLogin] "abc123" [rejectedLogin]
      hsignedOut hspares
  exact ⟨hsignedOut, new, hsent, hlogins⟩

/-- The rejected token is sent again with the next login. -/
theorem forceLogin_token_sent :
    let console := start "http://identity" withoutRemoval
    console.session.state = .signedIn (.named "alice") "abc123" ∧
    (console.run [.forceLogin]).session.state = .signedOut ∧
    (console.run [.forceLogin, rejectedLogin]).session.state = .signedOut ∧
    (console.run [.forceLogin, rejectedLogin]).outside.sent.map (·.authorization) =
      [some "Bearer abc123"] := by
  decide +kernel

end Console

end IdentityConsole
