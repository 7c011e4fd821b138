import IdentityConsole.Proofs.Console.Stored
import IdentityConsole.Proofs.Session.Kept

/-!
# The credential of a session

Requests take their token from the storage and not from the session. As long as the storage does not
fail, and nobody else writes to it, that makes no difference: who is signed in is stored, through
failed logins, repeated logins and sessions that the server ended.
-/

namespace IdentityConsole

open Storage (tokenKey userKey)

theorem Storage.failing_without (key : String) (storage : Storage) :
    (storage.without key).failing = storage.failing := by
  unfold without
  split
  · next h => exact (remove_eq_ok_iff.mp h).2.2
  · rfl

namespace Console

/-- Nobody else writes to the storage while the actions happen. -/
def Undisturbed (console : Console) : List Action → Prop
  | [] => True
  | action :: rest =>
    (∀ storage network, action = .outside storage network → storage = console.outside.storage) ∧
      (console.step action).Undisturbed rest

/-- Who is signed in is stored, and the storage does not fail. -/
structure Keeping (console : Console) : Prop where
  failing : console.outside.storage.failing = .never
  kept : Session.Kept console.outside.storage console.session.state

theorem keeping_start (address : String) {outside : Outside}
    (h : outside.storage.failing = .never) : (start address outside).Keeping := by
  unfold start Session.restore
  cases hstored : Session.stored outside.storage with
  | ok state => exact ⟨h, Session.kept_of_stored hstored⟩
  | error error => exact ⟨h, trivial⟩

theorem Keeping.step {console : Console} (h : console.Keeping) {action : Action}
    (hundisturbed : ∀ storage network, action = .outside storage network →
      storage = console.outside.storage) : (console.step action).Keeping := by
  have hstep : (console.step action).outside.storage.failing = .never ∧
      Session.Kept (console.step action).outside.storage (console.step action).session.state :=
    step_stored (motive := fun session storage => storage.failing = .never ∧
      Session.Kept storage session.state) ⟨h.failing, h.kept⟩ ?cleared ?login ?outside
  · exact ⟨hstep.1, hstep.2⟩
  case cleared =>
    intro session storage hkeeping
    refine ⟨?_, trivial⟩
    rw [Storage.cleared, Storage.failing_without, Storage.failing_without, hkeeping.1]
  case login =>
    intro username password reply _ result later stored hlogged
    exact hlogged.kept h.failing h.kept
  case outside =>
    intro storage network haction
    rw [hundisturbed storage network haction]
    exact ⟨h.failing, h.kept⟩

theorem Keeping.run {console : Console} (h : console.Keeping) {actions : List Action}
    (hundisturbed : console.Undisturbed actions) : (console.run actions).Keeping := by
  induction actions generalizing console with
  | nil => exact h
  | cons action rest ih => exact ih (h.step hundisturbed.1) hundisturbed.2

/-! ### What a request carries -/

/-- The task that an action starts, in the view it enters or in the one that is shown. -/
def started (console : Console) (action : Action) : List Task :=
  match console.entered? action with
  | some (route, _) => (Task.ofRoute? route).toList
  | none => console.begun action

/-- A step begins a task as its last act, with at most the request of a login before that. -/
structure Begins (console : Console) (task : Task) (before later : Console) : Prop where
  begun : later = { before.begin task with view := later.view }
  client : before.client = console.client
  storage : before.outside.storage = later.outside.storage
  network : before.outside.network = console.outside.network
  generation : before.scope.generation = later.scope.generation
  inFlight : before.inFlight = console.inFlight ∨ before.inFlight = []
  results : before.results = console.results
  posts : ∃ posts, before.outside.sent = console.outside.sent ++ posts ∧
    ∀ sent ∈ posts, ∃ username password, console.AsksForToken username password sent

theorem begins_enter {console before : Console} {route : Route} {returnTo : Option Route}
    {task : Task} (htask : Task.ofRoute? route = some task) {posts : List Sent}
    (hclient : before.client = console.client)
    (hnetwork : before.outside.network = console.outside.network)
    (hresults : before.results = console.results)
    (hsent : before.outside.sent = console.outside.sent ++ posts)
    (hposts : ∀ sent ∈ posts, ∃ username password, console.AsksForToken username password sent) :
    console.Begins task (before.opened route returnTo) (before.enter route returnTo) where
  begun := by rw [enter_eq, htask]
  client := hclient
  storage := by rw [enter_storage]; rfl
  network := hnetwork
  generation := (enter_generation route returnTo before).symm
  inFlight := .inr rfl
  results := hresults
  posts := ⟨posts, hsent, hposts⟩

theorem begins_self (console : Console) (task : Task) (view : View) :
    console.Begins task console { console.begin task with view } where
  begun := rfl
  client := rfl
  storage := (begin_storage task console).symm
  network := rfl
  generation := by rw [begin_scope]
  inFlight := .inl rfl
  results := rfl
  posts := ⟨[], (List.append_nil _).symm, fun _ hmem => absurd hmem List.not_mem_nil⟩

theorem Effect.begins {console later : Console} {action : Action}
    (h : console.Effect action later) {task : Task} (htask : task ∈ console.started action) :
    ∃ before, console.Begins task before later := by
  have hroute : ∀ {route : Route} {returnTo : Option Route},
      console.entered? action = some (route, returnTo) → Task.ofRoute? route = some task := by
    intro route returnTo hentered
    simpa [started, hentered] using htask
  have hbegun : console.entered? action = none → task ∈ console.begun action := by
    intro hentered
    simpa [started, hentered] using htask
  cases h with
  | nothing hentered hnone => exact absurd (hbegun hentered) (by simp [hnone])
  | navigate path log =>
    exact ⟨_, begins_enter (hroute rfl) rfl rfl rfl (List.append_nil _).symm (by simp)⟩
  | navigateTo route log =>
    exact ⟨_, begins_enter (hroute rfl) rfl rfl rfl (List.append_nil _).symm (by simp)⟩
  | loginFailed storage log posts error hposts hlogin =>
    exact absurd (hbegun (by simp [entered?, hlogin])) List.not_mem_nil
  | @signedIn username password reply storage log posts user token hposts hlogin =>
    have hentered : console.entered? (.login username password reply) =
        some (console.view.returnTo?.getD .dashboard, none) := by
      simp only [entered?, hlogin]
    refine ⟨_, begins_enter (hroute hentered) rfl rfl rfl rfl fun sent hmem => ?_⟩
    exact ⟨username, password, hposts sent hmem⟩
  | logout log => cases hroute rfl
  | forceLogin log => cases hroute rfl
  | @delete kind id hkind =>
    have hmem := hbegun rfl
    simp only [begun, hkind, List.mem_singleton] at hmem
    subst hmem
    exact ⟨console, begins_self console _ _⟩
  | save hview =>
    have hmem := hbegun rfl
    simp only [begun, hview, List.mem_singleton] at hmem
    subst hmem
    exact ⟨console, begins_self console _ _⟩
  | setField | respond | late | outside => exact absurd (hbegun rfl) List.not_mem_nil

section Begin

variable {console : Console} {token : String}

theorem begin_of_not_isHeaderValue
    (htoken : console.outside.storage.get tokenKey = .ok (some token))
    (hvalue : Client.isHeaderValue token = false) (task : Task) :
    console.begin task =
      { console with
        results := console.results ++
          [⟨console.scope.generation, task.failed Client.badToken⟩] } := by
  simp only [begin, Client.send_of_not_isHeaderValue htoken hvalue]

theorem begin_of_isHeaderValue
    (htoken : console.outside.storage.get tokenKey = .ok (some token))
    (hvalue : Client.isHeaderValue token = true) {root : Http.Address}
    (hroot : Http.Address.parse? (console.client.address ++ "/") = some root)
    (hnetwork : root.origin ∈ console.outside.network) (task : Task) :
    ∃ sent, sent.authorization = Client.bearer? token ∧ sent.method = task.request.method ∧
      sent.body = task.request.body ∧ console.begin task =
        { console with
          outside := console.outside.send sent
          inFlight := console.inFlight ++ [⟨console.scope.generation, task, sent⟩] } := by
  obtain ⟨sent, hsend, hauthorization, hmethod, hbody⟩ :=
    Client.send_of_isHeaderValue htoken hvalue hroot hnetwork task.head?_path
  exact ⟨sent, hauthorization, hmethod, hbody, by simp only [begin, hsend]⟩

end Begin

theorem Begins.sent {console before later : Console} {task : Task} {token : String}
    (h : console.Begins task before later)
    (htoken : later.outside.storage.get tokenKey = .ok (some token))
    (hvalue : Client.isHeaderValue token = true) {root : Http.Address}
    (hroot : Http.Address.parse? (console.client.address ++ "/") = some root)
    (hnetwork : root.origin ∈ console.outside.network) :
    ∃ sent, later.outside.sent.getLast? = some sent ∧
      ⟨later.scope.generation, task, sent⟩ ∈ later.inFlight ∧
      sent.authorization = Client.bearer? token ∧
      sent.method = task.request.method ∧ sent.body = task.request.body := by
  rw [← h.storage] at htoken
  rw [← h.client] at hroot
  rw [← h.network] at hnetwork
  obtain ⟨sent, hauthorization, hmethod, hbody, hbegin⟩ :=
    begin_of_isHeaderValue htoken hvalue hroot hnetwork task
  have hbegun := h.begun
  rw [hbegin] at hbegun
  refine ⟨sent, ?_, ?_, hauthorization, hmethod, hbody⟩
  · rw [hbegun]
    exact List.getLast?_concat
  · rw [hbegun]
    exact List.mem_append_right _ List.mem_cons_self

theorem Begins.failed {console before later : Console} {task : Task} {token : String}
    (h : console.Begins task before later)
    (htoken : later.outside.storage.get tokenKey = .ok (some token))
    (hvalue : Client.isHeaderValue token = false) :
    ⟨later.scope.generation, task.failed Client.badToken⟩ ∈ later.results ∧
    ∃ posts, later.outside.sent = console.outside.sent ++ posts ∧
      ∀ sent ∈ posts, ∃ username password, console.AsksForToken username password sent := by
  rw [← h.storage] at htoken
  obtain ⟨posts, hposts, hasks⟩ := h.posts
  have hbegun := h.begun
  rw [begin_of_not_isHeaderValue htoken hvalue task] at hbegun
  constructor
  · rw [hbegun]
    exact List.mem_append_right _ List.mem_cons_self
  · refine ⟨posts, ?_, hasks⟩
    rw [hbegun]
    exact hposts

theorem begins_of_started {console : Console} {action : Action} {task : Task}
    (h : task ∈ console.started action) :
    ∃ before, console.Begins task before (console.step action) := by
  have hne : ∀ idle, console.started idle = [] → action ≠ idle := by
    rintro idle hempty rfl
    rw [hempty] at h
    cases h
  exact (step_effect (hne .poll rfl) (hne .wait rfl) console).begins h

/-- **Who is signed in is stored, and every request of a view carries the stored token**: its header
shows it, an empty token makes none, and with a token that makes no header nothing is sent. -/
theorem run_credential (address : String) (outside : Outside) (actions : List Action)
    (hfailing : outside.storage.failing = .never)
    (hundisturbed : (start address outside).Undisturbed actions) :
    let console := (start address outside).run actions
    (∀ user token, console.session.state = .signedIn user token →
      console.outside.storage.get tokenKey = .ok (some token) ∧
      ∃ text, console.outside.storage.get userKey = .ok (some text) ∧
        (user.isIntegral = true → Json.decode Identity.decoder text = .ok user)) ∧
    ∀ action, console.Undisturbed [action] → ∀ task ∈ console.started action,
      let later := console.step action
      ∀ user token, later.session.state = .signedIn user token →
        (Client.isHeaderValue token = true → ∀ root,
          Http.Address.parse? ((Client.ofAddress address).address ++ "/") = some root →
          root.origin ∈ console.outside.network →
          ∃ sent, later.outside.sent.getLast? = some sent ∧
            ⟨later.scope.generation, task, sent⟩ ∈ later.inFlight ∧
            sent.authorization = Client.bearer? token ∧
            sent.method = task.request.method ∧ sent.body = task.request.body) ∧
        (Client.isHeaderValue token = false →
          ⟨later.scope.generation, task.failed Client.badToken⟩ ∈ later.results ∧
          ∃ posts, later.outside.sent = console.outside.sent ++ posts ∧
            ∀ sent ∈ posts, ∃ username password,
              console.AsksForToken username password sent) := by
  intro console
  have hkeeping : console.Keeping := (keeping_start address hfailing).run hundisturbed
  have hclient : console.client = .ofAddress address := run_client address outside actions
  constructor
  · intro user token hstate
    have hkept := hkeeping.kept
    rwa [hstate] at hkept
  · intro action haction task htask later user token hstate
    obtain ⟨before, hbegins⟩ := begins_of_started htask
    have hkept := (hkeeping.step haction.1).kept
    rw [hstate] at hkept
    refine ⟨fun hvalue root hroot hnetwork => ?_, fun hvalue => hbegins.failed hkept.1 hvalue⟩
    rw [← hclient] at hroot
    exact hbegins.sent hkept.1 hvalue hroot hnetwork

/-- The server rejects the stored token, and somebody else signs in. -/
def signInAgain : List Action :=
  [.navigateTo (.list .users), .respond 0 (.response 401 [] true), .poll,
    .login "bob" "secret" .granting]

theorem run_credential_signInAgain :
    let console := (start "http://identity" (.aliceStored .never)).run signInAgain
    let later := console.step (.navigateTo (.detail .groups "g"))
    console.outside.storage.get tokenKey = .ok (some "def456") ∧
    ∃ sent, later.outside.sent.getLast? = some sent ∧ sent.method = .get ∧
      sent.authorization = some "Bearer def456" := by
  have hundisturbed : (start "http://identity" (.aliceStored .never)).Undisturbed signInAgain := by
    refine ⟨?_, ?_, ?_, ?_, trivial⟩ <;> rintro _ _ ⟨⟩
  obtain ⟨hstored, hsent⟩ :=
    run_credential "http://identity" (.aliceStored .never) signInAgain rfl hundisturbed
  have hstate : ((start "http://identity" (.aliceStored .never)).run signInAgain).session.state =
      .signedIn (.named "bob") "def456" := by decide +kernel
  have hlater : (((start "http://identity" (.aliceStored .never)).run signInAgain).step
      (.navigateTo (.detail .groups "g"))).session.state =
      .signedIn (.named "bob") "def456" := by decide +kernel
  have hsignedIn : ((start "http://identity" (.aliceStored .never)).run
      signInAgain).session.isSignedIn = true := by decide +kernel
  have htask : .loadRecord .groups "g" ∈ ((start "http://identity" (.aliceStored .never)).run
      signInAgain).started (.navigateTo (.detail .groups "g")) := by
    simp only [started, entered?, destination_signedIn hsignedIn, Task.ofRoute?]
    exact List.mem_cons_self
  have hroot : Http.Address.parse? ((Client.ofAddress "http://identity").address ++ "/") =
      some ⟨"http://identity", "/"⟩ := by decide +kernel
  have hnetwork : "http://identity" ∈
      ((start "http://identity" (.aliceStored .never)).run signInAgain).outside.network := by
    decide +kernel
  obtain ⟨sent, hlast, -, hauthorization, hmethod, -⟩ :=
    (hsent _ ⟨by rintro _ _ ⟨⟩, trivial⟩ _ htask _ _ hlater).1 (by decide) _ hroot hnetwork
  exact ⟨(hstored _ _ hstate).1, sent, hlast, hmethod, hauthorization⟩

end Console

end IdentityConsole
