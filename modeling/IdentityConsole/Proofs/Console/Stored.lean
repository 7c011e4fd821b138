import IdentityConsole.Proofs.Api.Bearer
import IdentityConsole.Proofs.Console.Effect
import IdentityConsole.Proofs.Session.Storing

/-!
# Session and storage, step by step

The session and what is stored change together: when a session ends both keys are cleared, and a
login stores what it signs in. Everything else leaves the two alone.
-/

namespace IdentityConsole.Console

section Begin

variable (task : Task) (console : Console)

@[simp]
theorem begin_client : (console.begin task).client = console.client := by
  rcases begin_cases task console with ⟨log, sent, h⟩ | ⟨log, error, h⟩ <;> rw [h]

@[simp]
theorem begin_storage : (console.begin task).outside.storage = console.outside.storage := by
  rcases begin_cases task console with ⟨log, sent, h⟩ | ⟨log, error, h⟩ <;> rw [h]

theorem begin_outside_sent : (console.begin task).outside.sent =
    console.outside.sent ++
      (console.client.send task.request console.outside).1.toOption.toList := by
  obtain ⟨log, hbegin⟩ := begin_eq task console
  rw [hbegin]
  cases (console.client.send task.request console.outside).1 with
  | ok sent => rfl
  | error error => exact (List.append_nil _).symm

end Begin

section Enter

variable (route : Route) (returnTo : Option Route) (console : Console)

@[simp]
theorem enter_client : (console.enter route returnTo).client = console.client := by
  rcases enter_cases route returnTo console with h | ⟨task, -, h⟩ <;> simp [h, opened]

@[simp]
theorem enter_storage :
    (console.enter route returnTo).outside.storage = console.outside.storage := by
  rcases enter_cases route returnTo console with h | ⟨task, -, h⟩ <;> simp [h, opened]

end Enter

theorem navigateTo_session (route : Route) (console : Console) :
    (console.navigateTo route).session = console.session := by
  obtain ⟨log, h⟩ := navigateTo_eq route console
  rw [h, enter_session]

theorem navigateTo_storage (route : Route) (console : Console) :
    (console.navigateTo route).outside.storage = console.outside.storage := by
  obtain ⟨log, h⟩ := navigateTo_eq route console
  rw [h, enter_storage]

section Login

variable (username password : String) (reply : Http.Reply) (console : Console)

/-- Where one goes after a login changes neither the session nor what is stored. -/
theorem login_stored :
    let result := console.session.login console.client username password reply console.outside
    (console.login username password reply).2.session = result.2.1 ∧
    (console.login username password reply).2.outside.storage = result.2.2.storage := by
  dsimp only [login]
  split
  · next hresult => exact ⟨navigateTo_session _ _, navigateTo_storage _ _⟩
  · exact ⟨rfl, rfl⟩

theorem login_loggedIn :
    ∃ result, Session.LoggedIn console.session console.outside.storage
      (console.client.issued? username password reply console.outside) result
      (console.login username password reply).2.session
      (console.login username password reply).2.outside.storage := by
  obtain ⟨hsession, hstorage⟩ := console.login_stored username password reply
  rw [hsession, hstorage]
  exact ⟨_, Session.loggedIn _ _ _ _ _ _⟩

end Login

/-- What the end of a session keeps, and every login and outside change of the step, holds of the
session and the storage after the step. -/
theorem step_stored {motive : Session → Storage → Prop} {console : Console} {action : Action}
    (hstart : motive console.session console.outside.storage)
    (hcleared : ∀ session storage, motive session storage →
      motive (session.announce .signedOut) storage.cleared)
    (hlogin : ∀ username password reply, action = .login username password reply →
      ∀ result later stored, Session.LoggedIn console.session console.outside.storage
        (console.client.issued? username password reply console.outside) result later stored →
      motive later stored)
    (houtside : ∀ storage network, action = .outside storage network →
      motive console.session storage) :
    motive (console.step action).session (console.step action).outside.storage := by
  have hdeliver : ∀ (console : Console) delivery, motive console.session console.outside.storage →
      motive (console.deliver delivery).2.session
        (console.deliver delivery).2.outside.storage := by
    intro console delivery h
    rcases deliver_cases delivery console with
      ⟨log, -, -, hdeliver⟩ | ⟨log, -, -, hdeliver⟩ | ⟨-, hdeliver⟩
    · rw [hdeliver]
      exact hcleared _ _ h
    · rw [hdeliver]
      exact h
    · rw [hdeliver]
      exact h
  cases action using Action.delivery_cases with
  | poll =>
    simp only [step, poll_snd]
    generalize hempty : { console with results := [] } = empty
    have hstart : motive empty.session empty.outside.storage := by
      rw [← hempty]
      exact hstart
    exact deliverEach_induction
      (motive := fun later => motive later.session later.outside.storage) hdeliver hstart
      console.results
  | wait =>
    cases hresults : console.results with
    | nil => rwa [step_wait_nil hresults]
    | cons delivery rest =>
      rw [step_wait_cons hresults]
      exact hdeliver { console with results := rest } delivery hstart
  | other action hpoll hwait =>
    have heffect := step_effect hpoll hwait console
    generalize hlater : console.step action = later at heffect ⊢
    cases heffect with
    | @loginFailed username password reply | @signedIn username password reply =>
      obtain ⟨result, hlogged⟩ := console.login_loggedIn username password reply
      have hkept := hlogin username password reply rfl _ _ _ hlogged
      rw [← hlater]
      exact hkept
    | nothing => exact hstart
    | navigate path log | navigateTo route log =>
      rw [enter_session, enter_storage]
      exact hstart
    | logout log | forceLogin log => exact hcleared _ _ hstart
    | delete id hkind =>
      rw [begin_session, begin_storage]
      exact hstart
    | save hview =>
      simp only [begin_session, begin_storage]
      exact hstart
    | setField | respond | late => exact hstart
    | outside storage network => exact houtside storage network rfl

/-! ### The client stays the same -/

theorem deliver_client (delivery : Delivery) (console : Console) :
    (console.deliver delivery).2.client = console.client := by
  rcases deliver_cases delivery console with
    ⟨log, -, -, hdeliver⟩ | ⟨log, -, -, hdeliver⟩ | ⟨-, hdeliver⟩
  · rw [hdeliver]
    rfl
  · rw [hdeliver]
  · rw [hdeliver]

theorem step_client (console : Console) (action : Action) :
    (console.step action).client = console.client := by
  cases action using Action.delivery_cases with
  | poll =>
    simp only [Console.step, poll_snd]
    have hempty : { console with results := [] }.client = console.client := rfl
    exact deliverEach_induction (motive := fun later => later.client = console.client)
      (fun later delivery h => (deliver_client delivery later).trans h) hempty console.results
  | wait =>
    cases hresults : console.results with
    | nil => rw [step_wait_nil hresults]
    | cons delivery rest => rw [step_wait_cons hresults, deliver_client]
  | other action hpoll hwait =>
    have heffect := step_effect hpoll hwait console
    generalize console.step action = later at heffect ⊢
    cases heffect with
    | navigate path log | navigateTo route log | signedIn => exact enter_client _ _ _
    | delete id hkind => exact begin_client _ _
    | save hview => exact begin_client _ _
    | nothing | loginFailed | logout | forceLogin | setField | respond | late | outside => rfl

theorem run_client (address : String) (outside : Outside) (actions : List Action) :
    ((start address outside).run actions).client = .ofAddress address :=
  run_induction (motive := fun console => console.client = .ofAddress address)
    (fun console action h => (console.step_client action).trans h) rfl actions

end IdentityConsole.Console
