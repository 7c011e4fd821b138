import IdentityConsole.Proofs.Console.Faithful

/-!
# Rejections

The server may reject the token of several requests of a view. The first rejection that is delivered
ends the session and with it the view; the others are results of a view that was left. This file
counts the forced logins by the visits they ended.
-/

namespace IdentityConsole

namespace Console

def Action.isForceLogin : Action → Bool
  | .forceLogin => true
  | _ => false

theorem Effect.loginRedirects {console later : Console} {action : Action}
    (h : console.Effect action later) :
    later.loginRedirects = console.loginRedirects + action.isForceLogin.toNat := by
  cases h with
  | nothing hentered =>
    cases action with
    | forceLogin => cases hentered
    | _ => rfl
  | navigate path log | navigateTo route log | signedIn => exact enter_loginRedirects _ _ _
  | delete id hkind => exact begin_loginRedirects _ console
  | save hview => exact begin_loginRedirects _ console
  | loginFailed | logout | forceLogin | setField | respond | late | outside => rfl

theorem deliver_loginRedirects {delivery : Delivery} {console : Console}
    (h : delivery.generation = console.scope.generation → delivery.outcome.isRejection = false) :
    (console.deliver delivery).2.loginRedirects = console.loginRedirects := by
  rcases deliver_cases delivery console with
    ⟨log, hcurrent, hrejection, -⟩ | ⟨log, -, -, hdeliver⟩ | ⟨-, hdeliver⟩
  · rw [h hcurrent] at hrejection
    cases hrejection
  · rw [hdeliver]
  · rw [hdeliver]

theorem Action.isForceLogin_of_entered?_eq_none {console : Console} {action : Action}
    (h : console.entered? action = none) : action.isForceLogin = false := by
  cases action with
  | forceLogin => cases h
  | navigate path | navigateTo route | login username password reply | logout | delete id
  | setField field value | save | poll | wait | respond index reply | late delivery
  | outside storage network => rfl

/-- What begins or ends a session on demand. -/
def RenewsSession (console : Console) : Action → Prop
  | .login username password reply =>
    ∃ user, (console.login username password reply).1 = .ok user
  | .logout => True
  | _ => False

/-- A new session begins in a new view, and so does the time without one. -/
theorem Effect.generation {console later : Console} {action : Action}
    (h : console.Effect action later) (hrenews : console.RenewsSession action) :
    later.scope.generation = console.scope.generation + 1 := by
  cases h with
  | nothing hentered =>
    cases action with
    | login username password reply =>
      obtain ⟨user, hlogin⟩ := hrenews
      simp [entered?, hlogin] at hentered
    | logout => cases hentered
    | _ => cases hrenews
  | loginFailed storage log posts error hposts hlogin =>
    obtain ⟨user, hrenews⟩ := hrenews
    rw [hlogin] at hrenews
    cases hrenews
  | signedIn => exact enter_generation _ _ _
  | logout log => rfl
  | navigate | navigateTo | forceLogin | delete | setField | save | respond | late | outside =>
    cases hrenews

theorem generation_le_deliver (delivery : Delivery) (console : Console) :
    console.scope.generation ≤ (console.deliver delivery).2.scope.generation := by
  rcases deliver_cases delivery console with
    ⟨log, -, -, hdeliver⟩ | ⟨log, -, -, hdeliver⟩ | ⟨-, hdeliver⟩
  · rw [hdeliver]
    exact Nat.le_succ _
  · exact Nat.le_of_eq (by rw [hdeliver])
  · exact Nat.le_of_eq (by rw [hdeliver])

/-- To take the results of earlier generations out of a queue changes nothing of its delivery. -/
theorem deliverEach_filter {console : Console} {generation : Nat}
    (h : generation < console.scope.generation) (deliveries : List Delivery) :
    console.deliverEach (deliveries.filter (generation < ·.generation)) =
      console.deliverEach deliveries := by
  induction deliveries generalizing console with
  | nil => rfl
  | cons delivery rest ih =>
    rw [deliverEach_cons]
    by_cases hlater : generation < delivery.generation
    · have hgeneration := Nat.lt_of_lt_of_le h (console.generation_le_deliver delivery)
      rw [List.filter_cons_of_pos (by simpa using hlater), deliverEach_cons, ih hgeneration]
    · have hstale : delivery.generation ≠ console.scope.generation := by omega
      rw [List.filter_cons_of_neg (by simpa using hlater), deliver_stale hstale, ih h]

end Console

namespace Chronicle

variable {chronicle : Chronicle}

/-- The rejections delivered in all visits so far. -/
def rejections (chronicle : Chronicle) : Nat :=
  (chronicle.visits.flatMap Visit.delivered).countP Outcome.isRejection

theorem rejections_eq (chronicle : Chronicle) :
    chronicle.rejections =
      (chronicle.past.flatMap Visit.delivered).countP Outcome.isRejection +
        chronicle.visit.rejections := by
  simp [rejections, visits, Visit.rejections]

/-- Forced logins are counted once for each visit that a rejection ended, and `demanded` times
beyond that. -/
structure Counted (chronicle : Chronicle) (demanded : Nat) : Prop where
  count : chronicle.console.loginRedirects = chronicle.rejections + demanded
  current : chronicle.visit.rejections = 0
  past : ∀ visit ∈ chronicle.past, visit.rejections ≤ 1

namespace Counted

variable {demanded : Nat}

/-- A visit that comes to its end with at most one rejection. -/
theorem of_entered (h : chronicle.Counted demanded) {visit : Visit} {console : Console}
    (more : Nat) (hvisit : visit.rejections ≤ 1)
    (hcount : console.loginRedirects =
      chronicle.console.loginRedirects + visit.rejections + more)
    (route : Route) (returnTo : Option Route) :
    (({ chronicle with visit } : Chronicle).enter console route returnTo).Counted
      (demanded + more) where
  count := by
    have hbefore := h.count
    rw [rejections_eq, h.current] at hbefore
    have hafter : (({ chronicle with visit } : Chronicle).enter console route returnTo).rejections =
        (chronicle.past.flatMap Visit.delivered).countP Outcome.isRejection +
          visit.rejections := by
      simp [rejections, enter, visits, Visit.rejections, Visit.opened, Visit.blank, Visit.add,
        Visit.delivered]
    rw [hafter, enter_console]
    omega
  current := rfl
  past := by
    intro other hmem
    rcases List.mem_append.mp hmem with hmem | hmem
    · exact h.past other hmem
    · rw [List.mem_singleton.mp hmem]
      exact hvisit

theorem of_stayed (h : chronicle.Counted demanded) {visit : Visit} {console : Console}
    (hvisit : visit.rejections = 0)
    (hcount : console.loginRedirects = chronicle.console.loginRedirects) :
    ({ chronicle with console, visit } : Chronicle).Counted demanded where
  count := by
    rw [rejections_eq, hvisit, hcount, h.count, rejections_eq, h.current]
  current := hvisit
  past := h.past

theorem deliver (h : chronicle.Counted demanded) {delivery : Delivery}
    (hgeneration : chronicle.visit.generation = chronicle.console.scope.generation) :
    (chronicle.deliver delivery).Counted demanded := by
  have hadd : (chronicle.visit.add [] [.result delivery.outcome]).rejections =
      delivery.outcome.isRejection.toNat := by
    have hcurrent := h.current
    simp only [Visit.rejections, Visit.delivered] at hcurrent
    cases hrejection : delivery.outcome.isRejection <;>
      simp [Visit.rejections, Visit.delivered, Visit.add, Change.outcome?, hcurrent, hrejection]
  rw [Chronicle.deliver]
  rcases Console.deliver_cases delivery chronicle.console with
    ⟨log, hcurrent, hrejection, hdeliver⟩ | ⟨log, hcurrent, hrejection, hdeliver⟩ |
    ⟨hstale, hdeliver⟩
  · rw [hrejection] at hadd
    rw [if_pos (hcurrent.trans hgeneration.symm), if_pos hrejection, hdeliver]
    refine h.of_entered 0 ?_ ?_ _ _
    · rw [hadd]
      exact Nat.le_refl _
    · rw [hadd]
      rfl
  · rw [hrejection] at hadd
    rw [if_pos (hcurrent.trans hgeneration.symm), if_neg (by simp [hrejection]), hdeliver]
    exact h.of_stayed hadd rfl
  · rw [if_neg (hgeneration ▸ hstale), hdeliver]
    exact h

theorem act (h : chronicle.Counted demanded) {action : Console.Action}
    (hpoll : action ≠ .poll) (hwait : action ≠ .wait) :
    (chronicle.act action).Counted (demanded + action.isForceLogin.toNat) := by
  have hcount := (Console.step_effect hpoll hwait chronicle.console).loginRedirects
  unfold Chronicle.act
  dsimp only
  split
  · next route returnTo hentered =>
    refine h.of_entered action.isForceLogin.toNat ?_ ?_ route returnTo
    · rw [h.current]
      exact Nat.zero_le 1
    · rw [hcount, h.current]
      rfl
  · next hentered =>
    rw [Console.Action.isForceLogin_of_entered?_eq_none hentered] at hcount ⊢
    refine h.of_stayed ?_ hcount
    have hcurrent := h.current
    simpa [Visit.rejections, Visit.delivered, Visit.add, Console.changed_outcome?] using hcurrent

theorem arrive (h : chronicle.Counted demanded) (deliveries : List Delivery) :
    (chronicle.arrive deliveries).Counted demanded := by
  refine ⟨?_, h.current, h.past⟩
  rw [rejections_eq]
  exact h.count.trans (by rw [rejections_eq]; rfl)

theorem step (hfaithful : chronicle.Faithful chronicle.console.results)
    (h : chronicle.Counted demanded) (action : Console.Action) :
    (chronicle.step action).Counted (demanded + action.isForceLogin.toNat) := by
  have hdeliveries := step_deliveries
    (motive := fun later waiting => later.Faithful waiting ∧ later.Counted demanded)
    (fun _ results _ h => ⟨h.1.queue results, h.2.of_stayed h.2.current rfl⟩)
    (fun _ _ _ h => ⟨h.1.deliver, h.2.deliver h.1.generation⟩) ⟨hfaithful, h⟩
  cases action using Console.Action.delivery_cases with
  | poll => exact hdeliveries.1.2
  | wait => exact hdeliveries.2.2
  | other action hpoll hwait =>
    rw [step_of_ne hpoll hwait]
    exact (h.act hpoll hwait).arrive _

theorem run (hfaithful : chronicle.Faithful chronicle.console.results)
    (h : chronicle.Counted demanded) (actions : List Console.Action) :
    (chronicle.run actions).Counted
      (demanded + actions.countP Console.Action.isForceLogin) := by
  induction actions generalizing chronicle demanded with
  | nil => exact h
  | cons action rest ih =>
    have hrest := ih (hfaithful.step action) (h.step hfaithful action)
    have hcount : (action :: rest).countP Console.Action.isForceLogin =
        action.isForceLogin.toNat + rest.countP Console.Action.isForceLogin := by
      rw [List.countP_cons, Nat.add_comm]
      cases action.isForceLogin <;> rfl
    rw [hcount, ← Nat.add_assoc]
    exact hrest

theorem start (address : String) (outside : Outside) :
    (Chronicle.start address outside).Counted 0 where
  count := rfl
  current := rfl
  past := by
    intro visit hmem
    cases hmem

theorem visit_le_one (h : chronicle.Counted demanded) {visit : Visit}
    (hmem : visit ∈ chronicle.visits) : visit.rejections ≤ 1 := by
  rcases List.mem_append.mp hmem with hmem | hmem
  · exact h.past visit hmem
  · rw [List.mem_singleton.mp hmem, h.current]
    exact Nat.zero_le 1

end Counted

/-- **A forced login for each visit that was rejected**, and none that ends a later session. -/
theorem run_rejections (address : String) (outside : Outside) (actions : List Console.Action) :
    let chronicle := (start address outside).run actions
    let console := (Console.start address outside).run actions
    chronicle.console = console ∧
    console.loginRedirects =
      (chronicle.visits.flatMap Visit.delivered).countP Outcome.isRejection +
        actions.countP Console.Action.isForceLogin ∧
    (∀ visit ∈ chronicle.visits, visit.rejections ≤ 1) ∧
    (∀ (before : Console) (delivery : Delivery),
      delivery.generation = before.scope.generation → delivery.outcome.isRejection = true →
      let after := (before.deliver delivery).2
      after.route = .login ∧ after.view = .login none ∧ after.session.isSignedIn = false ∧
        after.inFlight = [] ∧ after.loginRedirects = before.loginRedirects + 1) ∧
    (∀ (before : Console) (delivery : Delivery),
      (delivery.generation = before.scope.generation → delivery.outcome.isRejection = false) →
      (before.deliver delivery).2.loginRedirects = before.loginRedirects) ∧
    (∀ (before : Console) (action : Console.Action),
      action ≠ .poll → action ≠ .wait → action.isForceLogin = false →
      (before.step action).loginRedirects = before.loginRedirects) ∧
    ∀ action, console.RenewsSession action → ∀ rest, let later := (console.step action).run rest
      (∀ pending ∈ console.inFlight, ∀ outcome,
        later.deliver ⟨pending.generation, outcome⟩ = (false, later)) ∧
      (∀ delivery ∈ console.results, later.deliver delivery = (false, later)) ∧
      (∀ visit ∈ chronicle.visits, ∀ outcome,
        later.deliver ⟨visit.generation, outcome⟩ = (false, later)) ∧
      { later with
        results := later.results.filter (console.scope.generation < ·.generation) }.poll.2 =
        later.poll.2 := by
  intro chronicle console
  have hconsole : chronicle.console = console := run_console _ actions
  have hfaithful : chronicle.Faithful chronicle.console.results :=
    faithful_run address outside actions
  have h : chronicle.Counted (0 + actions.countP Console.Action.isForceLogin) :=
    (Counted.start address outside).run (Faithful.start address outside) actions
  rw [Nat.zero_add] at h
  rw [← hconsole]
  refine ⟨rfl, h.count, fun visit => h.visit_le_one, ?_, ?_, ?_, ?_⟩
  · intro before delivery hcurrent hrejection after
    obtain ⟨log, hdeliver⟩ := Console.deliver_rejection hcurrent hrejection
    simp only [after, hdeliver]
    exact ⟨rfl, rfl, rfl, rfl, trivial⟩
  · intro before delivery hother
    exact Console.deliver_loginRedirects hother
  · intro before action hpoll hwait hforce
    rw [(Console.step_effect hpoll hwait before).loginRedirects, hforce]
    rfl
  · intro action hrenews rest later
    have hlater : chronicle.console.scope.generation < later.scope.generation := by
      have hpoll : action ≠ .poll := by
        rintro rfl
        exact hrenews
      have hwait : action ≠ .wait := by
        rintro rfl
        exact hrenews
      have hstep := (Console.step_effect hpoll hwait chronicle.console).generation hrenews
      have hrun := (hfaithful.step action).generation_le_run rest
      rw [step_console, hstep] at hrun
      exact hrun
    obtain ⟨hpending, hresults, hvisits⟩ := hfaithful.deliver_later hlater
    refine ⟨hpending, hresults, hvisits, ?_⟩
    rw [Console.poll_snd, Console.poll_snd]
    refine Console.deliverEach_filter ?_ later.results
    exact hlater

end Chronicle

end IdentityConsole
