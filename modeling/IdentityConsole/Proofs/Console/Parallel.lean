import IdentityConsole.Proofs.Console.Faithful
import IdentityConsole.Proofs.Console.Stored
import IdentityConsole.Proofs.Session.Alike

/-!
# Consoles side by side

Two consoles can be in the same situation without being equal. They have made different visits, so
that their views have different numbers; results of views that were left may still wait in one and
not in the other; and their storages may hold other entries besides those of the session. Whatever
is done to both, they stay in the same situation and answer the same.
-/

namespace IdentityConsole

def Pending.asked (pending : Pending) : Task × Sent :=
  (pending.task, pending.sent)

namespace Console

/-- The results that wait for the view shown. -/
def awaited (console : Console) : List Outcome :=
  outcomesOf console.scope.generation console.results

/-- Nothing that waits belongs to a view to come. -/
structure Timely (console : Console) : Prop where
  inFlight : ∀ pending ∈ console.inFlight, pending.generation = console.scope.generation
  results : ∀ delivery ∈ console.results, delivery.generation ≤ console.scope.generation

/-- A console of which there is a chronicle. -/
def Recorded (console : Console) : Prop :=
  ∃ chronicle : Chronicle, chronicle.console = console ∧ chronicle.Faithful console.results

theorem Recorded.timely {console : Console} (h : console.Recorded) : console.Timely := by
  obtain ⟨chronicle, rfl, hfaithful⟩ := h
  have hgeneration := hfaithful.generation
  constructor
  · intro pending hmem
    rw [← hgeneration]
    exact (hfaithful.inFlight pending hmem).1
  · intro delivery hmem
    rw [← hgeneration]
    exact (hfaithful.arrived delivery hmem).1

theorem Recorded.step {console : Console} (h : console.Recorded) (action : Action) :
    (console.step action).Recorded := by
  obtain ⟨chronicle, rfl, hfaithful⟩ := h
  refine ⟨chronicle.step action, chronicle.step_console action, ?_⟩
  rw [← chronicle.step_console action]
  exact hfaithful.step action

theorem recorded_run (address : String) (outside : Outside) (actions : List Action) :
    ((start address outside).run actions).Recorded :=
  run_induction (fun _ action h => h.step action)
    ⟨Chronicle.start address outside, rfl, .start address outside⟩ actions

/-- Two consoles in the same situation, that have sent the same since so much was sent. -/
structure Parallel (before before' : List Sent) (console other : Console) : Prop where
  client : console.client = other.client
  state : console.session.state = other.session.state
  route : console.route = other.route
  view : console.view = other.view
  inFlight : console.inFlight.map Pending.asked = other.inFlight.map Pending.asked
  awaited : console.awaited = other.awaited
  storage : console.outside.storage.Alike other.outside.storage
  network : console.outside.network = other.outside.network
  sent : ∃ new, console.outside.sent = before ++ new ∧ other.outside.sent = before' ++ new

namespace Parallel

variable {before before' : List Sent} {console other : Console}

theorem symm (h : Parallel before before' console other) :
    Parallel before' before other console where
  client := h.client.symm
  state := h.state.symm
  route := h.route.symm
  view := h.view.symm
  inFlight := h.inFlight.symm
  awaited := h.awaited.symm
  storage := h.storage.symm
  network := h.network.symm
  sent := by
    obtain ⟨new, hsent, hsent'⟩ := h.sent
    exact ⟨new, hsent', hsent⟩

theorem rebase (h : Parallel before before' console other) :
    Parallel console.outside.sent other.outside.sent console other :=
  { h with sent := ⟨[], (List.append_nil _).symm, (List.append_nil _).symm⟩ }

/-! ### Views -/

theorem begin (h : Parallel before before' console other) (task : Task) :
    Parallel before before' (console.begin task) (other.begin task) := by
  obtain ⟨log, hbegin⟩ := begin_eq task console
  obtain ⟨log', hbegin'⟩ := begin_eq task other
  have hsend := Client.send_alike h.client h.storage h.network task.request
  obtain ⟨new, hsent, hsent'⟩ := h.sent
  rw [hbegin, hbegin', ← hsend]
  cases (console.client.send task.request console.outside).1 with
  | ok sent =>
    dsimp only
    refine { h with inFlight := ?_, sent := ⟨new ++ [sent], ?_, ?_⟩ }
    · simp [h.inFlight, Pending.asked]
    · simp [hsent]
    · simp [hsent']
  | error error =>
    -- The failure waits for the view shown on both sides, whatever the number of that view.
    have hfailed : ∀ (console : Console) outcome,
        outcomesOf console.scope.generation
          (console.results ++ [⟨console.scope.generation, outcome⟩]) =
          console.awaited ++ [outcome] := by
      intro console outcome
      rw [outcomesOf_append, Console.awaited]
      simp [outcomesOf]
    dsimp only
    refine { h with awaited := ?_ }
    calc outcomesOf console.scope.generation _
        = console.awaited ++ [task.failed error] := hfailed console _
      _ = other.awaited ++ [task.failed error] := by rw [h.awaited]
      _ = outcomesOf other.scope.generation _ := (hfailed other _).symm

theorem awaited_opened (h : ∀ delivery ∈ console.results,
    delivery.generation ≤ console.scope.generation) (route : Route) (returnTo : Option Route) :
    (console.opened route returnTo).awaited = [] :=
  outcomesOf_eq_nil fun delivery hmem => Nat.lt_succ_of_le (h delivery hmem)

section Enter

variable (h : Parallel before before' console other)
  (hle : ∀ delivery ∈ console.results, delivery.generation ≤ console.scope.generation)
  (hle' : ∀ delivery ∈ other.results, delivery.generation ≤ other.scope.generation)

include h hle hle'

theorem opened (route : Route) (returnTo : Option Route) :
    Parallel before before' (console.opened route returnTo) (other.opened route returnTo) := by
  refine { h with route := rfl, view := rfl, inFlight := rfl, awaited := ?_ }
  rw [awaited_opened hle, awaited_opened hle']

theorem enter (route : Route) (returnTo : Option Route) :
    Parallel before before' (console.enter route returnTo) (other.enter route returnTo) := by
  have hopened := h.opened hle hle' route returnTo
  rw [enter_eq, enter_eq]
  cases Task.ofRoute? route with
  | none => exact hopened
  | some task => exact hopened.begin task

theorem navigateTo (route : Route) :
    Parallel before before' (console.navigateTo route) (other.navigateTo route) := by
  obtain ⟨log, hnavigate⟩ := navigateTo_eq route console
  obtain ⟨log', hnavigate'⟩ := navigateTo_eq route other
  have hdestination : console.destination route = other.destination route := by
    unfold destination Session.isSignedIn
    rw [h.state]
  have hlogged : Parallel before before' { console with outside := { console.outside with log } }
      { other with outside := { other.outside with log := log' } } := { h with }
  rw [hnavigate, hnavigate', hdestination]
  exact hlogged.enter hle hle' _ _

theorem signedOut (log log' : List Event) :
    Parallel before before' (console.signedOut log) (other.signedOut log') := by
  have hended : Parallel before before'
      { console with
        session := console.session.announce .signedOut
        outside := { console.outside with storage := console.outside.storage.cleared, log } }
      { other with
        session := other.session.announce .signedOut
        outside := { other.outside with storage := other.outside.storage.cleared, log := log' } } :=
    { h with state := rfl, storage := h.storage.cleared }
  exact hended.opened hle hle' .login none

theorem logout : Parallel before before' console.logout other.logout := by
  obtain ⟨log, hlogout⟩ := logout_eq console
  obtain ⟨log', hlogout'⟩ := logout_eq other
  rw [hlogout, hlogout']
  exact h.signedOut hle hle' log log'

theorem forceLogin : Parallel before before' console.forceLogin other.forceLogin := by
  obtain ⟨log, hforced⟩ := forceLogin_eq console
  obtain ⟨log', hforced'⟩ := forceLogin_eq other
  rw [hforced, hforced']
  exact { h.signedOut hle hle' log log' with }

theorem login (username password : String) (reply : Http.Reply) :
    (console.login username password reply).1 = (other.login username password reply).1 ∧
    Parallel before before' (console.login username password reply).2
      (other.login username password reply).2 := by
  obtain ⟨hresult, hstate, hstorage, hnetwork, posts, hposts, hposts'⟩ :=
    Session.login_alike username password reply h.client h.state h.storage h.network
  obtain ⟨new, hsent, hsent'⟩ := h.sent
  have hreturnTo : console.view.returnTo? = other.view.returnTo? := by rw [h.view]
  unfold Console.login
  generalize console.session.login console.client username password reply console.outside =
    signing at hresult hstate hstorage hnetwork hposts ⊢
  generalize other.session.login other.client username password reply other.outside =
    signing' at hresult hstate hstorage hnetwork hposts' ⊢
  obtain ⟨result, session, outside⟩ := signing
  obtain ⟨result', session', outside'⟩ := signing'
  dsimp only at hresult hstate hstorage hnetwork hposts hposts' ⊢
  have hlater : Parallel before before' { console with session, outside }
      { other with session := session', outside := outside' } := by
    refine { h with
      state := hstate, storage := hstorage, network := hnetwork, sent := ⟨new ++ posts, ?_, ?_⟩ }
    · rw [hposts, hsent, List.append_assoc]
    · rw [hposts', hsent', List.append_assoc]
  subst hresult
  cases result with
  | error error => exact ⟨rfl, hlater⟩
  | ok user =>
    rw [hreturnTo]
    exact ⟨rfl, hlater.navigateTo hle hle' _⟩

end Enter

/-! ### The view shown -/

theorem delete? (h : Parallel before before' console other) (id : String) :
    Option.Rel (Parallel before before') (console.delete? id) (other.delete? id) := by
  unfold Console.delete?
  rw [h.view]
  split
  · exact .some (h.begin _)
  · exact .none

theorem setField? (h : Parallel before before' console other) (field : Field) (value : String) :
    Option.Rel (Parallel before before') (console.setField? field value)
      (other.setField? field value) := by
  unfold Console.setField?
  rw [h.view]
  cases other.view.setField? field value with
  | none => exact .none
  | some view => exact .some { h with view := rfl }

theorem save? (h : Parallel before before' console other) :
    Option.Rel (Parallel before before') console.save? other.save? := by
  unfold Console.save?
  rw [h.view]
  split
  · next kind id record notice hview =>
    have hbegun := h.begin (.update kind id record)
    refine .some { hbegun with view := ?_ }
    exact congrArg View.clearNotice hbegun.view
  · exact .none

/-! ### Results -/

theorem respond? (h : Parallel before before' console other) (hcurrent : console.Timely)
    (hcurrent' : other.Timely) (index : Nat) (reply : Http.Reply) :
    Option.Rel (Parallel before before') (console.respond? index reply)
      (other.respond? index reply) := by
  have hasked : console.inFlight[index]?.map Pending.asked =
      other.inFlight[index]?.map Pending.asked := by
    rw [← List.getElem?_map, ← List.getElem?_map, h.inFlight]
  cases hpending : console.inFlight[index]? with
  | none =>
    rw [hpending, Option.map_none, eq_comm, Option.map_eq_none_iff] at hasked
    rw [respond?_of_none hpending, respond?_of_none hasked]
    exact .none
  | some pending =>
    rw [hpending, Option.map_some, eq_comm, Option.map_eq_some_iff] at hasked
    obtain ⟨pending', hpending', hsame⟩ := hasked
    have htask : pending'.task = pending.task := congrArg Prod.fst hsame
    -- Both requests belong to the view shown, so that both results are awaited.
    have hgeneration := hcurrent.inFlight pending (List.mem_of_getElem? hpending)
    have hgeneration' := hcurrent'.inFlight pending' (List.mem_of_getElem? hpending')
    obtain ⟨log, hrespond⟩ := respond?_of_pending hpending reply
    obtain ⟨log', hrespond'⟩ := respond?_of_pending hpending' reply
    rw [hrespond, hrespond', htask]
    refine .some { h with inFlight := ?_, awaited := ?_ }
    · rw [← List.eraseIdx_map, ← List.eraseIdx_map, h.inFlight]
    · have hawaited := h.awaited
      simp only [Console.awaited, outcomesOf_append] at hawaited ⊢
      rw [hawaited]
      simp [outcomesOf, hgeneration, hgeneration']

/-- A result that comes too late changes nothing. -/
theorem late_left (h : Parallel before before' console other) (delivery : Delivery) :
    Parallel before before' (console.step (.late delivery)) other := by
  simp only [Console.step]
  split
  · next hlate =>
    refine { h with awaited := ?_ }
    have hnone : outcomesOf console.scope.generation [delivery] = [] :=
      outcomesOf_eq_nil fun other hmem => by rwa [List.mem_singleton.mp hmem]
    calc outcomesOf console.scope.generation (console.results ++ [delivery])
        = console.awaited := by rw [outcomesOf_append, hnone, List.append_nil, Console.awaited]
      _ = other.awaited := h.awaited
  · exact h

theorem outside (h : Parallel before before' console other) {storage storage' : Storage}
    (hstorage : storage.Alike storage') (network : Http.Network) :
    Parallel before before' (console.step (.outside storage network))
      (other.step (.outside storage' network)) :=
  { h with storage := hstorage, network := rfl }

end Parallel

end Console

end IdentityConsole
