import IdentityConsole.Proofs.Api.Exchange
import IdentityConsole.Proofs.Console.Faithful
import IdentityConsole.Proofs.Console.Stored

/-!
# A view is loaded once

What a visit begins with, and keeps through all that happens in it, holds of every visit of a run.
So each visit begins with the task that loads its view and begins no other load, and at most one
result that it loaded is applied.
-/

namespace IdentityConsole

/-! ### What a task comes to -/

/-- A task fails, or its response amounts to something. -/
theorem Task.outcome_cases {task : Task} {response? : Except ApiError Response} {outcome : Outcome}
    (h : task.outcome response? = outcome) :
    (∃ error, outcome = task.failed error) ∨
    ∃ response, response? = .ok response ∧ task.result response = .ok outcome := by
  subst h
  unfold Task.outcome
  split
  · next outcome houtcome => exact .inr (bind_eq_ok.mp houtcome)
  · next error _ => exact .inl ⟨error, rfl⟩

theorem Task.Yields.failed_or_result {task : Task} {outcome : Outcome} (h : task.Yields outcome) :
    (∃ error, outcome = task.failed error) ∨ ∃ response, task.result response = .ok outcome := by
  obtain ⟨response?, houtcome⟩ := h
  obtain hfailed | ⟨response, -, hresult⟩ := outcome_cases houtcome.symm
  · exact .inl hfailed
  · exact .inr ⟨response, hresult⟩

/-- What loads a record has one that was read from a text. -/
theorem Task.Yields.record {kind : Kind} {id : String} {data : Loaded}
    (h : (loadRecord kind id).Yields (.loaded data)) :
    ∃ text record, Json.decode (Record.decoder kind) text = .ok record ∧
      data = .record kind record := by
  obtain ⟨error, ⟨⟩⟩ | ⟨response, hresult⟩ := h.failed_or_result
  obtain ⟨record, hrecord, ⟨⟩⟩ := bind_eq_ok.mp hresult
  exact ⟨_, record, (Response.value_eq_ok.mp hrecord).2, rfl⟩

/-! ### What is begun and changed in a view -/

namespace Console

/-- One request is made for a task. When it can leave, it has left and is in flight; when it cannot,
it sends nothing and is a failure that waits. -/
inductive Requests (console later : Console) (task : Task) : Prop
  | sent {sent : Sent}
      (hsend : (console.client.send task.request console.outside).1 = .ok sent)
      (hleaves : console.client.Leaves task.request console.outside sent)
      (hreaches : console.client.Reaches task.request console.outside)
      (hsent : later.outside.sent = console.outside.sent ++ [sent])
      (hinFlight : later.inFlight =
        console.inFlight ++ [⟨console.scope.generation, task, sent⟩])
      (hresults : later.results = console.results)
  | failed {error : ApiError}
      (hsend : (console.client.send task.request console.outside).1 = .error error)
      (hreaches : ¬console.client.Reaches task.request console.outside)
      (hsent : later.outside.sent = console.outside.sent)
      (hinFlight : later.inFlight = console.inFlight)
      (hresults : later.results =
        console.results ++ [⟨console.scope.generation, task.failed error⟩])

theorem requests_begin (task : Task) (console : Console) :
    console.Requests (console.begin task) task := by
  obtain ⟨log, hbegin⟩ := begin_eq task console
  cases hsend : (console.client.send task.request console.outside).1 with
  | ok sent =>
    obtain ⟨hreaches, hleaves⟩ := Client.send_eq_ok.mp hsend
    rw [hbegin, hsend]
    exact .sent hsend hleaves hreaches rfl rfl rfl
  | error error =>
    have hunreachable : ¬console.client.Reaches task.request console.outside := by
      rw [← Client.exists_send_eq_ok, hsend]
      rintro ⟨sent, ⟨⟩⟩
    rw [hbegin, hsend]
    exact .failed hsend hunreachable rfl rfl rfl

/-- It does not matter what else becomes of the console. -/
theorem Requests.congr {console later last : Console} {task : Task}
    (h : console.Requests later task) (hsent : last.outside.sent = later.outside.sent)
    (hinFlight : last.inFlight = later.inFlight) (hresults : last.results = later.results) :
    console.Requests last task := by
  cases h with
  | sent hsend hleaves hreaches hsent' hinFlight' hresults' =>
    exact .sent hsend hleaves hreaches (hsent.trans hsent') (hinFlight.trans hinFlight')
      (hresults.trans hresults')
  | failed hsend hreaches hsent' hinFlight' hresults' =>
    exact .failed hsend hreaches (hsent.trans hsent') (hinFlight.trans hinFlight')
      (hresults.trans hresults')

/-- After the requests of a login at most one task is asked for. What was in flight may have been
given up before. -/
inductive Asks (console : Console) (posts : List Sent) : Option Task → Console → Prop
  | nothing {later : Console} (hsent : later.outside.sent = console.outside.sent ++ posts)
      (hinFlight : later.inFlight = console.inFlight ∨ later.inFlight = [])
      (hresults : later.results = console.results) : Asks console posts none later
  | task {before later : Console} {task : Task} (hclient : before.client = console.client)
      (hnetwork : before.outside.network = console.outside.network)
      (hstorage : before.outside.storage = later.outside.storage)
      (hgeneration : before.scope.generation = later.scope.generation)
      (hsent : before.outside.sent = console.outside.sent ++ posts)
      (hinFlight : before.inFlight = console.inFlight ∨ before.inFlight = [])
      (hresults : before.results = console.results)
      (hrequests : before.Requests later task) : Asks console posts (some task) later

theorem Asks.congr {console later last : Console} {posts : List Sent} {task? : Option Task}
    (h : console.Asks posts task? later) (hsent : last.outside.sent = later.outside.sent)
    (hstorage : last.outside.storage = later.outside.storage)
    (hgeneration : last.scope.generation = later.scope.generation)
    (hinFlight : last.inFlight = later.inFlight) (hresults : last.results = later.results) :
    console.Asks posts task? last := by
  cases h with
  | nothing hsent' hinFlight' hresults' =>
    exact .nothing (hsent.trans hsent') (hinFlight ▸ hinFlight') (hresults.trans hresults')
  | task hclient hnetwork hstorage' hgeneration' hsent' hinFlight' hresults' hrequests =>
    exact .task hclient hnetwork (hstorage'.trans hstorage.symm)
      (hgeneration'.trans hgeneration.symm) hsent' hinFlight' hresults'
      (hrequests.congr hsent hinFlight hresults)

theorem asks_begin (task : Task) (console : Console) :
    console.Asks [] (some task) (console.begin task) := by
  refine .task rfl rfl ?_ ?_ (List.append_nil _).symm (.inl rfl) rfl (requests_begin task console)
  · rw [begin_storage]
  · rw [begin_scope]

variable {console : Console} {action : Action}

/-- In a view that is shown already nothing is loaded. -/
theorem of_mem_begun {task : Task} (h : task ∈ console.begun action) :
    task.isLoad = false ∧ task.route = console.view.route := by
  cases action <;> simp only [begun] at h
  case delete id =>
    split at h
    · next kind hkind =>
      rw [List.mem_singleton.mp h, View.route_of_listKind? hkind]
      exact ⟨rfl, rfl⟩
    · cases h
  case save =>
    split at h
    · next kind id record notice hview =>
      rw [List.mem_singleton.mp h, hview]
      exact ⟨rfl, rfl⟩
    · cases h
  all_goals cases h

theorem result_not_mem_changed (outcome : Outcome) : .result outcome ∉ console.changed action := by
  intro hmem
  have houtcome : outcome ∈ (console.changed action).filterMap Change.outcome? :=
    List.mem_filterMap.mpr ⟨_, hmem, rfl⟩
  rw [changed_outcome?] at houtcome
  cases houtcome

theorem isLoaded_of_mem_changed {change : Change} (h : change ∈ console.changed action) :
    change.isLoaded = false := by
  cases change with
  | result outcome => exact absurd h (result_not_mem_changed outcome)
  | edit field value | save => rfl

end Console

namespace Chronicle

variable {chronicle : Chronicle}

/-- What no change of the queue breaks, and every delivery and every other action keeps, is kept by
a step. -/
theorem step_keeps {motive : Chronicle → List Delivery → Prop} {action : Console.Action}
    (hqueue : ∀ chronicle results waiting, motive chronicle waiting →
      motive { chronicle with console := { chronicle.console with results } } waiting)
    (hdeliver : ∀ chronicle delivery rest, chronicle.Faithful (delivery :: rest) →
      motive chronicle (delivery :: rest) → motive (chronicle.deliver delivery) rest)
    (hact : action ≠ .poll → action ≠ .wait →
      motive (chronicle.act action) (chronicle.console.step action).results)
    (harrive : ∀ chronicle deliveries waiting, motive chronicle waiting →
      motive (chronicle.arrive deliveries) waiting)
    (hfaithful : chronicle.Faithful chronicle.console.results)
    (h : motive chronicle chronicle.console.results) :
    motive (chronicle.step action) (chronicle.step action).console.results := by
  have hdeliveries := step_deliveries
    (motive := fun later waiting => later.Faithful waiting ∧ motive later waiting)
    (fun later results waiting h => ⟨h.1.queue results, hqueue later results waiting h.2⟩)
    (fun later delivery rest h => ⟨h.1.deliver, hdeliver later delivery rest h.1 h.2⟩)
    ⟨hfaithful, h⟩
  cases action using Console.Action.delivery_cases with
  | poll => exact hdeliveries.1.2
  | wait => exact hdeliveries.2.2
  | other action hpoll hwait =>
    rw [step_console, step_of_ne hpoll hwait]
    exact harrive _ _ _ (hact hpoll hwait)

theorem forall_visits_iff {holds : Visit → Prop} :
    (∀ visit ∈ chronicle.visits, holds visit) ↔
      (∀ visit ∈ chronicle.past, holds visit) ∧ holds chronicle.visit := by
  rw [visits, List.forall_mem_append, List.forall_mem_singleton]

theorem visit_mem_visits (chronicle : Chronicle) : chronicle.visit ∈ chronicle.visits :=
  List.mem_append_right _ List.mem_cons_self

/-- A run shows the view of the visit under way. -/
theorem view_run (address : String) (outside : Outside) (actions : List Console.Action) :
    ((Console.start address outside).run actions).view =
      ((start address outside).run actions).visit.view := by
  have hview := (faithful_run address outside actions).view
  rwa [run_console] at hview

end Chronicle

/-! ### What every visit keeps -/

/-- What every visit begins with, and keeps through all that happens in it. -/
structure Visit.Invariant (holds : Visit → Prop) : Prop where
  opened : ∀ generation route returnTo, holds (.opened generation route returnTo)
  deliver : ∀ {chronicle : Chronicle} {delivery : Delivery} {rest : List Delivery},
    chronicle.Faithful (delivery :: rest) → delivery.generation = chronicle.visit.generation →
    holds chronicle.visit → holds (chronicle.visit.add [] [.result delivery.outcome])
  act : ∀ {chronicle : Chronicle} (action : Console.Action),
    chronicle.Faithful chronicle.console.results → holds chronicle.visit →
    holds (chronicle.visit.add (chronicle.console.begun action) (chronicle.console.changed action))
  arrive : ∀ {visit : Visit} (deliveries : List Delivery),
    holds visit → holds (visit.arrive deliveries)

namespace Visit.Invariant

variable {holds : Visit → Prop} {chronicle : Chronicle}

theorem enter_visits (inv : Invariant holds) {console : Console} {route : Route}
    {returnTo : Option Route} (h : ∀ visit ∈ chronicle.visits, holds visit) :
    ∀ visit ∈ (chronicle.enter console route returnTo).visits, holds visit :=
  Chronicle.forall_visits_iff.mpr ⟨h, inv.opened _ _ _⟩

theorem deliver_visits (inv : Invariant holds) {delivery : Delivery} {rest : List Delivery}
    (hfaithful : chronicle.Faithful (delivery :: rest))
    (h : ∀ visit ∈ chronicle.visits, holds visit) :
    ∀ visit ∈ (chronicle.deliver delivery).visits, holds visit := by
  obtain ⟨hpast, hvisit⟩ := Chronicle.forall_visits_iff.mp h
  simp only [Chronicle.deliver]
  split
  · next hown =>
    have hvisit := inv.deliver hfaithful hown hvisit
    split
    · exact inv.enter_visits (Chronicle.forall_visits_iff.mpr ⟨hpast, hvisit⟩)
    · exact Chronicle.forall_visits_iff.mpr ⟨hpast, hvisit⟩
  · exact h

theorem act_visits (inv : Invariant holds) (action : Console.Action)
    (hfaithful : chronicle.Faithful chronicle.console.results)
    (h : ∀ visit ∈ chronicle.visits, holds visit) :
    ∀ visit ∈ (chronicle.act action).visits, holds visit := by
  obtain ⟨hpast, hvisit⟩ := Chronicle.forall_visits_iff.mp h
  simp only [Chronicle.act]
  split
  · exact inv.enter_visits h
  · exact Chronicle.forall_visits_iff.mpr ⟨hpast, inv.act action hfaithful hvisit⟩

theorem step_visits (inv : Invariant holds) (action : Console.Action)
    (hfaithful : chronicle.Faithful chronicle.console.results)
    (h : ∀ visit ∈ chronicle.visits, holds visit) :
    ∀ visit ∈ (chronicle.step action).visits, holds visit := by
  refine Chronicle.step_keeps
    (motive := fun chronicle _ => ∀ visit ∈ chronicle.visits, holds visit)
    (fun _ _ _ h => h) (fun _ _ _ hfaithful h => inv.deliver_visits hfaithful h)
    (fun _ _ => inv.act_visits action hfaithful h) (fun chronicle deliveries _ h => ?_) hfaithful h
  obtain ⟨hpast, hvisit⟩ := Chronicle.forall_visits_iff.mp h
  exact Chronicle.forall_visits_iff.mpr ⟨hpast, inv.arrive deliveries hvisit⟩

theorem run_visits (inv : Invariant holds) {actions : List Console.Action}
    (hfaithful : chronicle.Faithful chronicle.console.results)
    (h : ∀ visit ∈ chronicle.visits, holds visit) :
    ∀ visit ∈ (chronicle.run actions).visits, holds visit := by
  induction actions generalizing chronicle with
  | nil => exact h
  | cons action rest ih =>
    exact ih (hfaithful.step action) (inv.step_visits action hfaithful h)

/-- It holds of all visits of a run, those that are past and the one under way. -/
theorem forall_visits_run (inv : Invariant holds) (address : String) (outside : Outside)
    (actions : List Console.Action) :
    ∀ visit ∈ ((Chronicle.start address outside).run actions).visits, holds visit := by
  refine inv.run_visits (Chronicle.Faithful.start address outside) ?_
  exact Chronicle.forall_visits_iff.mpr
    ⟨fun visit hmem => absurd hmem List.not_mem_nil, inv.opened _ _ _⟩

end Visit.Invariant

/-! ### Loads -/

namespace Visit

/-- A visit begins one load at most, and first; all that is applied in it comes of what it began. -/
structure Coherent (visit : Visit) : Prop where
  begun : ∃ later, visit.begun = (Task.ofRoute? visit.route).toList ++ later ∧
    ∀ task ∈ later, task.isLoad = false ∧ task.route = visit.route
  applied : ∀ outcome, .result outcome ∈ visit.changes →
    ∃ task ∈ visit.begun, task.Yields outcome
  loads : visit.changes.countP Change.isLoaded ≤ 1

variable {visit : Visit}

theorem coherent_opened (generation : Nat) (route : Route) (returnTo : Option Route) :
    (opened generation route returnTo).Coherent where
  begun := ⟨[], by simp [opened, blank, add]⟩
  applied _ hmem := absurd hmem List.not_mem_nil
  loads := Nat.zero_le 1

theorem Coherent.deliver {chronicle : Chronicle} {delivery : Delivery} {rest : List Delivery}
    (hfaithful : chronicle.Faithful (delivery :: rest))
    (hown : delivery.generation = chronicle.visit.generation) (h : chronicle.visit.Coherent) :
    (chronicle.visit.add [] [.result delivery.outcome]).Coherent where
  begun := by simpa [add] using h.begun
  applied := by
    intro outcome hmem
    simp only [add, List.append_nil]
    rcases List.mem_append.mp hmem with hmem | hmem
    · exact h.applied outcome hmem
    · cases List.mem_singleton.mp hmem
      exact (hfaithful.arrived delivery List.mem_cons_self).2 hown
  loads := by
    have hloads := hfaithful.loads
    simp only [Chronicle.loads, List.countP_cons, Delivery.fills, hown, beq_self_eq_true,
      Bool.true_and] at hloads
    have hsame : (Change.result delivery.outcome).isLoaded = delivery.outcome.isLoaded := rfl
    simp only [add, List.countP_append, List.countP_singleton]
    cases hloaded : delivery.outcome.isLoaded <;>
      simp only [hsame, hloaded, Bool.false_eq_true, if_false, if_true] at hloads ⊢ <;> omega

theorem Coherent.act {chronicle : Chronicle} (action : Console.Action)
    (hfaithful : chronicle.Faithful chronicle.console.results) (h : chronicle.visit.Coherent) :
    (chronicle.visit.add (chronicle.console.begun action)
      (chronicle.console.changed action)).Coherent where
  begun := by
    obtain ⟨later, hbegun, hlater⟩ := h.begun
    refine ⟨later ++ chronicle.console.begun action, by simp [add, hbegun], ?_⟩
    intro task hmem
    rcases List.mem_append.mp hmem with hmem | hmem
    · exact hlater task hmem
    · obtain ⟨hload, hroute⟩ := Console.of_mem_begun hmem
      refine ⟨hload, ?_⟩
      rw [hroute, hfaithful.view, route_view]
      rfl
  applied := by
    intro outcome hmem
    rcases List.mem_append.mp hmem with hmem | hmem
    · obtain ⟨task, hbegun, hyields⟩ := h.applied outcome hmem
      exact ⟨task, List.mem_append_left _ hbegun, hyields⟩
    · exact absurd hmem (Console.result_not_mem_changed outcome)
  loads := by
    have hnone : (chronicle.console.changed action).countP Change.isLoaded = 0 := by
      rw [List.countP_eq_zero]
      intro change hmem
      rw [Console.isLoaded_of_mem_changed hmem]
      exact Bool.false_ne_true
    simp only [add, List.countP_append, hnone]
    exact h.loads

/-- The view of a visit, by what came before one of its results and what came after. -/
theorem view_of_changes {before after : List Change} {outcome : Outcome}
    (h : visit.changes = before ++ .result outcome :: after) :
    visit.view = (((View.ofRoute visit.route visit.returnTo).replay before).afterResult
      outcome).replay after := by
  rw [view, h, View.replay_append]
  rfl

/-- The only load is the task that the visit began with. -/
theorem Coherent.ofRoute?_of_begun (h : visit.Coherent) {task : Task}
    (hbegun : task ∈ visit.begun) (hload : task.isLoad = true) :
    Task.ofRoute? visit.route = some task := by
  obtain ⟨later, hlater, hloads⟩ := h.begun
  rw [hlater] at hbegun
  rcases List.mem_append.mp hbegun with hbegun | hbegun
  · exact Option.mem_toList.mp hbegun
  · have hnone := (hloads task hbegun).1
    rw [hload] at hnone
    cases hnone

/-- What was loaded comes of the task that the visit began with. -/
theorem Coherent.yields_load (h : visit.Coherent) {outcome : Outcome}
    (hmem : .result outcome ∈ visit.changes) (hloaded : outcome.isLoaded = true) :
    ∃ task, Task.ofRoute? visit.route = some task ∧ task.Yields outcome := by
  obtain ⟨task, hbegun, hyields⟩ := h.applied outcome hmem
  exact ⟨task, h.ofRoute?_of_begun hbegun (hyields.isLoad hloaded), hyields⟩

/-- Before a load nothing has been loaded, and nothing is after it. -/
theorem Coherent.loading_or_loaded (h : visit.Coherent) :
    (∀ change ∈ visit.changes, change.isLoaded = false) ∨
    ∃ before data after task,
      visit.changes = before ++ .result (.loaded data) :: after ∧
      (∀ change ∈ before, change.isLoaded = false) ∧
      (∀ change ∈ after, change.isLoaded = false) ∧
      Task.ofRoute? visit.route = some task ∧ task.Yields (.loaded data) := by
  by_cases hnone : ∀ change ∈ visit.changes, change.isLoaded = false
  · exact .inl hnone
  · simp only [not_forall, Bool.not_eq_false] at hnone
    obtain ⟨change, hmem, hloaded⟩ := hnone
    obtain ⟨before, after, hchanges⟩ := List.append_of_mem hmem
    have hloads := h.loads
    rw [hchanges, List.countP_append, List.countP_cons_of_pos hloaded] at hloads
    have hbefore : before.countP Change.isLoaded = 0 := by omega
    have hafter : after.countP Change.isLoaded = 0 := by omega
    rw [List.countP_eq_zero] at hbefore hafter
    obtain ⟨data, rfl⟩ : ∃ data, change = .result (.loaded data) := by
      cases change with
      | result outcome =>
        cases outcome with
        | loaded data => exact ⟨data, rfl⟩
        | deleted kind id | updated kind id | failed action error => cases hloaded
      | edit field value | save => cases hloaded
    obtain ⟨task, htask, hyields⟩ := h.yields_load hmem rfl
    exact .inr ⟨before, data, after, task, hchanges,
      fun change hmem => by simpa using hbefore change hmem,
      fun change hmem => by simpa using hafter change hmem, htask, hyields⟩

end Visit

theorem Visit.Coherent.invariant : Visit.Invariant Visit.Coherent where
  opened := coherent_opened
  deliver := Coherent.deliver
  act := Coherent.act
  arrive _ h := ⟨h.begun, h.applied, h.loads⟩

theorem Chronicle.coherent_run (address : String) (outside : Outside)
    (actions : List Console.Action) :
    ∀ visit ∈ ((start address outside).run actions).visits, visit.Coherent :=
  Visit.Coherent.invariant.forall_visits_run address outside actions

end IdentityConsole
