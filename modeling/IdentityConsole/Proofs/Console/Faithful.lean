import Mathlib.Data.List.Perm.Basic
import IdentityConsole.Proofs.Console.Visit

/-!
# Chronicles are faithful

Results of several views share one queue. The generation tells them apart: it grows with each view
that is entered, so that what reaches a view was begun in its own visit. This file states what ties
a console to the chronicle of its visits, and shows that every action and every delivery keeps it.
-/

namespace IdentityConsole

/-! ### Tasks and what comes of them -/

/-- The route in whose view a task is begun. -/
def Task.route : Task → Route
  | .loadList kind | .delete kind _ => .list kind
  | .loadRecord kind id | .update kind id _ => .detail kind id

def Task.isLoad : Task → Bool
  | .loadList _ | .loadRecord .. => true
  | .delete .. | .update .. => false

/-- The outcomes a task can have. -/
def Task.Yields (task : Task) (outcome : Outcome) : Prop :=
  ∃ response, outcome = task.outcome response

theorem Task.yields_failed (task : Task) (error : ApiError) : task.Yields (task.failed error) :=
  ⟨.error error, rfl⟩

theorem Task.route_of_ofRoute? {route : Route} {task : Task} (h : ofRoute? route = some task) :
    task.route = route := by
  cases route with
  | login | dashboard => cases h
  | list kind | detail kind id => cases h; rfl

/-- A result that fills the view of a generation. -/
def Delivery.fills (generation : Nat) (delivery : Delivery) : Bool :=
  delivery.generation == generation && delivery.outcome.isLoaded

@[simp]
theorem Delivery.fills_failed (generation generation' : Nat) (task : Task) (error : ApiError) :
    Delivery.fills generation ⟨generation', task.failed error⟩ = false :=
  Bool.and_false _

/-- Only a task that loads has data for an outcome. -/
theorem Task.Yields.isLoad {task : Task} {outcome : Outcome} (h : task.Yields outcome)
    (hloaded : outcome.isLoaded = true) : task.isLoad = true := by
  obtain ⟨response, rfl⟩ := h
  cases task with
  | loadList kind | loadRecord kind id => rfl
  | delete kind id | update kind id record => cases response <;> cases hloaded

namespace Visit

@[simp]
theorem add_nil (visit : Visit) : visit.add [] [] = visit := by
  simp [add]

theorem view_add (visit : Visit) (begun : List Task) (changes : List Change) :
    (visit.add begun changes).view = visit.view.replay changes :=
  View.replay_append ..

theorem route_view (visit : Visit) : visit.view.route = visit.route := by
  rw [view, View.route_replay, View.route_ofRoute]

end Visit

namespace Chronicle

variable {chronicle : Chronicle} {waiting : List Delivery}

/-- The loads of the visit under way: in flight, arrived, or applied. -/
def loads (chronicle : Chronicle) (waiting : List Delivery) : Nat :=
  chronicle.console.inFlight.countP (·.task.isLoad) +
    waiting.countP (·.fills chronicle.visit.generation) +
    chronicle.visit.changes.countP Change.isLoaded

/-- What ties a console to the visits it has made, `waiting` being the results that are still to be
delivered. -/
structure Faithful (chronicle : Chronicle) (waiting : List Delivery) : Prop where
  past_generations :
    chronicle.past.map Visit.generation = List.range chronicle.console.scope.generation
  generation : chronicle.visit.generation = chronicle.console.scope.generation
  route : chronicle.visit.route = chronicle.console.route
  view : chronicle.console.view = chronicle.visit.view
  begun : ∀ task ∈ chronicle.visit.begun, task.route = chronicle.visit.route
  inFlight : ∀ pending ∈ chronicle.console.inFlight,
    pending.generation = chronicle.visit.generation ∧ pending.task ∈ chronicle.visit.begun
  arrived : ∀ delivery ∈ waiting, delivery.generation ≤ chronicle.visit.generation ∧
    (delivery.generation = chronicle.visit.generation →
      ∃ task ∈ chronicle.visit.begun, task.Yields delivery.outcome)
  applied : ∀ outcome, .result outcome ∈ chronicle.visit.changes →
    ∃ task ∈ chronicle.visit.begun, task.Yields outcome
  loads : chronicle.loads waiting ≤ 1

namespace Faithful

theorem generations (h : chronicle.Faithful waiting) :
    chronicle.visits.map Visit.generation =
      List.range (chronicle.console.scope.generation + 1) := by
  rw [visits, List.map_append, h.past_generations, List.map_singleton, h.generation,
    List.range_succ]

/-- Entering a view ends what was in flight, and leaves only results of earlier generations. -/
theorem opened (h : chronicle.Faithful waiting) (console : Console) (past : List Visit)
    (route : Route) (returnTo : Option Route)
    (hpast : past.map Visit.generation = chronicle.visits.map Visit.generation)
    (hgeneration : console.scope.generation = chronicle.console.scope.generation + 1)
    (hroute : console.route = route) (hview : console.view = .ofRoute route returnTo)
    (hinFlight : console.inFlight = []) :
    ({ console, past, visit := .blank console.scope.generation route returnTo } :
      Chronicle).Faithful waiting ∧
    ({ console, past, visit := .blank console.scope.generation route returnTo } :
      Chronicle).loads waiting = 0 := by
  have hearlier : ∀ delivery ∈ waiting, delivery.generation < console.scope.generation := by
    intro delivery hmem
    have hle := (h.arrived delivery hmem).1
    rw [h.generation] at hle
    omega
  have hloads : ({ console, past, visit := .blank console.scope.generation route returnTo } :
      Chronicle).loads waiting = 0 := by
    simp only [Chronicle.loads, hinFlight, Visit.blank, List.countP_nil, Nat.zero_add, Nat.add_zero,
      List.countP_eq_zero]
    intro delivery hmem
    simp [Delivery.fills, Nat.ne_of_lt (hearlier delivery hmem)]
  refine ⟨?_, hloads⟩
  exact {
    past_generations := by rw [hpast, h.generations, hgeneration]
    generation := rfl
    route := hroute.symm
    view := hview
    begun := by simp [Visit.blank]
    inFlight := by simp [hinFlight]
    arrived := fun delivery hmem =>
      ⟨Nat.le_of_lt (hearlier delivery hmem),
        fun heq => absurd heq (Nat.ne_of_lt (hearlier delivery hmem))⟩
    applied := by simp [Visit.blank]
    loads := by simp [hloads] }

/-- A task that is begun is accounted for, in flight or among the results. -/
theorem begin (h : chronicle.Faithful chronicle.console.results) {task : Task}
    (hroute : task.route = chronicle.visit.route)
    (hload : task.isLoad = true → chronicle.loads chronicle.console.results = 0) :
    ({ chronicle with
        console := chronicle.console.begin task
        visit := chronicle.visit.add [task] [] } : Chronicle).Faithful
      (chronicle.console.begin task).results := by
  have hbegun : ∀ other ∈ chronicle.visit.begun ++ [task], other.route = chronicle.visit.route := by
    intro other hmem
    rcases List.mem_append.mp hmem with hmem | hmem
    · exact h.begun other hmem
    · rw [List.mem_singleton.mp hmem, hroute]
  have hinFlight : ∀ pending ∈ chronicle.console.inFlight,
      pending.generation = chronicle.visit.generation ∧
        pending.task ∈ chronicle.visit.begun ++ [task] := by
    intro pending hmem
    obtain ⟨hgeneration, hbegun⟩ := h.inFlight pending hmem
    exact ⟨hgeneration, List.mem_append_left _ hbegun⟩
  have harrived : ∀ delivery ∈ chronicle.console.results,
      delivery.generation ≤ chronicle.visit.generation ∧
        (delivery.generation = chronicle.visit.generation →
          ∃ task' ∈ chronicle.visit.begun ++ [task], task'.Yields delivery.outcome) := by
    intro delivery hmem
    obtain ⟨hle, hyields⟩ := h.arrived delivery hmem
    refine ⟨hle, fun heq => ?_⟩
    obtain ⟨task', hbegun, hyields⟩ := hyields heq
    exact ⟨task', List.mem_append_left _ hbegun, hyields⟩
  have happlied : ∀ outcome, .result outcome ∈ chronicle.visit.changes →
      ∃ task' ∈ chronicle.visit.begun ++ [task], task'.Yields outcome := by
    intro outcome hmem
    obtain ⟨task', hbegun, hyields⟩ := h.applied outcome hmem
    exact ⟨task', List.mem_append_left _ hbegun, hyields⟩
  have hloads := h.loads
  simp only [Chronicle.loads] at hloads hload
  -- The task is the last to be begun, whether it is in flight or has failed at once.
  have hlast : task ∈ chronicle.visit.begun ++ [task] := by simp
  rcases Console.begin_cases task chronicle.console with ⟨log, sent, hbegin⟩ | ⟨log, error, hbegin⟩
  · rw [hbegin]
    refine ⟨h.past_generations, h.generation, h.route, ?_, hbegun, ?_, harrived, ?_, ?_⟩
    · rw [Visit.view_add]
      exact h.view
    · intro pending hmem
      rcases List.mem_append.mp hmem with hmem | hmem
      · exact hinFlight pending hmem
      · rw [List.mem_singleton.mp hmem]
        exact ⟨h.generation.symm, hlast⟩
    · simpa [Visit.add] using happlied
    · simp only [Chronicle.loads, Visit.add, List.append_nil, List.countP_append,
        List.countP_singleton]
      split
      · next htask => have := hload htask; omega
      · omega
  · rw [hbegin]
    refine ⟨h.past_generations, h.generation, h.route, ?_, hbegun, hinFlight, ?_, ?_, ?_⟩
    · rw [Visit.view_add]
      exact h.view
    · intro delivery hmem
      rcases List.mem_append.mp hmem with hmem | hmem
      · exact harrived delivery hmem
      · rw [List.mem_singleton.mp hmem]
        exact ⟨Nat.le_of_eq h.generation.symm, fun _ => ⟨task, hlast, task.yields_failed error⟩⟩
    · simpa [Visit.add] using happlied
    · simp only [Chronicle.loads, Visit.add, List.append_nil, List.countP_append,
        List.countP_singleton, Delivery.fills_failed]
      simpa using hloads

/-- A change of the view is recorded as it happens. Where a result is the change it comes from the
head of those that wait. -/
theorem change (h : chronicle.Faithful waiting) {console : Console} {change : Change}
    {rest : List Delivery} (hview : console.view = chronicle.console.view.after change)
    (hroute : console.route = chronicle.console.route)
    (hscope : console.scope = chronicle.console.scope)
    (hinFlight : console.inFlight = chronicle.console.inFlight)
    (hrest : ∀ delivery ∈ rest, delivery ∈ waiting)
    (hyields : ∀ outcome, change = .result outcome →
      ∃ task ∈ chronicle.visit.begun, task.Yields outcome)
    (hloads : rest.countP (·.fills chronicle.visit.generation) + change.isLoaded.toNat ≤
      waiting.countP (·.fills chronicle.visit.generation)) :
    ({ chronicle with console, visit := chronicle.visit.add [] [change] } : Chronicle).Faithful
      rest where
  past_generations := by rw [hscope, h.past_generations]
  generation := by rw [hscope]; exact h.generation
  route := by rw [hroute]; exact h.route
  view := by rw [hview, h.view, Visit.view_add, View.replay_singleton]
  begun := by simpa [Visit.add] using h.begun
  inFlight := by simpa [Visit.add, hinFlight] using h.inFlight
  arrived := by
    intro delivery hmem
    simpa [Visit.add] using h.arrived delivery (hrest delivery hmem)
  applied := by
    intro outcome hmem
    rcases List.mem_append.mp hmem with hmem | hmem
    · simpa [Visit.add] using h.applied outcome hmem
    · simpa [Visit.add] using hyields outcome (List.mem_singleton.mp hmem).symm
  loads := by
    have hbefore := h.loads
    simp only [Chronicle.loads, Visit.add, hinFlight, List.countP_append,
      List.countP_singleton] at *
    cases hloaded : change.isLoaded <;> simp [hloaded] at hloads ⊢ <;> omega

/-- What is not looked at by a chronicle may change. -/
theorem congr (h : chronicle.Faithful waiting) {console : Console} {rest : List Delivery}
    (hview : console.view = chronicle.console.view)
    (hroute : console.route = chronicle.console.route)
    (hscope : console.scope = chronicle.console.scope)
    (hinFlight : console.inFlight = chronicle.console.inFlight)
    (hrest : rest.Sublist waiting) :
    ({ chronicle with console } : Chronicle).Faithful rest where
  past_generations := by rw [hscope, h.past_generations]
  generation := by rw [hscope]; exact h.generation
  route := by rw [hroute]; exact h.route
  view := by rw [hview]; exact h.view
  begun := h.begun
  inFlight := by rw [hinFlight]; exact h.inFlight
  arrived delivery hmem := h.arrived delivery (hrest.subset hmem)
  applied := h.applied
  loads := by
    have hbefore := h.loads
    have hcount := hrest.countP_le (p := (·.fills chronicle.visit.generation))
    simp only [Chronicle.loads, hinFlight] at *
    omega

/-- Entering a view and beginning to fill it. -/
theorem enter (h : chronicle.Faithful chronicle.console.results) {console : Console}
    (hscope : console.scope = chronicle.console.scope)
    (hresults : console.results = chronicle.console.results) (route : Route)
    (returnTo : Option Route) :
    (chronicle.enter (console.enter route returnTo) route returnTo).Faithful
      (console.enter route returnTo).results := by
  have hgeneration : (console.opened route returnTo).scope.generation =
      chronicle.console.scope.generation + 1 := by
    simp [Console.opened, Scope.next, Scope.opened, hscope]
  obtain ⟨hopened, hloads⟩ := h.opened (console.opened route returnTo) chronicle.visits route
    returnTo rfl hgeneration rfl rfl rfl
  rw [← hresults] at hopened hloads
  simp only [Chronicle.enter, Visit.opened]
  rw [Console.enter_eq]
  cases htask : Task.ofRoute? route with
  | none =>
    rw [Option.toList_none, Visit.add_nil]
    exact hopened
  | some task =>
    dsimp only [Option.toList_some]
    rw [Console.begin_scope]
    exact hopened.begin (Task.route_of_ofRoute? htask) fun _ => hloads

/-- Delivering the first of the results that wait. -/
theorem deliver {delivery : Delivery} {rest : List Delivery}
    (h : chronicle.Faithful (delivery :: rest)) : (chronicle.deliver delivery).Faithful rest := by
  unfold Chronicle.deliver
  split
  · next hown =>
    rw [Console.deliver_current (hown.trans h.generation)]
    split
    · next hrejection =>
      obtain ⟨log, hforced⟩ := Console.forceLogin_eq chronicle.console
      rw [Console.apply_rejection hrejection, hforced]
      refine (h.opened _ _ _ _ ?_ rfl rfl rfl rfl).1.congr rfl rfl rfl rfl
        (List.sublist_cons_self ..)
      simp [visits, Visit.add]
    · next hrejection =>
      obtain ⟨log, happly⟩ := Console.apply_eq (by simpa using hrejection) chronicle.console
      rw [happly]
      refine h.change rfl rfl rfl rfl (fun _ => List.mem_cons_of_mem _) ?_ ?_
      · rintro outcome ⟨⟩
        exact (h.arrived delivery List.mem_cons_self).2 hown
      · have hfills : delivery.fills chronicle.visit.generation = delivery.outcome.isLoaded := by
          simp [Delivery.fills, hown]
        rw [List.countP_cons, hfills, Change.isLoaded]
        cases delivery.outcome.isLoaded <;> simp
  · next hstale =>
    rw [Console.deliver_stale fun heq => hstale (heq.trans h.generation.symm)]
    exact h.congr rfl rfl rfl rfl (List.sublist_cons_self ..)

/-- The record of what has arrived is kept beside all else. -/
theorem arrive (h : chronicle.Faithful waiting) (deliveries : List Delivery) :
    (chronicle.arrive deliveries).Faithful waiting :=
  ⟨h.past_generations, h.generation, h.route, h.view, h.begun, h.inFlight, h.arrived, h.applied,
    h.loads⟩

/-- A request in flight is exchanged for its result. -/
theorem respond (h : chronicle.Faithful chronicle.console.results) {index : Nat}
    {pending : Pending} {reply : Http.Reply} {log : List Event}
    (hpending : chronicle.console.inFlight[index]? = some pending) :
    ({ chronicle with
        console := { chronicle.console with
          outside := { chronicle.console.outside with log }
          inFlight := chronicle.console.inFlight.eraseIdx index
          results := chronicle.console.results ++
            [⟨pending.generation, pending.task.outcome (Response.ofReply reply)⟩] } } :
      Chronicle).Faithful (chronicle.console.results ++
        [⟨pending.generation, pending.task.outcome (Response.ofReply reply)⟩]) := by
  have hmem : pending ∈ chronicle.console.inFlight := List.mem_of_getElem? hpending
  obtain ⟨hgeneration, hbegun⟩ := h.inFlight pending hmem
  have hyields : pending.task.Yields (pending.task.outcome (Response.ofReply reply)) :=
    ⟨Response.ofReply reply, rfl⟩
  refine ⟨h.past_generations, h.generation, h.route, h.view, h.begun, ?_, ?_, h.applied, ?_⟩
  · intro other hother
    exact h.inFlight other (List.mem_of_mem_eraseIdx hother)
  · intro delivery hdelivery
    rcases List.mem_append.mp hdelivery with hdelivery | hdelivery
    · exact h.arrived delivery hdelivery
    · rw [List.mem_singleton.mp hdelivery]
      exact ⟨Nat.le_of_eq hgeneration, fun _ => ⟨pending.task, hbegun, hyields⟩⟩
  · have hbefore := h.loads
    obtain ⟨hindex, rfl⟩ := List.getElem?_eq_some_iff.mp hpending
    rw [Chronicle.loads, ← (List.getElem_cons_eraseIdx_perm hindex).countP_eq,
      List.countP_cons] at hbefore
    simp only [Chronicle.loads, List.countP_append, List.countP_singleton, Delivery.fills]
    simp only [Delivery.fills] at hbefore
    cases hloaded : (chronicle.console.inFlight[index].task.outcome
      (Response.ofReply reply)).isLoaded with
    | false =>
      rw [Bool.and_false, if_neg Bool.false_ne_true]
      omega
    | true =>
      rw [hyields.isLoad hloaded, if_pos rfl] at hbefore
      split <;> omega

theorem start (address : String) (outside : Outside) :
    (Chronicle.start address outside).Faithful [] where
  past_generations := rfl
  generation := rfl
  route := rfl
  view := rfl
  begun := by simp [Chronicle.start, Visit.opened, Visit.blank, Visit.add, Task.ofRoute?]
  inFlight := by simp [Chronicle.start, Console.start]
  arrived := by simp
  applied := by simp [Chronicle.start, Visit.opened, Visit.blank, Visit.add]
  loads := Nat.zero_le 1

theorem late (h : chronicle.Faithful chronicle.console.results) {delivery : Delivery}
    (hlate : delivery.generation < chronicle.console.scope.generation) :
    ({ chronicle with
        console := { chronicle.console with
          results := chronicle.console.results ++ [delivery] } } : Chronicle).Faithful
      (chronicle.console.results ++ [delivery]) := by
  rw [← h.generation] at hlate
  refine ⟨h.past_generations, h.generation, h.route, h.view, h.begun, h.inFlight, ?_, h.applied, ?_⟩
  · intro other hother
    rcases List.mem_append.mp hother with hother | hother
    · exact h.arrived other hother
    · rw [List.mem_singleton.mp hother]
      exact ⟨Nat.le_of_lt hlate, fun heq => absurd heq (Nat.ne_of_lt hlate)⟩
  · have hfills : delivery.fills chronicle.visit.generation = false := by
      simp [Delivery.fills, Nat.ne_of_lt hlate]
    simpa [Chronicle.loads, hfills] using h.loads

/-- A task of the view shown. -/
theorem begin_shown (h : chronicle.Faithful chronicle.console.results) {task : Task}
    (hroute : task.route = chronicle.console.view.route) (hload : task.isLoad = false) :
    ({ chronicle with
        console := chronicle.console.begin task
        visit := chronicle.visit.add [task] [] } : Chronicle).Faithful
      (chronicle.console.begin task).results := by
  refine h.begin ?_ fun htrue => ?_
  · rw [hroute, h.view, Visit.route_view]
  · rw [hload] at htrue
    cases htrue

theorem act (h : chronicle.Faithful chronicle.console.results) {action : Console.Action}
    (hpoll : action ≠ .poll) (hwait : action ≠ .wait) :
    (chronicle.act action).Faithful (chronicle.act action).console.results := by
  have heffect := Console.step_effect hpoll hwait chronicle.console
  rw [act_console]
  unfold Chronicle.act
  dsimp only
  generalize chronicle.console.step action = later at heffect ⊢
  cases heffect with
  | nothing hentered hbegun hchanged =>
    rw [hentered, hbegun, hchanged, Visit.add_nil]
    exact h
  | navigate path log | navigateTo route log =>
    refine h.enter ?_ ?_ _ _
    · rfl
    · rfl
  | loginFailed storage log posts error hposts hlogin =>
    simp only [Console.entered?, Console.begun, Console.changed, hlogin, Visit.add_nil]
    exact h.congr rfl rfl rfl rfl (List.Sublist.refl _)
  | signedIn storage log posts user token hposts hlogin =>
    simp only [Console.entered?, hlogin]
    refine h.enter ?_ ?_ _ _
    · rfl
    · rfl
  | logout log => exact (h.opened _ _ _ _ rfl rfl rfl rfl rfl).1
  | forceLogin log => exact (h.opened _ _ _ _ rfl rfl rfl rfl rfl).1
  | delete id hkind =>
    simp only [Console.entered?, Console.begun, Console.changed, hkind]
    exact h.begin_shown (View.route_of_listKind? hkind).symm rfl
  | setField hedit =>
    simp only [Console.entered?, Console.begun, Console.changed, hedit, if_true]
    refine h.change rfl rfl rfl rfl ?_ ?_ ?_
    · exact fun _ hmem => hmem
    · rintro outcome ⟨⟩
    · exact Nat.le_refl _
  | @save kind id record notice hview =>
    have hroute : (Task.update kind id record).route = chronicle.console.view.route := by
      rw [hview]
      rfl
    have hadd : chronicle.visit.add (chronicle.console.begun .save)
        (chronicle.console.changed .save) =
          (chronicle.visit.add [.update kind id record] []).add [] [.save] := by
      simp [Visit.add, Console.begun, Console.changed, Console.save?, hview]
    have hbegun := h.begin_shown hroute rfl
    simp only [Console.entered?, hadd]
    refine hbegun.change ?_ rfl rfl rfl ?_ ?_ ?_
    · rw [Console.begin_view]
    · exact fun _ hmem => hmem
    · rintro outcome ⟨⟩
    · exact Nat.le_refl _
  | respond reply log hpending =>
    simp only [Console.entered?, Console.begun, Console.changed, Visit.add_nil]
    exact h.respond hpending
  | late hlate =>
    simp only [Console.entered?, Console.begun, Console.changed, Visit.add_nil]
    exact h.late hlate
  | outside storage network =>
    simp only [Console.entered?, Console.begun, Console.changed, Visit.add_nil]
    exact h.congr rfl rfl rfl rfl (List.Sublist.refl _)

/-- What is still to be delivered need not be in the queue any more. -/
theorem queue (h : chronicle.Faithful waiting) (results : List Delivery) :
    ({ chronicle with console := { chronicle.console with results } } :
      Chronicle).Faithful waiting :=
  h.congr rfl rfl rfl rfl (List.Sublist.refl _)

theorem step (h : chronicle.Faithful chronicle.console.results) (action : Console.Action) :
    (chronicle.step action).Faithful (chronicle.step action).console.results := by
  have hdeliveries := step_deliveries (motive := Faithful) (fun _ results _ h => h.queue results)
    (fun _ _ _ h => h.deliver) h
  cases action using Console.Action.delivery_cases with
  | poll => exact hdeliveries.1
  | wait => exact hdeliveries.2
  | other action hpoll hwait =>
    rw [step_of_ne hpoll hwait]
    exact (h.act hpoll hwait).arrive _

theorem run (h : chronicle.Faithful chronicle.console.results) (actions : List Console.Action) :
    (chronicle.run actions).Faithful (chronicle.run actions).console.results := by
  induction actions generalizing chronicle with
  | nil => exact h
  | cons action rest ih => exact ih (h.step action)

theorem length_past (h : chronicle.Faithful waiting) :
    chronicle.past.length = chronicle.console.scope.generation := by
  simpa using congrArg List.length h.past_generations

theorem generation_le_run (h : chronicle.Faithful chronicle.console.results)
    (actions : List Console.Action) :
    chronicle.console.scope.generation ≤ (chronicle.console.run actions).scope.generation := by
  rw [← run_console, ← h.length_past, ← (h.run actions).length_past]
  exact (chronicle.past_run actions).length_le

/-- What was begun before does not reach a view that was entered later. -/
theorem deliver_later (h : chronicle.Faithful chronicle.console.results) {later : Console}
    (hlater : chronicle.console.scope.generation < later.scope.generation) :
    (∀ pending ∈ chronicle.console.inFlight, ∀ outcome,
      later.deliver ⟨pending.generation, outcome⟩ = (false, later)) ∧
    (∀ delivery ∈ chronicle.console.results, later.deliver delivery = (false, later)) ∧
    ∀ visit ∈ chronicle.visits, ∀ outcome,
      later.deliver ⟨visit.generation, outcome⟩ = (false, later) := by
  have hstale : ∀ delivery : Delivery,
      delivery.generation ≤ chronicle.console.scope.generation →
      later.deliver delivery = (false, later) := fun delivery hle =>
    Console.deliver_stale (Nat.ne_of_lt (Nat.lt_of_le_of_lt hle hlater))
  refine ⟨?_, ?_, ?_⟩
  · intro pending hpending outcome
    refine hstale _ (Nat.le_of_eq ?_)
    exact (h.inFlight pending hpending).1.trans h.generation
  · intro delivery hdelivery
    refine hstale _ ?_
    rw [← h.generation]
    exact (h.arrived delivery hdelivery).1
  · intro visit hvisit outcome
    have hgeneration : visit.generation ∈ chronicle.visits.map Visit.generation :=
      List.mem_map_of_mem hvisit
    rw [h.generations, List.mem_range] at hgeneration
    exact hstale _ (Nat.le_of_lt_succ hgeneration)

theorem generation_lt_of_length_past (h : chronicle.Faithful waiting) {later : Chronicle}
    {rest : List Delivery} (hlater : later.Faithful rest)
    (hpast : later.past.length = chronicle.past.length + 1) :
    chronicle.visit.generation < later.visit.generation := by
  rw [h.generation, hlater.generation, ← h.length_past, ← hlater.length_past, hpast]
  exact Nat.lt_succ_self _

end Faithful

theorem faithful_run (address : String) (outside : Outside) (actions : List Console.Action) :
    ((start address outside).run actions).Faithful
      ((start address outside).run actions).console.results :=
  (Faithful.start address outside).run actions

end Chronicle

end IdentityConsole
