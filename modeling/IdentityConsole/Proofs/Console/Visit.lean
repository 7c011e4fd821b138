import IdentityConsole.Proofs.Console.Effect

/-!
# Visits

A visit lasts from the entering of a view to the entering of the next. A chronicle keeps, beside a
console, what happened in each of its visits: the tasks begun, the results that joined the queue and
the changes made to the view, each in order. It is written from outside: it reads the console and
never acts on it.
-/

namespace IdentityConsole

/-- What the results of a generation say, among those of several. -/
def outcomesOf (generation : Nat) (deliveries : List Delivery) : List Outcome :=
  (deliveries.filter (·.generation == generation)).map Delivery.outcome

theorem outcomesOf_append (generation : Nat) (first later : List Delivery) :
    outcomesOf generation (first ++ later) =
      outcomesOf generation first ++ outcomesOf generation later := by
  simp [outcomesOf]

theorem mem_outcomesOf {generation : Nat} {deliveries : List Delivery} {outcome : Outcome} :
    outcome ∈ outcomesOf generation deliveries ↔
      ∃ delivery ∈ deliveries, delivery.generation = generation ∧ delivery.outcome = outcome := by
  simp [outcomesOf, and_assoc]

theorem outcomesOf_eq_nil {generation : Nat} {deliveries : List Delivery}
    (h : ∀ delivery ∈ deliveries, delivery.generation < generation) :
    outcomesOf generation deliveries = [] := by
  rw [outcomesOf, List.map_eq_nil_iff, List.filter_eq_nil_iff]
  intro delivery hmem
  simp [Nat.ne_of_lt (h delivery hmem)]

structure Visit where
  generation : Nat
  route : Route
  returnTo : Option Route
  begun : List Task
  arrived : List Outcome
  changes : List Change

namespace Visit

def add (begun : List Task) (changes : List Change) (visit : Visit) : Visit :=
  { visit with begun := visit.begun ++ begun, changes := visit.changes ++ changes }

/-- A visit in which nothing has happened yet. -/
def blank (generation : Nat) (route : Route) (returnTo : Option Route) : Visit :=
  ⟨generation, route, returnTo, [], [], []⟩

/-- A visit begins with the task that fills its view, if there is one. -/
def opened (generation : Nat) (route : Route) (returnTo : Option Route) : Visit :=
  (blank generation route returnTo).add (Task.ofRoute? route).toList []

def arrive (deliveries : List Delivery) (visit : Visit) : Visit :=
  { visit with arrived := visit.arrived ++ outcomesOf visit.generation deliveries }

/-- The view of the visit: that of its route, with the changes made since. -/
def view (visit : Visit) : View :=
  (View.ofRoute visit.route visit.returnTo).replay visit.changes

/-- The results that were delivered. -/
def delivered (visit : Visit) : List Outcome :=
  visit.changes.filterMap Change.outcome?

def rejections (visit : Visit) : Nat :=
  visit.delivered.countP Outcome.isRejection

end Visit

structure Chronicle where
  console : Console
  past : List Visit
  visit : Visit

namespace Chronicle

def start (address : String) (outside : Outside) : Chronicle where
  console := .start address outside
  past := []
  visit := .opened 0 .login none

def visits (chronicle : Chronicle) : List Visit :=
  chronicle.past ++ [chronicle.visit]

/-- Closes the visit under way and opens the next. -/
def enter (console : Console) (route : Route) (returnTo : Option Route) (chronicle : Chronicle) :
    Chronicle where
  console
  past := chronicle.visits
  visit := .opened console.scope.generation route returnTo

def arrive (deliveries : List Delivery) (chronicle : Chronicle) : Chronicle :=
  { chronicle with visit := chronicle.visit.arrive deliveries }

/-- A result belongs to the visit under way when it has its generation. A rejection ends the
visit. -/
def deliver (chronicle : Chronicle) (delivery : Delivery) : Chronicle :=
  let console := (chronicle.console.deliver delivery).2
  if delivery.generation = chronicle.visit.generation then
    let visit := chronicle.visit.add [] [.result delivery.outcome]
    if delivery.outcome.isRejection then { chronicle with visit }.enter console .login none
    else { chronicle with console, visit }
  else { chronicle with console }

/-- What an action other than a delivery does. -/
def act (chronicle : Chronicle) (action : Console.Action) : Chronicle :=
  let console := chronicle.console.step action
  match chronicle.console.entered? action with
  | some (route, returnTo) => chronicle.enter console route returnTo
  | none =>
    { chronicle with
      console
      visit := chronicle.visit.add (chronicle.console.begun action)
        (chronicle.console.changed action) }

def step (chronicle : Chronicle) (action : Console.Action) : Chronicle :=
  match action with
  | .poll =>
    chronicle.console.results.foldl deliver
      { chronicle with console := { chronicle.console with results := [] } }
  | .wait =>
    match chronicle.console.results with
    | [] => chronicle
    | delivery :: rest =>
      deliver { chronicle with console := { chronicle.console with results := rest } } delivery
  | action =>
    (chronicle.act action).arrive
      ((chronicle.console.step action).results.drop chronicle.console.results.length)

def run (chronicle : Chronicle) (actions : List Console.Action) : Chronicle :=
  actions.foldl step chronicle

@[simp]
theorem run_cons (chronicle : Chronicle) (action : Console.Action) (rest : List Console.Action) :
    chronicle.run (action :: rest) = (chronicle.step action).run rest := rfl

/-! ### A chronicle follows its console -/

@[simp]
theorem enter_console (console : Console) (route : Route) (returnTo : Option Route)
    (chronicle : Chronicle) : (chronicle.enter console route returnTo).console = console := rfl

@[simp]
theorem deliver_console (chronicle : Chronicle) (delivery : Delivery) :
    (chronicle.deliver delivery).console = (chronicle.console.deliver delivery).2 := by
  simp only [deliver]
  split
  · split <;> rfl
  · rfl

theorem deliverEach_console (chronicle : Chronicle) (deliveries : List Delivery) :
    (deliveries.foldl deliver chronicle).console = chronicle.console.deliverEach deliveries := by
  induction deliveries generalizing chronicle with
  | nil => rfl
  | cons delivery rest ih => rw [List.foldl_cons, ih, deliver_console, Console.deliverEach_cons]

@[simp]
theorem act_console (chronicle : Chronicle) (action : Console.Action) :
    (chronicle.act action).console = chronicle.console.step action := by
  unfold act
  dsimp only
  split <;> rfl

theorem step_of_ne {action : Console.Action} (hpoll : action ≠ .poll) (hwait : action ≠ .wait)
    (chronicle : Chronicle) :
    chronicle.step action = (chronicle.act action).arrive
      ((chronicle.console.step action).results.drop chronicle.console.results.length) := by
  cases action with
  | poll => exact absurd rfl hpoll
  | wait => exact absurd rfl hwait
  | _ => rfl

theorem step_console (chronicle : Chronicle) (action : Console.Action) :
    (chronicle.step action).console = chronicle.console.step action := by
  cases action using Console.Action.delivery_cases with
  | poll =>
    change (chronicle.console.results.foldl deliver _).console = chronicle.console.poll.2
    rw [deliverEach_console, Console.poll_snd]
  | wait =>
    simp only [step]
    split
    · next h => exact (Console.step_wait_nil h).symm
    · next delivery rest h => rw [deliver_console, Console.step_wait_cons h]
  | other action hpoll hwait =>
    rw [step_of_ne hpoll hwait]
    exact chronicle.act_console action

theorem run_console (chronicle : Chronicle) (actions : List Console.Action) :
    (chronicle.run actions).console = chronicle.console.run actions := by
  induction actions generalizing chronicle with
  | nil => rfl
  | cons action rest ih => rw [run_cons, ih, step_console, Console.run_cons]

/-- What does not depend on the queue that is left behind, and is kept with each result that is
taken from those that wait, is kept by the deliveries. -/
theorem step_deliveries {motive : Chronicle → List Delivery → Prop}
    (hqueue : ∀ chronicle results waiting, motive chronicle waiting →
      motive { chronicle with console := { chronicle.console with results } } waiting)
    (hdeliver : ∀ chronicle delivery rest, motive chronicle (delivery :: rest) →
      motive (chronicle.deliver delivery) rest)
    {chronicle : Chronicle} (h : motive chronicle chronicle.console.results) :
    motive (chronicle.step .poll) (chronicle.step .poll).console.results ∧
      motive (chronicle.step .wait) (chronicle.step .wait).console.results := by
  constructor
  · have hall : ∀ deliveries chronicle, motive chronicle deliveries →
        motive (deliveries.foldl deliver chronicle) [] := by
      intro deliveries
      induction deliveries with
      | nil => exact fun _ h => h
      | cons delivery rest ih => exact fun chronicle h => ih _ (hdeliver chronicle delivery rest h)
    have hdelivered : motive (chronicle.step .poll) [] := hall _ _ (hqueue chronicle [] _ h)
    rw [step_console]
    simpa only [Console.step, Console.poll_snd, Console.deliverEach_results] using hdelivered
  · simp only [step]
    split
    · exact h
    · next delivery rest hresults =>
      rw [deliver_console, Console.deliver_results]
      rw [hresults] at h
      exact hdeliver _ _ _ (hqueue chronicle rest _ h)

/-! ### What is past stays -/

theorem past_deliver (chronicle : Chronicle) (delivery : Delivery) :
    chronicle.past <+: (chronicle.deliver delivery).past := by
  simp only [deliver]
  split
  · split
    · exact List.prefix_append _ _
    · exact List.prefix_rfl
  · exact List.prefix_rfl

theorem past_act (chronicle : Chronicle) (action : Console.Action) :
    chronicle.past <+: (chronicle.act action).past := by
  simp only [act]
  split
  · exact List.prefix_append _ _
  · exact List.prefix_rfl

theorem past_step (chronicle : Chronicle) (action : Console.Action) :
    chronicle.past <+: (chronicle.step action).past := by
  have hdeliveries := step_deliveries (motive := fun later _ => chronicle.past <+: later.past)
    (fun _ _ _ h => h) (fun later delivery _ h => h.trans (later.past_deliver delivery))
    (show chronicle.past <+: chronicle.past from List.prefix_rfl)
  cases action using Console.Action.delivery_cases with
  | poll => exact hdeliveries.1
  | wait => exact hdeliveries.2
  | other action hpoll hwait =>
    rw [step_of_ne hpoll hwait]
    exact chronicle.past_act action

theorem past_run (chronicle : Chronicle) (actions : List Console.Action) :
    chronicle.past <+: (chronicle.run actions).past := by
  induction actions generalizing chronicle with
  | nil => exact List.prefix_rfl
  | cons action rest ih => exact (chronicle.past_step action).trans (ih _)

end Chronicle

end IdentityConsole
