import IdentityConsole.Proofs.Console.Commute
import IdentityConsole.Proofs.Console.Faithful

/-!
# The order of replies

A rejection takes everything with it, whatever comes before or after; the other results of a view
commute, unless rows are loaded while rows are deleted. So the order in which the replies arrive
shows only in a list whose rows have not arrived yet.
-/

namespace IdentityConsole

namespace Console

/-- Two consoles that go on alike: what is noted and sent may differ, and what waits. -/
structure Agrees (console other : Console) : Prop where
  route : console.route = other.route
  view : console.view = other.view
  session : console.session = other.session
  scope : console.scope = other.scope
  storage : console.outside.storage = other.outside.storage
  loginRedirects : console.loginRedirects = other.loginRedirects

namespace Agrees

variable {console other third : Console}

theorem refl (console : Console) : console.Agrees console :=
  ⟨rfl, rfl, rfl, rfl, rfl, rfl⟩

theorem symm (h : console.Agrees other) : other.Agrees console :=
  ⟨h.route.symm, h.view.symm, h.session.symm, h.scope.symm, h.storage.symm,
    h.loginRedirects.symm⟩

theorem trans (h : console.Agrees other) (h' : other.Agrees third) : console.Agrees third :=
  ⟨h.route.trans h'.route, h.view.trans h'.view, h.session.trans h'.session,
    h.scope.trans h'.scope, h.storage.trans h'.storage, h.loginRedirects.trans h'.loginRedirects⟩

theorem deliver (h : console.Agrees other) (delivery : Delivery) :
    (console.deliver delivery).2.Agrees (other.deliver delivery).2 := by
  have hscope := h.scope
  by_cases hcurrent : delivery.generation = console.scope.generation
  · have hcurrent' : delivery.generation = other.scope.generation := by rw [hcurrent, hscope]
    cases hrejection : delivery.outcome.isRejection with
    | true =>
      obtain ⟨log, hdeliver⟩ := deliver_rejection hcurrent hrejection
      obtain ⟨log', hdeliver'⟩ := deliver_rejection hcurrent' hrejection
      rw [hdeliver, hdeliver']
      exact ⟨rfl, rfl, congrArg (·.announce .signedOut) h.session, congrArg Scope.next h.scope,
        congrArg Storage.cleared h.storage, congrArg (· + 1) h.loginRedirects⟩
    | false =>
      obtain ⟨log, hdeliver⟩ := deliver_kept hcurrent hrejection
      obtain ⟨log', hdeliver'⟩ := deliver_kept hcurrent' hrejection
      rw [hdeliver, hdeliver']
      exact ⟨h.route, congrArg (·.afterResult delivery.outcome) h.view, h.session, h.scope,
        h.storage, h.loginRedirects⟩
  · have hcurrent' : delivery.generation ≠ other.scope.generation := by rwa [← hscope]
    rw [deliver_stale hcurrent, deliver_stale hcurrent']
    exact h

theorem deliverEach (h : console.Agrees other) (deliveries : List Delivery) :
    (console.deliverEach deliveries).Agrees (other.deliverEach deliveries) := by
  induction deliveries generalizing console other with
  | nil => exact h
  | cons delivery rest ih => exact ih (h.deliver delivery)

end Agrees

def rejected (console : Console) : Console :=
  { console.signedOut console.outside.log with loginRedirects := console.loginRedirects + 1 }

theorem deliverEach_stale {console : Console} {deliveries : List Delivery}
    (h : ∀ delivery ∈ deliveries, delivery.generation ≠ console.scope.generation) :
    console.deliverEach deliveries = console := by
  induction deliveries with
  | nil => rfl
  | cons delivery rest ih =>
    rw [deliverEach_cons, deliver_stale (h delivery List.mem_cons_self)]
    exact ih fun other hmem => h other (List.mem_cons_of_mem _ hmem)

/-- A rejection decides about all results of its view, those before it and those after it. -/
theorem deliverEach_rejected {console : Console} {deliveries : List Delivery}
    (hle : ∀ delivery ∈ deliveries, delivery.generation ≤ console.scope.generation)
    (h : ∃ outcome ∈ outcomesOf console.scope.generation deliveries,
      outcome.isRejection = true) :
    (console.deliverEach deliveries).Agrees console.rejected := by
  obtain ⟨outcome, hmem, hrejection⟩ := h
  obtain ⟨cause, hcause, hcurrent, rfl⟩ := mem_outcomesOf.mp hmem
  clear hmem
  induction deliveries generalizing console with
  | nil => cases hcause
  | cons delivery rest ih =>
    have hrest : ∀ other ∈ rest, other.generation ≤ console.scope.generation :=
      fun other hmem => hle other (List.mem_cons_of_mem _ hmem)
    rw [deliverEach_cons]
    rcases deliver_cases delivery console with
      ⟨log, -, -, hdeliver⟩ | ⟨log, -, hkept, hdeliver⟩ | ⟨hstale, hdeliver⟩
    · rw [hdeliver, deliverEach_stale]
      · exact ⟨rfl, rfl, rfl, rfl, rfl, rfl⟩
      · intro other hmem
        exact Nat.ne_of_lt (Nat.lt_succ_of_le (hrest other hmem))
    · have hcause : cause ∈ rest := by
        rcases List.mem_cons.mp hcause with rfl | hcause
        · rw [hkept] at hrejection
          cases hrejection
        · exact hcause
      rw [hdeliver]
      refine (ih ?_ hcause ?_).trans ⟨rfl, rfl, rfl, rfl, rfl, rfl⟩
      · exact hrest
      · exact hcurrent
    · have hcause : cause ∈ rest := by
        rcases List.mem_cons.mp hcause with rfl | hcause
        · exact absurd hcurrent hstale
        · exact hcause
      rw [hdeliver]
      exact ih hrest hcause hcurrent

/-- Without a rejection only the view changes. -/
theorem deliverEach_kept {console : Console} {deliveries : List Delivery}
    (h : ∀ outcome ∈ outcomesOf console.scope.generation deliveries,
      outcome.isRejection = false) :
    (console.deliverEach deliveries).Agrees
      { console with
        view := (outcomesOf console.scope.generation deliveries).foldl View.afterResult
          console.view } := by
  induction deliveries generalizing console with
  | nil => exact Agrees.refl console
  | cons delivery rest ih =>
    have hrest : ∀ outcome ∈ outcomesOf console.scope.generation rest,
        outcome.isRejection = false := by
      intro outcome hmem
      obtain ⟨other, hother, hcurrent⟩ := mem_outcomesOf.mp hmem
      exact h outcome (mem_outcomesOf.mpr ⟨other, List.mem_cons_of_mem _ hother, hcurrent⟩)
    rw [deliverEach_cons]
    rcases deliver_cases delivery console with
      ⟨log, hcurrent, hrejection, -⟩ | ⟨log, hcurrent, -, hdeliver⟩ | ⟨hstale, hdeliver⟩
    · have hmem : delivery.outcome ∈ outcomesOf console.scope.generation (delivery :: rest) :=
        mem_outcomesOf.mpr ⟨delivery, List.mem_cons_self, hcurrent, rfl⟩
      rw [h _ hmem] at hrejection
      cases hrejection
    · have hfold : outcomesOf console.scope.generation (delivery :: rest) =
          delivery.outcome :: outcomesOf console.scope.generation rest := by
        simp [outcomesOf, hcurrent]
      rw [hdeliver, hfold]
      refine (ih ?_).trans ⟨rfl, rfl, rfl, rfl, rfl, rfl⟩
      exact hrest
    · have hsame : outcomesOf console.scope.generation (delivery :: rest) =
          outcomesOf console.scope.generation rest := by
        simp [outcomesOf, hstale]
      rw [hdeliver, hsame]
      exact ih hrest

/-- Results among which the order does not matter in the view of a generation: none is of a view
to come, at most one fills the view, and then none deletes from it. -/
structure Orderly (generation : Nat) (deliveries : List Delivery) : Prop where
  generation_le : ∀ delivery ∈ deliveries, delivery.generation ≤ generation
  loads : deliveries.countP (·.fills generation) ≤ 1
  apart : ∀ outcome ∈ outcomesOf generation deliveries, outcome.isLoaded = true →
    ∀ other ∈ outcomesOf generation deliveries, other.isDeleted = false

theorem Orderly.deliverEach {console : Console} {first second : List Delivery}
    (h : Orderly console.scope.generation second) (hperm : first.Perm second) :
    (console.deliverEach first).Agrees (console.deliverEach second) := by
  have houtcomes : (outcomesOf console.scope.generation first).Perm
      (outcomesOf console.scope.generation second) := (hperm.filter _).map _
  have hle : ∀ delivery ∈ first, delivery.generation ≤ console.scope.generation :=
    fun delivery hmem => h.generation_le delivery (hperm.subset hmem)
  by_cases hrejection : ∃ outcome ∈ outcomesOf console.scope.generation second,
      outcome.isRejection = true
  · obtain ⟨outcome, hmem, hcause⟩ := hrejection
    have hfirst := deliverEach_rejected hle ⟨outcome, houtcomes.symm.subset hmem, hcause⟩
    exact hfirst.trans (deliverEach_rejected h.generation_le ⟨outcome, hmem, hcause⟩).symm
  · have hkept : ∀ outcome ∈ outcomesOf console.scope.generation second,
        outcome.isRejection = false := by simpa using hrejection
    have hloads : (outcomesOf console.scope.generation second).countP Outcome.isLoaded ≤ 1 := by
      rw [outcomesOf, List.countP_map, List.countP_filter]
      simpa [Delivery.fills, Bool.and_comm] using h.loads
    have hfold := View.foldl_afterResult_perm houtcomes.symm hloads h.apart console.view
    have hfirst := deliverEach_kept fun outcome hmem => hkept outcome (houtcomes.subset hmem)
    rw [← hfold] at hfirst
    exact hfirst.trans (deliverEach_kept hkept).symm

theorem Agrees.poll {console other : Console} (h : console.Agrees other)
    (hperm : console.results.Perm other.results)
    (horderly : Orderly other.scope.generation other.results) :
    console.poll.2.Agrees other.poll.2 := by
  rw [poll_snd, poll_snd]
  have hempty : { console with results := [] }.Agrees { other with results := [] } :=
    ⟨h.route, h.view, h.session, h.scope, h.storage, h.loginRedirects⟩
  refine (hempty.deliverEach console.results).trans (Orderly.deliverEach ?_ hperm)
  exact horderly

end Console

/-! ### Runs -/

/-- The result that a reply makes of a request in flight. -/
def Pending.answered (pending : Pending) (reply : Http.Reply) : Delivery :=
  ⟨pending.generation, pending.task.outcome (Response.ofReply reply)⟩

theorem Pending.yields_answered (pending : Pending) (reply : Http.Reply) :
    pending.task.Yields (pending.answered reply).outcome :=
  ⟨Response.ofReply reply, rfl⟩

namespace Console

/-- A list is shown, and its rows are still to come. -/
def awaitsRows (console : Console) : Bool :=
  console.view.listKind?.isSome &&
    (console.inFlight.any (·.task.isLoad) ||
      console.results.any (·.fills console.scope.generation))

/-- The results that wait, with those that replies make of requests in flight. -/
def queued (console : Console) (answers : List (Pending × Http.Reply)) : List Delivery :=
  console.results ++ answers.map fun answer => answer.1.answered answer.2

/-- The console after several replies, each with the place of its request. -/
def respondEach (console : Console) (replies : List (Nat × Http.Reply)) : Console :=
  console.run (replies.map fun reply => .respond reply.1 reply.2)

theorem respondEach_eq (console : Console) (replies : List (Nat × Http.Reply)) :
    ∃ log inFlight answers, (answers.map Prod.fst ++ inFlight).Perm console.inFlight ∧
      console.respondEach replies =
        { console with
          outside := { console.outside with log }
          inFlight
          results := console.queued answers } := by
  induction replies generalizing console with
  | nil =>
    exact ⟨console.outside.log, console.inFlight, [], .refl _, by simp [respondEach, queued]⟩
  | cons reply rest ih =>
    obtain ⟨index, reply⟩ := reply
    cases hrespond : console.respond? index reply with
    | none =>
      have hstep : console.respondEach ((index, reply) :: rest) = console.respondEach rest := by
        simp [respondEach, step, hrespond]
      rw [hstep]
      exact ih console
    | some later =>
      have hstep : console.respondEach ((index, reply) :: rest) = later.respondEach rest := by
        simp [respondEach, step, hrespond]
      rw [hstep]
      obtain ⟨log', inFlight, answers, hperm, hrest⟩ := ih later
      obtain ⟨pending, log, hpending, rfl⟩ := respond?_eq hrespond
      obtain ⟨hindex, rfl⟩ := List.getElem?_eq_some_iff.mp hpending
      refine ⟨log', inFlight, (console.inFlight[index], reply) :: answers, ?_, ?_⟩
      · refine (List.Perm.cons _ ?_).trans (List.getElem_cons_eraseIdx_perm hindex)
        exact hperm
      · rw [hrest]
        simp [queued, Pending.answered]

end Console

/-- Only in a list is anything deleted. -/
theorem Task.Yields.route_of_isDeleted {task : Task} {outcome : Outcome} (h : task.Yields outcome)
    (hdeleted : outcome.isDeleted = true) : ∃ kind, task.route = .list kind := by
  obtain ⟨response, rfl⟩ := h
  cases task with
  | loadList kind | delete kind id => exact ⟨kind, rfl⟩
  | loadRecord kind id =>
    cases response with
    | error error => cases hdeleted
    | ok response =>
      cases hvalue : response.value (Record.decoder kind)
        (Task.loadRecord kind id).request.path with
      | error error =>
        simp [outcome, result, Except.bind, hvalue, bind, failed, Outcome.isDeleted] at hdeleted
      | ok record =>
        simp [outcome, result, Except.bind, hvalue, bind, pure, Except.pure,
          Outcome.isDeleted] at hdeleted
  | update kind id record => cases response <;> cases hdeleted

namespace Chronicle.Faithful

variable {chronicle : Chronicle} {answers : List (Pending × Http.Reply)}

theorem mem_queued (h : chronicle.Faithful chronicle.console.results)
    (hanswers : (answers.map Prod.fst).Subperm chronicle.console.inFlight) {delivery : Delivery}
    (hmem : delivery ∈ chronicle.console.queued answers) :
    delivery.generation ≤ chronicle.console.scope.generation ∧
    (delivery.generation = chronicle.console.scope.generation →
      ∃ task ∈ chronicle.visit.begun, task.Yields delivery.outcome ∧
      (delivery ∈ chronicle.console.results ∨
        ∃ pending ∈ chronicle.console.inFlight, pending.task = task)) := by
  rcases List.mem_append.mp hmem with hmem | hmem
  · obtain ⟨hle, hyields⟩ := h.arrived delivery hmem
    rw [h.generation] at hle hyields
    refine ⟨hle, fun hcurrent => ?_⟩
    obtain ⟨task, hbegun, hyields⟩ := hyields hcurrent
    exact ⟨task, hbegun, hyields, .inl hmem⟩
  · obtain ⟨⟨pending, reply⟩, hanswer, rfl⟩ := List.mem_map.mp hmem
    have hpending : pending ∈ chronicle.console.inFlight :=
      hanswers.subset (List.mem_map_of_mem hanswer)
    obtain ⟨hgeneration, hbegun⟩ := h.inFlight pending hpending
    rw [h.generation] at hgeneration
    refine ⟨Nat.le_of_eq hgeneration, fun _ => ?_⟩
    exact ⟨pending.task, hbegun, pending.yields_answered reply, .inr ⟨pending, hpending, rfl⟩⟩

theorem orderly (h : chronicle.Faithful chronicle.console.results)
    (hrows : chronicle.console.awaitsRows = false)
    (hanswers : (answers.map Prod.fst).Subperm chronicle.console.inFlight) :
    Console.Orderly chronicle.console.scope.generation (chronicle.console.queued answers) where
  generation_le delivery hmem := (h.mem_queued hanswers hmem).1
  loads := by
    have hbefore := h.loads
    have hfills : ∀ answer ∈ answers,
        (answer.1.answered answer.2).fills chronicle.console.scope.generation = true →
          answer.1.task.isLoad = true := by
      intro answer _ hfills
      simp only [Delivery.fills, Bool.and_eq_true] at hfills
      exact (answer.1.yields_answered answer.2).isLoad hfills.2
    have hanswered := hanswers.countP_le (·.task.isLoad)
    have hloads := List.countP_mono_left hfills
    rw [List.countP_map] at hanswered
    simp only [Chronicle.loads, h.generation] at hbefore
    rw [Console.queued, List.countP_append, List.countP_map]
    simp only [Function.comp_def] at hanswered ⊢
    omega
  apart := by
    intro outcome hmem hloaded other hmem'
    cases hdeleted : other.isDeleted with
    | false => rfl
    | true =>
      obtain ⟨delivery, hdelivery, hcurrent, rfl⟩ := mem_outcomesOf.mp hmem
      obtain ⟨delivery', hdelivery', hcurrent', rfl⟩ := mem_outcomesOf.mp hmem'
      obtain ⟨task', hbegun', hyields', -⟩ := (h.mem_queued hanswers hdelivery').2 hcurrent'
      obtain ⟨kind, hroute⟩ := hyields'.route_of_isDeleted hdeleted
      have hlist : chronicle.console.view.listKind? = some kind := by
        refine View.listKind?_of_route_eq ?_
        rw [h.view, Visit.route_view, ← h.begun task' hbegun', hroute]
      simp only [Console.awaitsRows, hlist, Option.isSome_some, Bool.true_and,
        Bool.or_eq_false_iff, List.any_eq_false] at hrows
      obtain ⟨task, hbegun, hyields, hmem | ⟨pending, hpending, rfl⟩⟩ :=
        (h.mem_queued hanswers hdelivery).2 hcurrent
      · refine absurd ?_ (hrows.2 delivery hmem)
        simp [Delivery.fills, hcurrent, hloaded]
      · exact absurd (hyields.isLoad hloaded) (hrows.1 pending hpending)

end Chronicle.Faithful

namespace Console

/-- **The order of replies does not show**, unless the rows of a list are still to come. -/
theorem run_poll_confluent (address : String) (outside : Outside) (actions : List Action)
    (hrows : ((start address outside).run actions).awaitsRows = false) :
    let console := (start address outside).run actions
    (∀ (answers : List (Pending × Http.Reply)) (first second : List Delivery),
      (answers.map Prod.fst).Subperm console.inFlight →
      first.Perm (console.queued answers) → second.Perm (console.queued answers) →
      { console with results := first }.poll.2.Agrees { console with results := second }.poll.2) ∧
    ∀ first second : List (Nat × Http.Reply),
      (console.respondEach first).results.Perm (console.respondEach second).results →
      (console.respondEach first).poll.2.Agrees (console.respondEach second).poll.2 := by
  intro console
  have hconsole : ((Chronicle.start address outside).run actions).console = console :=
    Chronicle.run_console _ actions
  have h := Chronicle.faithful_run address outside actions
  have horderly : ∀ {answers : List (Pending × Http.Reply)},
      (answers.map Prod.fst).Subperm console.inFlight →
      Orderly console.scope.generation (console.queued answers) := by
    intro answers hanswers
    rw [← hconsole] at hanswers ⊢
    exact h.orderly (by rwa [hconsole]) hanswers
  constructor
  · intro answers first second hanswers hfirst hsecond
    -- Either order is compared with that in which the queue would have grown.
    have hqueue : ∀ order : List Delivery, order.Perm (console.queued answers) →
        { console with results := order }.poll.2.Agrees
          { console with results := console.queued answers }.poll.2 := by
      intro order horder
      refine Agrees.poll ?_ horder (horderly hanswers)
      exact ⟨rfl, rfl, rfl, rfl, rfl, rfl⟩
    exact (hqueue first hfirst).trans (hqueue second hsecond).symm
  · intro first second hperm
    obtain ⟨log, inFlight, answers, -, hfirst⟩ := console.respondEach_eq first
    obtain ⟨log', inFlight', answers', hanswers, hsecond⟩ := console.respondEach_eq second
    have hanswers : (answers'.map Prod.fst).Subperm console.inFlight :=
      (List.sublist_append_left _ inFlight').subperm.trans hanswers.subperm
    refine Agrees.poll ?_ hperm ?_
    · rw [hfirst, hsecond]
      exact ⟨rfl, rfl, rfl, rfl, rfl, rfl⟩
    · rw [hsecond]
      exact horderly hanswers

/-- A group was loaded and is saved twice, while a result of the login view is still waiting. -/
def savingTwice : Console :=
  let entries := (Dict.empty.insert Storage.tokenKey "token").insert Storage.userKey "\x7b\x7d"
  (start "http://identity" (.initial (.reliable (.memory entries)) ["http://identity"])).run
    [.navigateTo (.detail .groups "g"),
      .respond 0 (.response 200 (Text.Utf8.encode "\x7b\"id\":\"g\"\x7d") true), .poll,
      .late ⟨0, .deleted .groups "g"⟩, .save, .save]

/-- One save is confirmed and the other rejected. -/
theorem run_poll_confluent_savingTwice :
    let answers := savingTwice.inFlight.zip [.response 200 [] true, .response 401 [] true]
    savingTwice.awaitsRows = false ∧ savingTwice.results.length = 1 ∧
    savingTwice.inFlight.length = 2 ∧
    { savingTwice with results := savingTwice.queued answers }.poll.2.Agrees
      { savingTwice with results := (savingTwice.queued answers).reverse }.poll.2 := by
  intro answers
  have hrows : savingTwice.awaitsRows = false := by decide +kernel
  have hlength : savingTwice.inFlight.length = 2 := by decide +kernel
  have hanswers : answers.map Prod.fst = savingTwice.inFlight :=
    List.map_fst_zip (Nat.le_of_eq hlength)
  refine ⟨hrows, by decide +kernel, hlength, ?_⟩
  refine (run_poll_confluent _ _ _ hrows).1 answers _ _ ?_ (.refl _) (List.reverse_perm _)
  rw [hanswers]
  exact .refl _

end Console

end IdentityConsole
