import IdentityConsole.Proofs.Console.Loading
import IdentityConsole.Proofs.Records.Listed

/-!
# Where results come from

What is applied in a visit was begun in it. Unless it is a failure, it is what was made of a reply,
and the reply came to the request of such a task while that visit lasted.
-/

namespace IdentityConsole

namespace Console

variable {first console later : Console} {action : Action} {actions : List Action}
  {generation : Nat} {task : Task} {reply : Http.Reply}

/-- Among the actions is the reply to the request of a task that was begun in this generation. -/
def Answered (first : Console) (actions : List Action) (generation : Nat) (task : Task)
    (reply : Http.Reply) : Prop :=
  ∃ before index rest sent, actions = before ++ .respond index reply :: rest ∧
    (first.run before).inFlight[index]? = some ⟨generation, task, sent⟩

theorem Answered.append (h : first.Answered actions generation task reply) (more : List Action) :
    first.Answered (actions ++ more) generation task reply := by
  obtain ⟨before, index, rest, sent, rfl, hpending⟩ := h
  exact ⟨before, index, rest ++ more, sent, by simp, hpending⟩

/-- What joins the queue is a failure, what was made of a reply, or late. -/
theorem Effect.mem_results (h : console.Effect action later) {delivery : Delivery}
    (hmem : delivery ∈ later.results) :
    delivery ∈ console.results ∨
    (∃ failing error, delivery.outcome = .failed failing error) ∨
    (∃ index reply pending, action = .respond index reply ∧
      console.inFlight[index]? = some pending ∧
      delivery = ⟨pending.generation, pending.task.outcome (Response.ofReply reply)⟩) ∨
    delivery.generation < console.scope.generation := by
  have hbegin : ∀ {before : Console} {task : Task}, delivery ∈ (before.begin task).results →
      delivery ∈ before.results ∨ ∃ failing error, delivery.outcome = .failed failing error := by
    intro before task hmem
    rcases begin_cases task before with ⟨log, sent, hbegun⟩ | ⟨log, error, hbegun⟩
    · rw [hbegun] at hmem
      exact .inl hmem
    · rw [hbegun] at hmem
      rcases List.mem_append.mp hmem with hmem | hmem
      · exact .inl hmem
      · rw [List.mem_singleton.mp hmem]
        exact .inr ⟨_, _, rfl⟩
  have henter : ∀ {before : Console} {route : Route} {returnTo : Option Route},
      delivery ∈ (before.enter route returnTo).results →
      delivery ∈ before.results ∨ ∃ failing error, delivery.outcome = .failed failing error := by
    intro before route returnTo hmem
    rw [enter_eq] at hmem
    cases htask : Task.ofRoute? route with
    | none =>
      rw [htask] at hmem
      exact .inl hmem
    | some task =>
      rw [htask] at hmem
      exact @hbegin (before.opened route returnTo) task hmem
  cases h with
  | nothing | loginFailed | setField | outside | logout | forceLogin => exact .inl hmem
  | navigate | navigateTo | signedIn => exact (henter hmem).imp_right .inl
  | delete | save => exact (hbegin hmem).imp_right .inl
  | respond reply log hpending =>
    rcases List.mem_append.mp hmem with hmem | hmem
    · exact .inl hmem
    · exact .inr (.inr (.inl ⟨_, reply, _, rfl, hpending, List.mem_singleton.mp hmem⟩))
  | late hlate =>
    rcases List.mem_append.mp hmem with hmem | hmem
    · exact .inl hmem
    · exact .inr (.inr (.inr (List.mem_singleton.mp hmem ▸ hlate)))

end Console

open Console (Action)

variable {first : Console} {actions : List Action}

namespace Visit

variable {visit later : Visit} {outcome : Outcome}

/-- Where a result of a visit comes from: something failed, or a task of the visit was answered. -/
def Origin (first : Console) (actions : List Action) (visit : Visit) (outcome : Outcome) : Prop :=
  (∃ failing error, outcome = .failed failing error) ∨
  ∃ task ∈ visit.begun, ∃ reply, first.Answered actions visit.generation task reply ∧
    outcome = task.outcome (Response.ofReply reply)

theorem Origin.mono (h : visit.Origin first actions outcome)
    (hgeneration : later.generation = visit.generation) (hbegun : visit.begun ⊆ later.begun) :
    later.Origin first actions outcome := by
  obtain hfailed | ⟨task, htask, reply, hanswered, houtcome⟩ := h
  · exact .inl hfailed
  · exact .inr ⟨task, hbegun htask, reply, hgeneration ▸ hanswered, houtcome⟩

theorem Origin.add (h : visit.Origin first actions outcome) (begun : List Task)
    (changes : List Change) : (visit.add begun changes).Origin first actions outcome :=
  h.mono rfl (List.subset_append_left _ _)

theorem Origin.arrive (h : visit.Origin first actions outcome) (deliveries : List Delivery) :
    (visit.arrive deliveries).Origin first actions outcome :=
  h.mono rfl (List.Subset.refl _)

theorem Origin.append (h : visit.Origin first actions outcome) (more : List Action) :
    visit.Origin first (actions ++ more) outcome := by
  obtain hfailed | ⟨task, htask, reply, hanswered, houtcome⟩ := h
  · exact .inl hfailed
  · exact .inr ⟨task, htask, reply, hanswered.append more, houtcome⟩

/-- All results that were applied in a visit have an origin. -/
def Traced (first : Console) (actions : List Action) (visit : Visit) : Prop :=
  ∀ outcome, .result outcome ∈ visit.changes → visit.Origin first actions outcome

theorem Traced.add (h : visit.Traced first actions) {begun : List Task} {changes : List Change}
    (hchanges : ∀ outcome, .result outcome ∈ changes → visit.Origin first actions outcome) :
    (visit.add begun changes).Traced first actions := by
  intro outcome hmem
  have horigin : visit.Origin first actions outcome :=
    (List.mem_append.mp hmem).elim (h outcome) (hchanges outcome)
  exact horigin.add begun changes

theorem Traced.arrive (h : visit.Traced first actions) (deliveries : List Delivery) :
    (visit.arrive deliveries).Traced first actions :=
  fun outcome hmem => (h outcome hmem).arrive deliveries

theorem Traced.append (h : visit.Traced first actions) (more : List Action) :
    visit.Traced first (actions ++ more) :=
  fun outcome hmem => (h outcome hmem).append more

theorem traced_opened (generation : Nat) (route : Route) (returnTo : Option Route) :
    (opened generation route returnTo).Traced first actions :=
  nofun

end Visit

namespace Chronicle

variable {chronicle : Chronicle} {waiting : List Delivery}

/-- All results have an origin, those that were applied in a visit and those that are still to be
delivered in the one under way. -/
structure Traced (first : Console) (actions : List Action) (chronicle : Chronicle)
    (waiting : List Delivery) : Prop where
  applied : ∀ visit ∈ chronicle.visits, visit.Traced first actions
  waiting : ∀ delivery ∈ waiting, delivery.generation = chronicle.visit.generation →
    chronicle.visit.Origin first actions delivery.outcome

namespace Traced

theorem start (first : Console) (address : String) (outside : Outside) :
    (Chronicle.start address outside).Traced first [] [] where
  applied visit hmem := by
    rw [List.mem_singleton.mp hmem]
    exact Visit.traced_opened _ _ _
  waiting := nofun

theorem append (h : chronicle.Traced first actions waiting) (more : List Action) :
    chronicle.Traced first (actions ++ more) waiting where
  applied visit hmem := (h.applied visit hmem).append more
  waiting delivery hmem hown := (h.waiting delivery hmem hown).append more

/-- Nothing that waits is for a view that is only now entered. -/
theorem enter (h : ∀ visit ∈ chronicle.visits, visit.Traced first actions) {console : Console}
    {route : Route} {returnTo : Option Route}
    (hwaiting : ∀ delivery ∈ waiting, delivery.generation = console.scope.generation →
      ∃ failing error, delivery.outcome = .failed failing error) :
    (chronicle.enter console route returnTo).Traced first actions waiting where
  applied := Chronicle.forall_visits_iff.mpr ⟨h, Visit.traced_opened _ _ _⟩
  waiting delivery hmem hown := .inl (hwaiting delivery hmem hown)

theorem deliver {delivery : Delivery} {rest : List Delivery}
    (hfaithful : chronicle.Faithful (delivery :: rest))
    (h : chronicle.Traced first actions (delivery :: rest)) :
    (chronicle.deliver delivery).Traced first actions rest := by
  have hrest : ∀ other ∈ rest, other ∈ delivery :: rest := fun _ => List.mem_cons_of_mem _
  simp only [Chronicle.deliver]
  split
  · next hown =>
    obtain ⟨hpast, hvisit⟩ := Chronicle.forall_visits_iff.mp h.applied
    have happlied :
        (chronicle.visit.add [] [.result delivery.outcome]).Traced first actions := by
      refine hvisit.add fun outcome hmem => ?_
      cases List.mem_singleton.mp hmem
      exact h.waiting delivery List.mem_cons_self hown
    split
    · next hrejection =>
      have hvisits : ∀ visit ∈ ({ chronicle with
          visit := chronicle.visit.add [] [.result delivery.outcome] } : Chronicle).visits,
          visit.Traced first actions :=
        Chronicle.forall_visits_iff.mpr ⟨hpast, happlied⟩
      refine enter hvisits fun other hmem hlater => ?_
      obtain ⟨log, hforced⟩ := Console.forceLogin_eq chronicle.console
      have hgeneration : (chronicle.console.deliver delivery).2.scope.generation =
          chronicle.visit.generation + 1 := by
        rw [Console.deliver_current (hown.trans hfaithful.generation),
          Console.apply_rejection hrejection, hforced, hfaithful.generation]
        rfl
      have hle := (hfaithful.arrived other (hrest other hmem)).1
      omega
    · refine ⟨Chronicle.forall_visits_iff.mpr ⟨hpast, happlied⟩, fun other hmem hother => ?_⟩
      exact (h.waiting other (hrest other hmem) hother).add _ _
  · exact ⟨h.applied, fun other hmem => h.waiting other (hrest other hmem)⟩

theorem act (hfaithful : chronicle.Faithful chronicle.console.results)
    (hconsole : chronicle.console = first.run actions)
    (h : chronicle.Traced first actions chronicle.console.results) {action : Action}
    (hpoll : action ≠ .poll) (hwait : action ≠ .wait) :
    (chronicle.act action).Traced first (actions ++ [action])
      (chronicle.console.step action).results := by
  have heffect := Console.step_effect hpoll hwait chronicle.console
  have hacted := hfaithful.act hpoll hwait
  have happended := h.append [action]
  simp only [Chronicle.act] at hacted ⊢
  split at hacted
  · next route returnTo hentered =>
    have hgeneration : (chronicle.console.step action).scope.generation =
        chronicle.console.scope.generation + 1 := by
      rw [← hfaithful.length_past]
      exact hacted.length_past.symm.trans List.length_append
    refine enter happended.applied fun delivery hmem hown => ?_
    rcases heffect.mem_results hmem with hmem | hfailed | ⟨index, reply, pending, rfl, -, -⟩ | hlate
    · have hle := (hfaithful.arrived delivery hmem).1
      rw [hfaithful.generation] at hle
      omega
    · exact hfailed
    · cases hentered
    · omega
  · next hentered =>
    obtain ⟨hpast, hvisit⟩ := Chronicle.forall_visits_iff.mp happended.applied
    refine ⟨Chronicle.forall_visits_iff.mpr ⟨hpast, hvisit.add fun outcome hmem => ?_⟩,
      fun delivery hmem hown => ?_⟩
    · exact absurd hmem (Console.result_not_mem_changed outcome)
    · rcases heffect.mem_results hmem with
        hmem | hfailed | ⟨index, reply, pending, rfl, hpending, rfl⟩ | hlate
      · exact (happended.waiting delivery hmem hown).add _ _
      · exact .inl hfailed
      · obtain ⟨hgeneration, hbegun⟩ := hfaithful.inFlight pending (List.mem_of_getElem? hpending)
        rw [hconsole] at hpending
        refine .inr ⟨pending.task, List.mem_append_left _ hbegun, reply, ?_, rfl⟩
        exact ⟨actions, index, [], pending.sent, rfl, hgeneration ▸ hpending⟩
      · have hown' : delivery.generation = chronicle.visit.generation := hown
        rw [← hfaithful.generation] at hlate
        omega

theorem step (hfaithful : chronicle.Faithful chronicle.console.results)
    (hconsole : chronicle.console = first.run actions)
    (h : chronicle.Traced first actions chronicle.console.results) (action : Action) :
    (chronicle.step action).Traced first (actions ++ [action])
      (chronicle.step action).console.results := by
  refine Chronicle.step_keeps (motive := Traced first (actions ++ [action])) ?_ ?_ ?_ ?_ hfaithful
    (h.append [action])
  · exact fun _ _ _ h => ⟨h.applied, h.waiting⟩
  · exact fun _ _ _ hfaithful h => deliver hfaithful h
  · exact fun hpoll hwait => act hfaithful hconsole h hpoll hwait
  · intro later deliveries waiting h
    obtain ⟨hpast, hvisit⟩ := Chronicle.forall_visits_iff.mp h.applied
    exact ⟨Chronicle.forall_visits_iff.mpr ⟨hpast, hvisit.arrive deliveries⟩,
      fun delivery hmem hown => (h.waiting delivery hmem hown).arrive deliveries⟩

theorem run (hfaithful : chronicle.Faithful chronicle.console.results)
    (hconsole : chronicle.console = first.run actions)
    (h : chronicle.Traced first actions chronicle.console.results) (more : List Action) :
    (chronicle.run more).Traced first (actions ++ more) (chronicle.run more).console.results := by
  induction more generalizing chronicle actions with
  | nil =>
    rw [List.append_nil]
    exact h
  | cons action rest ih =>
    have hstep : (chronicle.step action).console = first.run (actions ++ [action]) := by
      rw [step_console, hconsole, Console.run, Console.run, List.foldl_append]
      rfl
    have hrest := ih (hfaithful.step action) hstep (h.step hfaithful hconsole action)
    rwa [List.append_assoc, List.singleton_append] at hrest

end Traced

theorem traced_run (address : String) (outside : Outside) (actions : List Action) :
    ((start address outside).run actions).Traced (Console.start address outside) actions
      ((start address outside).run actions).console.results :=
  (Traced.start _ address outside).run (.start address outside) rfl actions

end Chronicle

/-! ### What was loaded -/

/-- A value is read from a success whose body arrived whole. -/
theorem Response.reads_of_value {response : Response} {α : Type} {decoder : Json.Decoder α}
    {path : String} {value : α} {reply : Http.Reply} (hreply : ofReply reply = .ok response)
    (h : response.value decoder path = .ok value) :
    ∃ draft depth, reply.Reads draft ∧ decoder depth draft = .ok value := by
  obtain ⟨hreceived, hleast, hgreatest⟩ := ofReply_eq_ok.mp hreply
  obtain ⟨hcomplete, hdecode⟩ := value_eq_ok.mp h
  obtain ⟨draft, htext, hvalue⟩ := Json.ofText_of_decode hdecode
  rw [hcomplete] at hreceived
  exact ⟨draft, _, ⟨_, _, hreceived, hleast, hgreatest, htext⟩, hvalue⟩

namespace Task

variable {kind : Kind} {id : String} {data : Loaded} {reply : Http.Reply}

theorem holdsRows_of_loaded
    (h : .loaded data = (loadList kind).outcome (Response.ofReply reply)) :
    ∃ rows, data = .rows kind rows ∧ reply.HoldsRows rows := by
  obtain ⟨_, ⟨⟩⟩ | ⟨response, hreply, hresult⟩ := outcome_cases h.symm
  obtain ⟨page, hpage, ⟨⟩⟩ := bind_eq_ok.mp hresult
  obtain ⟨draft, depth, hreads, hdecoder⟩ := Response.reads_of_value hreply hpage
  obtain ⟨received, hshows, hlisted⟩ := Page.listed_of_decoder hdecoder Record.received_of_decoder
  exact ⟨page.data, rfl, draft, received, hreads, hshows, hlisted⟩

theorem holdsRecord_of_loaded
    (h : .loaded data = (loadRecord kind id).outcome (Response.ofReply reply)) :
    ∃ record, data = .record kind record ∧ reply.HoldsRecord record := by
  obtain ⟨_, ⟨⟩⟩ | ⟨response, hreply, hresult⟩ := outcome_cases h.symm
  obtain ⟨record, hrecord, ⟨⟩⟩ := bind_eq_ok.mp hresult
  obtain ⟨draft, depth, hreads, hdecoder⟩ := Response.reads_of_value hreply hrecord
  exact ⟨record, rfl, draft, hreads, Record.received_of_decoder hdecoder⟩

end Task

namespace Visit

variable {visit : Visit} {kind : Kind} {id : String} {data : Loaded}

/-- What was loaded was made of a reply to the task that the visit began with. -/
theorem Coherent.answered (h : visit.Coherent)
    (horigin : visit.Origin first actions (.loaded data)) :
    ∃ task reply, Task.ofRoute? visit.route = some task ∧
      first.Answered actions visit.generation task reply ∧
      .loaded data = task.outcome (Response.ofReply reply) := by
  obtain ⟨_, _, ⟨⟩⟩ | ⟨task, hbegun, reply, hanswered, houtcome⟩ := horigin
  have hyields : task.Yields (.loaded data) := ⟨Response.ofReply reply, houtcome⟩
  exact ⟨task, reply, h.ofRoute?_of_begun hbegun (hyields.isLoad rfl), hanswered, houtcome⟩

/-- The rows that are shown in a list are those of a reply to the request for it. -/
theorem Coherent.answered_rows (h : visit.Coherent) (hroute : visit.route = .list kind)
    (horigin : visit.Origin first actions (.loaded data)) :
    ∃ rows reply, data = .rows kind rows ∧
      first.Answered actions visit.generation (.loadList kind) reply ∧ reply.HoldsRows rows := by
  obtain ⟨task, reply, htask, hanswered, houtcome⟩ := h.answered horigin
  rw [hroute] at htask
  cases htask
  obtain ⟨rows, hrows, hreply⟩ := Task.holdsRows_of_loaded houtcome
  exact ⟨rows, reply, hrows, hanswered, hreply⟩

theorem Coherent.answered_record (h : visit.Coherent) (hroute : visit.route = .detail kind id)
    (horigin : visit.Origin first actions (.loaded data)) :
    ∃ record reply, data = .record kind record ∧
      first.Answered actions visit.generation (.loadRecord kind id) reply ∧
      reply.HoldsRecord record := by
  obtain ⟨task, reply, htask, hanswered, houtcome⟩ := h.answered horigin
  rw [hroute] at htask
  cases htask
  obtain ⟨record, hrecord, hreply⟩ := Task.holdsRecord_of_loaded houtcome
  exact ⟨record, reply, hrecord, hanswered, hreply⟩

end Visit

end IdentityConsole
