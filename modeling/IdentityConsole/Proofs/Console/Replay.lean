import IdentityConsole.Proofs.Console.Faithful

/-!
# The view is a replay of its visit

The view is that of its route with the changes of the visit replayed, and the results among these
are those that the visit began, in the order in which they arrived.
-/

namespace IdentityConsole.Chronicle

variable {chronicle : Chronicle} {waiting : List Delivery}

/-- What has arrived has been delivered, or waits. -/
def InOrder (chronicle : Chronicle) (waiting : List Delivery) : Prop :=
  chronicle.visit.arrived =
    chronicle.visit.delivered ++ outcomesOf chronicle.visit.generation waiting

namespace InOrder

theorem arrive (h : chronicle.InOrder waiting) (arrived : List Delivery) :
    (chronicle.arrive arrived).InOrder (waiting ++ arrived) := by
  let own := outcomesOf chronicle.visit.generation
  calc chronicle.visit.arrived ++ own arrived
      = chronicle.visit.delivered ++ own waiting ++ own arrived := by rw [h]
    _ = chronicle.visit.delivered ++ own (waiting ++ arrived) := by
        rw [List.append_assoc, ← outcomesOf_append]

/-- Nothing that waits when a view is entered is of its visit. -/
theorem of_entered {later : Chronicle} {console : Console} {route : Route}
    {returnTo : Option Route} (hfaithful : chronicle.Faithful waiting)
    (hlater : (later.enter console route returnTo).Faithful waiting)
    (hpast : later.past.length = chronicle.past.length) :
    (later.enter console route returnTo).InOrder waiting := by
  have hlt : chronicle.visit.generation <
      (later.enter console route returnTo).visit.generation := by
    refine hfaithful.generation_lt_of_length_past hlater ?_
    simp [enter, visits, hpast]
  have hown : outcomesOf (later.enter console route returnTo).visit.generation waiting = [] := by
    refine outcomesOf_eq_nil fun delivery hmem => ?_
    exact Nat.lt_of_le_of_lt (hfaithful.arrived delivery hmem).1 hlt
  rw [InOrder, hown]
  rfl

theorem deliver {delivery : Delivery} {rest : List Delivery}
    (hfaithful : chronicle.Faithful (delivery :: rest)) (h : chronicle.InOrder (delivery :: rest)) :
    (chronicle.deliver delivery).InOrder rest := by
  have hrest : chronicle.Faithful rest :=
    hfaithful.congr rfl rfl rfl rfl (List.sublist_cons_self ..)
  have hdelivered := hfaithful.deliver
  unfold Chronicle.deliver at hdelivered ⊢
  split
  · next hown =>
    dsimp only at hdelivered ⊢
    rw [if_pos hown] at hdelivered
    split
    · next hrejection =>
      rw [if_pos hrejection] at hdelivered
      exact of_entered hrest hdelivered rfl
    · simpa [InOrder, outcomesOf, Visit.add, Visit.delivered, hown, Change.outcome?] using h
  · next hstale => simpa [InOrder, outcomesOf, hstale] using h

theorem act (hfaithful : chronicle.Faithful chronicle.console.results)
    (h : chronicle.InOrder chronicle.console.results) {action : Console.Action}
    (hpoll : action ≠ .poll) (hwait : action ≠ .wait) :
    ((chronicle.act action).arrive ((chronicle.console.step action).results.drop
      chronicle.console.results.length)).InOrder (chronicle.console.step action).results := by
  obtain ⟨arrived, harrived⟩ := (Console.step_effect hpoll hwait chronicle.console).results
  have hacted := hfaithful.act hpoll hwait
  rw [act_console, harrived] at hacted
  rw [harrived, List.drop_left]
  refine InOrder.arrive ?_ arrived
  have hacted : (chronicle.act action).Faithful chronicle.console.results :=
    hacted.congr rfl rfl rfl rfl (List.sublist_append_left ..)
  unfold Chronicle.act at hacted ⊢
  dsimp only at hacted ⊢
  split
  · next route returnTo hentered =>
    rw [hentered] at hacted
    exact of_entered hfaithful hacted rfl
  · simpa [InOrder, outcomesOf, Visit.add, Visit.delivered, Console.changed_outcome?] using h

theorem step (hfaithful : chronicle.Faithful chronicle.console.results)
    (h : chronicle.InOrder chronicle.console.results) (action : Console.Action) :
    (chronicle.step action).InOrder (chronicle.step action).console.results := by
  have hdeliveries := step_deliveries
    (motive := fun later waiting => later.Faithful waiting ∧ later.InOrder waiting)
    (fun _ results _ h => ⟨h.1.queue results, h.2⟩)
    (fun _ _ _ h => ⟨h.1.deliver, h.2.deliver h.1⟩) ⟨hfaithful, h⟩
  cases action using Console.Action.delivery_cases with
  | poll => exact hdeliveries.1.2
  | wait => exact hdeliveries.2.2
  | other action hpoll hwait =>
    rw [step_console, step_of_ne hpoll hwait]
    exact h.act hfaithful hpoll hwait

theorem run (hfaithful : chronicle.Faithful chronicle.console.results)
    (h : chronicle.InOrder chronicle.console.results) (actions : List Console.Action) :
    (chronicle.run actions).InOrder (chronicle.run actions).console.results := by
  induction actions generalizing chronicle with
  | nil => exact h
  | cons action rest ih => exact ih (hfaithful.step action) (h.step hfaithful action)

end InOrder

/-! ### Runs -/

namespace Faithful

theorem view_eq_replay (h : chronicle.Faithful waiting) :
    chronicle.console.view =
      (View.ofRoute chronicle.console.route chronicle.console.view.returnTo?).replay
        chronicle.visit.changes := by
  have hreturnTo : chronicle.console.view.returnTo? =
      (View.ofRoute chronicle.visit.route chronicle.visit.returnTo).returnTo? := by
    rw [h.view, Visit.view, View.returnTo?_replay]
  rw [hreturnTo, ← h.route, View.ofRoute_returnTo?]
  exact h.view

theorem yields_of_arrived (h : chronicle.Faithful waiting) (horder : chronicle.InOrder waiting)
    {outcome : Outcome} (hmem : outcome ∈ chronicle.visit.arrived) :
    ∃ task ∈ chronicle.visit.begun, task.Yields outcome := by
  rw [horder] at hmem
  rcases List.mem_append.mp hmem with hmem | hmem
  · obtain ⟨change, hchange, houtcome⟩ := List.mem_filterMap.mp hmem
    cases change with
    | result other =>
      cases houtcome
      exact h.applied outcome hchange
    | edit field value | save => cases houtcome
  · obtain ⟨delivery, hwaiting, hown, rfl⟩ := mem_outcomesOf.mp hmem
    exact (h.arrived delivery hwaiting).2 hown

/-- A result of a visit that is past changes nothing. -/
theorem deliver_past (h : chronicle.Faithful waiting) {visit : Visit}
    (hmem : visit ∈ chronicle.past) (outcome : Outcome) :
    chronicle.console.deliver ⟨visit.generation, outcome⟩ = (false, chronicle.console) := by
  refine Console.deliver_stale (Nat.ne_of_lt ?_)
  have hgeneration : visit.generation ∈ chronicle.past.map Visit.generation :=
    List.mem_map_of_mem hmem
  rw [h.past_generations] at hgeneration
  exact List.mem_range.mp hgeneration

end Faithful

/-- **The view is a replay of its visit**; what was begun in an earlier one does not reach it. -/
theorem run_view_replay (address : String) (outside : Outside) (actions : List Console.Action) :
    let chronicle := (start address outside).run actions
    let console := (Console.start address outside).run actions
    chronicle.console = console ∧
    (chronicle.visits.map Visit.generation).Pairwise (· < ·) ∧
    chronicle.visit.generation = console.scope.generation ∧
    (∀ pending ∈ console.inFlight,
      pending.generation = chronicle.visit.generation ∧ pending.task ∈ chronicle.visit.begun) ∧
    (∀ visit ∈ chronicle.past, ∀ outcome,
      console.deliver ⟨visit.generation, outcome⟩ = (false, console)) ∧
    (∀ rest, let later := console.run rest
      console.scope.generation ≤ later.scope.generation ∧
      (console.scope.generation < later.scope.generation →
        (∀ pending ∈ console.inFlight, ∀ outcome,
          later.deliver ⟨pending.generation, outcome⟩ = (false, later)) ∧
        ∀ delivery ∈ console.results, later.deliver delivery = (false, later))) ∧
    console.view =
      (View.ofRoute console.route console.view.returnTo?).replay chronicle.visit.changes ∧
    chronicle.visit.arrived =
      chronicle.visit.delivered ++ outcomesOf chronicle.visit.generation console.results ∧
    ∀ outcome ∈ chronicle.visit.arrived, ∃ task ∈ chronicle.visit.begun, task.Yields outcome := by
  intro chronicle console
  have hconsole : chronicle.console = console := run_console _ actions
  have h : chronicle.Faithful chronicle.console.results := faithful_run address outside actions
  have horder : chronicle.InOrder chronicle.console.results :=
    InOrder.run (Faithful.start address outside) rfl actions
  rw [← hconsole]
  refine ⟨rfl, ?_, h.generation, h.inFlight, fun visit hmem => h.deliver_past hmem, ?_,
    h.view_eq_replay, horder, fun outcome => h.yields_of_arrived horder⟩
  · rw [h.generations]
    exact List.pairwise_lt_range
  · intro rest later
    refine ⟨h.generation_le_run rest, fun hlt => ?_⟩
    obtain ⟨hpending, hresults, -⟩ := h.deliver_later hlt
    exact ⟨hpending, hresults⟩

end IdentityConsole.Chronicle
