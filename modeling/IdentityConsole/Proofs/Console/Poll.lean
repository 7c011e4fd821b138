import IdentityConsole.Proofs.Console.Confluence
import IdentityConsole.Proofs.Console.Detail
import IdentityConsole.Proofs.Console.Isolation
import IdentityConsole.Proofs.Console.Listing

/-!
# What a poll comes to

Nothing that waits is for the view shown, or a rejection among it ends the session, or all of it
goes into the view. What has been loaded is not loaded a second time.
-/

namespace IdentityConsole

theorem View.isLogin_iff_route {view : View} : view.isLogin = true ↔ view.route = .login := by
  cases view <;> simp [isLogin, route]

/-- Where no result is that of a load, no change is. -/
theorem Change.isLoaded_of_mem_results {outcomes : List Outcome}
    (h : ∀ outcome ∈ outcomes, outcome.isLoaded = false) :
    ∀ change ∈ outcomes.map Change.result, change.isLoaded = false := by
  intro change hmem
  obtain ⟨outcome, houtcome, rfl⟩ := List.mem_map.mp hmem
  exact h outcome houtcome

/-- Before anything is loaded a view stays as empty as it was when it was entered. -/
theorem View.isLoading_replay {changes : List Change}
    (h : ∀ change ∈ changes, change.isLoaded = false) (view : View) :
    (view.replay changes).isLoading = view.isLoading := by
  induction changes generalizing view with
  | nil => rfl
  | cons change rest ih =>
    have hfirst : (view.after change).isLoading = view.isLoading := by
      cases view with
      | list kind rows =>
        rw [after_list (h change List.mem_cons_self)]
        cases rows <;> rfl
      | detail kind id record notice =>
        obtain ⟨notice', hafter⟩ := after_detail kind id (h change List.mem_cons_self) record notice
        rw [hafter]
        cases record <;> rfl
      | login returnTo | dashboard =>
        cases change with
        | result outcome => cases outcome <;> rfl
        | edit field value | save => rfl
    exact (ih (fun other hmem => h other (List.mem_cons_of_mem _ hmem)) _).trans hfirst

/-- Where something has been loaded no other load waits. -/
theorem Chronicle.Faithful.fills_eq_false {chronicle : Chronicle} {waiting : List Delivery}
    (h : chronicle.Faithful waiting) (hloaded : chronicle.console.view.isLoading = false) :
    ∀ delivery ∈ waiting, delivery.fills chronicle.console.scope.generation = false := by
  by_contra hfills
  simp only [not_forall, Bool.not_eq_false] at hfills
  obtain ⟨delivery, hmem, hfills⟩ := hfills
  rw [← h.generation] at hfills
  have hwaiting : 0 < waiting.countP (·.fills chronicle.visit.generation) :=
    List.countP_pos_iff.mpr ⟨delivery, hmem, hfills⟩
  have hloads := h.loads
  have hchanges : chronicle.visit.changes.countP Change.isLoaded = 0 := by
    simp only [Chronicle.loads] at hloads
    omega
  have hnone : ∀ change ∈ chronicle.visit.changes, change.isLoaded = false := by
    simpa [List.countP_eq_zero] using hchanges
  rw [h.view, Visit.view, View.isLoading_replay hnone] at hloaded
  cases hroute : chronicle.visit.route with
  | login | dashboard =>
    -- Nothing is loaded for these, so that no result of a load can be theirs.
    simp only [Delivery.fills, Bool.and_eq_true, beq_iff_eq] at hfills
    obtain ⟨task, hbegun, hyields⟩ := (h.arrived delivery hmem).2 hfills.1
    have hload := hyields.isLoad hfills.2
    have htask := (h.begun task hbegun).trans hroute
    cases task with
    | loadList kind | loadRecord kind id => cases htask
    | delete kind id | update kind id record => cases hload
  | list kind | detail kind id =>
    rw [hroute] at hloaded
    cases hloaded

namespace Console

theorem Recorded.not_isLoaded {console : Console} (h : console.Recorded)
    (hloaded : console.view.isLoading = false) :
    ∀ outcome ∈ console.awaited, outcome.isLoaded = false := by
  obtain ⟨chronicle, rfl, hfaithful⟩ := h
  intro outcome hmem
  obtain ⟨delivery, hdelivery, hcurrent, rfl⟩ := mem_outcomesOf.mp hmem
  have hfills := hfaithful.fills_eq_false hloaded delivery hdelivery
  simpa [Delivery.fills, hcurrent] using hfills

/-! ### How many results are applied -/

theorem le_deliverAll_fst (applied : Nat) (console : Console) (deliveries : List Delivery) :
    applied ≤ (deliverAll applied console deliveries).1 := by
  induction deliveries generalizing applied console with
  | nil => exact Nat.le_refl applied
  | cons delivery rest ih =>
    refine Nat.le_trans ?_ (ih _ _)
    split
    · exact Nat.le_succ applied
    · exact Nat.le_refl applied

theorem lt_deliverAll_fst {console : Console} {deliveries : List Delivery}
    (h : outcomesOf console.scope.generation deliveries ≠ []) (applied : Nat) :
    applied < (deliverAll applied console deliveries).1 := by
  induction deliveries with
  | nil => exact absurd rfl h
  | cons delivery rest ih =>
    by_cases hcurrent : delivery.generation = console.scope.generation
    · rw [deliverAll, deliver_current hcurrent]
      exact Nat.lt_of_lt_of_le (Nat.lt_succ_self applied) (le_deliverAll_fst _ _ rest)
    · have hsame : outcomesOf console.scope.generation (delivery :: rest) =
          outcomesOf console.scope.generation rest := by
        simp [outcomesOf, hcurrent]
      rw [hsame] at h
      rw [deliverAll, deliver_stale hcurrent]
      exact ih h

/-! ### The end of a session -/

/-- At the login view nothing that is delivered leads away from it. -/
theorem deliverEach_ended {console : Console} (hview : console.view.isLogin = true)
    (deliveries : List Delivery) :
    (console.deliverEach deliveries).view.isLogin = true ∧
      console.loginRedirects ≤ (console.deliverEach deliveries).loginRedirects := by
  refine deliverEach_induction (motive := fun later =>
    later.view.isLogin = true ∧ console.loginRedirects ≤ later.loginRedirects) ?_
    ⟨hview, Nat.le_refl _⟩ deliveries
  rintro later delivery ⟨hlater, hle⟩
  rcases deliver_cases delivery later with
    ⟨log, -, -, hdeliver⟩ | ⟨log, -, -, hdeliver⟩ | ⟨-, hdeliver⟩
  · rw [hdeliver]
    exact ⟨rfl, Nat.le_succ_of_le hle⟩
  · rw [hdeliver]
    refine ⟨?_, hle⟩
    rw [View.isLogin_iff_route, View.route_afterResult]
    exact View.isLogin_iff_route.mp hlater
  · rw [hdeliver]
    exact ⟨hlater, hle⟩

theorem deliverEach_rejection {console : Console} {deliveries : List Delivery}
    (h : ∃ outcome ∈ outcomesOf console.scope.generation deliveries,
      outcome.isRejection = true) :
    (console.deliverEach deliveries).view.isLogin = true ∧
      console.loginRedirects < (console.deliverEach deliveries).loginRedirects := by
  obtain ⟨outcome, hmem, hrejection⟩ := h
  obtain ⟨cause, hcause, hcurrent, rfl⟩ := mem_outcomesOf.mp hmem
  clear hmem
  -- A result that is put into the view does not end the visit, so the rejection is still current
  -- when it is reached.
  induction deliveries generalizing console with
  | nil => cases hcause
  | cons delivery rest ih =>
    rw [deliverEach_cons]
    rcases deliver_cases delivery console with
      ⟨log, -, -, hdeliver⟩ | ⟨log, -, hkept, hdeliver⟩ | ⟨hstale, hdeliver⟩
    · rw [hdeliver]
      exact deliverEach_ended rfl rest
    · have hrest : cause ∈ rest := by
        rcases List.mem_cons.mp hcause with rfl | hrest
        · rw [hkept] at hrejection
          cases hrejection
        · exact hrest
      rw [hdeliver]
      exact ih hrest hcurrent
    · have hrest : cause ∈ rest := by
        rcases List.mem_cons.mp hcause with rfl | hrest
        · exact absurd hcurrent hstale
        · exact hrest
      rw [hdeliver]
      exact ih hrest hcurrent

/-! ### Polling -/

/-- What a poll comes to, by what waits for the view shown. -/
inductive Polled (console : Console) : Nat × Console → Prop
  | nothing (hnone : console.awaited = []) : Polled console (0, { console with results := [] })
  | shown {applied : Nat} {later : Console} (hpositive : 0 < applied)
      (hkept : ∀ outcome ∈ console.awaited, outcome.isRejection = false)
      (hlater : later.Agrees
        { console with view := console.view.replay (console.awaited.map .result) }) :
      Polled console (applied, later)
  | ended {applied : Nat} {later : Console} (hpositive : 0 < applied)
      (hview : later.view.isLogin = true)
      (hredirects : console.loginRedirects < later.loginRedirects) :
      Polled console (applied, later)

theorem polled (console : Console) : console.Polled console.poll := by
  let emptied : Console := { console with results := [] }
  have hpoll : console.poll = deliverAll 0 emptied console.results := rfl
  by_cases hnone : console.awaited = []
  · have hstale : deliverAll 0 emptied console.results = (0, emptied) := by
      refine deliverAll_stale (fun delivery hmem hcurrent => ?_) 0
      have hmem : delivery.outcome ∈ console.awaited :=
        mem_outcomesOf.mpr ⟨delivery, hmem, hcurrent, rfl⟩
      rw [hnone] at hmem
      cases hmem
    rw [hpoll, hstale]
    exact .nothing hnone
  · have hpositive : 0 < console.poll.1 := @lt_deliverAll_fst emptied _ hnone 0
    have hlater : console.poll.2 = emptied.deliverEach console.results := poll_snd console
    generalize console.poll = result at hpositive hlater
    obtain ⟨applied, later⟩ := result
    dsimp only at hpositive hlater
    subst hlater
    by_cases hrejection : ∃ outcome ∈ console.awaited, outcome.isRejection = true
    · obtain ⟨hview, hredirects⟩ : (emptied.deliverEach console.results).view.isLogin = true ∧
          emptied.loginRedirects < (emptied.deliverEach console.results).loginRedirects :=
        deliverEach_rejection hrejection
      exact .ended hpositive hview hredirects
    · have hkept : ∀ outcome ∈ console.awaited, outcome.isRejection = false := by
        simpa using hrejection
      have hagrees : (emptied.deliverEach console.results).Agrees
          { emptied with view := console.awaited.foldl View.afterResult emptied.view } :=
        deliverEach_kept hkept
      refine .shown hpositive hkept ?_
      rw [View.replay, List.foldl_map]
      exact hagrees.trans ⟨rfl, rfl, rfl, rfl, rfl, rfl⟩

end Console

end IdentityConsole
