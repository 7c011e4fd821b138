import IdentityConsole.Proofs.Console.Notice
import IdentityConsole.Proofs.Session.Storing

/-!
# Saves without haste

The confirmation of a save does not say which save it is for. It is about the record that is shown
when there is nothing else it could be about: while a save was unanswered nothing was edited, and
nothing was saved again.
-/

namespace IdentityConsole

/-- A visit whose last save sent the record that is still shown, and what happened since. -/
structure Visit.Saved (visit : Visit) (kind : Kind) (id : String) (record : kind.Record)
    (notice : Option String) (since : List Change) : Prop where
  begun : visit.begun.getLast? = some (.update kind id record)
  shown : visit.view = .detail kind id (some record) notice
  changes : ∃ before, visit.changes = before ++ .save :: since
  undisturbed : ∀ change ∈ since, change.disturbs = false

/-- An answer to a save of the view of a generation. -/
def Delivery.answers (generation : Nat) (delivery : Delivery) : Bool :=
  delivery.generation == generation && delivery.outcome.answersSave

namespace Console

/-- A save of the view that is shown is unanswered. -/
def isSaving (console : Console) : Bool :=
  console.inFlight.any (·.task.isUpdate) ||
    console.results.any (·.answers console.scope.generation)

/-- Edits and saves. -/
def Action.disturbs : Action → Bool
  | .setField .. | .save => true
  | _ => false

/-- Nothing is edited or saved while a save is unanswered. -/
def patient (console : Console) : List Action → Bool
  | [] => true
  | action :: rest => !(action.disturbs && console.isSaving) && (console.step action).patient rest

end Console

namespace Visit.Saved

variable {visit : Visit} {kind : Kind} {id : String} {record : kind.Record}
  {notice notice' : Option String} {since : List Change}

/-- A result that leaves the record leaves it saved. -/
theorem result (h : visit.Saved kind id record notice since) {outcome : Outcome}
    (hafter : (View.detail kind id (some record) notice).afterResult outcome =
      .detail kind id (some record) notice') :
    (visit.add [] [.result outcome]).Saved kind id record notice'
      (since ++ [.result outcome]) where
  begun := by simpa [add] using h.begun
  shown := by rw [view_add, View.replay_singleton, View.after, h.shown, hafter]
  changes := by
    obtain ⟨before, hchanges⟩ := h.changes
    exact ⟨before, by simp [add, hchanges]⟩
  undisturbed := by
    intro change hmem
    rcases List.mem_append.mp hmem with hmem | hmem
    · exact h.undisturbed change hmem
    · rw [List.mem_singleton.mp hmem]
      rfl

theorem arrive (h : visit.Saved kind id record notice since) (deliveries : List Delivery) :
    (visit.arrive deliveries).Saved kind id record notice since :=
  ⟨h.begun, h.shown, h.changes, h.undisturbed⟩

end Visit.Saved

namespace Chronicle

variable {chronicle : Chronicle} {waiting : List Delivery}

/-- The saves of the visit under way that are unanswered: in flight, or with an answer that
waits. -/
def unanswered (chronicle : Chronicle) (waiting : List Delivery) : Nat :=
  chronicle.console.inFlight.countP (·.task.isUpdate) +
    waiting.countP (·.answers chronicle.visit.generation)

theorem Faithful.unanswered_eq_zero (h : chronicle.Faithful waiting)
    (hbegun : ∀ task ∈ chronicle.visit.begun, task.isUpdate = false) :
    chronicle.unanswered waiting = 0 := by
  have hinFlight : chronicle.console.inFlight.countP (·.task.isUpdate) = 0 := by
    rw [List.countP_eq_zero]
    intro pending hmem
    rw [hbegun _ (h.inFlight pending hmem).2]
    exact Bool.false_ne_true
  have hwaiting : waiting.countP (·.answers chronicle.visit.generation) = 0 := by
    rw [List.countP_eq_zero]
    intro delivery hmem hanswers
    simp only [Delivery.answers, Bool.and_eq_true, beq_iff_eq] at hanswers
    obtain ⟨task, htask, hyields⟩ := (h.arrived delivery hmem).2 hanswers.1
    rw [hyields.answersSave, hbegun task htask] at hanswers
    exact Bool.false_ne_true hanswers.2
  rw [unanswered, hinFlight, hwaiting]

theorem Faithful.isSaving_eq_false_iff (h : chronicle.Faithful chronicle.console.results) :
    chronicle.console.isSaving = false ↔
      chronicle.unanswered chronicle.console.results = 0 := by
  simp only [Console.isSaving, unanswered, h.generation, Nat.add_eq_zero_iff, Bool.or_eq_false_iff,
    List.any_eq_false, List.countP_eq_zero]

/-- A task that is begun is unanswered if it is a save, whether it can leave or not. -/
theorem unanswered_begin
    (hgeneration : chronicle.visit.generation = chronicle.console.scope.generation) (task : Task)
    (view : View) (visit : Visit) (hvisit : visit.generation = chronicle.visit.generation) :
    ({ chronicle with console := { chronicle.console.begin task with view }, visit } :
        Chronicle).unanswered (chronicle.console.begin task).results =
      chronicle.unanswered chronicle.console.results + task.isUpdate.toNat := by
  rcases Console.begin_cases task chronicle.console with ⟨log, sent, hbegin⟩ | ⟨log, error, hbegin⟩
  · simp only [unanswered, hbegin, hvisit, List.countP_append, List.countP_singleton]
    cases task.isUpdate <;> simp
    omega
  · have hanswers : Delivery.answers chronicle.visit.generation
        ⟨chronicle.console.scope.generation, task.failed error⟩ = task.isUpdate := by
      simp [Delivery.answers, hgeneration, task.answersSave_failed]
    simp only [unanswered, hbegin, hvisit, List.countP_append, List.countP_singleton, hanswers]
    cases task.isUpdate <;> simp
    omega

theorem unanswered_cons {delivery : Delivery} {rest : List Delivery}
    (hown : delivery.generation = chronicle.visit.generation) :
    chronicle.unanswered (delivery :: rest) =
      chronicle.unanswered rest + delivery.outcome.answersSave.toNat := by
  simp only [unanswered, List.countP_cons, Delivery.answers, hown, beq_self_eq_true, Bool.true_and]
  cases delivery.outcome.answersSave <;> simp
  omega

/-- A save that is answered is unanswered until the answer is delivered. -/
theorem unanswered_respond {index : Nat} {pending : Pending}
    (hpending : chronicle.console.inFlight[index]? = some pending)
    (hgeneration : pending.generation = chronicle.visit.generation)
    (response : Except ApiError Response) {console : Console}
    (hinFlight : console.inFlight = chronicle.console.inFlight.eraseIdx index) :
    ({ chronicle with console } : Chronicle).unanswered
        (waiting ++ [⟨pending.generation, pending.task.outcome response⟩]) =
      chronicle.unanswered waiting := by
  have hyields : pending.task.Yields (pending.task.outcome response) := ⟨response, rfl⟩
  have hanswers : Delivery.answers chronicle.visit.generation
      ⟨pending.generation, pending.task.outcome response⟩ = pending.task.isUpdate := by
    simp [Delivery.answers, hgeneration, hyields.answersSave]
  obtain ⟨hindex, rfl⟩ := List.getElem?_eq_some_iff.mp hpending
  have hcount := (List.getElem_cons_eraseIdx_perm hindex).countP_eq
    fun pending : Pending => pending.task.isUpdate
  rw [List.countP_cons] at hcount
  simp only [unanswered, hinFlight, List.countP_append, List.countP_singleton, hanswers]
  omega

/-- At most one save is unanswered, and then nothing was edited since and no notice is shown. A
notice is about the last save, of the record that is shown. -/
structure Settled (chronicle : Chronicle) (waiting : List Delivery) : Prop where
  le_one : chronicle.unanswered waiting ≤ 1
  saving : chronicle.unanswered waiting = 1 →
    ∃ kind id record since, chronicle.visit.Saved kind id record none since
  noticed : ∀ text, chronicle.visit.view.notice? = some text →
    chronicle.unanswered waiting = 0 ∧ ∃ kind id record since,
      chronicle.visit.Saved kind id record (some text) since ∧
      .result (.updated kind id) ∈ since

namespace Settled

theorem of_zero (hzero : chronicle.unanswered waiting = 0)
    (hnotice : chronicle.visit.view.notice? = none) : chronicle.Settled waiting where
  le_one := by omega
  saving hone := by omega
  noticed text htext := by
    rw [hnotice] at htext
    cases htext

theorem start (address : String) (outside : Outside) :
    (Chronicle.start address outside).Settled [] :=
  of_zero rfl rfl

/-- What keeps the visit and the number of unanswered saves. -/
theorem congr (h : chronicle.Settled waiting) {console : Console} {rest : List Delivery}
    (hsame : ({ chronicle with console } : Chronicle).unanswered rest =
      chronicle.unanswered waiting) :
    ({ chronicle with console } : Chronicle).Settled rest where
  le_one := by
    rw [hsame]
    exact h.le_one
  saving := by
    rw [hsame]
    exact h.saving
  noticed := by
    rw [hsame]
    exact h.noticed

theorem entered {console : Console} {route : Route} {returnTo : Option Route}
    (h : (chronicle.enter console route returnTo).Faithful waiting) :
    (chronicle.enter console route returnTo).Settled waiting := by
  refine of_zero (h.unanswered_eq_zero fun task hmem => ?_) (View.notice?_ofRoute route returnTo)
  simp only [Chronicle.enter, Visit.opened, Visit.blank, Visit.add, List.nil_append,
    Option.mem_toList] at hmem
  exact Task.isUpdate_of_ofRoute? hmem

/-- Where a record is shown it was loaded, and no other load is to come. -/
theorem not_saved_of_load {delivery : Delivery} {rest : List Delivery}
    (hfaithful : chronicle.Faithful (delivery :: rest))
    (hown : delivery.generation = chronicle.visit.generation)
    (hloaded : delivery.outcome.isLoaded = true) {kind : Kind} {id : String}
    {record : kind.Record} {notice : Option String} {since : List Change}
    (h : chronicle.visit.Saved kind id record notice since) : False := by
  have hloads := hfaithful.loads
  simp only [Chronicle.loads, List.countP_cons, Delivery.fills, hown, hloaded, beq_self_eq_true,
    Bool.and_self, if_true] at hloads
  have hnone : ∀ change ∈ chronicle.visit.changes, change.isLoaded = false := by
    have hcount : chronicle.visit.changes.countP Change.isLoaded = 0 := by omega
    rw [List.countP_eq_zero] at hcount
    exact fun change hmem => by simpa using hcount change hmem
  have hroute : chronicle.visit.route = .detail kind id := by
    rw [← Visit.route_view, h.shown]
    rfl
  obtain ⟨other, hreplay⟩ := View.replay_detail kind id hnone none none
  have hshown := h.shown
  rw [Visit.view, hroute] at hshown
  exact absurd (hreplay.symm.trans hshown) (by simp)

variable {delivery : Delivery} {rest : List Delivery}

/-- What does not answer a save leaves the record that is shown. -/
theorem saved_of_not_answersSave (hfaithful : chronicle.Faithful (delivery :: rest))
    (hown : delivery.generation = chronicle.visit.generation)
    (hanswers : delivery.outcome.answersSave = false) {kind : Kind} {id : String}
    {record : kind.Record} {notice : Option String} {since : List Change}
    (h : chronicle.visit.Saved kind id record notice since) :
    (chronicle.visit.add [] [.result delivery.outcome]).Saved kind id record notice
      (since ++ [.result delivery.outcome]) := by
  have hload := not_saved_of_load hfaithful hown
  generalize delivery.outcome = outcome at hanswers hload
  cases outcome with
  | loaded data => exact (hload rfl h).elim
  | deleted other otherId | failed action error => exact h.result rfl
  | updated other otherId => cases hanswers

/-- An answer is to the save of the record that is shown, as nothing else is shown in the view. -/
theorem updated_or_failed_of_answersSave (hfaithful : chronicle.Faithful (delivery :: rest))
    (hown : delivery.generation = chronicle.visit.generation)
    (hanswers : delivery.outcome.answersSave = true) {kind : Kind} {id : String}
    {record : kind.Record} {notice : Option String} {since : List Change}
    (h : chronicle.visit.Saved kind id record notice since) :
    delivery.outcome = .updated kind id ∨
      ∃ action error, delivery.outcome = .failed action error := by
  obtain ⟨task, hbegun, hyields⟩ := (hfaithful.arrived delivery List.mem_cons_self).2 hown
  rw [hyields.answersSave] at hanswers
  obtain ⟨kind', id', record', rfl⟩ := Task.eq_update_of_isUpdate hanswers
  have hroute := hfaithful.begun _ hbegun
  rw [← Visit.route_view, h.shown] at hroute
  cases hroute
  obtain houtcome | ⟨error, houtcome⟩ := hyields.updated_or_failed
  · exact .inl houtcome
  · exact .inr ⟨_, error, houtcome⟩

section Result

variable {later : Chronicle} (hinFlight : later.console.inFlight = chronicle.console.inFlight)
  (hvisit : later.visit = chronicle.visit.add [] [.result delivery.outcome])

include hinFlight hvisit

theorem unanswered_result : later.unanswered rest = chronicle.unanswered rest := by
  simp only [unanswered, hinFlight, hvisit, Visit.add]

theorem result_of_not_answersSave (hfaithful : chronicle.Faithful (delivery :: rest))
    (hown : delivery.generation = chronicle.visit.generation)
    (h : chronicle.Settled (delivery :: rest))
    (hanswers : delivery.outcome.answersSave = false) : later.Settled rest := by
  have hcount : chronicle.unanswered (delivery :: rest) = later.unanswered rest := by
    rw [unanswered_cons hown, hanswers, unanswered_result hinFlight hvisit]
    rfl
  refine ⟨hcount ▸ h.le_one, fun hone => ?_, fun text htext => ?_⟩
  · obtain ⟨kind, id, record, since, hbefore⟩ := h.saving (hcount.trans hone)
    rw [hvisit]
    exact ⟨kind, id, record, _, saved_of_not_answersSave hfaithful hown hanswers hbefore⟩
  · rw [hvisit, Visit.view_add, View.replay_singleton, View.after,
      View.notice?_afterResult hanswers] at htext
    obtain ⟨hzero, kind, id, record, since, hbefore, hmem⟩ := h.noticed text htext
    rw [hvisit]
    exact ⟨hcount.symm.trans hzero, kind, id, record, _,
      saved_of_not_answersSave hfaithful hown hanswers hbefore, List.mem_append_left _ hmem⟩

theorem result_of_answersSave (hfaithful : chronicle.Faithful (delivery :: rest))
    (hown : delivery.generation = chronicle.visit.generation)
    (h : chronicle.Settled (delivery :: rest))
    (hanswers : delivery.outcome.answersSave = true) : later.Settled rest := by
  have hcount : chronicle.unanswered (delivery :: rest) = later.unanswered rest + 1 := by
    rw [unanswered_cons hown, hanswers, unanswered_result hinFlight hvisit]
    rfl
  have hle := h.le_one
  have hzero : later.unanswered rest = 0 := by omega
  obtain ⟨kind, id, record, since, hsaved⟩ := h.saving (by rw [hcount, hzero])
  obtain houtcome | ⟨action, error, houtcome⟩ :=
    updated_or_failed_of_answersSave hfaithful hown hanswers hsaved
  · have hafter : (View.detail kind id (some record) none).afterResult delivery.outcome =
        .detail kind id (some record) (some (View.updatedNotice kind)) := by
      rw [houtcome, View.afterResult_updated_detail, if_pos ⟨rfl, rfl⟩]
    have hresult := hsaved.result hafter
    rw [← hvisit] at hresult
    refine ⟨by omega, fun hone => by omega, fun text htext => ?_⟩
    rw [hresult.shown] at htext
    cases htext
    refine ⟨hzero, kind, id, record, _, hresult, ?_⟩
    rw [houtcome]
    exact List.mem_append_right _ List.mem_cons_self
  · refine of_zero hzero ?_
    rw [hvisit, Visit.view_add, View.replay_singleton, hsaved.shown, houtcome]
    rfl

end Result

theorem deliver (hfaithful : chronicle.Faithful (delivery :: rest))
    (h : chronicle.Settled (delivery :: rest)) : (chronicle.deliver delivery).Settled rest := by
  have hlater := hfaithful.deliver
  unfold Chronicle.deliver at hlater ⊢
  dsimp only at hlater ⊢
  split
  · next hown =>
    rw [if_pos hown] at hlater
    split
    · next hrejection =>
      rw [if_pos hrejection] at hlater
      exact entered hlater
    · next hkept =>
      obtain ⟨log, hdeliver⟩ :=
        Console.deliver_kept (hown.trans hfaithful.generation) (by simpa using hkept)
      cases hanswers : delivery.outcome.answersSave with
      | false =>
        exact result_of_not_answersSave (by rw [hdeliver]) rfl hfaithful hown h hanswers
      | true => exact result_of_answersSave (by rw [hdeliver]) rfl hfaithful hown h hanswers
  · next hstale =>
    rw [Console.deliver_stale fun heq => hstale (heq.trans hfaithful.generation.symm)]
    refine h.congr ?_
    simp [unanswered, Delivery.answers, hstale]

theorem unanswered_of_list (h : chronicle.Settled waiting) {kind : Kind}
    (hlist : chronicle.visit.view.listKind? = some kind) : chronicle.unanswered waiting = 0 := by
  by_contra hne
  have hle := h.le_one
  obtain ⟨shown, id, record, since, hsaved⟩ := h.saving (by omega)
  rw [hsaved.shown] at hlist
  cases hlist

theorem save (hfaithful : chronicle.Faithful chronicle.console.results)
    (hzero : chronicle.unanswered chronicle.console.results = 0) {kind : Kind} {id : String}
    {record : kind.Record} {notice : Option String}
    (hview : chronicle.console.view = .detail kind id (some record) notice) (view : View) :
    ({ chronicle with
        console := { chronicle.console.begin (.update kind id record) with view }
        visit := chronicle.visit.add [.update kind id record] [.save] } : Chronicle).Settled
      (chronicle.console.begin (.update kind id record)).results := by
  have hone := unanswered_begin hfaithful.generation (.update kind id record) view
    (chronicle.visit.add [.update kind id record] [.save]) rfl
  rw [hzero] at hone
  have hsaved : (chronicle.visit.add [.update kind id record] [.save]).Saved kind id record none
      [] := by
    refine ⟨List.getLast?_concat, ?_, ⟨chronicle.visit.changes, rfl⟩, ?_⟩
    · rw [Visit.view_add, ← hfaithful.view, hview]
      rfl
    · exact fun change hmem => absurd hmem List.not_mem_nil
  refine ⟨Nat.le_of_eq hone, fun _ => ⟨kind, id, record, [], hsaved⟩, fun text htext => ?_⟩
  dsimp only at htext
  rw [hsaved.shown] at htext
  cases htext

theorem act (hfaithful : chronicle.Faithful chronicle.console.results)
    (h : chronicle.Settled chronicle.console.results) {action : Console.Action}
    (hpoll : action ≠ .poll) (hwait : action ≠ .wait)
    (hpatient : action.disturbs = true →
      chronicle.unanswered chronicle.console.results = 0) :
    (chronicle.act action).Settled (chronicle.console.step action).results := by
  have hlater := hfaithful.act hpoll hwait
  have heffect := Console.step_effect hpoll hwait chronicle.console
  rw [act_console] at hlater
  unfold Chronicle.act at hlater ⊢
  dsimp only at hlater ⊢
  generalize chronicle.console.step action = later at hlater heffect ⊢
  cases hentered : chronicle.console.entered? action with
  | some entered =>
    rw [hentered] at hlater
    exact Settled.entered hlater
  | none =>
    dsimp only
    clear hlater
    cases heffect with
    | navigate | navigateTo | logout | forceLogin => cases hentered
    | signedIn storage log posts user token hposts hlogin =>
      simp [Console.entered?, hlogin] at hentered
    | nothing hentered hbegun hchanged =>
      rw [hbegun, hchanged, Visit.add_nil]
      exact h
    | loginFailed | outside =>
      simp only [Console.begun, Console.changed, Visit.add_nil]
      exact h.congr rfl
    | late hlate =>
      simp only [Console.begun, Console.changed, Visit.add_nil]
      refine h.congr ?_
      rw [← hfaithful.generation] at hlate
      simp [unanswered, Delivery.answers, Nat.ne_of_lt hlate]
    | @respond index pending reply log hpending =>
      simp only [Console.begun, Console.changed, Visit.add_nil]
      have hgeneration := (hfaithful.inFlight pending (List.mem_of_getElem? hpending)).1
      exact h.congr (unanswered_respond hpending hgeneration (Response.ofReply reply) rfl)
    | @delete kind id hkind =>
      have hlist : chronicle.visit.view.listKind? = some kind := hfaithful.view ▸ hkind
      simp only [Console.begun, Console.changed, hkind]
      refine of_zero ?_ ?_
      · have hbegin := unanswered_begin hfaithful.generation (.delete kind id)
          (chronicle.console.begin (.delete kind id)).view
          (chronicle.visit.add [.delete kind id] []) rfl
        exact hbegin.trans (h.unanswered_of_list hlist)
      · rw [Visit.view_add]
        exact View.notice?_of_listKind? hlist
    | @setField field value hedit =>
      have hchanged : chronicle.console.changed (.setField field value) ≠ [] := by
        simp [Console.changed, hedit]
      refine of_zero (hpatient rfl) ?_
      rw [Visit.view_add, ← hfaithful.view]
      exact Console.notice?_replay_changed hchanged
    | @save kind id record notice hview =>
      simp only [Console.begun, Console.changed, Console.save?, hview, Option.isSome_some, if_true]
      exact save hfaithful (hpatient rfl) hview _

theorem arrive (h : chronicle.Settled waiting) (deliveries : List Delivery) :
    (chronicle.arrive deliveries).Settled waiting where
  le_one := h.le_one
  saving hone := by
    obtain ⟨kind, id, record, since, hsaved⟩ := h.saving hone
    exact ⟨kind, id, record, since, hsaved.arrive deliveries⟩
  noticed text htext := by
    obtain ⟨hzero, kind, id, record, since, hsaved, hmem⟩ := h.noticed text htext
    exact ⟨hzero, kind, id, record, since, hsaved.arrive deliveries, hmem⟩

theorem step (hfaithful : chronicle.Faithful chronicle.console.results)
    (h : chronicle.Settled chronicle.console.results) {action : Console.Action}
    (hpatient : action.disturbs = true →
      chronicle.unanswered chronicle.console.results = 0) :
    (chronicle.step action).Settled (chronicle.step action).console.results :=
  step_keeps (fun _ _ _ h => h.congr rfl) (fun _ _ _ hfaithful h => h.deliver hfaithful)
    (fun hpoll hwait => h.act hfaithful hpoll hwait hpatient)
    (fun _ deliveries _ h => h.arrive deliveries) hfaithful h

theorem run (hfaithful : chronicle.Faithful chronicle.console.results)
    (h : chronicle.Settled chronicle.console.results) {actions : List Console.Action}
    (hpatient : chronicle.console.patient actions = true) :
    (chronicle.run actions).Settled (chronicle.run actions).console.results := by
  induction actions generalizing chronicle with
  | nil => exact h
  | cons action rest ih =>
    rw [Console.patient, Bool.and_eq_true, Bool.not_eq_true', Bool.and_eq_false_iff] at hpatient
    obtain ⟨hfirst, hrest⟩ := hpatient
    rw [← step_console] at hrest
    refine ih (hfaithful.step action) (h.step hfaithful fun hdisturbs => ?_) hrest
    rw [hdisturbs] at hfirst
    exact hfaithful.isSaving_eq_false_iff.mp (hfirst.resolve_left Bool.noConfusion)

end Settled

end Chronicle

namespace Console

/-- **A notice is about the record that is shown**, and no save is unanswered beside it, as long as
nothing is edited or saved while a save is unanswered. In any case it follows a confirmation, with
no edit and no save between. -/
theorem run_notice (address : String) (outside : Outside) (actions : List Action) :
    let chronicle := (Chronicle.start address outside).run actions
    let console := (start address outside).run actions
    chronicle.console = console ∧ console.view = chronicle.visit.view ∧
    ∀ kind id record text, console.view = .detail kind id record (some text) →
      text = View.updatedNotice kind ∧
      (∃ before since,
        chronicle.visit.changes = before ++ .result (.updated kind id) :: since ∧
        ∀ change ∈ since, change.disturbs = false) ∧
      ((start address outside).patient actions = true →
        console.isSaving = false ∧ ∃ shown, record = some shown ∧
          chronicle.visit.begun.getLast? = some (.update kind id shown) ∧
          (Task.update kind id shown).request = .put (kind.itemPath id) (Record.toJson shown) ∧
          ∃ before since, chronicle.visit.changes = before ++ .save :: since ∧
            .result (.updated kind id) ∈ since ∧
            ∀ change ∈ since, change.disturbs = false) := by
  intro chronicle console
  have hconsole : chronicle.console = console := Chronicle.run_console _ actions
  have hview : console.view = chronicle.visit.view := Chronicle.view_run address outside actions
  refine ⟨hconsole, hview, fun kind id record text hdetail => ?_⟩
  have hnotice : chronicle.visit.view.notice? = some text := by
    rw [← hview, hdetail]
    rfl
  have hroute : chronicle.visit.route = .detail kind id := by
    rw [← Visit.route_view, ← hview, hdetail]
    rfl
  have hconfirmed : chronicle.visit.Confirmed :=
    Visit.Confirmed.invariant.forall_visits_run address outside actions _
      chronicle.visit_mem_visits
  obtain ⟨kind', id', before, since, hroute', htext, hchanges, hsince⟩ := hconfirmed text hnotice
  rw [hroute] at hroute'
  cases hroute'
  refine ⟨htext, ⟨before, since, hchanges, hsince⟩, fun hpatient => ?_⟩
  have hsettled : chronicle.Settled chronicle.console.results :=
    (Chronicle.Settled.start address outside).run (Chronicle.Faithful.start address outside)
      hpatient
  obtain ⟨hzero, kind', id', shown, since, hsaved, hmem⟩ := hsettled.noticed text hnotice
  have hshown := hsaved.shown
  rw [← hview, hdetail] at hshown
  cases hshown
  obtain ⟨before, hchanges⟩ := hsaved.changes
  refine ⟨?_, shown, rfl, hsaved.begun, rfl, before, since, hchanges, hmem, hsaved.undisturbed⟩
  rw [← hconsole]
  exact (Chronicle.faithful_run address outside actions).isSaving_eq_false_iff.mpr hzero

/-! ### Runs of one save and of hasty ones -/

def openUser : List Action :=
  [.navigate "/users/u1",
    .respond 0 (.response 200 (Text.Utf8.encode "\x7b\"id\":\"u1\",\"name\":\"Al\"\x7d") true),
    .poll]

def confirmSave : List Action :=
  [.respond 0 (.response 204 [] true), .poll]

def saveOnce : List Action :=
  openUser ++ [.setField .name "Alice", .save] ++ confirmSave

theorem run_notice_saveOnce :
    let console := (start "http://identity" (.aliceStored .never)).run saveOnce
    (start "http://identity" (.aliceStored .never)).patient saveOnce = true ∧
    ∃ kind id shown,
      console.view = .detail kind id (some shown) (some "User updated successfully") ∧
      console.isSaving = false := by
  intro console
  have hnotice : console.view.notice? = some "User updated successfully" := by decide +kernel
  have hpatient : (start "http://identity" (.aliceStored .never)).patient saveOnce = true := by
    decide +kernel
  obtain ⟨kind, id, record, hview⟩ := View.eq_detail_of_notice? hnotice
  obtain ⟨-, -, hsaved⟩ := run_notice "http://identity" (.aliceStored .never) saveOnce
  obtain ⟨hsaving, shown, rfl, -⟩ := (hsaved kind id record _ hview).2.2 hpatient
  exact ⟨hpatient, kind, id, shown, hview, hsaving⟩

/-- The user is edited before the save is answered. -/
def editHastily : List Action :=
  openUser ++ [.save, .setField .name "Alice"] ++ confirmSave

/-- The user is edited and saved again, and only the first save has been answered. -/
def saveHastily : List Action :=
  openUser ++ [.save, .setField .name "Alice", .save] ++ confirmSave

/-- What a save would send of the record that is shown. -/
def shownJson? (console : Console) : Option Json :=
  match console.view with
  | .detail _ _ (some record) _ => some (Record.toJson record)
  | _ => none

/-- With an edit the notice stands beside a record that was never sent, and with a second save
beside a save in flight. -/
theorem run_notice_hasty :
    let edited := (start "http://identity" (.aliceStored .never)).run editHastily
    let saved := (start "http://identity" (.aliceStored .never)).run saveHastily
    edited.view.notice? = some "User updated successfully" ∧
    edited.shownJson?.isSome = true ∧ edited.shownJson? ∉ edited.outside.sent.map (·.body) ∧
    saved.view.notice? = some "User updated successfully" ∧
    saved.inFlight.map (·.sent.method) = [.put] := by
  decide +kernel

end Console

end IdentityConsole
