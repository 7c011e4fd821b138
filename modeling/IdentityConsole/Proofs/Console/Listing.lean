import IdentityConsole.Proofs.Console.Answered
import IdentityConsole.Proofs.Console.Commute
import IdentityConsole.Proofs.Console.Credential
import IdentityConsole.Proofs.Console.Guard

/-!
# The rows of a list view

A list is asked for once, when its view is entered. It shows the rows of the reply to that request,
in their order, without those whose deletion was confirmed since; nothing else that happens changes
them, and no result asks for anything.
-/

namespace IdentityConsole

/-- The record whose deletion a change confirms. -/
def Change.deleted? : Change → Option (Kind × String)
  | .result (.deleted kind id) => some (kind, id)
  | _ => none

/-- The rows that remain after several changes. -/
def remaining {kind : Kind} (changes : List Change) (rows : List kind.Record) :
    List kind.Record :=
  rows.filter fun row => (kind, Record.id row) ∉ changes.filterMap Change.deleted?

section Remaining

variable {kind : Kind}

theorem remaining_of_deleted?_eq_none {change : Change} (h : change.deleted? = none)
    (rows : List kind.Record) : remaining [change] rows = rows := by
  simp [remaining, h]

theorem remaining_deleted (other : Kind) (id : String) (rows : List kind.Record) :
    remaining [.result (.deleted other id)] rows =
      if kind = other then rows.filter (Record.id · ≠ id) else rows := by
  split
  · next h => simp [remaining, Change.deleted?, h]
  · next h => simp [remaining, Change.deleted?, h]

theorem remaining_cons (change : Change) (rest : List Change) (rows : List kind.Record) :
    remaining (change :: rest) rows = remaining rest (remaining [change] rows) := by
  rw [remaining, remaining, remaining, List.filter_filter]
  refine List.filter_congr fun row _ => ?_
  cases hdeleted : change.deleted? <;> simp [hdeleted, Bool.and_comm]

end Remaining

namespace View

variable {kind : Kind}

/-- But for a load, only a confirmed deletion changes the rows that are shown. -/
theorem after_list {change : Change} (h : change.isLoaded = false)
    (rows : Option (List kind.Record)) :
    (View.list kind rows).after change = .list kind (rows.map (remaining [change])) := by
  cases rows with
  | none =>
    cases change with
    | result outcome =>
      cases outcome with
      | loaded data => cases h
      | deleted other id | updated other id | failed action error => rfl
    | edit field value | save => rfl
  | some rows =>
    rw [Option.map_some]
    cases change with
    | result outcome =>
      cases outcome with
      | loaded data => cases h
      | deleted other id =>
        rw [remaining_deleted]
        exact afterResult_deleted_list ..
      | updated other id | failed action error =>
        rw [remaining_of_deleted?_eq_none rfl]
        rfl
    | edit field value | save =>
      rw [remaining_of_deleted?_eq_none rfl]
      rfl

theorem replay_list {changes : List Change} (h : ∀ change ∈ changes, change.isLoaded = false)
    (rows : Option (List kind.Record)) :
    (View.list kind rows).replay changes = .list kind (rows.map (remaining changes)) := by
  induction changes generalizing rows with
  | nil => cases rows <;> simp [replay, remaining]
  | cons change rest ih =>
    have hrows : (rows.map (remaining [change])).map (remaining rest) =
        rows.map (remaining (change :: rest)) := by
      rw [Option.map_map]
      congr 1
      funext shown
      exact (remaining_cons change rest shown).symm
    calc (View.list kind rows).replay (change :: rest)
        = ((View.list kind rows).after change).replay rest := rfl
      _ = (View.list kind (rows.map (remaining [change]))).replay rest := by
          rw [after_list (h change List.mem_cons_self)]
      _ = .list kind (rows.map (remaining (change :: rest))) := by
          rw [ih fun other hmem => h other (List.mem_cons_of_mem _ hmem), hrows]

end View

/-- The rows that a visit shows: none before they are loaded, and then those that the reply to its
own request holds, but for the ones deleted since. -/
inductive Visit.Lists (first : Console) (actions : List Console.Action) (visit : Visit)
    (kind : Kind) : Option (List kind.Record) → Prop
  | nothing (hnone : ∀ change ∈ visit.changes, change.isLoaded = false) :
      Lists first actions visit kind none
  | remaining {before after : List Change} {rows : List kind.Record} {reply : Http.Reply}
      (hanswered : first.Answered actions visit.generation (.loadList kind) reply)
      (hreply : reply.HoldsRows rows)
      (hchanges : visit.changes = before ++ .result (.loaded (.rows kind rows)) :: after)
      (hbefore : ∀ change ∈ before, change.isLoaded = false)
      (hafter : ∀ change ∈ after, change.isLoaded = false) :
      Lists first actions visit kind (some (rows.filter fun row =>
        (kind, Record.id row) ∉ after.filterMap Change.deleted?))

namespace Visit.Coherent

variable {visit : Visit} {kind : Kind}

theorem lists {first : Console} {actions : List Console.Action} (h : visit.Coherent)
    (htraced : visit.Traced first actions) (hroute : visit.route = .list kind) :
    ∃ rows, visit.view = .list kind rows ∧ visit.Lists first actions kind rows := by
  have hopened : View.ofRoute visit.route visit.returnTo = .list kind none := by
    rw [hroute]
    rfl
  obtain hnone | ⟨before, data, after, task, hchanges, hbefore, hafter, -, -⟩ :=
    h.loading_or_loaded
  · exact ⟨none, by rw [view, hopened, View.replay_list hnone]; rfl, .nothing hnone⟩
  · have hmem : .result (.loaded data) ∈ visit.changes := by simp [hchanges]
    obtain ⟨rows, reply, rfl, hanswered, hreply⟩ := h.answered_rows hroute (htraced _ hmem)
    refine ⟨_, ?_, .remaining hanswered hreply hchanges hbefore hafter⟩
    have hinstall : (View.list kind none).afterResult (.loaded (.rows kind rows)) =
        .list kind (some rows) := by
      simp [View.afterResult, View.install?]
    rw [view_of_changes hchanges, hopened, View.replay_list hbefore, Option.map_none, hinstall]
    exact View.replay_list hafter _

/-- In the view of a list one load is begun, the first task of all, and beside it deletions. -/
theorem begun_list (h : visit.Coherent) (hroute : visit.route = .list kind) :
    ∃ ids : List String, visit.begun = .loadList kind :: ids.map (.delete kind) := by
  obtain ⟨later, hbegun, hlater⟩ := h.begun
  rw [hroute] at hbegun hlater
  have hdeletes : ∀ {tasks : List Task}, (∀ task ∈ tasks,
      task.isLoad = false ∧ task.route = .list kind) →
      ∃ ids : List String, tasks = ids.map (.delete kind) := by
    intro tasks htasks
    induction tasks with
    | nil => exact ⟨[], rfl⟩
    | cons task rest ih =>
      obtain ⟨ids, hids⟩ := ih fun other hmem => htasks other (List.mem_cons_of_mem _ hmem)
      obtain ⟨hload, htask⟩ := htasks task List.mem_cons_self
      cases task with
      | loadList other | loadRecord other id => cases hload
      | delete other id =>
        cases htask
        exact ⟨id :: ids, by rw [hids, List.map_cons]⟩
      | update other id record => cases htask
  obtain ⟨ids, rfl⟩ := hdeletes hlater
  exact ⟨ids, hbegun⟩

/-- A deletion that is confirmed was asked for in the same view. -/
theorem begun_of_deleted (h : visit.Coherent) {id : String}
    (hmem : .result (.deleted kind id) ∈ visit.changes) : .delete kind id ∈ visit.begun := by
  obtain ⟨task, hbegun, hyields⟩ := h.applied _ hmem
  obtain ⟨error, ⟨⟩⟩ | ⟨response, hresult⟩ := hyields.failed_or_result
  cases task with
  | loadList other | loadRecord other otherId =>
    obtain ⟨_, -, ⟨⟩⟩ := bind_eq_ok.mp hresult
  | delete other otherId =>
    cases hresult
    exact hbegun
  | update other otherId record => cases hresult

end Visit.Coherent

namespace Console

/-! ### What is asked for -/

/-- Nothing is asked for: at most what was in flight is given up, and results are taken. -/
structure Quiet (console later : Console) : Prop where
  sent : later.outside.sent = console.outside.sent
  inFlight : later.inFlight = console.inFlight ∨ later.inFlight = []
  results : later.results <:+ console.results

namespace Quiet

variable {console later last : Console}

theorem refl (console : Console) : console.Quiet console :=
  ⟨rfl, .inl rfl, List.suffix_rfl⟩

theorem trans (h : console.Quiet later) (h' : later.Quiet last) : console.Quiet last where
  sent := h'.sent.trans h.sent
  inFlight := by
    rcases h'.inFlight with hlast | hlast
    · rw [hlast]
      exact h.inFlight
    · exact .inr hlast
  results := h'.results.trans h.results

end Quiet

theorem quiet_deliver (delivery : Delivery) (console : Console) :
    console.Quiet (console.deliver delivery).2 := by
  refine ⟨deliver_sent delivery console, ?_,
    deliver_results delivery console ▸ List.suffix_rfl⟩
  rcases deliver_cases delivery console with
    ⟨log, -, -, hdeliver⟩ | ⟨log, -, -, hdeliver⟩ | ⟨-, hdeliver⟩
  · rw [hdeliver]
    exact .inr rfl
  · rw [hdeliver]
    exact .inl rfl
  · rw [hdeliver]
    exact .inl rfl

theorem quiet_poll (console : Console) : console.Quiet console.poll.2 := by
  rw [poll_snd]
  have hempty : console.Quiet { console with results := [] } :=
    ⟨rfl, .inl rfl, List.nil_suffix⟩
  exact deliverEach_induction (motive := console.Quiet)
    (fun later delivery h => h.trans (quiet_deliver delivery later)) hempty console.results

theorem quiet_wait (console : Console) : console.Quiet (console.step .wait) := by
  cases hresults : console.results with
  | nil =>
    rw [step_wait_nil hresults]
    exact .refl console
  | cons delivery rest =>
    rw [step_wait_cons hresults]
    have hrest : console.Quiet { console with results := rest } :=
      ⟨rfl, .inl rfl, hresults ▸ List.suffix_cons delivery rest⟩
    exact hrest.trans (quiet_deliver delivery _)

theorem AsksForToken.method {console : Console} {username password : String} {sent : Sent}
    (h : console.AsksForToken username password sent) : sent.method = .post := by
  obtain ⟨token, hprepare⟩ := h
  exact (Client.of_prepare hprepare).2.1

theorem Requests.sent_append {console later : Console} {task : Task}
    (h : console.Requests later task) :
    ∃ requests, later.outside.sent = console.outside.sent ++ requests ∧
      ∀ sent ∈ requests, sent.method = task.request.method := by
  cases h with
  | sent hsend hleaves hreaches hsent =>
    refine ⟨_, hsent, fun sent hmem => ?_⟩
    rw [List.mem_singleton.mp hmem]
    exact hleaves.method
  | failed hsend hreaches hsent =>
    exact ⟨[], by rw [hsent, List.append_nil], fun sent hmem => absurd hmem List.not_mem_nil⟩

/-- Where no view is entered nothing is loaded: what is sent is no `GET`. -/
theorem Effect.sent_of_stayed {console later : Console} {action : Action}
    (h : console.Effect action later) (hentered : console.entered? action = none) :
    ∃ requests, later.outside.sent = console.outside.sent ++ requests ∧
      ∀ sent ∈ requests, sent.method ≠ .get := by
  have hnone : later.outside.sent = console.outside.sent →
      ∃ requests, later.outside.sent = console.outside.sent ++ requests ∧
        ∀ sent ∈ requests, sent.method ≠ .get := fun hsent =>
    ⟨[], by rw [hsent, List.append_nil], fun sent hmem => absurd hmem List.not_mem_nil⟩
  have hbegin : ∀ {task : Task}, task.isLoad = false →
      ∃ requests, (console.begin task).outside.sent = console.outside.sent ++ requests ∧
        ∀ sent ∈ requests, sent.method ≠ .get := by
    intro task hload
    obtain ⟨requests, hsent, hmethod⟩ := (requests_begin task console).sent_append
    refine ⟨requests, hsent, fun sent hmem => ?_⟩
    rw [hmethod sent hmem]
    cases task with
    | loadList kind | loadRecord kind id => cases hload
    | delete kind id | update kind id record => exact Method.noConfusion
  cases h with
  | nothing | setField | respond | late | outside => exact hnone rfl
  | navigate | navigateTo | logout | forceLogin => cases hentered
  | signedIn storage log posts user token hposts hlogin => simp [entered?, hlogin] at hentered
  | loginFailed storage log posts error hposts hlogin =>
    refine ⟨posts, rfl, fun sent hmem => ?_⟩
    rw [(hposts sent hmem).method]
    exact Method.noConfusion
  | delete id hkind => exact hbegin rfl
  | save hview => exact hbegin rfl

theorem step_sent_of_stayed {console : Console} {action : Action}
    (hentered : console.entered? action = none) :
    ∃ requests, (console.step action).outside.sent = console.outside.sent ++ requests ∧
      ∀ sent ∈ requests, sent.method ≠ .get := by
  cases action using Action.delivery_cases with
  | poll =>
    exact ⟨[], by rw [List.append_nil]; exact (quiet_poll console).sent,
      fun sent hmem => absurd hmem List.not_mem_nil⟩
  | wait =>
    exact ⟨[], by rw [List.append_nil, (quiet_wait console).sent],
      fun sent hmem => absurd hmem List.not_mem_nil⟩
  | other action hpoll hwait => exact (step_effect hpoll hwait console).sent_of_stayed hentered

/-- A list that is entered is asked for, after at most the requests of a login. -/
theorem requests_entered_list {console : Console} {action : Action} {kind : Kind}
    {returnTo : Option Route} (hentered : console.entered? action = some (.list kind, returnTo)) :
    ∃ posts, (∀ sent ∈ posts, sent.method = .post) ∧
      console.Asks posts (some (.loadList kind)) (console.step action) := by
  have hstarted : .loadList kind ∈ console.started action := by
    simp [started, hentered, Task.ofRoute?]
  obtain ⟨before, hbegins⟩ := begins_of_started hstarted
  obtain ⟨posts, hsent, hposts⟩ := hbegins.posts
  have hrequests : before.Requests (console.step action) (.loadList kind) := by
    rw [hbegins.begun]
    exact (requests_begin (.loadList kind) before).congr rfl rfl rfl
  refine ⟨posts, fun sent hmem => ?_, ?_⟩
  · obtain ⟨username, password, hasks⟩ := hposts sent hmem
    exact hasks.method
  · exact .task hbegins.client hbegins.network hbegins.storage hbegins.generation hsent
      hbegins.inFlight hbegins.results hrequests

/-! ### What changes nothing -/

/-- A failure that is no rejection, or the deletion of what is not in a list. -/
inductive Futile {kind : Kind} (rows : Option (List kind.Record)) : Outcome → Prop
  | failed {action : String} {error : ApiError} (h : error ≠ .unauthorized) :
      Futile rows (.failed action error)
  | absent {other : Kind} {id : String}
      (h : ∀ shown, rows = some shown → ∀ row ∈ shown, (kind, Record.id row) ≠ (other, id)) :
      Futile rows (.deleted other id)

theorem Futile.deliver {console : Console} {kind : Kind} {rows : Option (List kind.Record)}
    {delivery : Delivery} (h : Futile rows delivery.outcome)
    (hview : console.view = .list kind rows) :
    ∃ log, (console.deliver delivery).2 =
      { console with outside := { console.outside with log } } := by
  have hkept : delivery.outcome.isRejection = false ∧
      console.view.afterResult delivery.outcome = console.view := by
    generalize delivery.outcome = outcome at h
    cases h with
    | @failed action error herror =>
      refine ⟨?_, rfl⟩
      cases error <;> first | rfl | exact absurd rfl herror
    | @absent other id habsent =>
      refine ⟨rfl, ?_⟩
      rw [hview]
      cases rows with
      | none => rfl
      | some rows =>
        rw [View.afterResult_deleted_list]
        split
        · next hkind =>
          have hrows : rows.filter (Record.id · ≠ id) = rows := by
            rw [List.filter_eq_self]
            intro row hmem
            have hne := habsent rows rfl row hmem
            simpa [hkind] using hne
          rw [hrows]
        · rfl
  rcases deliver_cases delivery console with
    ⟨log, -, hrejected, -⟩ | ⟨log, -, -, hdeliver⟩ | ⟨-, hdeliver⟩
  · rw [hkept.1] at hrejected
    cases hrejected
  · exact ⟨log, by rw [hdeliver, hkept.2]⟩
  · exact ⟨console.outside.log, by rw [hdeliver]⟩

/-- **A list view shows the rows of the reply it asked for, without what was deleted since**, and is
asked for once. -/
theorem run_list (address : String) (outside : Outside) (actions : List Action) :
    let chronicle := (Chronicle.start address outside).run actions
    let console := (start address outside).run actions
    chronicle.console = console ∧ console.view = chronicle.visit.view ∧
    (∀ visit ∈ chronicle.visits, ∀ kind, visit.route = .list kind →
      (∃ ids : List String, visit.begun = .loadList kind :: ids.map (.delete kind)) ∧
      (∀ other id, .result (.deleted other id) ∈ visit.changes →
        .delete other id ∈ visit.begun) ∧
      ∃ rows, visit.view = .list kind rows ∧
        visit.Lists (start address outside) actions kind rows) ∧
    (∀ action kind returnTo, console.entered? action = some (.list kind, returnTo) →
      ∃ posts, (∀ sent ∈ posts, sent.method = .post) ∧
        console.Asks posts (some (.loadList kind)) (console.step action)) ∧
    (∀ kind, (Task.loadList kind).request = .get kind.collectionPath) ∧
    (∀ action, console.entered? action = none →
      ∃ requests, (console.step action).outside.sent = console.outside.sent ++ requests ∧
        ∀ sent ∈ requests, sent.method ≠ .get) ∧
    (∀ delivery, console.Quiet (console.deliver delivery).2) ∧
    console.Quiet (console.step .poll) ∧ console.Quiet (console.step .wait) ∧
    (∀ kind rows, console.view = .list kind rows → ∀ delivery, Futile rows delivery.outcome →
      ∃ log, (console.deliver delivery).2 =
        { console with outside := { console.outside with log } }) := by
  intro chronicle console
  have hconsole : chronicle.console = console := Chronicle.run_console _ actions
  have hcoherent : ∀ visit ∈ chronicle.visits, visit.Coherent :=
    Chronicle.coherent_run address outside actions
  have htraced := Chronicle.traced_run address outside actions
  refine ⟨hconsole, Chronicle.view_run address outside actions, fun visit hmem kind hroute => ?_,
    fun action kind returnTo => requests_entered_list, fun _ => rfl,
    fun action => step_sent_of_stayed,
    fun delivery => quiet_deliver delivery console, quiet_poll console, quiet_wait console,
    fun kind rows hview delivery hfutile => hfutile.deliver hview⟩
  have hvisit := hcoherent visit hmem
  exact ⟨hvisit.begun_list hroute, fun other id => hvisit.begun_of_deleted,
    hvisit.lists (htraced.applied visit hmem) hroute⟩

end Console

end IdentityConsole
