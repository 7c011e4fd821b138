import IdentityConsole.Proofs.Console.Loading

/-!
# Results fit the view they are for

The queue takes results of every kind, and only the generation says which view a result is for. It
is enough: what comes of a task has a place in the view in which the task was begun, and that view
is still the one shown when its result is delivered. So loaded data is never refused, and the log
never says that it was.
-/

namespace IdentityConsole

namespace View

/-- A view has a place for a result: rows or a record of its own kind, the deletion of one of its
rows, or the confirmation that the record it shows was saved. A failure changes no view. -/
inductive Fits : View → Outcome → Prop
  | rows {kind : Kind} {shown : Option (List kind.Record)} (records : List kind.Record) :
      Fits (.list kind shown) (.loaded (.rows kind records))
  | record {kind : Kind} {id : String} {shown : Option kind.Record} {notice : Option String}
      (record : kind.Record) :
      Fits (.detail kind id shown notice) (.loaded (.record kind record))
  | deleted {kind : Kind} {shown : Option (List kind.Record)} (id : String) :
      Fits (.list kind shown) (.deleted kind id)
  | updated {kind : Kind} {id : String} {shown : Option kind.Record} {notice : Option String} :
      Fits (.detail kind id shown notice) (.updated kind id)
  | failed {view : View} (action : String) (error : ApiError) : Fits view (.failed action error)

variable {view : View}

theorem eq_list_of_route_eq {kind : Kind} (h : view.route = .list kind) :
    ∃ shown, view = .list kind shown := by
  cases view with
  | list other shown =>
    cases h
    exact ⟨shown, rfl⟩
  | login returnTo | dashboard | detail other id shown notice => cases h

theorem eq_detail_of_route_eq {kind : Kind} {id : String} (h : view.route = .detail kind id) :
    ∃ shown notice, view = .detail kind id shown notice := by
  cases view with
  | detail other id shown notice =>
    cases h
    exact ⟨shown, notice, rfl⟩
  | login returnTo | dashboard | list other shown => cases h

/-- Data for which there is a place is all that the view then shows. -/
theorem Fits.install? {data : Loaded} (h : view.Fits (.loaded data)) :
    (∃ kind shown records, view = .list kind shown ∧ data = .rows kind records ∧
      view.install? data = some (.list kind (some records))) ∨
    ∃ kind id shown notice record, view = .detail kind id shown notice ∧
      data = .record kind record ∧
      view.install? data = some (.detail kind id (some record) notice) := by
  cases h with
  | @rows kind shown records =>
    exact .inl ⟨kind, shown, records, rfl, rfl, dif_pos rfl⟩
  | @record kind id shown notice record =>
    exact .inr ⟨kind, id, shown, notice, record, rfl, rfl, dif_pos rfl⟩

theorem Fits.listKind? {kind : Kind} {id : String} (h : view.Fits (.deleted kind id)) :
    view.listKind? = some kind := by
  cases h
  rfl

theorem Fits.markUpdated? {kind : Kind} {id : String} (h : view.Fits (.updated kind id)) :
    view.detail? = some (kind, id) ∧
      ∃ record, view.markUpdated? kind id =
        some (.detail kind id record (some (updatedNotice kind))) := by
  cases h with
  | @updated _ _ shown => exact ⟨rfl, shown, if_pos ⟨rfl, rfl⟩⟩

end View

/-- Whatever comes of a task has a place in the view of its route. -/
theorem Task.Yields.fits {task : Task} {outcome : Outcome} (h : task.Yields outcome) {view : View}
    (hroute : task.route = view.route) : view.Fits outcome := by
  rcases h.failed_or_result with ⟨error, rfl⟩ | ⟨response, hresult⟩
  · exact .failed _ error
  · cases task with
    | loadList kind =>
      obtain ⟨shown, rfl⟩ := View.eq_list_of_route_eq hroute.symm
      obtain ⟨page, -, ⟨⟩⟩ := bind_eq_ok.mp hresult
      exact .rows page.data
    | delete kind id =>
      obtain ⟨shown, rfl⟩ := View.eq_list_of_route_eq hroute.symm
      cases hresult
      exact .deleted id
    | loadRecord kind id =>
      obtain ⟨shown, notice, rfl⟩ := View.eq_detail_of_route_eq hroute.symm
      obtain ⟨record, -, ⟨⟩⟩ := bind_eq_ok.mp hresult
      exact .record record
    | update kind id record =>
      obtain ⟨shown, notice, rfl⟩ := View.eq_detail_of_route_eq hroute.symm
      cases hresult
      exact .updated

/-! ### Whether a mismatch is logged -/

def Event.isMismatch : Event → Bool
  | .dataMismatch _ => true
  | _ => false

namespace Outside

/-- The entries of the log that say that data was refused. -/
def mismatches (outside : Outside) : List Event :=
  outside.log.filter Event.isMismatch

theorem mismatches_note {event : Event} (h : event.isMismatch = false) (outside : Outside) :
    (outside.note event).mismatches = outside.mismatches := by
  simp [mismatches, note, h]

theorem mismatches_clear (key : String) (outside : Outside) :
    (outside.clear key).mismatches = outside.mismatches := by
  unfold clear
  split
  · rfl
  · exact mismatches_note rfl outside

end Outside

namespace Client

variable (client : Client) (outside : Outside)

theorem mismatches_send (request : Request) :
    (client.send request outside).2.mismatches = outside.mismatches := by
  have htoken : (storedToken outside).2.mismatches = outside.mismatches := by
    unfold storedToken
    split
    · rfl
    · exact Outside.mismatches_note rfl outside
  unfold send
  dsimp only
  split <;> exact htoken

theorem mismatches_receive (sent : Sent) (reply : Http.Reply) :
    (receive sent reply outside).2.mismatches = outside.mismatches := by
  unfold receive
  split
  · exact Outside.mismatches_note rfl outside
  · rfl

theorem mismatches_requestToken (username password : String) (reply : Http.Reply) :
    (client.requestToken username password reply outside).2.mismatches = outside.mismatches := by
  have hsend := client.mismatches_send outside (tokenRequest username password)
  change (client.execute (tokenRequest username password) reply outside).2.mismatches = _
  unfold execute
  generalize client.send (tokenRequest username password) outside = result at hsend
  obtain ⟨error | sent, later⟩ := result
  · exact hsend
  · exact (mismatches_receive later sent reply).trans hsend

end Client

namespace Session

theorem mismatches_restore (session : Session) (outside : Outside) :
    (session.restore outside).2.mismatches = outside.mismatches := by
  unfold restore
  split
  · rfl
  · exact Outside.mismatches_note rfl outside

theorem mismatches_persist (user : Identity) (token : String) (outside : Outside) :
    (persist user token outside).2.mismatches = outside.mismatches := by
  unfold persist
  split
  · rfl
  · dsimp only
    split
    · rfl
    · split
      · rfl
      · exact Outside.mismatches_note rfl _

theorem mismatches_login (client : Client) (username password : String) (reply : Http.Reply)
    (session : Session) (outside : Outside) :
    (session.login client username password reply outside).2.2.mismatches =
      outside.mismatches := by
  have hrequest := client.mismatches_requestToken outside username password reply
  unfold login
  split
  · rfl
  · generalize client.requestToken username password reply outside = result at hrequest
    obtain ⟨error | grant, later⟩ := result
    · exact hrequest
    · have hpersist :=
        mismatches_persist (grant.user.getD (.named username)) grant.accessToken later
      dsimp only
      generalize persist (grant.user.getD (.named username)) grant.accessToken later = stored
        at hpersist
      obtain ⟨error | done, last⟩ := stored
      · exact hpersist.trans hrequest
      · exact ((Outside.mismatches_note rfl last).trans hpersist).trans hrequest

theorem mismatches_logout (session : Session) (outside : Outside) :
    (session.logout outside).2.mismatches = outside.mismatches := by
  have hclear : ((outside.clear Storage.tokenKey).clear Storage.userKey).mismatches =
      outside.mismatches :=
    (Outside.mismatches_clear _ _).trans (Outside.mismatches_clear _ _)
  unfold logout
  dsimp only
  split
  · exact (Outside.mismatches_note rfl _).trans hclear
  · exact hclear

end Session

namespace Console

def mismatches (console : Console) : List Event :=
  console.outside.mismatches

theorem mismatches_note {event : Event} (h : event.isMismatch = false) (console : Console) :
    (console.note event).mismatches = console.mismatches :=
  Outside.mismatches_note h console.outside

theorem mismatches_begin (task : Task) (console : Console) :
    (console.begin task).mismatches = console.mismatches := by
  have hsend := console.client.mismatches_send console.outside task.request
  unfold begin
  generalize console.client.send task.request console.outside = result at hsend
  obtain ⟨error | sent, later⟩ := result
  · exact hsend
  · exact hsend

theorem mismatches_enter (route : Route) (returnTo : Option Route) (console : Console) :
    (console.enter route returnTo).mismatches = console.mismatches := by
  rcases enter_cases route returnTo console with h | ⟨task, -, h⟩
  · rw [h]
    rfl
  · rw [h, mismatches_begin]
    rfl

theorem mismatches_navigateTo (route : Route) (console : Console) :
    (console.navigateTo route).mismatches = console.mismatches := by
  unfold navigateTo
  split
  · exact mismatches_enter _ _ console
  · exact (mismatches_enter _ _ _).trans (mismatches_note rfl console)

theorem mismatches_signOut (console : Console) :
    console.signOut.mismatches = console.mismatches :=
  console.session.mismatches_logout console.outside

theorem mismatches_forceLogin (console : Console) :
    console.forceLogin.mismatches = console.mismatches := by
  unfold forceLogin
  rw [mismatches_enter, mismatches_signOut]
  exact mismatches_note rfl console

theorem mismatches_login (username password : String) (reply : Http.Reply) (console : Console) :
    (console.login username password reply).2.mismatches = console.mismatches := by
  have hlogin := console.session.mismatches_login console.client username password reply
    console.outside
  unfold login
  generalize console.session.login console.client username password reply console.outside = result
    at hlogin
  obtain ⟨error | user, session, later⟩ := result
  · exact hlogin
  · exact (mismatches_navigateTo _ _).trans hlogin

theorem mismatches_apply {outcome : Outcome} {console : Console}
    (h : console.view.Fits outcome) : (console.apply outcome).mismatches = console.mismatches := by
  cases outcome with
  | loaded data =>
    have hinstall : ∃ later, console.view.install? data = some later := by
      rcases h.install? with ⟨_, _, _, -, -, hinstall⟩ | ⟨_, _, _, _, _, -, -, hinstall⟩
      · exact ⟨_, hinstall⟩
      · exact ⟨_, hinstall⟩
    obtain ⟨later, hinstall⟩ := hinstall
    simp only [apply, hinstall]
    rfl
  | deleted kind id =>
    simp only [apply]
    split
    · exact mismatches_note rfl _
    · rfl
  | updated kind id => exact mismatches_note rfl _
  | failed action error =>
    cases error
    case unauthorized => exact mismatches_forceLogin console
    all_goals exact mismatches_note rfl _

/-- Only a delivery could be logged as a mismatch. -/
theorem mismatches_step {action : Action} (hpoll : action ≠ .poll) (hwait : action ≠ .wait)
    (console : Console) : (console.step action).mismatches = console.mismatches := by
  cases action with
  | navigate path => exact mismatches_navigateTo (.parse path) console
  | navigateTo route => exact mismatches_navigateTo route console
  | login username password reply => exact mismatches_login username password reply console
  | logout =>
    exact (mismatches_navigateTo .login console.signOut).trans (mismatches_signOut console)
  | forceLogin => exact mismatches_forceLogin console
  | delete id =>
    simp only [step, delete?]
    split
    · exact mismatches_begin _ console
    · rfl
  | setField field value =>
    simp only [step, setField?]
    cases console.view.setField? field value <;> rfl
  | save =>
    simp only [step, save?]
    split
    · exact mismatches_begin _ console
    · rfl
  | poll => exact absurd rfl hpoll
  | wait => exact absurd rfl hwait
  | respond index reply =>
    simp only [step, respond?]
    split
    · exact Client.mismatches_receive console.outside _ reply
    · rfl
  | late delivery =>
    simp only [step]
    split <;> rfl
  | outside storage network => rfl

end Console

namespace Chronicle

variable {chronicle : Chronicle} {waiting : List Delivery}

/-- A task of the visit under way was begun in the view that is shown now. -/
theorem Faithful.fits (h : chronicle.Faithful waiting) {task : Task} {outcome : Outcome}
    (hbegun : task ∈ chronicle.visit.begun) (hyields : task.Yields outcome) :
    chronicle.console.view.Fits outcome :=
  hyields.fits (by rw [h.begun task hbegun, h.view, Visit.route_view])

theorem Faithful.fits_delivery (h : chronicle.Faithful waiting) {delivery : Delivery}
    (hmem : delivery ∈ waiting)
    (hcurrent : delivery.generation = chronicle.console.scope.generation) :
    chronicle.console.view.Fits delivery.outcome := by
  obtain ⟨task, hbegun, hyields⟩ := (h.arrived delivery hmem).2 (hcurrent.trans h.generation.symm)
  exact h.fits hbegun hyields

theorem Faithful.mismatches_deliver {delivery : Delivery} {rest : List Delivery}
    (h : chronicle.Faithful (delivery :: rest)) :
    (chronicle.deliver delivery).console.mismatches = chronicle.console.mismatches := by
  rw [deliver_console]
  by_cases hcurrent : delivery.generation = chronicle.console.scope.generation
  · rw [Console.deliver_current hcurrent]
    exact Console.mismatches_apply (h.fits_delivery List.mem_cons_self hcurrent)
  · rw [Console.deliver_stale hcurrent]

theorem Faithful.mismatches_step (h : chronicle.Faithful chronicle.console.results)
    (action : Console.Action) :
    (chronicle.step action).console.mismatches = chronicle.console.mismatches := by
  have hdeliveries := step_deliveries
    (motive := fun later waiting => later.Faithful waiting ∧
      later.console.mismatches = chronicle.console.mismatches)
    (fun _ results _ h => ⟨h.1.queue results, h.2⟩)
    (fun _ _ _ h => ⟨h.1.deliver, h.1.mismatches_deliver.trans h.2⟩) ⟨h, rfl⟩
  cases action using Console.Action.delivery_cases with
  | poll => exact hdeliveries.1.2
  | wait => exact hdeliveries.2.2
  | other action hpoll hwait =>
    rw [step_console]
    exact Console.mismatches_step hpoll hwait chronicle.console

theorem Faithful.mismatches_run (h : chronicle.Faithful chronicle.console.results)
    (actions : List Console.Action) :
    (chronicle.run actions).console.mismatches = chronicle.console.mismatches := by
  induction actions generalizing chronicle with
  | nil => rfl
  | cons action rest ih => exact (ih (h.step action)).trans (h.mismatches_step action)

end Chronicle

namespace Console

/-- **Every result that waits for the view shown fits it**, and so will every result of a request in
flight, whatever the reply. Loaded data becomes what the view shows, a deletion is of the kind that
it lists, and a confirmation is of the record that it shows. In no run is loaded data refused. -/
theorem run_fitting (address : String) (outside : Outside) (actions : List Action) :
    let console := (start address outside).run actions
    (∀ delivery ∈ console.results, delivery.generation = console.scope.generation →
      console.view.Fits delivery.outcome ∧
      (∀ data, delivery.outcome = .loaded data →
        (∃ kind shown records, console.view = .list kind shown ∧ data = .rows kind records ∧
          console.view.install? data = some (.list kind (some records))) ∨
        ∃ kind id shown notice record, console.view = .detail kind id shown notice ∧
          data = .record kind record ∧
          console.view.install? data = some (.detail kind id (some record) notice)) ∧
      (∀ kind id, delivery.outcome = .deleted kind id → console.view.listKind? = some kind) ∧
      ∀ kind id, delivery.outcome = .updated kind id →
        console.view.detail? = some (kind, id) ∧
          ∃ record, console.view.markUpdated? kind id =
            some (.detail kind id record (some (View.updatedNotice kind)))) ∧
    (∀ pending ∈ console.inFlight, pending.generation = console.scope.generation ∧
      ∀ response, console.view.Fits (pending.task.outcome response)) ∧
    console.outside.mismatches = outside.mismatches := by
  intro console
  let chronicle := (Chronicle.start address outside).run actions
  have hfaithful : chronicle.Faithful chronicle.console.results :=
    Chronicle.faithful_run address outside actions
  have hconsole : chronicle.console = console := Chronicle.run_console _ actions
  have hlogged : chronicle.console.mismatches = outside.mismatches :=
    ((Chronicle.Faithful.start address outside).mismatches_run actions).trans
      (Session.initial.mismatches_restore outside)
  rw [← hconsole]
  refine ⟨fun delivery hmem hcurrent => ?_, fun pending hmem => ?_, ?_⟩
  · have hfits := hfaithful.fits_delivery hmem hcurrent
    refine ⟨hfits, fun data hdata => ?_, fun kind id hdeleted => ?_, fun kind id hupdated => ?_⟩
    · rw [hdata] at hfits
      exact hfits.install?
    · rw [hdeleted] at hfits
      exact hfits.listKind?
    · rw [hupdated] at hfits
      exact hfits.markUpdated?
  · obtain ⟨hgeneration, hbegun⟩ := hfaithful.inFlight pending hmem
    exact ⟨hgeneration.trans hfaithful.generation,
      fun response => hfaithful.fits hbegun ⟨response, rfl⟩⟩
  · exact hlogged

end Console

end IdentityConsole
