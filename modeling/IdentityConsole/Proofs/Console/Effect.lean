import IdentityConsole.Proofs.Console.Run

/-!
# What an action comes to

Apart from the deliveries, an action enters a view, begins a task, changes what is shown, or adds to
the queue. This file lists the cases once, with all that is known of the console afterwards; the
invariants of runs go through the list and never open a step.
-/

namespace IdentityConsole.Console

/-- The view an action enters, with its way back. Results are not looked at here. -/
def entered? (console : Console) : Action → Option (Route × Option Route)
  | .navigate path => some (console.destination (.parse path))
  | .navigateTo route => some (console.destination route)
  | .login username password reply =>
    match (console.login username password reply).1 with
    | .ok _ => some (console.view.returnTo?.getD .dashboard, none)
    | .error _ => none
  | .logout | .forceLogin => some (.login, none)
  | _ => none

def begun (console : Console) : Action → List Task
  | .delete id =>
    match console.view.listKind? with
    | some kind => [.delete kind id]
    | none => []
  | .save =>
    match console.view with
    | .detail kind id (some record) _ => [.update kind id record]
    | _ => []
  | _ => []

/-- The edits and saves that take place. -/
def changed (console : Console) : Action → List Change
  | .setField field value =>
    if (console.setField? field value).isSome then [.edit field value] else []
  | .save => if console.save?.isSome then [.save] else []
  | _ => []

theorem begun_save_eq_nil {console : Console} (h : console.save? = none) :
    console.begun .save = [] := by
  unfold save? at h
  split at h
  · cases h
  · next hview => simp only [begun]

theorem changed_outcome? (console : Console) (action : Action) :
    (console.changed action).filterMap Change.outcome? = [] := by
  cases action <;> simp only [changed, List.filterMap_nil]
  all_goals
    split
    · rfl
    · rfl

inductive Effect (console : Console) : Action → Console → Prop
  | nothing {action : Action} (hentered : console.entered? action = none)
      (hbegun : console.begun action = []) (hchanged : console.changed action = []) :
      Effect console action console
  | navigate (path : String) (log : List Event) :
      Effect console (.navigate path)
        ({ console with outside := { console.outside with log } }.enter
          (console.destination (.parse path)).1 (console.destination (.parse path)).2)
  | navigateTo (route : Route) (log : List Event) :
      Effect console (.navigateTo route)
        ({ console with outside := { console.outside with log } }.enter
          (console.destination route).1 (console.destination route).2)
  | loginFailed {username password : String} {reply : Http.Reply} (storage : Storage)
      (log : List Event) (posts : List Sent) (error : LoginError)
      (hposts : ∀ sent ∈ posts, console.AsksForToken username password sent)
      (hlogin : (console.login username password reply).1 = .error error) :
      Effect console (.login username password reply)
        { console with
          outside := { console.outside with storage, log, sent := console.outside.sent ++ posts } }
  | signedIn {username password : String} {reply : Http.Reply} (storage : Storage)
      (log : List Event) (posts : List Sent) (user : Identity) (token : String)
      (hposts : ∀ sent ∈ posts, console.AsksForToken username password sent)
      (hlogin : (console.login username password reply).1 = .ok user) :
      Effect console (.login username password reply)
        ({ console with
          session := console.session.announce (.signedIn user token)
          outside := { console.outside with storage, log, sent := console.outside.sent ++ posts }
          }.enter (console.view.returnTo?.getD .dashboard) none)
  | logout (log : List Event) : Effect console .logout (console.signedOut log)
  | forceLogin (log : List Event) :
      Effect console .forceLogin
        { console.signedOut log with loginRedirects := console.loginRedirects + 1 }
  | delete {kind : Kind} (id : String) (hkind : console.view.listKind? = some kind) :
      Effect console (.delete id) (console.begin (.delete kind id))
  | setField {field : Field} {value : String}
      (hedit : (console.setField? field value).isSome = true) :
      Effect console (.setField field value)
        { console with view := console.view.after (.edit field value) }
  | save {kind : Kind} {id : String} {record : kind.Record} {notice : Option String}
      (hview : console.view = .detail kind id (some record) notice) :
      Effect console .save
        { console.begin (.update kind id record) with view := console.view.after .save }
  | respond {index : Nat} {pending : Pending} (reply : Http.Reply) (log : List Event)
      (hpending : console.inFlight[index]? = some pending) :
      Effect console (.respond index reply)
        { console with
          outside := { console.outside with log }
          inFlight := console.inFlight.eraseIdx index
          results := console.results ++
            [⟨pending.generation, pending.task.outcome (Response.ofReply reply)⟩] }
  | late {delivery : Delivery} (hlate : delivery.generation < console.scope.generation) :
      Effect console (.late delivery)
        { console with results := console.results ++ [delivery] }
  | outside (storage : Storage) (network : Http.Network) :
      Effect console (.outside storage network)
        { console with outside := { console.outside with storage, network } }

theorem step_effect {action : Action} (hpoll : action ≠ .poll) (hwait : action ≠ .wait)
    (console : Console) : console.Effect action (console.step action) := by
  cases action with
  | navigate path =>
    obtain ⟨log, h⟩ := navigateTo_eq (.parse path) console
    simp only [step, Console.navigate, h]
    exact .navigate path log
  | navigateTo route =>
    obtain ⟨log, h⟩ := navigateTo_eq route console
    simp only [step, h]
    exact .navigateTo route log
  | login username password reply =>
    obtain ⟨storage, log, posts, hposts, ⟨error, hlogin⟩ | ⟨user, token, hlogin⟩⟩ :=
      login_cases username password reply console
    · simp only [step, hlogin]
      exact .loginFailed storage log posts error hposts (by rw [hlogin])
    · obtain ⟨log', hnavigate⟩ := navigateTo_eq (console.view.returnTo?.getD .dashboard)
        { console with
          session := console.session.announce (.signedIn user token)
          outside := { console.outside with
            storage, log, sent := console.outside.sent ++ posts } }
      rw [destination_signedIn (by rfl)] at hnavigate
      simp only [step, hlogin]
      rw [hnavigate]
      exact .signedIn storage log' posts user token hposts (by rw [hlogin])
  | logout =>
    obtain ⟨log, h⟩ := logout_eq console
    simp only [step, h]
    exact .logout log
  | forceLogin =>
    obtain ⟨log, h⟩ := forceLogin_eq console
    simp only [step, h]
    exact .forceLogin log
  | delete id =>
    simp only [step, delete?]
    cases hkind : console.view.listKind? with
    | none => exact .nothing rfl (by simp [begun, hkind]) rfl
    | some kind => exact .delete id hkind
  | setField field value =>
    cases hedit : console.setField? field value with
    | none =>
      simp only [step, hedit]
      exact .nothing rfl rfl (by simp [changed, hedit])
    | some later =>
      simp only [step, hedit, setField?_eq hedit]
      exact .setField (by simp [hedit])
  | save =>
    cases hsave : console.save? with
    | none =>
      simp only [step, hsave]
      exact .nothing rfl (begun_save_eq_nil hsave) (by simp [changed, hsave])
    | some later =>
      obtain ⟨kind, id, record, notice, hview, rfl⟩ := save?_eq hsave
      simp only [step, hsave]
      exact .save hview
  | poll => exact absurd rfl hpoll
  | wait => exact absurd rfl hwait
  | respond index reply =>
    cases hrespond : console.respond? index reply with
    | none =>
      simp only [step, hrespond]
      exact .nothing rfl rfl rfl
    | some later =>
      obtain ⟨pending, log, hpending, rfl⟩ := respond?_eq hrespond
      simp only [step, hrespond]
      exact .respond reply log hpending
  | late delivery =>
    simp only [step]
    split
    · next hlate => exact .late hlate
    · exact .nothing rfl rfl rfl
  | outside storage network => exact .outside storage network

namespace Effect

variable {console later : Console} {action : Action}

/-- Only by delivering does the queue lose a result. -/
theorem results (h : console.Effect action later) :
    ∃ arrived, later.results = console.results ++ arrived := by
  have hsame : ∃ arrived, console.results = console.results ++ arrived := ⟨[], by simp⟩
  cases h with
  | navigate path log | navigateTo route log | signedIn => exact enter_results _ _ _
  | delete id hkind => exact begin_results _ console
  | save hview => exact begin_results _ console
  | respond reply log hpending => exact ⟨_, rfl⟩
  | late hlate => exact ⟨_, rfl⟩
  | nothing | loginFailed | logout | forceLogin | setField | outside => exact hsame

end Effect

end IdentityConsole.Console
