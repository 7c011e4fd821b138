import IdentityConsole.Proofs.Console.Parallel

/-!
# Nothing is left of a session

When a session has ended, and both its entries could be removed, the console does not show any more
who was signed in, what was looked at or edited, or what is still on its way. Whatever is done then,
it shows, answers, stores and sends the same as after any other session.
-/

namespace IdentityConsole.Console

open Storage (tokenKey userKey sessionKeys)

/-! ### What can be seen -/

/-- What an operation tells its caller. -/
inductive Answer
  | done
  | login (result : Except LoginError Identity)
  | accepted (accepted : Bool)
  | applied (count : Nat)
  | next (delivered : Option Bool)

def answer (console : Console) : Action → Answer
  | .login username password reply => .login (console.login username password reply).1
  | .delete id => .accepted (console.delete? id).isSome
  | .setField field value => .accepted (console.setField? field value).isSome
  | .save => .accepted console.save?.isSome
  | .respond index reply => .accepted (console.respond? index reply).isSome
  | .poll => .applied console.poll.1
  | .wait => .next (console.next?.map Prod.fst)
  | .navigate _ | .navigateTo _ | .logout | .forceLogin | .late _ | .outside .. => .done

/-- What is shown, who is signed in, and what is stored of the session, whether or not it can be
read. -/
structure Appearance where
  route : Route
  view : View
  state : SessionState
  token : Except StorageError (Option String)
  user : Except StorageError (Option String)

def appearance (console : Console) : Appearance where
  route := console.route
  view := console.view
  state := console.session.state
  token := console.outside.storage.store.get tokenKey
  user := console.outside.storage.store.get userKey

structure Sight where
  answer : Answer
  appearance : Appearance
  requests : List Sent

def sight (console : Console) (action : Action) : Sight where
  answer := console.answer action
  appearance := (console.step action).appearance
  requests := (console.step action).outside.sent.drop console.outside.sent.length

def Action.isLate : Action → Bool
  | .late _ => true
  | _ => false

/-- All that is seen of a run. That a result turns up late is not seen. -/
def trace (console : Console) : List Action → List Sight
  | [] => []
  | action :: rest =>
    if action.isLate then (console.step action).trace rest
    else console.sight action :: (console.step action).trace rest

/-! ### Polling -/

/-- Applies the results of the view shown, up to one that ends the session. -/
def applyAll (applied : Nat) (console : Console) : List Outcome → Nat × Console
  | [] => (applied, console)
  | outcome :: rest =>
    if outcome.isRejection then (applied + 1, console.forceLogin)
    else applyAll (applied + 1) (console.apply outcome) rest

theorem deliverAll_stale {console : Console} {deliveries : List Delivery}
    (h : ∀ delivery ∈ deliveries, delivery.generation ≠ console.scope.generation) (applied : Nat) :
    deliverAll applied console deliveries = (applied, console) := by
  induction deliveries with
  | nil => rfl
  | cons delivery rest ih =>
    rw [deliverAll, deliver_stale (h delivery List.mem_cons_self)]
    exact ih fun other hmem => h other (List.mem_cons_of_mem _ hmem)

theorem forceLogin_generation (console : Console) :
    console.forceLogin.scope.generation = console.scope.generation + 1 := by
  obtain ⟨log, hforced⟩ := forceLogin_eq console
  rw [hforced]
  rfl

/-- Of the results that wait only those of the view shown count. -/
theorem deliverAll_eq {console : Console} {deliveries : List Delivery}
    (hle : ∀ delivery ∈ deliveries, delivery.generation ≤ console.scope.generation)
    (applied : Nat) :
    deliverAll applied console deliveries =
      console.applyAll applied (outcomesOf console.scope.generation deliveries) := by
  induction deliveries generalizing console applied with
  | nil => rfl
  | cons delivery rest ih =>
    have hrest : ∀ other ∈ rest, other.generation ≤ console.scope.generation :=
      fun other hmem => hle other (List.mem_cons_of_mem _ hmem)
    by_cases hcurrent : delivery.generation = console.scope.generation
    · have hfirst : outcomesOf console.scope.generation (delivery :: rest) =
          delivery.outcome :: outcomesOf console.scope.generation rest := by
        simp [outcomesOf, hcurrent]
      rw [deliverAll, deliver_current hcurrent, hfirst, applyAll]
      dsimp only
      rw [if_pos rfl]
      cases hrejection : delivery.outcome.isRejection with
      | true =>
        -- The rejection enters another view, for which nothing waits yet.
        rw [if_pos rfl, apply_rejection hrejection]
        refine deliverAll_stale (fun other hmem => ?_) _
        rw [forceLogin_generation]
        exact Nat.ne_of_lt (Nat.lt_succ_of_le (hrest other hmem))
      | false =>
        obtain ⟨log, happly⟩ := apply_eq hrejection console
        have hscope : (console.apply delivery.outcome).scope = console.scope := by rw [happly]
        rw [if_neg Bool.false_ne_true, ← hscope]
        refine ih ?_ _
        rw [hscope]
        exact hrest
    · have hsame : outcomesOf console.scope.generation (delivery :: rest) =
          outcomesOf console.scope.generation rest := by
        simp [outcomesOf, hcurrent]
      rw [deliverAll, deliver_stale hcurrent, hsame]
      exact ih hrest applied

theorem Timely.poll_eq {console : Console} (h : console.Timely) :
    console.poll = applyAll 0 { console with results := [] } console.awaited := by
  refine deliverAll_eq ?_ 0
  exact h.results

theorem applyAll_rejected (console : Console) {outcomes : List Outcome}
    (h : ∃ outcome ∈ outcomes, outcome.isRejection = true) (applied : Nat) :
    ∃ view log, (console.applyAll applied outcomes).2 =
      { console with view, outside := { console.outside with log } }.forceLogin := by
  induction outcomes generalizing console applied with
  | nil =>
    obtain ⟨outcome, hmem, -⟩ := h
    cases hmem
  | cons outcome rest ih =>
    rw [applyAll]
    cases hrejection : outcome.isRejection with
    | true => exact ⟨console.view, console.outside.log, rfl⟩
    | false =>
      rw [if_neg Bool.false_ne_true]
      have hrest : ∃ other ∈ rest, other.isRejection = true := by
        obtain ⟨other, hmem, hother⟩ := h
        rcases List.mem_cons.mp hmem with rfl | hmem
        · rw [hrejection] at hother
          cases hother
        · exact ⟨other, hmem, hother⟩
      -- What is applied before the rejection only changes the view and the log.
      obtain ⟨log, happly⟩ := apply_eq hrejection console
      obtain ⟨view, log', hrejected⟩ := ih (console.apply outcome) hrest (applied + 1)
      rw [hrejected, happly]
      exact ⟨view, log', rfl⟩

/-! ### The same actions on both sides -/

/-- The same actions twice. Results of views that were left may turn up on one side only, and what
is stored from outside need only look alike to a session. The next result that waits is not asked
for: that would tell whether one of a view that was left comes first. -/
inductive Repeats : List Action → List Action → Prop
  | nil : Repeats [] []
  | same {action : Action} {rest rest' : List Action} (hwait : action ≠ .wait)
      (hrest : Repeats rest rest') : Repeats (action :: rest) (action :: rest')
  | outside {storage storage' : Storage} {rest rest' : List Action}
      (hstorage : storage.Alike storage') (network : Http.Network) (hrest : Repeats rest rest') :
      Repeats (.outside storage network :: rest) (.outside storage' network :: rest')
  | late {rest rest' : List Action} (delivery : Delivery) (hrest : Repeats rest rest') :
      Repeats (.late delivery :: rest) rest'
  | otherLate {rest rest' : List Action} (delivery : Delivery) (hrest : Repeats rest rest') :
      Repeats rest (.late delivery :: rest')

namespace Parallel

variable {before before' : List Sent} {console other : Console}

theorem appearance (h : Parallel before before' console other) :
    console.appearance = other.appearance := by
  unfold Console.appearance
  rw [h.route, h.view, h.state, h.storage.store.get _ Storage.tokenKey_mem,
    h.storage.store.get _ Storage.userKey_mem]

theorem applyAll (h : Parallel before before' console other) (hempty : console.results = [])
    (hempty' : other.results = []) (applied : Nat) (outcomes : List Outcome) :
    (console.applyAll applied outcomes).1 = (other.applyAll applied outcomes).1 ∧
    Parallel before before' (console.applyAll applied outcomes).2
      (other.applyAll applied outcomes).2 := by
  induction outcomes generalizing console other applied with
  | nil => exact ⟨rfl, h⟩
  | cons outcome rest ih =>
    rw [Console.applyAll, Console.applyAll]
    cases hrejection : outcome.isRejection with
    | true =>
      refine ⟨rfl, h.forceLogin ?_ ?_⟩
      · simp [hempty]
      · simp [hempty']
    | false =>
      obtain ⟨log, happly⟩ := apply_eq hrejection console
      obtain ⟨log', happly'⟩ := apply_eq hrejection other
      have happlied : Parallel before before' (console.apply outcome) (other.apply outcome) := by
        rw [happly, happly']
        exact { h with view := congrArg (·.afterResult outcome) h.view }
      refine ih happlied ?_ ?_ _
      · rw [happly]
        exact hempty
      · rw [happly']
        exact hempty'

theorem poll (h : Parallel before before' console other) (htimely : console.Timely)
    (htimely' : other.Timely) :
    console.poll.1 = other.poll.1 ∧ Parallel before before' console.poll.2 other.poll.2 := by
  have hempty : Parallel before before' { console with results := [] }
      { other with results := [] } := { h with awaited := rfl }
  rw [htimely.poll_eq, htimely'.poll_eq, h.awaited]
  exact hempty.applyAll rfl rfl 0 other.awaited

theorem getD (h : Parallel before before' console other) {later later' : Option Console}
    (hlater : Option.Rel (Parallel before before') later later') :
    later.isSome = later'.isSome ∧
      Parallel before before' (later.getD console) (later'.getD other) := by
  cases hlater with
  | none => exact ⟨rfl, h⟩
  | some hlater => exact ⟨rfl, hlater⟩

theorem step (h : Parallel before before' console other) (htimely : console.Timely)
    (htimely' : other.Timely) {action : Action} (hwait : action ≠ .wait) :
    console.answer action = other.answer action ∧
      Parallel before before' (console.step action) (other.step action) := by
  have hle := htimely.results
  have hle' := htimely'.results
  cases action with
  | navigate path => exact ⟨rfl, h.navigateTo hle hle' (.parse path)⟩
  | navigateTo route => exact ⟨rfl, h.navigateTo hle hle' route⟩
  | login username password reply =>
    obtain ⟨hresult, hlater⟩ := h.login hle hle' username password reply
    exact ⟨congrArg Answer.login hresult, hlater⟩
  | logout => exact ⟨rfl, h.logout hle hle'⟩
  | forceLogin => exact ⟨rfl, h.forceLogin hle hle'⟩
  | delete id =>
    obtain ⟨haccepted, hlater⟩ := h.getD (h.delete? id)
    exact ⟨congrArg Answer.accepted haccepted, hlater⟩
  | setField field value =>
    obtain ⟨haccepted, hlater⟩ := h.getD (h.setField? field value)
    exact ⟨congrArg Answer.accepted haccepted, hlater⟩
  | save =>
    obtain ⟨haccepted, hlater⟩ := h.getD h.save?
    exact ⟨congrArg Answer.accepted haccepted, hlater⟩
  | respond index reply =>
    obtain ⟨haccepted, hlater⟩ := h.getD (h.respond? htimely htimely' index reply)
    exact ⟨congrArg Answer.accepted haccepted, hlater⟩
  | poll =>
    obtain ⟨hcount, hlater⟩ := h.poll htimely htimely'
    exact ⟨congrArg Answer.applied hcount, hlater⟩
  | wait => exact absurd rfl hwait
  | late delivery => exact ⟨rfl, ((h.late_left delivery).symm.late_left delivery).symm⟩
  | outside storage network => exact ⟨rfl, h.outside (.refl storage) network⟩

theorem sight {action action' : Action} (h : Parallel console.outside.sent other.outside.sent
      (console.step action) (other.step action'))
    (hanswer : console.answer action = other.answer action') :
    console.sight action = other.sight action' := by
  obtain ⟨new, hsent, hsent'⟩ := h.sent
  unfold Console.sight
  rw [hanswer, h.appearance, hsent, hsent', List.drop_left, List.drop_left]

theorem trace (h : Parallel before before' console other) (hrecorded : console.Recorded)
    (hrecorded' : other.Recorded) {actions actions' : List Action}
    (hrepeats : Repeats actions actions') : console.trace actions = other.trace actions' := by
  -- What was sent is compared anew for each step, since what came before may differ.
  induction hrepeats generalizing console other before before' with
  | nil => rfl
  | @same action rest rest' hwait hrest ih =>
    obtain ⟨hanswer, hlater⟩ := h.rebase.step hrecorded.timely hrecorded'.timely hwait
    rw [Console.trace, Console.trace, ih hlater (hrecorded.step _) (hrecorded'.step _),
      hlater.sight hanswer]
  | @outside storage storage' rest rest' hstorage network hrest ih =>
    have hlater := h.rebase.outside hstorage network
    rw [Console.trace, Console.trace, ih hlater (hrecorded.step _) (hrecorded'.step _),
      hlater.sight rfl]
    rfl
  | late delivery hrest ih => exact ih (h.late_left delivery) (hrecorded.step _) hrecorded'
  | otherLate delivery hrest ih =>
    exact ih (h.symm.late_left delivery).symm hrecorded (hrecorded'.step _)

end Parallel

/-! ### The end of a session -/

/-- The actions that end a session: a logout, a forced return to the login view, and the delivery of
a result that forces it. -/
inductive Ends (console : Console) : Action → Prop
  | logout : console.Ends .logout
  | forceLogin : console.Ends .forceLogin
  | poll (h : ∃ outcome ∈ console.awaited, outcome.isRejection = true) : console.Ends .poll
  | wait {delivery : Delivery} {rest : List Delivery}
      (hresults : console.results = delivery :: rest)
      (hcurrent : delivery.generation = console.scope.generation)
      (hrejection : delivery.outcome.isRejection = true) : console.Ends .wait

/-- Nothing is left of a session but results that come too late. -/
structure Ended (console : Console) : Prop where
  state : console.session.state = .signedOut
  route : console.route = .login
  view : console.view = .login none
  inFlight : console.inFlight = []
  awaited : console.awaited = []
  stored : ∀ key ∈ sessionKeys, console.outside.storage.store.get key = .ok none

theorem ended_signedOut {console : Console} (hclears : console.outside.storage.Clears)
    (hle : ∀ delivery ∈ console.results, delivery.generation ≤ console.scope.generation)
    (log : List Event) : (console.signedOut log).Ended where
  state := rfl
  route := rfl
  view := rfl
  inFlight := rfl
  awaited := outcomesOf_eq_nil fun delivery hmem => Nat.lt_succ_of_le (hle delivery hmem)
  stored _ hkey := hclears.get_cleared hkey

theorem ended_forceLogin {console : Console} (hclears : console.outside.storage.Clears)
    (hle : ∀ delivery ∈ console.results, delivery.generation ≤ console.scope.generation) :
    console.forceLogin.Ended := by
  obtain ⟨log, hforced⟩ := forceLogin_eq console
  rw [hforced]
  exact { ended_signedOut hclears hle log with }

theorem Ends.ended {console : Console} {action : Action} (h : console.Ends action)
    (htimely : console.Timely) (hclears : console.outside.storage.Clears) :
    (console.step action).Ended := by
  cases h with
  | logout =>
    obtain ⟨log, hlogout⟩ := logout_eq console
    simp only [step, hlogout]
    exact ended_signedOut hclears htimely.results log
  | forceLogin => exact ended_forceLogin hclears htimely.results
  | poll hrejected =>
    simp only [step, htimely.poll_eq]
    generalize hempty : { console with results := [] } = empty
    obtain ⟨view, log, hpoll⟩ := empty.applyAll_rejected hrejected 0
    rw [hpoll, ← hempty]
    refine ended_forceLogin ?_ ?_
    · exact hclears
    · simp
  | @wait delivery rest hresults hcurrent hrejection =>
    have hrest : ∀ other ∈ rest, other.generation ≤ console.scope.generation :=
      fun other hmem => htimely.results other (hresults ▸ List.mem_cons_of_mem _ hmem)
    rw [step_wait_cons hresults]
    generalize hlater : { console with results := rest } = later
    have hscope : later.scope = console.scope := by rw [← hlater]
    rw [deliver_current (hscope ▸ hcurrent), apply_rejection hrejection, ← hlater]
    refine ended_forceLogin ?_ ?_
    · exact hclears
    · exact hrest

theorem Ended.parallel {console other : Console} (h : console.Ended) (h' : other.Ended)
    (hclient : console.client = other.client)
    (hfails : console.outside.storage.FailsLike other.outside.storage)
    (hnetwork : console.outside.network = other.outside.network) :
    Parallel console.outside.sent other.outside.sent console other where
  client := hclient
  state := h.state.trans h'.state.symm
  route := h.route.trans h'.route.symm
  view := h.view.trans h'.view.symm
  inFlight := by rw [h.inFlight, h'.inFlight]
  awaited := h.awaited.trans h'.awaited.symm
  storage :=
    ⟨hfails.failing, hfails.obstacle,
      fun key hkey => (h.stored key hkey).trans (h'.stored key hkey).symm⟩
  network := hnetwork
  sent := ⟨[], (List.append_nil _).symm, (List.append_nil _).symm⟩

/-- **Sessions are isolated.** After any two histories that end with the end of a session, whose
entries could be removed, the same actions show the same. -/
theorem run_ended_trace (address : String) (outside outside' : Outside)
    (history history' : List Action) (ending ending' : Action) (actions actions' : List Action)
    (hends : ((start address outside).run history).Ends ending)
    (hends' : ((start address outside').run history').Ends ending')
    (hclears : ((start address outside).run history).outside.storage.Clears)
    (hclears' : ((start address outside').run history').outside.storage.Clears)
    (hrepeats : Repeats actions actions') :
    let ended := ((start address outside).run history).step ending
    let ended' := ((start address outside').run history').step ending'
    ended.outside.storage.FailsLike ended'.outside.storage →
    ended.outside.network = ended'.outside.network →
    ended.appearance = ended'.appearance ∧ ended.trace actions = ended'.trace actions' := by
  intro ended ended' hfails hnetwork
  have hrecorded := recorded_run address outside history
  have hrecorded' := recorded_run address outside' history'
  have hclient : ended.client = ended'.client := by
    rw [step_client, step_client, run_client, run_client]
  have hparallel := (hends.ended hrecorded.timely hclears).parallel
    (hends'.ended hrecorded'.timely hclears') hclient hfails hnetwork
  exact ⟨hparallel.appearance,
    hparallel.trace (hrecorded.step ending) (hrecorded'.step ending') hrepeats⟩

/-- Bob is signed in, with a file that holds another entry besides. -/
def bobStored : Outside :=
  let session := "\"access_token\":\"ghi789\",\"theme\":\"dark\",\"user\":\"\x7b\x7d\""
  .initial (.reliable (.file (.inDirectory "/cache" (.holding ("\x7b" ++ session ++ "\x7d")))))
    ["http://identity"]

def rejectedLoad : List Action :=
  [.navigateTo (.list .users), .respond 0 (.response 401 [] true)]

def loading : List Action :=
  [.navigateTo (.detail .groups "g")]

def signInLater : List Action :=
  [.login "alice" "secret" .granting, .navigateTo (.list .policies)]

theorem run_ended_trace_signInLater :
    let ended := ((start "http://identity" (.aliceStored .never)).run rejectedLoad).step .poll
    let ended' := ((start "http://identity" bobStored).run loading).step .logout
    ended.appearance = ended'.appearance ∧
    ended.trace (.late ⟨0, .deleted .groups "g"⟩ :: signInLater) = ended'.trace signInLater := by
  have hends : ((start "http://identity" (.aliceStored .never)).run rejectedLoad).Ends .poll :=
    .poll (List.any_eq_true.mp (by decide +kernel))
  have hclears : ((start "http://identity" (.aliceStored .never)).run
      rejectedLoad).outside.storage.Clears :=
    .of_isOk (by decide +kernel)
  have hclears' : ((start "http://identity" bobStored).run loading).outside.storage.Clears :=
    .of_isOk (by decide +kernel)
  have hrepeats : Repeats (.late ⟨0, .deleted .groups "g"⟩ :: signInLater) signInLater :=
    .late _ (.same (by rintro ⟨⟩) (.same (by rintro ⟨⟩) .nil))
  have hfree : (((start "http://identity" (.aliceStored .never)).run rejectedLoad).step
      .poll).outside.storage.store.obstacle? = none :=
    Option.isNone_iff_eq_none.mp (by decide +kernel)
  have hfree' : (((start "http://identity" bobStored).run loading).step
      .logout).outside.storage.store.obstacle? = none :=
    Option.isNone_iff_eq_none.mp (by decide +kernel)
  exact run_ended_trace "http://identity" (.aliceStored .never) bobStored rejectedLoad loading
    .poll .logout _ _ hends .logout hclears hclears' hrepeats
    ⟨by decide +kernel, hfree.trans hfree'.symm⟩ (by decide +kernel)

end IdentityConsole.Console
