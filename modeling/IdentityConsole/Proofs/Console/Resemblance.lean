import IdentityConsole.Proofs.Console.Detail

/-!
# The notice decides nothing

The notice about a save is there to be shown. Consoles that differ in their notices alone do the
same whatever happens, and go on to differ in nothing else.
-/

namespace IdentityConsole

namespace View

variable (view : View)

@[simp]
theorem clearNotice_clearNotice : view.clearNotice.clearNotice = view.clearNotice := by
  cases view <;> rfl

@[simp]
theorem isLogin_clearNotice : view.clearNotice.isLogin = view.isLogin := by
  cases view <;> rfl

@[simp]
theorem returnTo?_clearNotice : view.clearNotice.returnTo? = view.returnTo? := by
  cases view <;> rfl

@[simp]
theorem listKind?_clearNotice : view.clearNotice.listKind? = view.listKind? := by
  cases view <;> rfl

@[simp]
theorem rowIds_clearNotice : view.clearNotice.rowIds = view.rowIds := by
  cases view <;> rfl

@[simp]
theorem fields_clearNotice : view.clearNotice.fields = view.fields := by
  cases view <;> rfl

@[simp]
theorem field?_clearNotice (field : Field) : view.clearNotice.field? field = view.field? field := by
  cases view with
  | detail kind id record notice => cases record <;> rfl
  | login returnTo | dashboard | list kind rows => rfl

@[simp]
theorem setField?_clearNotice (field : Field) (value : String) :
    view.clearNotice.setField? field value = view.setField? field value := by
  cases view with
  | detail kind id record notice => cases record <;> rfl
  | login returnTo | dashboard | list kind rows => rfl

/-- Views that differ in their notices alone are equal, but for those of a record. -/
theorem eq_or_detail_of_clearNotice {view other : View}
    (h : view.clearNotice = other.clearNotice) :
    view = other ∨ ∃ kind id record notice notice',
      view = .detail kind id record notice ∧ other = .detail kind id record notice' := by
  cases view <;> cases other <;> first
    | exact .inl h
    | cases h <;> exact .inr ⟨_, _, _, _, _, rfl, rfl⟩

theorem install?_clearNotice (data : Loaded) :
    view.clearNotice.install? data = (view.install? data).map clearNotice := by
  cases view with
  | login returnTo | dashboard => cases data <;> rfl
  | list kind rows =>
    cases data with
    | record other record => rfl
    | rows other records =>
      simp only [clearNotice, install?]
      split <;> rfl
  | detail kind id record notice =>
    cases data with
    | rows other records => rfl
    | record other record =>
      simp only [clearNotice, install?]
      split <;> rfl

theorem remove?_clearNotice (kind : Kind) (id : String) :
    view.clearNotice.remove? kind id = (view.remove? kind id).map clearNotice := by
  cases view with
  | list shown rows =>
    cases rows with
    | none => rfl
    | some rows =>
      simp only [clearNotice, remove?]
      split <;> rfl
  | login returnTo | dashboard | detail shown shownId record notice => rfl

theorem markUpdated?_clearNotice (kind : Kind) (id : String) :
    view.clearNotice.markUpdated? kind id = view.markUpdated? kind id := by
  cases view <;> rfl

end View

namespace Console

/-- The console without its notice. -/
def unnoted (console : Console) : Console :=
  { console with view := console.view.clearNotice }

/-- Consoles that differ in their notices alone. -/
def Resembles (console other : Console) : Prop :=
  console.unnoted = other.unnoted

variable {console other : Console}

/-- The other console is the same one with another view. -/
theorem Resembles.eq (h : console.Resembles other) :
    ∃ view, other = { console with view } ∧ view.clearNotice = console.view.clearNotice := by
  refine ⟨other.view, ?_, (congrArg Console.view h).symm⟩
  have hsame : { console.unnoted with view := other.view } =
      { other.unnoted with view := other.view } :=
    congrArg (fun console : Console => { console with view := other.view }) h
  exact hsame.symm

theorem resembles_of_clearNotice {view : View} (h : view.clearNotice = console.view.clearNotice) :
    console.Resembles { console with view } := by
  unfold Resembles unnoted
  rw [h]

theorem begin_withView (task : Task) (view : View) (console : Console) :
    { console with view }.begin task = { console.begin task with view } := by
  unfold begin
  cases console.client.send task.request console.outside with
  | mk result outside => cases result <;> rfl

namespace Resembles

theorem refl (console : Console) : console.Resembles console := rfl

/-- What is read off a console but its view. -/
theorem congr {α : Type} {f : Console → α} (h : console.Resembles other)
    (hf : ∀ console : Console, f console.unnoted = f console) : f console = f other := by
  rw [← hf console, ← hf other, (h : console.unnoted = other.unnoted)]

theorem outside (h : console.Resembles other) : console.outside = other.outside :=
  h.congr fun _ => rfl

/-- What is read off the view but its notice. -/
theorem congr_view {α : Type} {f : View → α} (h : console.Resembles other)
    (hf : ∀ view : View, f view.clearNotice = f view) : f console.view = f other.view :=
  h.congr (f := fun console => f console.view) fun console => hf console.view

theorem begin (h : console.Resembles other) (task : Task) :
    (console.begin task).Resembles (other.begin task) := by
  obtain ⟨view, rfl, hview⟩ := h.eq
  have hbegun : view.clearNotice = (console.begin task).view.clearNotice := by
    rw [hview, begin_view]
  rw [begin_withView task view]
  exact resembles_of_clearNotice hbegun

theorem navigateTo (h : console.Resembles other) (route : Route) :
    console.navigateTo route = other.navigateTo route := by
  obtain ⟨view, rfl, -⟩ := h.eq
  rfl

theorem logout (h : console.Resembles other) : console.logout = other.logout := by
  obtain ⟨view, rfl, -⟩ := h.eq
  rfl

theorem forceLogin (h : console.Resembles other) : console.forceLogin = other.forceLogin := by
  obtain ⟨view, rfl, -⟩ := h.eq
  rfl

theorem login (h : console.Resembles other) (username password : String) (reply : Http.Reply) :
    (console.login username password reply).1 = (other.login username password reply).1 ∧
      (console.login username password reply).2.Resembles
        (other.login username password reply).2 := by
  have hreturnTo := h.congr_view View.returnTo?_clearNotice
  obtain ⟨view, rfl, hview⟩ := h.eq
  unfold Console.login
  dsimp only at hreturnTo ⊢
  rw [← hreturnTo]
  cases console.session.login console.client username password reply console.outside with
  | mk result rest =>
    cases result with
    | ok user => exact ⟨rfl, rfl⟩
    | error error => exact ⟨rfl, resembles_of_clearNotice hview⟩

theorem delete? (h : console.Resembles other) (id : String) :
    Option.Rel Resembles (console.delete? id) (other.delete? id) := by
  unfold Console.delete?
  rw [h.congr_view View.listKind?_clearNotice]
  split
  · exact .some (h.begin _)
  · exact .none

theorem setField? (h : console.Resembles other) (field : Field) (value : String) :
    console.setField? field value = other.setField? field value := by
  have hedit := h.congr_view (f := (·.setField? field value)) fun view =>
    view.setField?_clearNotice field value
  obtain ⟨view, rfl, -⟩ := h.eq
  unfold Console.setField?
  rw [hedit]

theorem save? (h : console.Resembles other) : console.save? = other.save? := by
  refine h.congr fun console => ?_
  cases hview : console.view with
  | detail kind id record notice =>
    have hunnoted : console.unnoted.view = .detail kind id record none := by
      rw [unnoted, hview]
      rfl
    rw [save?_detail hunnoted, save?_detail hview, unnoted]
    simp only [begin_withView]
  | login returnTo | dashboard | list kind rows =>
    simp [Console.save?, unnoted, hview, View.clearNotice]

theorem note (h : console.Resembles other) (event : Event) :
    (console.note event).Resembles (other.note event) := by
  obtain ⟨view, rfl, hview⟩ := h.eq
  exact @resembles_of_clearNotice (console.note event) view hview

theorem apply (h : console.Resembles other) (outcome : Outcome) :
    (console.apply outcome).Resembles (other.apply outcome) := by
  refine h.congr (f := fun console => (console.apply outcome).unnoted) fun console => ?_
  cases outcome with
  | loaded data =>
    simp only [Console.apply, unnoted, View.install?_clearNotice]
    cases console.view.install? data <;> simp [Console.note]
  | deleted kind id =>
    simp only [Console.apply, unnoted, View.remove?_clearNotice]
    cases console.view.remove? kind id <;> simp [Console.note]
  | updated kind id =>
    simp only [Console.apply, unnoted, View.markUpdated?_clearNotice]
    cases console.view.markUpdated? kind id <;> simp [Console.note]
  | failed action error =>
    cases error with
    | unauthorized => rfl
    | _ => simp [Console.apply, unnoted, Console.note]

theorem deliver (h : console.Resembles other) (delivery : Delivery) :
    (console.deliver delivery).1 = (other.deliver delivery).1 ∧
      (console.deliver delivery).2.Resembles (other.deliver delivery).2 := by
  have hscope : console.scope = other.scope := h.congr fun _ => rfl
  unfold Console.deliver
  rw [hscope]
  split
  · exact ⟨rfl, h.apply delivery.outcome⟩
  · exact ⟨rfl, h⟩

theorem withResults (h : console.Resembles other) (results : List Delivery) :
    { console with results }.Resembles { other with results } := by
  obtain ⟨view, rfl, hview⟩ := h.eq
  exact @resembles_of_clearNotice { console with results } view hview

theorem deliverAll (h : console.Resembles other) (applied : Nat) (deliveries : List Delivery) :
    (console.deliverAll applied deliveries).1 = (other.deliverAll applied deliveries).1 ∧
      (console.deliverAll applied deliveries).2.Resembles
        (other.deliverAll applied deliveries).2 := by
  induction deliveries generalizing applied console other with
  | nil => exact ⟨rfl, h⟩
  | cons delivery rest ih =>
    obtain ⟨hcurrent, hlater⟩ := h.deliver delivery
    simp only [Console.deliverAll]
    rw [hcurrent]
    exact ih hlater _

theorem poll (h : console.Resembles other) :
    console.poll.1 = other.poll.1 ∧ console.poll.2.Resembles other.poll.2 := by
  have hresults : console.results = other.results := h.congr fun _ => rfl
  unfold Console.poll
  rw [hresults]
  exact (h.withResults []).deliverAll 0 other.results

theorem respond? (h : console.Resembles other) (index : Nat) (reply : Http.Reply) :
    Option.Rel Resembles (console.respond? index reply) (other.respond? index reply) := by
  obtain ⟨view, rfl, hview⟩ := h.eq
  unfold Console.respond?
  dsimp only
  split
  · exact .some (resembles_of_clearNotice hview)
  · exact .none

theorem getD {done done' : Option Console} (h : console.Resembles other)
    (hdone : Option.Rel Resembles done done') :
    (done.getD console).Resembles (done'.getD other) := by
  cases hdone with
  | some hlater => exact hlater
  | none => exact h

theorem getD_of_eq {done done' : Option Console} (h : console.Resembles other)
    (hdone : done = done') : (done.getD console).Resembles (done'.getD other) := by
  subst hdone
  cases done with
  | some later => exact refl later
  | none => exact h

/-- Whatever is done to both, they go on to differ in their notices alone. -/
theorem step (h : console.Resembles other) (action : Action) :
    (console.step action).Resembles (other.step action) := by
  cases action with
  | navigate path => exact congrArg unnoted (h.navigateTo (.parse path))
  | navigateTo route => exact congrArg unnoted (h.navigateTo route)
  | login username password reply => exact (h.login username password reply).2
  | logout => exact congrArg unnoted h.logout
  | forceLogin => exact congrArg unnoted h.forceLogin
  | delete id => exact h.getD (h.delete? id)
  | setField field value => exact h.getD_of_eq (h.setField? field value)
  | save => exact h.getD_of_eq h.save?
  | poll => exact h.poll.2
  | wait =>
    have hresults : console.results = other.results := h.congr fun _ => rfl
    cases hwaiting : other.results with
    | nil =>
      rw [step_wait_nil (hresults.trans hwaiting), step_wait_nil hwaiting]
      exact h
    | cons delivery rest =>
      rw [step_wait_cons (hresults.trans hwaiting), step_wait_cons hwaiting]
      exact ((h.withResults rest).deliver delivery).2
  | respond index reply => exact h.getD (h.respond? index reply)
  | late delivery =>
    obtain ⟨view, rfl, hview⟩ := h.eq
    simp only [Console.step]
    split
    · exact h.withResults (console.results ++ [delivery])
    · exact h
  | outside storage network =>
    obtain ⟨view, rfl, hview⟩ := h.eq
    exact @resembles_of_clearNotice
      { console with outside := { console.outside with storage, network } } view hview

end Resembles

end Console

end IdentityConsole
