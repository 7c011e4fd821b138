import IdentityConsole.Proofs.App.Run
import IdentityConsole.Proofs.Console.Resemblance

/-!
# What is reported decides nothing

The status line and the notice are there to be shown, and an editor that is opened begins with the
text of its field, whatever was left in it. Apps that differ in these alone do the same whatever
happens.
-/

namespace IdentityConsole

namespace App

/-- Apps that differ only in what they report, and in what was left in an editor that is closed. -/
structure Resembles (app other : App) : Prop where
  console : app.console.Resembles other.console
  config : app.config = other.config
  configFile : app.configFile = other.configFile
  mode : app.mode = other.mode ∨
    app.mode.takesCommands = true ∧ other.mode.takesCommands = true
  form : app.form = other.form
  selection : app.selection = other.selection
  editBuffer : app.mode = .editing → app.editBuffer = other.editBuffer
  pathInput : app.pathInput = other.pathInput
  seenRedirects : app.seenRedirects = other.seenRedirects

variable {app other : App}

namespace Resembles

/-! ### What the screen shows -/

theorem congr_view {α : Type} {f : View → α} (h : app.Resembles other)
    (hf : ∀ view : View, f view.clearNotice = f view) : f app.view = f other.view :=
  h.console.congr_view hf

theorem isLogin (h : app.Resembles other) : app.view.isLogin = other.view.isLogin :=
  h.congr_view View.isLogin_clearNotice

theorem listKind? (h : app.Resembles other) : app.view.listKind? = other.view.listKind? :=
  h.congr_view View.listKind?_clearNotice

theorem rowIds (h : app.Resembles other) : app.view.rowIds = other.view.rowIds :=
  h.congr_view View.rowIds_clearNotice

theorem route (h : app.Resembles other) : app.console.route = other.console.route :=
  h.console.congr fun _ => rfl

theorem rowId? (h : app.Resembles other) :
    app.view.rowId? app.selection = other.view.rowId? other.selection := by
  rw [View.rowId?, View.rowId?, h.rowIds, h.selection]

theorem selectedField? (h : app.Resembles other) : app.selectedField? = other.selectedField? := by
  rw [App.selectedField?, App.selectedField?, h.congr_view View.fields_clearNotice, h.selection]

theorem eq_or_detail (h : app.Resembles other) :
    app.view = other.view ∨ ∃ kind id record notice notice',
      app.view = .detail kind id record notice ∧ other.view = .detail kind id record notice' :=
  View.eq_or_detail_of_clearNotice (h.congr_view View.clearNotice_clearNotice)

theorem selectableCount (h : app.Resembles other) :
    app.selectableCount = other.selectableCount := by
  unfold App.selectableCount
  rcases h.eq_or_detail with hview | ⟨kind, id, record, notice, notice', hview, hview'⟩
  · rw [hview]
  · rw [hview, hview']
    rfl

/-! ### Changes of one field -/

theorem withForm (h : app.Resembles other) (form : LoginForm) :
    { app with form }.Resembles { other with form } :=
  { h with form := rfl }

theorem withMode (h : app.Resembles other) (mode : Mode) (hmode : mode ≠ .editing) :
    { app with mode }.Resembles { other with mode } :=
  { h with mode := .inl rfl, editBuffer := fun hediting => absurd hediting hmode }

theorem withConsole (h : app.Resembles other) {console console' : Console}
    (hconsole : console.Resembles console') :
    { app with console }.Resembles { other with console := console' } :=
  { h with console := hconsole }

theorem withSelection (h : app.Resembles other) (selection : Nat) :
    { app with selection }.Resembles { other with selection } :=
  { h with selection := rfl }

theorem withPathInput (h : app.Resembles other) (pathInput : String) :
    { app with pathInput }.Resembles { other with pathInput } :=
  { h with pathInput := rfl }

theorem withStatus (h : app.Resembles other) (status status' : Option String) :
    { app with status }.Resembles { other with status := status' } :=
  { h with }

theorem note (h : app.Resembles other) (event : Event) :
    (app.note event).Resembles (other.note event) :=
  h.withConsole (h.console.note event)

/-! ### Navigation -/

theorem settle (h : app.Resembles other) : app.settle.Resembles other.settle := by
  unfold App.settle
  rw [h.isLogin, h.form]
  exact { h with
    mode := .inl rfl
    form := rfl
    selection := rfl
    editBuffer := fun hediting => by cases hediting }

theorem navigateTo (h : app.Resembles other) (route : Route) :
    (app.navigateTo route).Resembles (other.navigateTo route) := by
  refine (h.withConsole ?_).settle
  rw [h.console.navigateTo]
  exact .refl _

theorem openSelected (h : app.Resembles other) : app.openSelected.Resembles other.openSelected := by
  unfold App.openSelected
  rw [h.listKind?, h.rowId?]
  split
  · exact h.navigateTo _
  · exact h

theorem goBack (h : app.Resembles other) : app.goBack.Resembles other.goBack := by
  unfold App.goBack
  rw [h.route]
  split
  · exact h.navigateTo _
  · exact h.navigateTo _
  · exact h
  · exact h

theorem switchBy (h : app.Resembles other) (change : Tab → Tab) :
    (app.switchBy change).Resembles (other.switchBy change) := by
  unfold App.switchBy tab?
  rw [h.route]
  split
  · exact h.navigateTo _
  · exact h

theorem startPathEntry (h : app.Resembles other) :
    app.startPathEntry.Resembles other.startPathEntry := by
  unfold App.startPathEntry
  rw [h.route]
  exact (h.withPathInput other.console.route.path).withMode .enteringPath (by decide)

theorem submitPath (h : app.Resembles other) : app.submitPath.Resembles other.submitPath := by
  unfold App.submitPath navigate
  rw [h.pathInput]
  exact (h.withPathInput "").navigateTo _

/-! ### The cursor -/

theorem selectNext (h : app.Resembles other) (step : Nat) :
    (app.selectNext step).Resembles (other.selectNext step) := by
  unfold App.selectNext
  rw [h.selectableCount, h.selection]
  dsimp only
  split
  · exact h.withSelection _
  · exact h

theorem selectPrevious (h : app.Resembles other) (step : Nat) :
    (app.selectPrevious step).Resembles (other.selectPrevious step) := by
  unfold App.selectPrevious
  rw [h.selection]
  exact h.withSelection _

/-! ### Signing in and out -/

theorem rememberUsername (h : app.Resembles other) (username : String) :
    (app.rememberUsername username).Resembles (other.rememberUsername username) := by
  have hkept : ∀ config configFile, { app with config, configFile }.Resembles
      { other with config, configFile } :=
    fun _ _ => { h with config := rfl, configFile := rfl }
  unfold App.rememberUsername
  rw [h.config, h.configFile]
  dsimp only
  split
  · exact hkept _ _
  · exact (hkept _ _).note _

theorem attemptLogin (h : app.Resembles other) (reply : Http.Reply) :
    (app.attemptLogin reply).2.Resembles (other.attemptLogin reply).2 := by
  unfold App.attemptLogin
  rw [h.form]
  dsimp only
  split
  · exact h.withForm _
  · obtain ⟨hresult, hlater⟩ :=
      h.console.login other.form.username other.form.password reply
    generalize app.console.login other.form.username other.form.password reply = signing
      at hresult hlater ⊢
    generalize other.console.login other.form.username other.form.password reply = signing'
      at hresult hlater ⊢
    obtain ⟨result, console⟩ := signing
    obtain ⟨result', console'⟩ := signing'
    dsimp only at hresult hlater
    subst hresult
    cases result with
    | error error => exact ((h.withConsole hlater).withForm _).note _
    | ok user =>
      have hremembered := ((h.withConsole hlater).withForm
        { other.form with error := none }).rememberUsername other.form.username
      dsimp only
      rw [hremembered.form]
      exact { hremembered with
        mode := .inl rfl
        form := rfl
        selection := rfl
        editBuffer := fun hediting => by cases hediting }

theorem logout (h : app.Resembles other) : app.logout.Resembles other.logout := by
  unfold App.logout
  rw [h.form, h.console.logout]
  exact settle (((h.withConsole (.refl _)).withForm _).withStatus _ _)

/-! ### Records -/

theorem deleteSelected (h : app.Resembles other) :
    app.deleteSelected.Resembles other.deleteSelected := by
  unfold App.deleteSelected
  rw [h.rowId?]
  split
  · exact h
  · next id _ =>
    have hdone := h.console.delete? id
    generalize app.console.delete? id = done at hdone ⊢
    generalize other.console.delete? id = done' at hdone ⊢
    cases hdone with
    | some hbegun => exact (h.withConsole hbegun).withStatus _ _
    | none => exact h

theorem startEdit (h : app.Resembles other) : app.startEdit.Resembles other.startEdit := by
  have hvalue : ∀ field, app.view.field? field = other.view.field? field := fun field =>
    h.congr_view (f := (·.field? field)) fun view => view.field?_clearNotice field
  unfold App.startEdit
  simp only [h.selectedField?, hvalue]
  split
  · exact { h with mode := .inl rfl, editBuffer := fun _ => rfl }
  · exact h

theorem commitEdit (h : app.Resembles other) (hmode : app.mode = .editing) :
    app.commitEdit.Resembles other.commitEdit := by
  unfold App.commitEdit
  rw [h.selectedField?, h.editBuffer hmode]
  split
  · exact { h with mode := .inl rfl, editBuffer := fun hediting => by cases hediting }
  · next field _ =>
    have hedited := h.console.getD_of_eq (h.console.setField? field other.editBuffer)
    exact { h with
      console := hedited, mode := .inl rfl, editBuffer := fun hediting => by cases hediting }

theorem save (h : app.Resembles other) : app.save.Resembles other.save := by
  unfold App.save
  rw [h.console.save?]
  split
  · exact { h with console := rfl }
  · exact h

/-! ### Keys -/

section Keys

variable (h : app.Resembles other)

include h

theorem pressOnLogin (key : Key) (reply : Http.Reply) :
    (app.pressOnLogin key reply).2.Resembles (other.pressOnLogin key reply).2 := by
  have hchanged : ∀ username password : String → String,
      (app.changeForm username password).Resembles (other.changeForm username password) := by
    intro username password
    unfold changeForm
    rw [h.form]
    split
    · exact h.withForm _
    · exact h.withForm _
    · exact h
  unfold App.pressOnLogin setFocus
  rw [h.form]
  split
  · exact { h with
      mode := .inl rfl, form := rfl, editBuffer := fun hediting => by cases hediting }
  iterate 4 exact h.withForm _
  · split
    · exact h.withForm _
    · exact h.attemptLogin reply
    · exact h.attemptLogin reply
  · exact hchanged _ _
  · exact hchanged _ _
  · exact h

theorem pressOnHelp (key : Key) : (app.pressOnHelp key).Resembles (other.pressOnHelp key) := by
  unfold App.pressOnHelp
  split
  iterate 3 exact h.withMode .normal (by decide)
  exact h

theorem pressOnQuestion (key : Key) :
    (app.pressOnQuestion key).2.Resembles (other.pressOnQuestion key).2 := by
  unfold App.pressOnQuestion
  split
  iterate 3 exact h.withMode .quitting (by decide)
  iterate 3 exact h.withMode .normal (by decide)
  exact h

theorem pressOnPath (key : Key) : (app.pressOnPath key).Resembles (other.pressOnPath key) := by
  unfold App.pressOnPath
  split
  · exact (h.withPathInput "").withMode .normal (by decide)
  · exact h.submitPath
  · rw [h.pathInput]
    exact h.withPathInput _
  · rw [h.pathInput]
    exact h.withPathInput _
  · exact h

theorem pressOnEditor (hmode : app.mode = .editing) (key : Key) :
    (app.pressOnEditor key).Resembles (other.pressOnEditor key) := by
  unfold App.pressOnEditor
  split
  · exact { h with mode := .inl rfl, editBuffer := fun _ => rfl }
  · exact h.commitEdit hmode
  · rw [h.editBuffer hmode]
    exact { h with editBuffer := fun _ => rfl }
  · rw [h.editBuffer hmode]
    exact { h with editBuffer := fun _ => rfl }
  · exact h

theorem pressOnView (key : Key) : (app.pressOnView key).Resembles (other.pressOnView key) := by
  unfold App.pressOnView
  rcases h.eq_or_detail with hview | ⟨kind, id, record, notice, notice', hview, hview'⟩
  · rw [hview]
    split
    · split
      · exact h.openSelected
      · exact h.deleteSelected
      · exact h.deleteSelected
      · exact h
    · split
      · exact h.startEdit
      · exact h.startEdit
      · exact h.save
      · exact h
    · exact h
    · exact h
  · rw [hview, hview']
    dsimp only
    split
    · exact h.startEdit
    · exact h.startEdit
    · exact h.save
    · exact h

theorem pressOnScreen (key : Key) :
    (app.pressOnScreen key).Resembles (other.pressOnScreen key) := by
  unfold App.pressOnScreen
  split
  · exact h.withMode .confirmingQuit (by decide)
  · exact h.withMode .help (by decide)
  · exact h.startPathEntry
  · exact h.logout
  iterate 4 exact h.navigateTo _
  iterate 2 exact h.switchBy _
  iterate 2 exact h.selectPrevious 1
  iterate 2 exact h.selectNext 1
  · exact h.selectPrevious pageStep
  · exact h.selectNext pageStep
  iterate 2 exact h.goBack
  · exact h.pressOnView key

theorem press (key : Key) (reply : Http.Reply) :
    (app.press key reply).2.Resembles (other.press key reply).2 := by
  by_cases hlogin : app.view.isLogin = true
  · unfold App.press
    rw [if_pos hlogin, if_pos (h.isLogin ▸ hlogin)]
    exact h.pressOnLogin key reply
  · have hview : app.view.isLogin = false := Bool.eq_false_iff.mpr hlogin
    have hview' : other.view.isLogin = false := h.isLogin ▸ hview
    rcases h.mode with hmode | ⟨hmode, hmode'⟩
    · unfold App.press
      rw [if_neg hlogin, if_neg (Bool.eq_false_iff.mp hview'), ← hmode]
      split
      · exact h.pressOnHelp key
      · exact h.pressOnQuestion key
      · exact h.pressOnPath key
      · next hediting => exact h.pressOnEditor hediting key
      · exact h.pressOnScreen key
      · exact h.pressOnScreen key
    · rw [press_of_takesCommands hview hmode, press_of_takesCommands hview' hmode']
      exact h.pressOnScreen key

end Keys

/-! ### Results -/

theorem showExpired (h : app.Resembles other) : app.showExpired.Resembles other.showExpired := by
  have hredirects : app.console.loginRedirects = other.console.loginRedirects :=
    h.console.congr (f := fun console => console.loginRedirects) fun _ => rfl
  refine settle { h.note .sessionRejected with form := ?_, seenRedirects := hredirects }
  dsimp only
  rw [h.form]

theorem refresh (h : app.Resembles other) : app.refresh.Resembles other.refresh := by
  refine { h with selection := ?_ }
  rw [refresh_selection, refresh_selection, h.selectableCount, h.selection]

theorem tick (h : app.Resembles other) : app.tick.Resembles other.tick := by
  obtain ⟨happlied, hlater⟩ := h.console.poll
  unfold App.tick
  generalize app.console.poll = polled at happlied hlater ⊢
  generalize other.console.poll = polled' at happlied hlater ⊢
  obtain ⟨applied, console⟩ := polled
  obtain ⟨applied', console'⟩ := polled'
  dsimp only at happlied hlater ⊢
  subst happlied
  have hpolled := h.withConsole hlater
  have hredirects : console.loginRedirects = console'.loginRedirects :=
    hlater.congr (f := fun console => console.loginRedirects) fun _ => rfl
  have hexpired : (console.loginRedirects ≠ app.seenRedirects) =
      (console'.loginRedirects ≠ other.seenRedirects) := by rw [hredirects, h.seenRedirects]
  simp only [hexpired]
  split
  · exact hpolled
  · split
    · exact hpolled.showExpired
    · exact hpolled.refresh

/-- Whatever happens to both, they go on to differ in what they report alone. -/
theorem step (h : app.Resembles other) (action : Action) :
    (app.step action).Resembles (other.step action) := by
  cases action with
  | press key reply => exact h.press key reply
  | tick => exact h.tick
  | respond index reply => exact h.withConsole (h.console.step (.respond index reply))
  | late delivery => exact h.withConsole (h.console.step (.late delivery))
  | outside storage network configFile =>
    exact { h with console := h.console.step (.outside storage network), configFile := rfl }

theorem run (h : app.Resembles other) (actions : List Action) :
    (app.run actions).Resembles (other.run actions) := by
  induction actions generalizing app other with
  | nil => exact h
  | cons action rest ih => exact ih (h.step action)

end Resembles

end App

end IdentityConsole
