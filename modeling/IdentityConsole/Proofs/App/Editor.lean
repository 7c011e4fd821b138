import Mathlib.Data.List.Induction
import IdentityConsole.Proofs.App.Run

/-!
# The editor stays on its field

The editor is opened on one field of a record that has been loaded. Whatever happens until it
closes, the record shown and the cursor stay as they are, so that what was typed is written to that
field.
-/

namespace IdentityConsole

namespace Record

variable {kind : Kind}

theorem Apart.edited {record : kind.Record} (h : Apart record) (edits : List (Field × String)) :
    Apart (edited record edits) := by
  induction edits generalizing record with
  | nil => exact h
  | cons edit rest ih => exact ih (h.setField edit.1 edit.2)

/-- Each field that is offered is a member of the record. -/
theorem member?_of_mem_fields {field : Field} (h : field ∈ fields kind) :
    ∃ member, member? kind field = some member := by
  cases kind <;> cases field <;> first | exact ⟨_, rfl⟩ | exact absurd h (by decide)

theorem field_setField_of_mem_fields {field : Field} (h : field ∈ fields kind)
    (record : kind.Record) (value : String) :
    Record.field (setField record field value) field = value := by
  cases kind <;> cases field <;> first | rfl | exact absurd h (by decide)

end Record

theorem Visit.Shows.apart {visit : Visit} {kind : Kind} {id : String} {record : kind.Record}
    (h : visit.Shows kind id (some record)) : Record.Apart record := by
  cases h with
  | edited hchanges hloaded hbefore hafter =>
    obtain ⟨text, loaded, hdecode, hrecord⟩ := hloaded.record
    cases hrecord
    exact (Record.apart_of_decode hdecode).edited _

/-- Results leave a record that is shown as it is, unless it is loaded again. -/
theorem View.replay_results {kind : Kind} {outcomes : List Outcome}
    (h : ∀ outcome ∈ outcomes, outcome.isLoaded = false) (id : String)
    (record : Option kind.Record) (notice : Option String) :
    ∃ notice', (View.detail kind id record notice).replay (outcomes.map .result) =
      .detail kind id record notice' := by
  have hedits : editsOf (outcomes.map .result) = [] := by
    simp [editsOf, List.filterMap_map, Change.edit?, Function.comp_def]
  obtain ⟨notice', hreplay⟩ := View.replay_detail kind id
    (Change.isLoaded_of_mem_results h) record notice
  rw [hedits] at hreplay
  exact ⟨notice', by rw [hreplay]; cases record <;> rfl⟩

namespace App

/-- The editor is open on a field of a record, with the cursor at its place. -/
structure Edits (app : App) (kind : Kind) (id : String) (record : kind.Record) (field : Field)
    (selection : Nat) : Prop where
  mode : app.mode = .editing
  view : ∃ notice, app.view = .detail kind id (some record) notice
  field : (Record.fields kind)[selection]? = some field
  selection : app.selection = selection

variable {app later : App}

namespace Edits

variable {kind : Kind} {id : String} {record : kind.Record} {field : Field} {selection : Nat}

theorem of_view (h : app.Edits kind id record field selection) (hview : later.view = app.view)
    (hmode : later.mode = .editing) (hselection : later.selection = app.selection) :
    later.Edits kind id record field selection where
  mode := hmode
  view := by
    rw [hview]
    exact h.view
  field := h.field
  selection := hselection.trans h.selection

theorem selectedField? (h : app.Edits kind id record field selection) :
    app.selectedField? = some field := by
  obtain ⟨notice, hview⟩ := h.view
  unfold App.selectedField?
  rw [hview, h.selection]
  exact h.field

theorem mem_fields (h : app.Edits kind id record field selection) :
    field ∈ Record.fields kind :=
  List.mem_of_getElem? h.field

/-- Results do not move the cursor, since there are as many fields as before. -/
theorem ticked (h : app.Edits kind id record field selection) (hsound : app.Sound)
    (hrecorded : app.console.Recorded) (hticked : app.Ticked later)
    (hmode : later.mode = .editing) :
    later.Edits kind id record field selection := by
  obtain ⟨notice, hview⟩ := h.view
  cases hticked with
  | nothing => exact h.of_view rfl hmode rfl
  | @refreshed console hconsole =>
    have hloaded : app.view.isLoading = false := by rw [hview]; rfl
    obtain ⟨notice', hreplay⟩ := View.replay_results (hrecorded.not_isLoaded hloaded) id
      (some record) notice
    have hshown : console.view = .detail kind id (some record) notice' := by
      rw [hconsole.view, ← hreplay, hview]
    have hlt : selection < (Record.fields kind).length :=
      (List.getElem?_eq_some_iff.mp h.field).1
    refine ⟨hmode, ⟨notice', hshown⟩, h.field, ?_⟩
    have hcount : ({ app with console } : App).selectableCount = (Record.fields kind).length :=
      selectableCount_detail hshown
    rw [refresh_selection, hcount]
    dsimp only
    rw [h.selection]
    omega
  | foreseen hlogin hredirects => exact absurd hsound.seen (Nat.ne_of_gt hredirects)
  | expired => cases hmode

/-- What was typed is written to the field, and nothing else changes. -/
theorem press_enter (h : app.Edits kind id record field selection) (reply : Http.Reply) :
    (app.press .enter reply).2 =
      { app with
        console :=
          { app.console with
            view := .detail kind id (some (Record.setField record field app.editBuffer)) none }
        editBuffer := ""
        mode := .normal } := by
  obtain ⟨notice, hview⟩ := h.view
  have hpress : app.press .enter reply = (false, app.commitEdit) := by
    unfold press
    rw [hview, h.mode]
    rfl
  have hedit := Console.setField?_detail hview field app.editBuffer
  rw [hpress]
  unfold commitEdit
  rw [h.selectedField?]
  dsimp only
  rw [hedit, Option.map_some, Option.getD_some]

theorem members (h : app.Edits kind id record field selection)
    (hvisits : app.console.Chronicled Visit.Coherent) (value : String) :
    ∃ member, Record.member? kind field = some member ∧
      Record.toJson (Record.setField record field value) =
        .object (Record.members (Record.setField record field value)).toList ∧
      ∀ key, (Record.members (Record.setField record field value)).get? key =
        if key = member then some (.string value) else (Record.members record).get? key := by
  obtain ⟨notice, hview⟩ := h.view
  obtain ⟨visit, hshows⟩ := hvisits.shows hview
  obtain ⟨member, hmember⟩ := Record.member?_of_mem_fields h.mem_fields
  exact ⟨member, hmember, Record.toJson_eq_members _,
    Record.get?_members_setField hshows.apart hmember value⟩

end Edits

/-- A key finds the editor open, or opens it on the field under the cursor. -/
theorem Pressed.editing {key : Key} {reply : Http.Reply} {result : Bool × App}
    (h : app.Pressed key reply result) (hsound : app.Sound) (hmode : result.2.mode = .editing) :
    (app.mode ≠ .editing ∧ ∃ kind id record field,
      result.2.Edits kind id record field app.selection) ∨
    (app.mode = .editing ∧ result.2.view = app.view ∧ result.2.selection = app.selection) := by
  have hlogin : app.view.isLogin = true → app.mode ≠ .editing := by
    intro hview hediting
    rcases hsound.mode hview with hnormal | hquitting
    · rw [hediting] at hnormal
      cases hnormal
    · rw [hediting] at hquitting
      cases hquitting
  cases h with
  | @form quits form mode hview hkept =>
    cases quits with
    | true =>
      dsimp only at hmode
      rw [hmode] at hkept
      cases hkept
    | false => exact absurd (hkept.symm.trans hmode) (hlogin hview)
  | submitted hsubmits =>
    obtain ⟨error, log, -, h⟩ | ⟨user, log, config, configFile, status, -, h⟩ :=
      attemptLogin_cases hsubmits.username hsubmits.password reply
    · rw [h] at hmode
      exact absurd hmode (hlogin hsubmits.view)
    · rw [h] at hmode
      cases hmode
  | overlay hview hediting => exact .inr ⟨hediting hmode, rfl, rfl⟩
  | cursor hview hcommands =>
    exact absurd hmode (Mode.ne_editing_of_takesCommands hcommands)
  | @edit field value hcommands hfield hvalue =>
    refine .inl ⟨Mode.ne_editing_of_takesCommands hcommands, ?_⟩
    cases hview : app.view with
    | detail kind id record notice =>
      rw [hview] at hvalue
      cases record with
      | none => cases hvalue
      | some record =>
        refine ⟨kind, id, record, field, rfl, ⟨notice, hview⟩, ?_, rfl⟩
        unfold selectedField? at hfield
        rw [hview] at hfield
        exact hfield
    | login returnTo | dashboard | list kind rows =>
      rw [hview] at hvalue
      cases hvalue
  | committed =>
    unfold commitEdit at hmode
    split at hmode <;> cases hmode
  | navigated | signedOut => cases hmode
  | deleted hdeletes =>
    exact absurd hmode (Mode.ne_editing_of_takesCommands hdeletes.mode)
  | saved hsaves => exact absurd hmode (Mode.ne_editing_of_takesCommands hsaves.mode)

/-- If an action leaves the editor open it was open on the same field before, or it was opened by a
key. -/
theorem step_editing {action : Action} (hsound : app.Sound) (hrecorded : app.console.Recorded)
    (hmode : (app.step action).mode = .editing) :
    (app.mode ≠ .editing ∧ ∃ key reply kind id record field, action = .press key reply ∧
      (app.step action).Edits kind id record field app.selection) ∨
    (app.mode = .editing ∧ ∀ kind id record field selection,
      app.Edits kind id record field selection →
        (app.step action).Edits kind id record field selection) := by
  -- What neither moves the cursor nor changes the view.
  have hkept : app.mode = .editing → (app.step action).view = app.view →
      (app.step action).selection = app.selection →
      app.mode = .editing ∧ ∀ kind id record field selection,
        app.Edits kind id record field selection →
          (app.step action).Edits kind id record field selection :=
    fun hbefore hview hselection =>
      ⟨hbefore, fun _ _ _ _ _ h => h.of_view hview hmode hselection⟩
  cases action with
  | press key reply =>
    rcases (app.pressed key reply).editing hsound hmode with
      ⟨hbefore, kind, id, record, field, hedits⟩ | ⟨hbefore, hview, hselection⟩
    · exact .inl ⟨hbefore, key, reply, kind, id, record, field, rfl, hedits⟩
    · exact .inr (hkept hbefore hview hselection)
  | tick =>
    have hticked : app.Ticked (app.step .tick) := app.ticked
    refine .inr ⟨?_, fun _ _ _ _ _ h => h.ticked hsound hrecorded hticked hmode⟩
    generalize app.step .tick = later at hticked hmode
    cases hticked with
    | nothing | refreshed | foreseen => exact hmode
    | expired => cases hmode
  | respond index reply =>
    refine .inr (hkept hmode ?_ rfl)
    simp only [step, Console.step]
    cases hrespond : app.console.respond? index reply with
    | none => rfl
    | some console =>
      obtain ⟨pending, log, -, rfl⟩ := Console.respond?_eq hrespond
      rfl
  | late delivery =>
    refine .inr (hkept hmode ?_ rfl)
    simp only [step, Console.step]
    split <;> rfl
  | outside storage network configFile => exact .inr (hkept hmode rfl rfl)

/-- While the editor is open it is on the field for which a key has opened it. -/
theorem editing_since {start : App} (hsound : start.Sound)
    (hvisits : start.console.Chronicled Visit.Coherent)
    (hstart : start.mode ≠ .editing) {actions : List Action}
    (hmode : (start.run actions).mode = .editing) :
    ∃ before key reply since kind id record field selection,
      actions = before ++ .press key reply :: since ∧ (start.run before).mode ≠ .editing ∧
      ∀ part, part <+: since →
        (start.run (before ++ .press key reply :: part)).Edits kind id record field selection := by
  -- From the end of the run, as the key that matters is the last one that has opened the editor.
  induction actions using List.reverseRecOn with
  | nil => exact absurd hmode hstart
  | append_singleton actions action ih =>
    have hsound' : (start.run actions).Sound :=
      run_induction (fun _ action h => h.step action) hsound actions
    have hvisits' : (start.run actions).console.Chronicled Visit.Coherent :=
      run_induction (motive := fun app => app.console.Chronicled Visit.Coherent)
        (fun _ action h => chronicled_step Visit.Coherent.invariant h action) hvisits actions
    rw [run_concat] at hmode
    rcases step_editing hsound' hvisits'.recorded hmode with
      ⟨hbefore, key, reply, kind, id, record, field, rfl, hedits⟩ | ⟨hbefore, hkeeps⟩
    · refine ⟨actions, key, reply, [], kind, id, record, field, (start.run actions).selection, rfl,
        hbefore, fun part hpart => ?_⟩
      rw [List.prefix_nil.mp hpart, run_concat]
      exact hedits
    · obtain ⟨before, key, reply, since, kind, id, record, field, selection, rfl, hopened,
        hedits⟩ := ih hbefore
      refine ⟨before, key, reply, since ++ [action], kind, id, record, field, selection,
        by simp, hopened, fun part hpart => ?_⟩
      rcases List.prefix_concat_iff.mp hpart with rfl | hpart
      · have hlast := hkeeps _ _ _ _ _ (hedits since List.prefix_rfl)
        rw [← run_concat] at hlast
        simpa using hlast
      · exact hedits part hpart

/-- **Mode, view and form fit together in every run.** On the login view nothing is edited; the
editor is open on one field of a record that is loaded, the one for which a key has opened it, and
what is typed is written there and nowhere else; and no password is kept off the login view. -/
theorem run_editor (address : String) (config : Config) (configFile : ConfigFile)
    (outside : Outside) (actions : List Action) :
    let start := opened address config configFile outside
    let app := start.run actions
    (app.view.isLogin = true → app.mode = .normal ∨ app.mode = .quitting) ∧
    (app.mode = .editing → ∃ before key reply since kind id record field selection,
      actions = before ++ .press key reply :: since ∧ (start.run before).mode ≠ .editing ∧
      (∀ part, part <+: since →
        (start.run (before ++ .press key reply :: part)).Edits kind id record field selection) ∧
      app.Edits kind id record field selection ∧ app.selectedField? = some field ∧
      (∀ answer, (app.press .enter answer).2 =
        { app with
          console :=
            { app.console with
              view := .detail kind id (some (Record.setField record field app.editBuffer)) none }
          editBuffer := ""
          mode := .normal }) ∧
      Record.field (Record.setField record field app.editBuffer) field = app.editBuffer ∧
      ∃ member, Record.member? kind field = some member ∧
        Record.toJson (Record.setField record field app.editBuffer) =
          .object (Record.members (Record.setField record field app.editBuffer)).toList ∧
        ∀ key, (Record.members (Record.setField record field app.editBuffer)).get? key =
          if key = member then some (.string app.editBuffer)
          else (Record.members record).get? key) ∧
    (app.view.isLogin = false → app.form.password = "") := by
  intro start app
  have hsound : app.Sound := sound_run address config configFile outside actions
  refine ⟨hsound.mode, fun hmode => ?_, hsound.password⟩
  have hvisits : app.console.Chronicled Visit.Coherent :=
    chronicled_run Visit.Coherent.invariant address config configFile outside actions
  obtain ⟨before, key, reply, since, kind, id, record, field, selection, rfl, hopened, hedits⟩ :=
    editing_since (Sound.opened address config configFile outside)
      (chronicled_run Visit.Coherent.invariant address config configFile outside [])
      (by rintro ⟨⟩) hmode
  have hlast : app.Edits kind id record field selection := hedits since List.prefix_rfl
  exact ⟨before, key, reply, since, kind, id, record, field, selection, rfl, hopened, hedits,
    hlast, hlast.selectedField?, hlast.press_enter,
    Record.field_setField_of_mem_fields hlast.mem_fields record app.editBuffer,
    hlast.members hvisits app.editBuffer⟩

end App

end IdentityConsole
