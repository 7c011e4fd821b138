import IdentityConsole.Proofs.App.Cursor
import IdentityConsole.Proofs.App.Editor
import IdentityConsole.Proofs.App.Resemblance

/-!
# An editor that is closed again

The editor opens with the text of its field, and closing it writes that text back. That changes
nothing but the notice, unless a user lacks the field: it reads as an empty text all the same, and
is sent as one from then on.
-/

namespace IdentityConsole

/-- A user need not have a name or an email. -/
def User.lacks (user : User) : Field → Bool
  | .name => user.name.isNone
  | .email => user.email.isNone
  | .description => false

theorem User.setField_field_eq_self_iff (user : User) (field : Field) :
    user.setField field (user.field field) = user ↔ user.lacks field = false := by
  obtain ⟨id, accountId, desc, name, email, createdAt, updatedAt, others⟩ := user
  cases field with
  | name => cases name <;> simp [lacks, setField, User.field]
  | email => cases email <;> simp [lacks, setField, User.field]
  | description => exact ⟨fun _ => rfl, fun _ => rfl⟩

namespace Record

variable {kind : Kind}

/-- The record has no text of its own in a field. -/
def lacks : {kind : Kind} → kind.Record → Field → Bool
  | .users => User.lacks
  | .groups | .policies => fun _ _ => false

/-- A record with the text of a field written back. -/
def rewritten (record : kind.Record) (field : Field) : kind.Record :=
  setField record field (Record.field record field)

theorem rewritten_eq_self_iff (record : kind.Record) (field : Field) :
    rewritten record field = record ↔ lacks record field = false := by
  cases kind with
  | users => exact User.setField_field_eq_self_iff record field
  | groups | policies => cases field <;> exact ⟨fun _ => rfl, fun _ => rfl⟩

theorem field_of_lacks {record : kind.Record} {field : Field} (h : lacks record field = true) :
    Record.field record field = "" := by
  cases kind with
  | users =>
    cases field with
    | name | email => exact congrArg (·.getD "") (Option.isNone_iff_eq_none.mp h)
    | description => cases h
  | groups | policies => cases h

theorem get?_members_of_lacks {record : kind.Record} (hapart : Apart record) {field : Field}
    {member : String} (hmember : member? kind field = some member)
    (h : lacks record field = true) : (members record).get? member = none := by
  rw [members, Json.lookup_written_append, hapart member (mem_declarations_of_member? hmember),
    Option.none_or]
  cases kind with
  | users =>
    cases field with
    | name | email =>
      have hnone := Option.isNone_iff_eq_none.mp h
      cases hmember
      simp [Form.declarations, User.declarations, values, User.values, hnone,
        Json.lookup_written_cons]
    | description => cases h
  | groups | policies => cases h

/-- Where a record lacks the field, its member is sent from then on. -/
theorem get?_members_rewritten {record : kind.Record} (hapart : Apart record) {field : Field}
    (h : lacks record field = true) :
    ∃ member, member? kind field = some member ∧ (members record).get? member = none ∧
      ∀ key, (members (rewritten record field)).get? key =
        if key = member then some (.string "") else (members record).get? key := by
  obtain ⟨member, hmember⟩ : ∃ member, member? kind field = some member := by
    cases kind with
    | users => cases field <;> exact ⟨_, rfl⟩
    | groups | policies => cases h
  refine ⟨member, hmember, get?_members_of_lacks hapart hmember h, fun key => ?_⟩
  rw [rewritten, field_of_lacks h, get?_members_setField hapart hmember]

end Record

namespace App

variable {app : App} {kind : Kind} {id : String} {record : kind.Record} {notice : Option String}
  {field : Field} {key : Key}

/-! ### The editor is opened -/

/-- The app with the editor open on a text. -/
def editing (app : App) (value : String) : App :=
  { app with editBuffer := value, mode := .editing }

section Opened

variable (hview : app.view = .detail kind id (some record) notice)
  (hmode : app.mode.takesCommands = true) (hfield : app.selectedField? = some field)

include hview hfield

theorem edits_editing (value : String) :
    (app.editing value).Edits kind id record field app.selection := by
  refine ⟨rfl, ⟨notice, hview⟩, ?_, rfl⟩
  unfold selectedField? at hfield
  rwa [hview] at hfield

include hmode

theorem press_edit (hkey : key = .char 'e' ∨ key = .enter) (reply : Http.Reply) :
    app.step (.press key reply) = app.editing (Record.field record field) := by
  have hlogin : app.view.isLogin = false := by rw [hview]; rfl
  have hpress : app.pressOnScreen key = app.startEdit := by
    have hscreen : app.pressOnScreen key = app.pressOnView key := by
      rcases hkey with rfl | rfl <;> rfl
    rw [hscreen]
    unfold pressOnView
    rw [hview]
    rcases hkey with rfl | rfl <;> rfl
  have hvalue : app.view.field? field = some (Record.field record field) := by rw [hview]; rfl
  rw [step, press_of_takesCommands hlogin hmode, hpress]
  unfold startEdit
  rw [hfield, Option.bind_some, hvalue]
  rfl

end Opened

/-! ### Until a key is pressed -/

/-- What happens without a key. -/
def Unattended (actions : List Action) : Prop :=
  ∀ action ∈ actions, ∀ key reply, action ≠ .press key reply

theorem step_takesCommands {action : Action} (hkeyless : ∀ key reply, action ≠ .press key reply)
    (h : app.mode.takesCommands = true) : (app.step action).mode.takesCommands = true := by
  cases action with
  | press key reply => exact absurd rfl (hkeyless key reply)
  | tick =>
    simp only [step, tick]
    split
    · exact h
    · split
      · rfl
      · exact h
  | respond | late | outside => exact h

theorem run_takesCommands {actions : List Action} (hunattended : Unattended actions)
    (h : app.mode.takesCommands = true) : (app.run actions).mode.takesCommands = true := by
  induction actions generalizing app with
  | nil => exact h
  | cons action rest ih =>
    exact ih (fun later hmem => hunattended later (List.mem_cons_of_mem _ hmem))
      (step_takesCommands (hunattended action List.mem_cons_self) h)

theorem tick_editing_eq {value : String} (hmode : (app.editing value).tick.mode = .editing) :
    (app.editing value).tick = app.tick.editing value := by
  have hconsole : (app.editing value).console = app.console := rfl
  have hseen : (app.editing value).seenRedirects = app.seenRedirects := rfl
  unfold tick at hmode ⊢
  rw [hconsole] at hmode ⊢
  generalize app.console.poll = polled at hmode ⊢
  obtain ⟨applied, console⟩ := polled
  dsimp only at hmode ⊢
  rw [hseen] at hmode ⊢
  by_cases happlied : applied = 0
  · rw [if_pos happlied, if_pos happlied]
    rfl
  · rw [if_neg happlied] at hmode ⊢
    rw [if_neg happlied]
    by_cases hexpired : console.loginRedirects ≠ app.seenRedirects
    · rw [if_pos hexpired] at hmode
      cases hmode
    · rw [if_neg hexpired, if_neg hexpired]
      rfl

/-- Unless the editor is closed by a redirect to login, what happens does not depend on it. -/
theorem step_editing_eq {action : Action} (hkeyless : ∀ key reply, action ≠ .press key reply)
    {value : String} (hmode : ((app.editing value).step action).mode = .editing) :
    (app.editing value).step action = (app.step action).editing value := by
  cases action with
  | press key reply => exact absurd rfl (hkeyless key reply)
  | tick => exact tick_editing_eq hmode
  | respond | late | outside => rfl

/-- Meanwhile the editor stays on its field. -/
theorem run_editing {value : String} {selection : Nat} (hsound : (app.editing value).Sound)
    (hvisits : (app.editing value).console.Chronicled Visit.Coherent)
    (hedits : (app.editing value).Edits kind id record field selection) {meanwhile : List Action}
    (hunattended : Unattended meanwhile)
    (hmode : ((app.editing value).run meanwhile).mode = .editing) :
    (app.editing value).run meanwhile = (app.run meanwhile).editing value ∧
      ((app.editing value).run meanwhile).Edits kind id record field selection := by
  induction meanwhile using List.reverseRecOn with
  | nil => exact ⟨rfl, hedits⟩
  | append_singleton meanwhile action ih =>
    have hkeyless := hunattended action (List.mem_concat_self ..)
    have hsound' : ((app.editing value).run meanwhile).Sound :=
      run_induction (fun _ action h => h.step action) hsound meanwhile
    have hvisits' : ((app.editing value).run meanwhile).console.Chronicled Visit.Coherent :=
      run_induction (motive := fun app => app.console.Chronicled Visit.Coherent)
        (fun _ action h => chronicled_step Visit.Coherent.invariant h action) hvisits meanwhile
    rw [run_concat] at hmode
    rcases step_editing hsound' hvisits'.recorded hmode with
      ⟨-, key, reply, _, _, _, _, hpress, -⟩ | ⟨hbefore, hkeeps⟩
    · exact absurd hpress (hkeyless key reply)
    · obtain ⟨hrun, hedits'⟩ :=
        ih (fun later hmem => hunattended later (List.mem_append_left _ hmem)) hbefore
      rw [run_concat, run_concat]
      refine ⟨?_, hkeeps _ _ _ _ _ hedits'⟩
      rw [hrun] at hmode ⊢
      exact step_editing_eq hkeyless hmode

/-! ### The editor is closed -/

/-- The app where the text of a field was written back. -/
def reclosed (app : App) (kind : Kind) (id : String) (record : kind.Record) (field : Field) : App :=
  { app with
    console := { app.console with
      view := .detail kind id (some (Record.rewritten record field)) none }
    editBuffer := ""
    mode := .normal }

theorem step_enter_editing {selection : Nat}
    (h : (app.editing (Record.field record field)).Edits kind id record field selection)
    (reply : Http.Reply) :
    (app.editing (Record.field record field)).step (.press .enter reply) =
      app.reclosed kind id record field := by
  rw [step, h.press_enter]
  rfl

theorem resembles_reclosed (hview : app.view = .detail kind id (some record) notice)
    (hmode : app.mode.takesCommands = true) (h : Record.lacks record field = false) :
    app.Resembles (app.reclosed kind id record field) where
  console := by
    refine Console.resembles_of_clearNotice ?_
    rw [(Record.rewritten_eq_self_iff record field).mpr h]
    exact (congrArg View.clearNotice hview).symm
  config := rfl
  configFile := rfl
  mode := .inr ⟨hmode, rfl⟩
  form := rfl
  selection := rfl
  editBuffer hediting := absurd hediting (Mode.ne_editing_of_takesCommands hmode)
  pathInput := rfl
  seenRedirects := rfl

/-- **An editor that is closed again changes nothing** that is sent later, but where a user lacks
the field: the user is then sent with an empty one. -/
theorem run_reopened (address : String) (config : Config) (configFile : ConfigFile)
    (outside : Outside) (actions : List Action) :
    let app := (opened address config configFile outside).run actions
    (∀ (kind : Kind) (record : kind.Record) (field : Field),
      Record.setField record field (Record.field record field) = record ↔
        Record.lacks record field = false) ∧
    ∀ (kind : Kind) (id : String) (record : kind.Record) (notice : Option String) (field : Field)
      (key : Key) (reply reply' : Http.Reply) (meanwhile : List Action),
      app.view = .detail kind id (some record) notice → app.mode.takesCommands = true →
      app.selectedField? = some field → key = .char 'e' ∨ key = .enter →
      Unattended meanwhile → (app.run (.press key reply :: meanwhile)).mode = .editing →
      let closed := app.run (.press key reply :: meanwhile ++ [.press .enter reply'])
      closed = (app.run meanwhile).reclosed kind id record field ∧
      (Record.lacks record field = false →
        Record.toJson (Record.rewritten record field) = Record.toJson record ∧
        ∀ later, (closed.run later).console.outside =
          ((app.run meanwhile).run later).console.outside) ∧
      (Record.lacks record field = true → ∃ member, Record.member? kind field = some member ∧
        (Record.members record).get? member = none ∧
        ∀ key, (Record.members (Record.rewritten record field)).get? key =
          if key = member then some (.string "") else (Record.members record).get? key) := by
  intro app
  refine ⟨fun _ => Record.rewritten_eq_self_iff, ?_⟩
  intro kind id record notice field key reply reply' meanwhile hview hmode hfield hkey hunattended
    hediting closed
  have hsound : app.Sound := sound_run address config configFile outside actions
  have hvisits : app.console.Chronicled Visit.Coherent :=
    chronicled_run Visit.Coherent.invariant address config configFile outside actions
  have hopened := press_edit hview hmode hfield hkey reply
  rw [run_cons, hopened] at hediting
  obtain ⟨hrun, hedits⟩ := run_editing (hopened ▸ hsound.step (.press key reply))
    (hopened ▸ chronicled_step Visit.Coherent.invariant hvisits (.press key reply))
    (edits_editing hview hfield (Record.field record field)) hunattended hediting
  rw [hrun] at hedits
  have hclosed : closed = (app.run meanwhile).reclosed kind id record field := by
    rw [← step_enter_editing hedits reply', ← hrun, ← hopened, ← run_cons, ← run_concat]
  refine ⟨hclosed, fun h => ⟨?_, fun later => ?_⟩, fun h => ?_⟩
  · exact congrArg Record.toJson ((Record.rewritten_eq_self_iff record field).mpr h)
  · obtain ⟨notice', hview'⟩ : ∃ notice', (app.run meanwhile).view =
        .detail kind id (some record) notice' := hedits.view
    have hresembles := resembles_reclosed hview' (run_takesCommands hunattended hmode) h
    rw [hclosed]
    exact (hresembles.run later).console.outside.symm
  · obtain ⟨visit, hshows⟩ := hvisits.shows hview
    exact Record.get?_members_rewritten hshows.apart h

/-- Alice opens a user who has neither a name nor an email. -/
def openingNameless : List Action :=
  [.press (.char '2') .dropped,
    .respond 0 (.response 200 (Text.Utf8.encode "\x7b\"data\":[\x7b\"id\":\"u1\"\x7d]\x7d") true),
    .tick, .press .enter .dropped,
    .respond 0 (.response 200 (Text.Utf8.encode "\x7b\"id\":\"u1\"\x7d") true), .tick]

def nameless : User :=
  ⟨"u1", "", "", none, none, none, none, .empty⟩

/-- Saved as she is she is sent without a name, and with an empty one after the editor was opened
and closed. -/
theorem run_reopened_nameless :
    let app := aliceOpened.run openingNameless
    let saved (keys : List Key) :=
      ((app.run ((keys ++ [Key.char 's']).map (.press · .dropped))).console.outside.sent.map
        (·.body)).getLast?
    app.view.field? .name = some "" ∧ app.selectedField? = some .name ∧
    saved [] = some (some (.object
      [("account_id", .string ""), ("desc", .string ""), ("id", .string "u1")])) ∧
    saved [.char 'e', .enter] = some (some (.object
      [("account_id", .string ""), ("desc", .string ""), ("id", .string "u1"),
        ("name", .string "")])) ∧
    ¬ ∀ (kind : Kind) (record : kind.Record), ∀ field ∈ Record.fields kind,
      Record.setField record field (Record.field record field) = record := by
  have hnameless : User.setField nameless .name (User.field nameless .name) ≠ nameless := by
    decide +kernel
  exact ⟨by decide +kernel, by decide +kernel, by decide +kernel, by decide +kernel,
    fun h => hnameless (h .users nameless .name List.mem_cons_self)⟩

end App

end IdentityConsole
