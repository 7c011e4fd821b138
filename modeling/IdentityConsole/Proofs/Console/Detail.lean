import IdentityConsole.Proofs.Console.Answered
import IdentityConsole.Proofs.Console.Commute
import IdentityConsole.Proofs.Records.Edit

/-!
# The record of a detail view

The view of a record shows what was loaded, with the edits made since. A save sends what is shown,
so that only edited members differ from what was loaded.
-/

namespace IdentityConsole

def Change.edit? : Change → Option (Field × String)
  | .edit field value => some (field, value)
  | _ => none

/-- The edits among several changes, in their order. -/
def editsOf (changes : List Change) : List (Field × String) :=
  changes.filterMap Change.edit?

theorem editsOf_cons (change : Change) (rest : List Change) :
    editsOf (change :: rest) = change.edit?.toList ++ editsOf rest := by
  cases change <;> rfl

namespace View

variable (kind : Kind) (id : String)

/-- But for a load, only an edit changes the record that is shown. -/
theorem after_detail {change : Change} (h : change.isLoaded = false)
    (record : Option kind.Record) (notice : Option String) :
    ∃ notice', (View.detail kind id record notice).after change =
      .detail kind id (record.map (Record.edited · change.edit?.toList)) notice' := by
  cases change with
  | result outcome =>
    cases outcome with
    | loaded data => cases h
    | deleted other otherId | failed action error => cases record <;> exact ⟨notice, rfl⟩
    | updated other otherId => cases record <;> exact ⟨_, afterResult_updated_detail ..⟩
  | edit field value => cases record <;> exact ⟨_, rfl⟩
  | save => cases record <;> exact ⟨none, rfl⟩

theorem replay_detail {changes : List Change} (h : ∀ change ∈ changes, change.isLoaded = false)
    (record : Option kind.Record) (notice : Option String) :
    ∃ notice', (View.detail kind id record notice).replay changes =
      .detail kind id (record.map (Record.edited · (editsOf changes))) notice' := by
  induction changes generalizing record notice with
  | nil => cases record <;> exact ⟨notice, rfl⟩
  | cons change rest ih =>
    obtain ⟨first, hfirst⟩ := after_detail kind id (h change List.mem_cons_self) record notice
    obtain ⟨later, hlater⟩ := ih (fun other hmem => h other (List.mem_cons_of_mem _ hmem))
      (record.map (Record.edited · change.edit?.toList)) first
    refine ⟨later, ?_⟩
    have hedits : (record.map (Record.edited · change.edit?.toList)).map
        (Record.edited · (editsOf rest)) =
          record.map (Record.edited · (editsOf (change :: rest))) := by
      rw [Option.map_map, editsOf_cons]
      congr 1
      funext shown
      exact (Record.edited_append shown _ _).symm
    rw [← hedits, ← hlater, ← hfirst]
    rfl

end View

/-- The record that a visit shows: none before one is loaded, and then that one with the edits made
since. -/
inductive Visit.Shows (visit : Visit) (kind : Kind) (id : String) : Option kind.Record → Prop
  | nothing (hnone : ∀ change ∈ visit.changes, change.isLoaded = false) : Shows visit kind id none
  | edited {before after : List Change} {loaded : kind.Record}
      (hchanges : visit.changes = before ++ .result (.loaded (.record kind loaded)) :: after)
      (hloaded : (Task.loadRecord kind id).Yields (.loaded (.record kind loaded)))
      (hbefore : ∀ change ∈ before, change.isLoaded = false)
      (hafter : ∀ change ∈ after, change.isLoaded = false) :
      Shows visit kind id (some (Record.edited loaded (editsOf after)))

theorem Visit.Coherent.shows {visit : Visit} (h : visit.Coherent) {kind : Kind} {id : String}
    (hroute : visit.route = .detail kind id) :
    ∃ record notice, visit.view = .detail kind id record notice ∧ visit.Shows kind id record := by
  have hopened : View.ofRoute visit.route visit.returnTo = .detail kind id none none := by
    rw [hroute]
    rfl
  obtain hnone | ⟨before, data, after, task, hchanges, hbefore, hafter, htask, hyields⟩ :=
    h.loading_or_loaded
  · obtain ⟨notice, hreplay⟩ := View.replay_detail kind id hnone none none
    exact ⟨none, notice, by rw [view, hopened, hreplay]; rfl, .nothing hnone⟩
  · rw [hroute] at htask
    cases htask
    obtain ⟨text, loaded, -, rfl⟩ := hyields.record
    obtain ⟨first, hfirst⟩ := View.replay_detail kind id hbefore none none
    obtain ⟨notice, hlast⟩ := View.replay_detail kind id hafter (some loaded) first
    refine ⟨_, notice, ?_, .edited hchanges hyields hbefore hafter⟩
    have hinstall : (View.detail kind id none first).afterResult (.loaded (.record kind loaded)) =
        .detail kind id (some loaded) first := by
      simp [View.afterResult, View.install?]
    rw [Option.map_none] at hfirst
    rw [view_of_changes hchanges, hopened, hfirst, hinstall]
    exact hlast

/-- What is sent of the record of a visit, by what was received and edited. -/
theorem Visit.Shows.members {visit : Visit} {kind : Kind} {id : String} {shown : kind.Record}
    (h : visit.Shows kind id (some shown)) :
    ∃ before loaded after,
      visit.changes = before ++ .result (.loaded (.record kind loaded)) :: after ∧
      Record.toJson loaded = .object (Record.members loaded).toList ∧
      Record.toJson shown = .object (Record.members shown).toList ∧
      ∀ key, (Record.members shown).get? key =
        ((Record.lastValue? kind key (editsOf after)).map .string).or
          ((Record.members loaded).get? key) := by
  obtain - | @⟨before, after, loaded, hchanges, hloaded, -, -⟩ := h
  obtain ⟨text, record, hdecode, hrecord⟩ := hloaded.record
  cases hrecord
  refine ⟨before, loaded, after, hchanges, Record.toJson_eq_members _,
    Record.toJson_eq_members _, fun key => ?_⟩
  exact Record.get?_members_edited (Record.apart_of_decode hdecode) _ key

namespace Console

variable {console : Console} {kind : Kind} {id : String} {record : Option kind.Record}
  {notice : Option String}

theorem setField?_detail (hview : console.view = .detail kind id record notice) (field : Field)
    (value : String) :
    console.setField? field value = record.map fun shown =>
      { console with view := .detail kind id (some (Record.setField shown field value)) none } := by
  cases record <;> simp [setField?, hview, View.setField?]

theorem save?_detail (hview : console.view = .detail kind id record notice) :
    console.save? = record.map fun shown =>
      { console.begin (.update kind id shown) with view := .detail kind id (some shown) none } := by
  cases record <;> simp [save?, hview, View.clearNotice]

/-- **A detail view shows what was loaded with the edits made since**, and a save sends just that,
in one request. -/
theorem run_detail (address : String) (outside : Outside) (actions : List Action) :
    let chronicle := (Chronicle.start address outside).run actions
    let console := (start address outside).run actions
    chronicle.console = console ∧ console.view = chronicle.visit.view ∧
    (∀ visit ∈ chronicle.visits, ∀ kind id, visit.route = .detail kind id →
      visit.changes.countP Change.isLoaded ≤ 1 ∧
      (∀ data, .result (.loaded data) ∈ visit.changes → ∃ loaded reply,
        data = .record kind loaded ∧
        (start address outside).Answered actions visit.generation (.loadRecord kind id) reply ∧
        reply.HoldsRecord loaded) ∧
      ∃ record notice, visit.view = .detail kind id record notice ∧ visit.Shows kind id record) ∧
    (∀ kind field, Record.member? kind field = none →
      ∀ (shown : kind.Record) value, Record.setField shown field value = shown) ∧
    ∀ kind id record notice, console.view = .detail kind id record notice →
      (∀ field value, console.setField? field value = record.map fun shown =>
        { console with
          view := .detail kind id (some (Record.setField shown field value)) none }) ∧
      console.save?.isSome = record.isSome ∧
      ∀ later, console.save? = some later → ∃ shown, record = some shown ∧
        later.view = .detail kind id (some shown) none ∧
        console.Requests later (.update kind id shown) ∧
        (Task.update kind id shown).request = .put (kind.itemPath id) (Record.toJson shown) ∧
        ∃ before loaded after,
          chronicle.visit.changes = before ++ .result (.loaded (.record kind loaded)) :: after ∧
          Record.toJson loaded = .object (Record.members loaded).toList ∧
          Record.toJson shown = .object (Record.members shown).toList ∧
          ∀ key, (Record.members shown).get? key =
            ((Record.lastValue? kind key (editsOf after)).map .string).or
              ((Record.members loaded).get? key) := by
  intro chronicle console
  have hconsole : chronicle.console = console := Chronicle.run_console _ actions
  have hcoherent : ∀ visit ∈ chronicle.visits, visit.Coherent :=
    Chronicle.coherent_run address outside actions
  have htraced := Chronicle.traced_run address outside actions
  have hview : console.view = chronicle.visit.view := Chronicle.view_run address outside actions
  refine ⟨hconsole, hview, fun visit hmem kind id hroute => ?_,
    fun kind field hfield shown value => Record.setField_of_member?_eq_none hfield shown value,
    fun kind id record notice hdetail => ?_⟩
  · have hvisit := hcoherent visit hmem
    exact ⟨hvisit.loads,
      fun data hloaded => hvisit.answered_record hroute (htraced.applied visit hmem _ hloaded),
      hvisit.shows hroute⟩
  · refine ⟨setField?_detail hdetail, by rw [save?_detail hdetail, Option.isSome_map], ?_⟩
    intro later hsave
    rw [save?_detail hdetail] at hsave
    obtain ⟨shown, rfl, rfl⟩ := Option.map_eq_some_iff.mp hsave
    have hroute : chronicle.visit.route = .detail kind id := by
      rw [← Visit.route_view, ← hview, hdetail]
      rfl
    obtain ⟨record, notice', hrecord, hshows⟩ :=
      (hcoherent _ chronicle.visit_mem_visits).shows hroute
    rw [← hview, hdetail] at hrecord
    cases hrecord
    have hrequests := requests_begin (.update kind id shown) console
    exact ⟨shown, rfl, rfl, hrequests.congr rfl rfl rfl, rfl, hshows.members⟩

end Console

end IdentityConsole
