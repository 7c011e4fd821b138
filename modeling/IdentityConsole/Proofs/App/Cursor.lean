import IdentityConsole.Proofs.App.Run

/-!
# The cursor

In every run the cursor stands on a row or a field, as long as there is one. It is a place, not a
record: when results take rows away it keeps its place among those that remain. So it stays on a
record unless a row above it is taken away, and then stands on a record further down.
-/

namespace IdentityConsole

/-- What is kept of a list stands after what is kept of all that stood before it. -/
theorem getElem?_filter_countP {α : Type} {p : α → Bool} {list : List α} {index : Nat} {value : α}
    (h : list[index]? = some value) (hkept : p value = true) :
    (list.filter p)[(list.take index).countP p]? = some value := by
  obtain ⟨hlt, rfl⟩ := List.getElem?_eq_some_iff.mp h
  have hsplit : list.filter p =
      (list.take index).filter p ++ list[index] :: (list.drop (index + 1)).filter p := by
    rw [← List.filter_cons_of_pos hkept, ← List.drop_eq_getElem_cons hlt, ← List.filter_append,
      List.take_append_drop]
  rw [hsplit, List.countP_eq_length_filter, List.getElem?_append_right (Nat.le_refl _),
    Nat.sub_self]
  rfl

/-- It has moved up by as many places as values before it were taken away. -/
theorem getElem?_filter_sub {p : String → Bool} {list : List String} {index : Nat} {value : String}
    (h : list[index]? = some value) (hmem : value ∈ list.filter p) :
    (list.filter p)[index - (list.take index).countP (· ∉ list.filter p)]? = some value := by
  have hlt := (List.getElem?_eq_some_iff.mp h).1
  have hremoved : (list.take index).countP (· ∉ list.filter p) =
      (list.take index).countP fun other => ¬ p other := by
    refine List.countP_congr fun other hother => ?_
    have hlist := List.mem_of_mem_take hother
    simp [List.mem_filter, hlist]
  -- What stands before the value is kept or removed, which makes `index` values together.
  have hlength := List.length_eq_countP_add_countP p (l := list.take index)
  rw [List.length_take, Nat.min_eq_left (Nat.le_of_lt hlt)] at hlength
  have hplace : index - (list.take index).countP (· ∉ list.filter p) =
      (list.take index).countP p := by
    rw [hremoved]
    omega
  rw [hplace]
  exact getElem?_filter_countP h (List.mem_filter.mp hmem).2

theorem View.rowIds_remaining {kind : Kind} (changes : List Change) (rows : List kind.Record) :
    (View.list kind (some (remaining changes rows))).rowIds =
      (View.list kind (some rows)).rowIds.filter
        fun id => (kind, id) ∉ changes.filterMap Change.deleted? := by
  simp only [rowIds, remaining, List.filter_map]
  rfl

namespace App

variable {app : App}

/-! ### There is something under the cursor -/

theorem selectableCount_of_listKind? {kind : Kind} (h : app.view.listKind? = some kind) :
    app.selectableCount = app.view.rowCount := by
  obtain ⟨rows, hview⟩ := View.eq_list_of_listKind? h
  unfold selectableCount
  rw [hview]

theorem fields_ne_nil (kind : Kind) : Record.fields kind ≠ [] := by
  cases kind <;> decide

namespace Sound

variable {kind : Kind}

theorem exists_row (h : app.Sound) {rows : List kind.Record}
    (hview : app.view = .list kind (some rows)) (hrows : rows ≠ []) :
    ∃ row, rows[app.selection]? = some row ∧
      app.view.rowId? app.selection = some (Record.id row) := by
  have hcount : app.selectableCount = rows.length := by
    unfold selectableCount
    rw [hview]
    simp [View.rowCount, View.rowIds]
  have hlt : app.selection < rows.length := by
    have hpositive := List.length_pos_iff.mpr hrows
    rcases h.selection with hzero | hlt
    · omega
    · omega
  refine ⟨rows[app.selection], List.getElem?_eq_getElem hlt, ?_⟩
  rw [hview]
  simp [View.rowId?, View.rowIds, List.getElem?_eq_getElem hlt]

theorem exists_field (h : app.Sound) {id : String} {record : Option kind.Record}
    {notice : Option String} (hview : app.view = .detail kind id record notice) :
    ∃ field, app.selectedField? = some field := by
  have hlt : app.selection < (Record.fields kind).length := by
    have hpositive := List.length_pos_iff.mpr (fields_ne_nil kind)
    have hselection := h.selection
    rw [selectableCount_detail hview] at hselection
    omega
  refine ⟨(Record.fields kind)[app.selection], ?_⟩
  unfold selectedField?
  rw [hview]
  exact List.getElem?_eq_getElem hlt

end Sound

/-- **The cursor is in range in every run**: it is on a row where there are rows, and on a field of
every record. -/
theorem run_selection (address : String) (config : Config) (configFile : ConfigFile)
    (outside : Outside) (actions : List Action) :
    let app := (opened address config configFile outside).run actions
    (app.selection = 0 ∨ app.selection < app.selectableCount) ∧
    (∀ kind rows, app.view = .list kind (some rows) → rows ≠ [] →
      ∃ row, rows[app.selection]? = some row ∧
        app.view.rowId? app.selection = some (Record.id row)) ∧
    ∀ kind id record notice, app.view = .detail kind id record notice →
      ∃ field, app.selectedField? = some field := by
  intro app
  have hsound : app.Sound := sound_run address config configFile outside actions
  exact ⟨hsound.selection, fun kind rows => hsound.exists_row,
    fun kind id record notice => hsound.exists_field⟩

/-! ### The cursor keeps its place -/

/-- The tick shows the login view, or says that the session has expired. -/
def ForcesLogin (app : App) : Prop :=
  app.tick.view.isLogin = true ∨ app.tick.seenRedirects ≠ app.seenRedirects

instance (app : App) : Decidable app.ForcesLogin :=
  inferInstanceAs (Decidable (_ ∨ _))

/-- A tick that forces no login puts all that waits into the view, and keeps the cursor in range. -/
theorem tick_of_not_forcesLogin (h : ¬ app.ForcesLogin) :
    app.tick.view = app.view.replay (app.console.awaited.map .result) ∧
    (app.console.awaited = [] ∧ app.tick.selection = app.selection ∨
      app.tick.selection = min app.selection (app.tick.selectableCount - 1)) := by
  obtain ⟨hlogin, hseen⟩ := not_or.mp h
  have hticked := app.ticked
  generalize app.tick = later at hticked hlogin hseen
  cases hticked with
  | nothing hnone =>
    rw [hnone]
    exact ⟨rfl, .inl ⟨rfl, rfl⟩⟩
  | refreshed hconsole => exact ⟨hconsole.view, .inr (refresh_selection _)⟩
  | foreseen hview hredirects => exact absurd hview hlogin
  | expired hredirects => exact absurd hredirects hseen

theorem tick_listKind? {kind : Kind} (hkind : app.view.listKind? = some kind)
    (hforced : ¬ app.ForcesLogin) : app.tick.view.listKind? = some kind := by
  obtain ⟨rows, hview⟩ := View.eq_list_of_listKind? hkind
  refine View.listKind?_of_route_eq ?_
  rw [(tick_of_not_forcesLogin hforced).1, View.route_replay, hview]
  rfl

theorem tick_place {kind : Kind} (hkind : app.view.listKind? = some kind)
    (hforced : ¬ app.ForcesLogin) (hlt : app.selection < app.view.rowCount) :
    app.tick.selection = min app.selection (app.tick.view.rowCount - 1) := by
  obtain ⟨hlater, ⟨hnone, hselection⟩ | hselection⟩ := tick_of_not_forcesLogin hforced
  · have hsame : app.tick.view = app.view := by
      rw [hlater, hnone]
      rfl
    rw [hselection, hsame]
    omega
  · rw [selectableCount_of_listKind? (tick_listKind? hkind hforced)] at hselection
    exact hselection

/-- Without another load the rows that were not deleted remain, in their order. -/
theorem tick_rows {kind : Kind} {rows : List kind.Record}
    (hview : app.view = .list kind (some rows)) (hforced : ¬ app.ForcesLogin)
    (hloaded : ∀ outcome ∈ app.console.awaited, outcome.isLoaded = false) :
    app.tick.view = .list kind (some (remaining (app.console.awaited.map .result) rows)) := by
  rw [(tick_of_not_forcesLogin hforced).1, hview,
    View.replay_list (Change.isLoaded_of_mem_results hloaded), Option.map_some]

/-- **The cursor keeps its place among the rows that remain.** Unless the list is loaded once more,
which never happens in a run, the rows are those that were not deleted; and so the cursor stays on
its record if none above it was, and else the record has moved up by as many rows. -/
theorem tick_selection {kind : Kind} {rows : List kind.Record} {id : String}
    (hview : app.view = .list kind (some rows)) (hforced : ¬ app.ForcesLogin)
    (hrow : app.view.rowId? app.selection = some id) :
    let later := app.tick
    let removed := (app.view.rowIds.take app.selection).countP (· ∉ later.view.rowIds)
    later.selection = min app.selection (later.view.rowCount - 1) ∧
    (later.view.rowId? app.selection = some id →
      later.view.rowId? later.selection = some id) ∧
    ((∀ outcome ∈ app.console.awaited, outcome.isLoaded = false) →
      later.view =
        .list kind (some (remaining (app.console.awaited.map .result) rows)) ∧
      (id ∈ later.view.rowIds →
        later.view.rowId? (app.selection - removed) = some id ∧
        (removed = 0 → later.view.rowId? later.selection = some id))) ∧
    ∀ address config configFile outside actions,
      app = (opened address config configFile outside).run actions →
      ∀ outcome ∈ app.console.awaited, outcome.isLoaded = false := by
  intro later removed
  have hkind : app.view.listKind? = some kind := by rw [hview]; rfl
  have hplace : later.selection = min app.selection (later.view.rowCount - 1) :=
    tick_place hkind hforced (List.getElem?_eq_some_iff.mp hrow).1
  have hstays : later.view.rowId? app.selection = some id →
      later.view.rowId? later.selection = some id := by
    intro hkept
    have hlt : app.selection < later.view.rowCount := (List.getElem?_eq_some_iff.mp hkept).1
    have hsame : later.selection = app.selection := by omega
    rw [hsame]
    exact hkept
  refine ⟨hplace, hstays, fun hloaded => ?_, ?_⟩
  · have hrows : later.view =
        .list kind (some (remaining (app.console.awaited.map .result) rows)) :=
      tick_rows hview hforced hloaded
    have hrowIds : later.view.rowIds = app.view.rowIds.filter
        fun id => (kind, id) ∉ (app.console.awaited.map .result).filterMap Change.deleted? := by
      rw [hrows, View.rowIds_remaining, hview]
    refine ⟨hrows, fun hmem => ?_⟩
    have hmoved : later.view.rowId? (app.selection - removed) = some id := by
      simp only [View.rowId?, removed]
      rw [hrowIds] at hmem ⊢
      exact getElem?_filter_sub hrow hmem
    refine ⟨hmoved, fun hnone => hstays ?_⟩
    rw [hnone, Nat.sub_zero] at hmoved
    exact hmoved
  · rintro address config configFile outside actions rfl
    have hvisits :=
      chronicled_run Visit.Coherent.invariant address config configFile outside actions
    refine hvisits.recorded.not_isLoaded ?_
    rw [App.view] at hview
    rw [hview]
    rfl

def threeGroups : String :=
  "\x7b\"data\":[\x7b\"id\":\"a\"\x7d,\x7b\"id\":\"b\"\x7d,\x7b\"id\":\"c\"\x7d]\x7d"

def aliceOpened : App :=
  opened "http://identity" .initial (.inHome "/home/alice" .absent) (.aliceStored .never)

/-- Alice lists three groups, deletes one, goes on to another and hears that the first is gone. -/
def deletingOne (down : Nat) (next : Key) : List Action :=
  [.press (.char '3') .dropped,
    .respond 0 (.response 200 (Text.Utf8.encode threeGroups) true), .tick] ++
  List.replicate down (.press .down .dropped) ++
  [.press (.char 'd') .dropped, .press next .dropped, .respond 0 (.response 204 [] true)]

theorem exists_rows {kind : Kind}
    (h : app.view.listKind? = some kind ∧ app.view.isLoading = false) :
    ∃ rows, app.view = .list kind (some rows) := by
  obtain ⟨rows, hview⟩ := View.eq_list_of_listKind? h.1
  have hloaded := h.2
  cases rows with
  | none =>
    rw [hview] at hloaded
    cases hloaded
  | some rows => exact ⟨rows, hview⟩

/-- The row below the cursor is taken away. -/
theorem tick_selection_below :
    let app := aliceOpened.run (deletingOne 1 .up)
    app.view.rowId? app.selection = some "a" ∧ app.tick.view.rowIds = ["a", "c"] ∧
      app.tick.view.rowId? app.tick.selection = some "a" := by
  intro app
  obtain ⟨hlisted, hrow, hforced, hrowIds, hremoved⟩ :
      (app.view.listKind? = some .groups ∧ app.view.isLoading = false) ∧
      app.view.rowId? app.selection = some "a" ∧ ¬ app.ForcesLogin ∧
      app.tick.view.rowIds = ["a", "c"] ∧
      (app.view.rowIds.take app.selection).countP (· ∉ app.tick.view.rowIds) = 0 := by
    decide +kernel
  obtain ⟨rows, hview⟩ := exists_rows hlisted
  obtain ⟨-, -, hkept, hruns⟩ := tick_selection hview hforced hrow
  have hunloaded := hruns _ _ _ _ (deletingOne 1 .up) rfl
  exact ⟨hrow, hrowIds, ((hkept hunloaded).2 (by rw [hrowIds]; decide)).2 hremoved⟩

/-- The row above the cursor is taken away: the cursor is on `b`, which remains, and then on `c`. -/
theorem tick_selection_above :
    let app := aliceOpened.run (deletingOne 0 .down)
    app.view.rowId? app.selection = some "b" ∧ app.tick.view.rowIds = ["b", "c"] ∧
    app.tick.view.rowId? app.tick.selection = some "c" ∧
    ¬ ∀ (app : App) (kind : Kind) (rows : List kind.Record) (id : String),
      app.view = .list kind (some rows) → ¬ app.ForcesLogin →
      app.view.rowId? app.selection = some id → id ∈ app.tick.view.rowIds →
      app.tick.view.rowId? app.tick.selection = some id := by
  intro app
  obtain ⟨hlisted, hrow, hforced, hrowIds, hlater⟩ :
      (app.view.listKind? = some .groups ∧ app.view.isLoading = false) ∧
      app.view.rowId? app.selection = some "b" ∧ ¬ app.ForcesLogin ∧
      app.tick.view.rowIds = ["b", "c"] ∧
      app.tick.view.rowId? app.tick.selection = some "c" := by
    decide +kernel
  obtain ⟨rows, hview⟩ := exists_rows hlisted
  refine ⟨hrow, hrowIds, hlater, fun h => ?_⟩
  have hsame := h app .groups rows "b" hview hforced hrow (by rw [hrowIds]; decide)
  rw [hlater] at hsame
  exact absurd hsame (by decide)

end App

end IdentityConsole
