import IdentityConsole.Proofs.Console.Change

/-!
# Results that commute

Deletions commute with each other, and so do confirmations and failures. Loaded data commutes with
all but other loaded data and a deletion: what is loaded after a deletion may show the row again.
-/

namespace IdentityConsole

/-- The two results of which the later one decides. -/
def Outcome.clashes : Outcome → Outcome → Bool
  | .loaded _, .loaded _ => true
  | .loaded _, .deleted .. => true
  | .deleted .., .loaded _ => true
  | _, _ => false

theorem eq_of_countP_le_one {α : Type} {p : α → Bool} {l : List α} (h : l.countP p ≤ 1)
    {x y : α} (hx : x ∈ l) (hy : y ∈ l) (hpx : p x = true) (hpy : p y = true) : x = y := by
  have hx : x ∈ l.filter p := List.mem_filter.mpr ⟨hx, hpx⟩
  have hy : y ∈ l.filter p := List.mem_filter.mpr ⟨hy, hpy⟩
  rw [List.countP_eq_length_filter] at h
  generalize l.filter p = kept at h hx hy
  cases kept with
  | nil => cases hx
  | cons z rest =>
    have hrest : rest = [] := List.eq_nil_of_length_eq_zero (by simpa using h)
    rw [hrest, List.mem_singleton] at hx hy
    rw [hx, hy]

namespace View

theorem afterResult_deleted_list (shown kind : Kind) (id : String) (rows : List shown.Record) :
    (View.list shown (some rows)).afterResult (.deleted kind id) =
      .list shown (some (if shown = kind then rows.filter (Record.id · ≠ id) else rows)) := by
  by_cases hkind : shown = kind
  · subst hkind
    by_cases hany : rows.any (Record.id · = id) = true
    · simp [afterResult, remove?, hany]
    · have hkept : rows.filter (Record.id · ≠ id) = rows := by
        rw [List.filter_eq_self]
        intro row hmem
        simp only [List.any_eq_true, not_exists, not_and] at hany
        simpa using hany row hmem
      rw [if_pos rfl, hkept]
      simp [afterResult, remove?, hany]
  · simp [afterResult, remove?, hkind]

theorem afterResult_updated_detail (shown kind : Kind) (shownId id : String)
    (record : Option shown.Record) (notice : Option String) :
    (View.detail shown shownId record notice).afterResult (.updated kind id) =
      .detail shown shownId record
        (if shown = kind ∧ shownId = id then some (updatedNotice kind) else notice) := by
  simp only [afterResult, markUpdated?]
  split <;> rfl

theorem afterResult_loaded_list (shown : Kind) (rows : Option (List shown.Record))
    (data : Loaded) :
    ∃ rows', (View.list shown rows).afterResult (.loaded data) = .list shown rows' := by
  cases data with
  | rows other records =>
    simp only [afterResult, install?]
    split
    · exact ⟨_, rfl⟩
    · exact ⟨rows, rfl⟩
  | record other record => exact ⟨rows, rfl⟩

/-- Whether loaded data is installed depends neither on what is shown already nor on the notice. -/
theorem afterResult_loaded_detail (shown : Kind) (shownId : String) (data : Loaded) :
    ∃ installed : Option shown.Record → Option shown.Record, ∀ record notice,
      (View.detail shown shownId record notice).afterResult (.loaded data) =
        .detail shown shownId (installed record) notice := by
  cases data with
  | rows other records => exact ⟨id, fun record notice => rfl⟩
  | record other loaded =>
    by_cases hkind : other = shown
    · subst hkind
      exact ⟨fun _ => some loaded, fun record notice => by simp [afterResult, install?]⟩
    · exact ⟨id, fun record notice => by simp [afterResult, install?, hkind]⟩

/-! ### Results that commute -/

theorem afterResult_deleted_comm (kind kind' : Kind) (id id' : String) (view : View) :
    (view.afterResult (.deleted kind id)).afterResult (.deleted kind' id') =
      (view.afterResult (.deleted kind' id')).afterResult (.deleted kind id) := by
  cases view with
  | list shown rows =>
    cases rows with
    | none => rfl
    | some rows =>
      simp only [afterResult_deleted_list]
      split <;> split <;> simp [List.filter_filter, Bool.and_comm]
  | login returnTo | dashboard | detail shown shownId record notice => rfl

theorem afterResult_deleted_updated (kind kind' : Kind) (id id' : String) (view : View) :
    (view.afterResult (.deleted kind id)).afterResult (.updated kind' id') =
      (view.afterResult (.updated kind' id')).afterResult (.deleted kind id) := by
  cases view with
  | list shown rows =>
    cases rows with
    | none => rfl
    | some rows =>
      rw [afterResult_deleted_list]
      exact (afterResult_deleted_list ..).symm
  | detail shown shownId record notice =>
    rw [afterResult_updated_detail]
    exact afterResult_updated_detail ..
  | login returnTo | dashboard => rfl

theorem afterResult_loaded_updated (data : Loaded) (kind : Kind) (id : String) (view : View) :
    (view.afterResult (.loaded data)).afterResult (.updated kind id) =
      (view.afterResult (.updated kind id)).afterResult (.loaded data) := by
  cases view with
  | list shown rows =>
    obtain ⟨rows', hloaded⟩ := afterResult_loaded_list shown rows data
    rw [hloaded]
    exact hloaded.symm
  | detail shown shownId record notice =>
    obtain ⟨installed, hloaded⟩ := afterResult_loaded_detail shown shownId data
    rw [hloaded, afterResult_updated_detail, afterResult_updated_detail, hloaded]
  | login returnTo | dashboard => cases data <;> rfl

theorem afterResult_updated_comm (kind kind' : Kind) (id id' : String) (view : View) :
    (view.afterResult (.updated kind id)).afterResult (.updated kind' id') =
      (view.afterResult (.updated kind' id')).afterResult (.updated kind id) := by
  cases view with
  | detail shown shownId record notice =>
    simp only [afterResult_updated_detail]
    -- Two confirmations that both concern the record shown note the same.
    have hnotice : ∀ {kind kind' : Kind} {id id' : String}, (shown = kind ∧ shownId = id) →
        (shown = kind' ∧ shownId = id') → updatedNotice kind = updatedNotice kind' := by
      rintro _ _ _ _ ⟨rfl, -⟩ ⟨rfl, -⟩
      rfl
    split
    · split
      · next h' h => rw [hnotice h' h]
      · rfl
    · rfl
  | login returnTo | dashboard | list shown rows => rfl

theorem afterResult_comm {first second : Outcome} (h : first.clashes second = false)
    (view : View) :
    (view.afterResult first).afterResult second =
      (view.afterResult second).afterResult first := by
  cases first with
  | failed action error => rfl
  | loaded data =>
    cases second with
    | failed action error => rfl
    | updated kind id => exact afterResult_loaded_updated data kind id view
    | loaded data' | deleted kind id => cases h
  | deleted kind id =>
    cases second with
    | failed action error => rfl
    | updated kind' id' => exact afterResult_deleted_updated kind kind' id id' view
    | deleted kind' id' => exact afterResult_deleted_comm kind kind' id id' view
    | loaded data => cases h
  | updated kind id =>
    cases second with
    | failed action error => rfl
    | updated kind' id' => exact afterResult_updated_comm kind kind' id id' view
    | deleted kind' id' => exact (afterResult_deleted_updated kind' kind id' id view).symm
    | loaded data => exact (afterResult_loaded_updated data kind id view).symm

/-- With one load at most, and no deletion beside it, the order of results does not matter. -/
theorem foldl_afterResult_perm {first second : List Outcome} (hperm : first.Perm second)
    (hloads : first.countP Outcome.isLoaded ≤ 1)
    (hapart : ∀ outcome ∈ first, outcome.isLoaded = true →
      ∀ other ∈ first, other.isDeleted = false) (view : View) :
    first.foldl afterResult view = second.foldl afterResult view := by
  refine hperm.foldl_eq' ?_ view
  intro outcome hmem other hmem' shown
  by_cases heq : outcome = other
  · rw [heq]
  · refine afterResult_comm ?_ shown
    cases outcome with
    | loaded data =>
      cases other with
      | loaded data' =>
        exact absurd (eq_of_countP_le_one hloads hmem hmem' rfl rfl) heq
      | deleted kind id => cases hapart _ hmem rfl _ hmem'
      | updated kind id | failed action error => rfl
    | deleted kind id =>
      cases other with
      | loaded data => cases hapart _ hmem' rfl _ hmem
      | deleted kind' id' | updated kind' id' | failed action error => rfl
    | updated kind id | failed action error => rfl

/-- A deletion that is confirmed before the rows arrive is lost. -/
example :
    let group : Group := ⟨"g", "", "admins", "", none, none, .empty⟩
    let rows := Outcome.loaded (.rows .groups [group])
    let gone := Outcome.deleted .groups "g"
    (((ofRoute (.list .groups) none).afterResult rows).afterResult gone).rowIds = [] ∧
      (((ofRoute (.list .groups) none).afterResult gone).afterResult rows).rowIds = ["g"] := by
  decide

end View

end IdentityConsole
