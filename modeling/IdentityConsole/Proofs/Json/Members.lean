import IdentityConsole.Proofs.Json.Meaning

/-!
# The members a record is read from

Of a record written as an object, a declared member stands at most once, and of several undeclared
ones with one key the last is kept. A record that passes over undeclared members may also be written
as an array, which names its items by their places.
-/

namespace IdentityConsole

section Lookup

variable {α β : Type} {key : String}

theorem lookup_append_singleton (entries : List (String × α)) (entry : String × α) :
    (entries ++ [entry]).lookup key =
      (entries.lookup key).or (if key = entry.1 then some entry.2 else none) := by
  rw [List.lookup_append]
  congr 1
  by_cases heq : key = entry.1
  · rw [if_pos heq, heq]
    exact List.lookup_cons_self
  · rw [if_neg heq, List.lookup_cons, beq_false_of_ne heq]
    rfl

theorem lookup_eq_none_of_not_mem {entries : List (String × α)} (h : key ∉ entries.map Prod.fst) :
    entries.lookup key = none := by
  rw [List.lookup_eq_none_iff]
  intro entry hmem
  rw [bne_iff_ne]
  rintro rfl
  exact h (List.mem_map_of_mem hmem)

/-- A key that stands once has the same value from either end. -/
theorem lookup_reverse_of_count_le {entries : List (String × α)}
    (h : (entries.map Prod.fst).count key ≤ 1) :
    entries.reverse.lookup key = entries.lookup key := by
  induction entries with
  | nil => rfl
  | cons entry rest ih =>
    rw [List.map_cons, List.count_cons] at h
    rw [List.reverse_cons, lookup_append_singleton, ih (by omega), List.lookup_cons]
    by_cases heq : key = entry.1
    · have habsent : key ∉ rest.map Prod.fst := by
        rw [if_pos (beq_iff_eq.mpr heq.symm)] at h
        exact List.count_eq_zero.mp (by omega)
      rw [lookup_eq_none_of_not_mem habsent, if_pos heq, heq, beq_self_eq_true]
      rfl
    · rw [if_neg heq, Option.or_none, beq_false_of_ne heq]

theorem keys_zip_sublist (keys : List String) (values : List α) :
    ((keys.zip values).map Prod.fst).Sublist keys := by
  induction keys generalizing values with
  | nil => exact List.nil_sublist _
  | cons key keys ih =>
    cases values with
    | nil => exact List.nil_sublist _
    | cons value values => exact (ih values).cons_cons key

theorem lookup_filter_of_pos (keep : String → Bool) (hkeep : keep key = true)
    (entries : List (String × α)) :
    (entries.filter (keep ·.1)).lookup key = entries.lookup key := by
  induction entries with
  | nil => rfl
  | cons entry rest ih =>
    rw [List.filter_cons]
    split
    · rw [List.lookup_cons, List.lookup_cons, ih]
    · next hother =>
      have hne : key ≠ entry.1 := fun heq => hother (heq ▸ hkeep)
      rw [List.lookup_cons, beq_false_of_ne hne, ih]

theorem lookup_filter_of_neg (keep : String → Bool) (hkeep : keep key = false)
    (entries : List (String × α)) : (entries.filter (keep ·.1)).lookup key = none := by
  refine lookup_eq_none_of_not_mem fun hmem => ?_
  obtain ⟨entry, hentry, rfl⟩ := List.mem_map.mp hmem
  have hkept := (List.mem_filter.mp hentry).2
  rw [hkeep] at hkept
  cases hkept

theorem forall₂_imp_of_mem {same same' : α → β → Prop} {items : List α} {others : List β}
    (h : List.Forall₂ same items others)
    (himp : ∀ item ∈ items, ∀ other ∈ others, same item other → same' item other) :
    List.Forall₂ same' items others := by
  refine List.forall₂_iff_zip.mpr ⟨h.length_eq, fun hmem => ?_⟩
  obtain ⟨hitem, hother⟩ := List.of_mem_zip hmem
  exact himp _ hitem _ hother (List.forall₂_zip h hmem)

/-- Lists whose entries agree position by position agree under each key. -/
theorem rel_lookup {same : α → β → Prop} {entries : List (String × α)} {others : List (String × β)}
    (h : List.Forall₂ (fun entry other => entry.1 = other.1 ∧ same entry.2 other.2) entries others)
    (key : String) : Option.Rel same (entries.lookup key) (others.lookup key) := by
  induction h with
  | nil => exact .none
  | @cons entry other _ _ hfirst _ ih =>
    rw [List.lookup_cons, List.lookup_cons, ← hfirst.1]
    split
    · exact .some hfirst.2
    · exact ih

end Lookup

namespace Json

/-- The object with these members, as it is read. -/
def Draft.ofMembers (members : List (String × Draft)) : Draft :=
  .object (members.map fun member => (.name member.1, member.2)) true

namespace Shape

variable {shape : Shape} {depth : Nat}

/-- The members from which a record is read. -/
inductive Shows (shape : Shape) : Draft → List (String × Draft) → Prop
  | object (members : List (String × Draft)) : Shows shape (.ofMembers members) members
  | array {leading : Bool} {items : List Draft} (hskipped : shape.undeclared = .skipped leading)
      (hlength : items.length ≤ shape.fields.length) :
      Shows shape (.array items true) ((shape.fields.map (·.key)).zip items)

theorem isSome_field? {key : String} :
    (shape.field? key).isSome ↔ key ∈ shape.fields.map (·.key) := by
  simp [field?]

/-- Members that passed the checks; `seen` holds the declared keys that came before. -/
structure Checked (shape : Shape) (seen : List String) (members : List (String × Draft)) :
    Prop where
  unseen : ∀ key ∈ members.map Prod.fst, (shape.field? key).isSome → key ∉ seen
  once : ∀ key, (shape.field? key).isSome → (members.map Prod.fst).count key ≤ 1

theorem Checked.cons {seen later : List String} {key : String} {draft : Draft}
    {rest : List (String × Draft)} (hrest : shape.Checked later rest) (hlater : seen ⊆ later)
    (hkey : (shape.field? key).isSome → key ∉ seen ∧ key ∈ later) :
    shape.Checked seen ((key, draft) :: rest) where
  unseen := by
    intro other hmem hdeclared
    rcases List.mem_cons.mp hmem with rfl | hmem
    · exact (hkey hdeclared).1
    · exact fun hseen => hrest.unseen other hmem hdeclared (hlater hseen)
  once := by
    intro other hdeclared
    rw [List.map_cons]
    by_cases heq : key = other
    · subst heq
      have habsent : key ∉ rest.map Prod.fst := fun hmem =>
        hrest.unseen key hmem hdeclared (hkey hdeclared).2
      rw [List.count_cons_self, List.count_eq_zero.mpr habsent]
    · rw [List.count_cons_of_ne heq]
      exact hrest.once other hdeclared

theorem checked_of_checkMembers {seen : List String} {drafts : List (Draft.Key × Draft)}
    {members : List (String × Draft)} (h : shape.checkMembers depth seen drafts = .ok members) :
    drafts = members.map (fun member => (.name member.1, member.2)) ∧
      shape.Checked seen members := by
  -- Only a declared key is added to the seen ones, so both branches come down to `Checked.cons`.
  induction drafts generalizing seen members with
  | nil =>
    cases h
    exact ⟨rfl, fun _ hmem => absurd hmem List.not_mem_nil, fun _ _ => Nat.zero_le 1⟩
  | cons first rest ih =>
    obtain ⟨key, draft⟩ := first
    cases key with
    | unpaired | absent => cases h
    | name key =>
      rw [checkMembers] at h
      split at h
      · next field hfield =>
        split at h
        · cases h
        · next hunseen =>
          simp only [bind_eq_ok] at h
          obtain ⟨_, -, others, hothers, h⟩ := h
          cases h
          obtain ⟨hdrafts, hchecked⟩ := ih hothers
          refine ⟨congrArg _ hdrafts, hchecked.cons (List.subset_cons_self _ _) fun _ => ?_⟩
          exact ⟨hunseen, List.mem_cons_self⟩
      · next hfield =>
        simp only [bind_eq_ok] at h
        obtain ⟨_, -, others, hothers, h⟩ := h
        cases h
        obtain ⟨hdrafts, hchecked⟩ := ih hothers
        refine ⟨congrArg _ hdrafts, hchecked.cons (List.Subset.refl _) fun hdeclared => ?_⟩
        rw [hfield] at hdeclared
        cases hdeclared

theorem eq_zip_of_checkItems {fields : List Field} {items : List Draft}
    {members : List (String × Draft)} (h : checkItems depth fields items = .ok members) :
    members = (fields.map (·.key)).zip items := by
  induction fields generalizing items members with
  | nil =>
    cases h
    rfl
  | cons field fields ih =>
    cases items with
    | nil =>
      cases h
      rfl
    | cons draft rest =>
      simp only [checkItems, bind_eq_ok] at h
      obtain ⟨_, -, others, hothers, h⟩ := h
      cases h
      rw [ih hothers]
      rfl

/-- A record is read from the members it shows, each declared one of which stands there once. -/
theorem of_members {draft : Draft} {members : Members}
    (hfields : (shape.fields.map (·.key)).Nodup) (h : shape.members depth draft = .ok members) :
    shape.Shows draft members.members ∧ ∀ key, (shape.field? key).isSome →
      members.members.reverse.lookup key = members.members.lookup key := by
  cases draft with
  | object drafts closed =>
    simp only [Shape.members, bind_eq_ok, whenClosed_eq_ok] at h
    obtain ⟨_, -, checked, hchecked, _, rfl, h⟩ := h
    cases h
    obtain ⟨rfl, honce⟩ := checked_of_checkMembers hchecked
    exact ⟨.object checked, fun key hkey => lookup_reverse_of_count_le (honce.once key hkey)⟩
  | array items closed =>
    simp only [Shape.members] at h
    split at h
    · cases h
    · next leading hskipped =>
      simp only [bind_eq_ok, whenClosed_eq_ok] at h
      obtain ⟨_, -, checked, hchecked, _, rfl, h⟩ := h
      split at h
      · cases h
      · split at h
        · cases h
        · next hlength =>
          cases h
          cases eq_zip_of_checkItems hchecked
          refine ⟨.array hskipped (Nat.not_lt.mp hlength), fun key _ => ?_⟩
          have hnodup := hfields.sublist (keys_zip_sublist (shape.fields.map (·.key)) items)
          exact lookup_reverse_of_count_le (List.nodup_iff_count.mp hnodup key)
  | null | bool value | number literal | string text | broken => exact (not_mismatch h).elim

end Shape

namespace Members

variable {shape : Shape} {members : Members} {others : Dict Json}

theorem find?_eq_lookup (members : Members) (key : String) :
    members.find? key = members.members.lookup key := by
  obtain ⟨_, entries⟩ := members
  unfold find?
  induction entries with
  | nil => rfl
  | cons entry rest ih =>
    rw [List.find?_cons, List.lookup_cons]
    by_cases heq : entry.1 = key
    · simp [heq]
    · rw [decide_eq_false heq, beq_false_of_ne (Ne.symm heq)]
      exact ih

theorem find?_eq_last {depth : Nat} {draft : Draft} (hfields : (shape.fields.map (·.key)).Nodup)
    (h : shape.members depth draft = .ok members) {key : String}
    (hkey : (shape.field? key).isSome) :
    members.find? key = members.members.reverse.lookup key := by
  rw [find?_eq_lookup, (Shape.of_members hfields h).2 key hkey]

theorem exists_values_of_others (h : members.others shape = .ok others) :
    ∃ values, others = .ofList values ∧ List.Forall₂
      (fun member value => member.1 = value.1 ∧ Draft.Denotes member.2 value.2)
      (members.members.filter fun entry => (shape.field? entry.1).isNone) values := by
  obtain ⟨values, hvalues, h⟩ := bind_eq_ok.mp h
  cases h
  refine ⟨values, rfl, (mapM_eq_ok_iff.mp hvalues).imp fun member value hmember => ?_⟩
  obtain ⟨found, hfound, h⟩ := bind_eq_ok.mp hmember
  cases h
  exact ⟨rfl, denotes_of_json member.2 hfound⟩

/-- Under a key that is not declared, the value of the last member with it is kept. -/
theorem others_of_undeclared (h : members.others shape = .ok others) {key : String}
    (hkey : shape.field? key = none) :
    Option.Rel Draft.Denotes (members.members.reverse.lookup key) (others.get? key) := by
  obtain ⟨values, rfl, hvalues⟩ := exists_values_of_others h
  have hkept := lookup_filter_of_pos (fun key => (shape.field? key).isNone)
    (Option.isNone_iff_eq_none.mpr hkey) members.members.reverse
  have hrel := rel_lookup (List.forall₂_reverse_iff.mpr hvalues) key
  rw [← List.filter_reverse, hkept] at hrel
  rwa [Dict.get?_ofList]

theorem others_of_declared (h : members.others shape = .ok others) {key : String}
    (hkey : (shape.field? key).isSome) : others.get? key = none := by
  obtain ⟨values, rfl, hvalues⟩ := exists_values_of_others h
  have hleft := lookup_filter_of_neg (fun key => (shape.field? key).isNone)
    (Option.isNone_eq_false_iff.mpr hkey) members.members.reverse
  have hrel := rel_lookup (List.forall₂_reverse_iff.mpr hvalues) key
  rw [← List.filter_reverse, hleft, ← Dict.get?_ofList] at hrel
  cases hother : (Dict.ofList values).get? key with
  | none => rfl
  | some value =>
    rw [hother] at hrel
    cases hrel

end Members

end Json

end IdentityConsole
