import Mathlib.Data.List.Nodup
import IdentityConsole.Proofs.Json.Members

/-!
# Members in another order

The members of an object may be written in any order: a dictionary holds them by their keys. So what
is read as a value is read as the same value where its members stand in another order.
-/

namespace IdentityConsole

section Lookup

variable {α : Type} {key : String} {entries others : List (String × α)}

theorem lookup_eq_some_iff_mem (hkeys : (entries.map Prod.fst).Nodup) {value : α} :
    entries.lookup key = some value ↔ (key, value) ∈ entries := by
  induction entries with
  | nil => simp
  | cons entry rest ih =>
    obtain ⟨hfirst, hrest⟩ := List.nodup_cons.mp hkeys
    obtain ⟨other, kept⟩ := entry
    rw [List.lookup_cons, List.mem_cons, Prod.mk.injEq]
    by_cases heq : key = other
    · subst heq
      have habsent : (key, value) ∉ rest := fun hmem => hfirst (List.mem_map.mpr ⟨_, hmem, rfl⟩)
      simp [habsent, eq_comm]
    · rw [beq_false_of_ne heq]
      simp [heq, ih hrest]

theorem mem_of_lookup {value : α} (h : entries.lookup key = some value) :
    (key, value) ∈ entries := by
  obtain ⟨before, after, rfl, -⟩ := List.lookup_eq_some_iff.mp h
  exact List.mem_append_cons_self

theorem nodup_of_ordered (h : entries.Pairwise fun entry later => entry.1 < later.1) :
    (entries.map Prod.fst).Nodup := by
  rw [List.Nodup, List.pairwise_map]
  refine h.imp fun {entry later} hlt heq => ?_
  rw [heq] at hlt
  exact String.lt_irrefl _ hlt

theorem lookup_eq_of_perm (hperm : entries.Perm others) (hkeys : (entries.map Prod.fst).Nodup) :
    others.lookup key = entries.lookup key := by
  ext value
  rw [lookup_eq_some_iff_mem hkeys, lookup_eq_some_iff_mem ((hperm.map _).nodup_iff.mp hkeys),
    hperm.mem_iff]

theorem lookup_reverse_of_nodup (hkeys : (entries.map Prod.fst).Nodup) :
    entries.reverse.lookup key = entries.lookup key :=
  lookup_reverse_of_count_le (List.nodup_iff_count.mp hkeys key)

/-- A dictionary is what it holds under each key. -/
theorem Dict.eq_of_get? {dict other : Dict α} (h : ∀ key, dict.get? key = other.get? key) :
    dict = other := by
  obtain ⟨entries, hentries⟩ := dict
  obtain ⟨others, hothers⟩ := other
  have hnodup := nodup_of_ordered hentries
  have hnodup' := nodup_of_ordered hothers
  have hperm : entries.Perm others := by
    rw [List.perm_ext_iff_of_nodup hnodup.of_map hnodup'.of_map]
    intro entry
    rw [← lookup_eq_some_iff_mem hnodup, ← lookup_eq_some_iff_mem hnodup']
    exact iff_of_eq (congrArg (· = some entry.2) (h entry.1))
  have hasymm : ∀ entry later : String × α, entry ∈ entries → later ∈ others →
      entry.1 < later.1 → later.1 < entry.1 → entry = later :=
    fun entry later _ _ hlt hgt => absurd hgt (String.lt_asymm hlt)
  cases hperm.eq_of_pairwise hasymm hentries hothers
  rfl

/-- The order in which entries with different keys are put in does not matter. -/
theorem Dict.ofList_eq_of_perm (hperm : entries.Perm others)
    (hkeys : (entries.map Prod.fst).Nodup) : Dict.ofList others = Dict.ofList entries := by
  refine Dict.eq_of_get? fun key => ?_
  rw [Dict.get?_ofList, Dict.get?_ofList, lookup_reverse_of_nodup hkeys,
    lookup_reverse_of_nodup ((hperm.map _).nodup_iff.mp hkeys), lookup_eq_of_perm hperm hkeys]

end Lookup

section Pointwise

variable {α β : Type} {same : α → β → Prop}

theorem exists_mem_of_forall₂ {items : List α} {others : List β}
    (h : List.Forall₂ same items others) {other : β} (hmem : other ∈ others) :
    ∃ item ∈ items, same item other := by
  induction h with
  | nil => cases hmem
  | cons hfirst _ ih =>
    rcases List.mem_cons.mp hmem with rfl | hmem
    · exact ⟨_, List.mem_cons_self, hfirst⟩
    · obtain ⟨item, hitem, hsame⟩ := ih hmem
      exact ⟨item, List.mem_cons_of_mem _ hitem, hsame⟩

theorem forall₂_of_keys {entries : List (String × α)} {others : List (String × β)}
    (hkeys : entries.map (·.1) = others.map (·.1))
    (hvalues : List.Forall₂ same (entries.map (·.2)) (others.map (·.2))) :
    List.Forall₂ (fun entry other => entry.1 = other.1 ∧ same entry.2 other.2) entries others := by
  induction entries generalizing others with
  | nil =>
    rw [List.map_eq_nil_iff.mp hkeys.symm]
    exact .nil
  | cons entry rest ih =>
    cases others with
    | nil => cases hkeys
    | cons other others =>
      obtain ⟨hkey, hkeys⟩ := List.cons.inj hkeys
      obtain ⟨hvalue, hvalues⟩ := List.forall₂_cons.mp hvalues
      exact .cons ⟨hkey, hvalue⟩ (ih hkeys hvalues)

end Pointwise

namespace Json

/-- The same value, but for the order of the members in its objects. -/
inductive Reordered : Json → Json → Prop
  | null : Reordered .null .null
  | bool (value : Bool) : Reordered (.bool value) (.bool value)
  | number (value : Number) : Reordered (.number value) (.number value)
  | string (text : String) : Reordered (.string text) (.string text)
  | array {items others : List Json} (hitems : List.Forall₂ Reordered items others) :
      Reordered (.array items) (.array others)
  | object {members shuffled others : List (String × Json)} (hshuffled : members.Perm shuffled)
      (hkeys : shuffled.map (·.1) = others.map (·.1))
      (hvalues : List.Forall₂ Reordered (shuffled.map (·.2)) (others.map (·.2))) :
      Reordered (.object members) (.object others)

mutual

theorem Reordered.refl : ∀ value : Json, Reordered value value
  | .null => .null
  | .bool value => .bool value
  | .number value => .number value
  | .string text => .string text
  | .array items => .array (reordered_items items)
  | .object members => .object (.refl members) rfl (reordered_values members)

theorem reordered_items : ∀ items : List Json, List.Forall₂ Reordered items items
  | [] => .nil
  | item :: rest => .cons (.refl item) (reordered_items rest)

theorem reordered_values : ∀ members : List (String × Json),
    List.Forall₂ Reordered (members.map (·.2)) (members.map (·.2))
  | [] => .nil
  | (_, value) :: rest => .cons (.refl value) (reordered_values rest)

end

/-- The members of a value that was put in order by its keys, in whatever order they were before. -/
theorem Reordered.ofMembers {members : List (String × Json)}
    (hkeys : (members.map Prod.fst).Nodup) :
    Reordered (.ofMembers members) (.object members) := by
  refine .object ?_ rfl (reordered_values members)
  have hordered := nodup_of_ordered (Dict.ofList members).ordered
  rw [List.perm_ext_iff_of_nodup hordered.of_map hkeys.of_map]
  intro member
  rw [← lookup_eq_some_iff_mem hordered, ← lookup_eq_some_iff_mem hkeys,
    ← lookup_reverse_of_nodup hkeys, ← Dict.get?_ofList]
  rfl

theorem Reordered.eq_null {value written : Json} (h : Reordered value written)
    (hdraft : written.draft = .null) : value = .null := by
  cases h with
  | null => rfl
  | number value => cases value <;> cases hdraft
  | bool | string | array | object => cases hdraft

theorem Reordered.of_object {members : List (String × Json)} {written : Json}
    (h : Reordered (.object members) written) :
    ∃ shuffled others, written = .object others ∧ members.Perm shuffled ∧ List.Forall₂
      (fun member other => member.1 = other.1 ∧ Reordered member.2 other.2) shuffled others := by
  cases h with
  | object hshuffled hkeys hvalues =>
    exact ⟨_, _, rfl, hshuffled, forall₂_of_keys hkeys hvalues⟩

theorem Whole.reordered {value : Json} (h : Whole value) {written : Json}
    (hreordered : Reordered value written) : Whole written := by
  induction h generalizing written with
  | null | bool value | string text =>
    cases hreordered
    constructor
  | int hword =>
    cases hreordered
    exact .int hword
  | negativeZero =>
    cases hreordered
    exact .negativeZero
  | array _ ih =>
    cases hreordered with
    | array hitems =>
      refine .array fun other hmem => ?_
      obtain ⟨item, hitem, hsame⟩ := exists_mem_of_forall₂ hitems hmem
      exact ih item hitem hsame
  | object _ ih =>
    obtain ⟨shuffled, others, rfl, hshuffled, hmembers⟩ := hreordered.of_object
    refine .object fun other hmem => ?_
    obtain ⟨member, hmember, -, hsame⟩ := exists_mem_of_forall₂ hmembers hmem
    exact ih member (hshuffled.mem_iff.mpr hmember) hsame

end Json

end IdentityConsole
