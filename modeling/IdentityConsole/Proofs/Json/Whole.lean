import IdentityConsole.Proofs.Json.Reordered

/-!
# The numbers of a text

Where all numbers of a text are integers of 64 bits, so are those of the value it stands for, but
that `-0` is read as the negative zero.
-/

namespace IdentityConsole.Json

/-- The numbers as they are written, from the first to the last. -/
def Draft.numbers : Draft → List Literal
  | .number literal => [literal]
  | .array items _ => itemNumbers items
  | .object members _ => memberNumbers members
  | _ => []
where
  itemNumbers : List Draft → List Literal
    | [] => []
    | item :: rest => numbers item ++ itemNumbers rest
  memberNumbers : List (Key × Draft) → List Literal
    | [] => []
    | (_, value) :: rest => numbers value ++ memberNumbers rest

/-- All numbers of a text are integers of 64 bits. -/
def Draft.Integral (draft : Draft) : Prop :=
  ∀ literal ∈ draft.numbers, literal.IsInteger

instance (draft : Draft) : Decidable draft.Integral :=
  inferInstanceAs (Decidable (∀ _ ∈ _, _))

open Draft (Denotes Integral)

theorem Draft.integral_array {items : List Draft} {closed : Bool} :
    (Draft.array items closed).Integral ↔ ∀ item ∈ items, item.Integral := by
  unfold Integral
  rw [Draft.numbers]
  induction items with
  | nil => simp [Draft.numbers.itemNumbers]
  | cons item rest ih =>
    rw [Draft.numbers.itemNumbers, List.forall_mem_append, List.forall_mem_cons, ih]

theorem Draft.integral_object {members : List (Key × Draft)} {closed : Bool} :
    (Draft.object members closed).Integral ↔ ∀ member ∈ members, member.2.Integral := by
  unfold Integral
  rw [Draft.numbers]
  induction members with
  | nil => simp [Draft.numbers.memberNumbers]
  | cons member rest ih =>
    rw [Draft.numbers.memberNumbers, List.forall_mem_append, List.forall_mem_cons, ih]

mutual

theorem whole_of_denotes : ∀ (draft : Draft) {value : Json}, Denotes draft value →
    draft.Integral → Whole value
  | .null, _, .null, _ => .null
  | .bool _, _, .bool value, _ => .bool value
  | .number literal, _, .number _ hread, h => by
    rcases value?_of_isInteger (h literal List.mem_cons_self) with hint | hzero
    · rw [hint] at hread
      cases hread
      exact .int (h literal List.mem_cons_self).2.2
    · rw [hzero] at hread
      cases hread
      exact .negativeZero
  | .string _, _, .string text, _ => .string text
  | .array drafts _, _, .array hitems, h =>
    .array (whole_of_items drafts hitems (Draft.integral_array.mp h))
  | .object drafts _, _, .object hkeys hvalues hordered hlast, h => by
    have hwhole := whole_of_values drafts hvalues (Draft.integral_object.mp h)
    refine .object fun member hmem => ?_
    have hlookup := (lookup_eq_some_iff_mem (nodup_of_ordered hordered)).mpr hmem
    rw [hlast] at hlookup
    exact hwhole _ (List.mem_map_of_mem (List.mem_reverse.mp (mem_of_lookup hlookup)))

theorem whole_of_items : ∀ (drafts : List Draft) {items : List Json},
    List.Forall₂ Denotes drafts items → (∀ draft ∈ drafts, draft.Integral) →
    ∀ item ∈ items, Whole item
  | [], _, .nil, _ => fun _ hmem => absurd hmem List.not_mem_nil
  | draft :: rest, _, .cons hfirst hrest, h => by
    rw [List.forall_mem_cons] at h ⊢
    exact ⟨whole_of_denotes draft hfirst h.1, whole_of_items rest hrest h.2⟩

theorem whole_of_values : ∀ (drafts : List (Draft.Key × Draft)) {values : List Json},
    List.Forall₂ Denotes (drafts.map (·.2)) values → (∀ draft ∈ drafts, draft.2.Integral) →
    ∀ value ∈ values, Whole value
  | [], _, .nil, _ => fun _ hmem => absurd hmem List.not_mem_nil
  | (_, draft) :: rest, _, .cons hfirst hrest, h => by
    rw [List.forall_mem_cons] at h ⊢
    exact ⟨whole_of_denotes draft hfirst h.1, whole_of_values rest hrest h.2⟩

end

end IdentityConsole.Json
