import IdentityConsole.Proofs.Json.Whole
import IdentityConsole.Proofs.Records.SentBack

/-!
# The numbers of a record

What goes back of a record that was read has no numbers but those of the text it was read from: the
declared fields hold none, but for the conditions of a policy's statements.
-/

namespace IdentityConsole

open Json (Declaration Draft EachItem Kept Dropped SentBack Whole)
open Json.Draft (Denotes)

namespace Json

/-- A field is sent with integers only where it was received with integers only. -/
structure Declaration.KeepsWhole (declaration : Declaration) : Prop where
  absent : ∀ value, declaration.presence = .defaulted value → Whole value
  value : ∀ draft value, declaration.same draft value → draft.Integral → Whole value

namespace Declaration.KeepsWhole

variable {key : String} {same : Draft → Json → Prop}
  (hsame : ∀ draft value, same draft value → draft.Integral → Whole value)

include hsame

theorem required : KeepsWhole ⟨key, .required, same⟩ where
  absent := by rintro _ ⟨⟩
  value := hsame

theorem optional : KeepsWhole ⟨key, .optional, same⟩ where
  absent := by rintro _ ⟨⟩
  value := hsame

theorem defaulted {absent : Json} (habsent : Whole absent) :
    KeepsWhole ⟨key, .defaulted absent, same⟩ where
  absent := by
    rintro _ ⟨⟩
    exact habsent
  value := hsame

end Declaration.KeepsWhole

theorem SentBack.whole {declarations : List Declaration}
    {undeclared : Option Draft → Option Json → Prop} {received : List (String × Draft)}
    {sent : List (String × Json)} (h : SentBack declarations undeclared received sent)
    (hdeclared : ∀ declaration ∈ declarations, declaration.KeepsWhole)
    (hundeclared : ∀ found value, undeclared found (some value) →
      (∀ draft ∈ found, draft.Integral) → Whole value)
    (hreceived : ∀ member ∈ received, member.2.Integral) : Whole (.object sent) := by
  refine .object fun member hmem => ?_
  have hsent := (lookup_eq_some_iff_mem (nodup_of_ordered h.ordered)).mpr hmem
  have hfound : ∀ draft ∈ received.reverse.lookup member.1, draft.Integral := fun draft hdraft =>
    hreceived _ (List.mem_reverse.mp (mem_of_lookup hdraft))
  by_cases hkey : member.1 ∈ declarations.map (·.key)
  · obtain ⟨declaration, hdeclaration, heq⟩ := List.mem_map.mp hkey
    have hreturned := h.declared declaration hdeclaration
    rw [heq, hsent] at hreturned
    generalize received.reverse.lookup member.1 = found at hreturned hfound
    cases hreturned with
    | value _ hsame => exact (hdeclared _ hdeclaration).value _ _ hsame (hfound _ rfl)
    | absent hdefaulted => exact (hdeclared _ hdeclaration).absent _ hdefaulted
  · have hother := h.undeclared _ hkey
    rw [hsent] at hother
    exact hundeclared _ _ hother hfound

theorem whole_empty : Whole (.array []) :=
  .array (List.forall_mem_nil _)

theorem whole_of_kept (found : Option Draft) (value : Json) (h : Kept found (some value))
    (hfound : ∀ draft ∈ found, draft.Integral) : Whole value := by
  cases h with
  | some hvalue => exact whole_of_denotes _ hvalue (hfound _ rfl)

theorem whole_of_eachItem {same : Draft → Json → Prop}
    (hsame : ∀ draft value, same draft value → draft.Integral → Whole value) (draft : Draft)
    (value : Json) (h : EachItem same draft value) (hdraft : draft.Integral) : Whole value := by
  cases h with
  | array hitems =>
    rw [Draft.integral_array] at hdraft
    refine .array fun item hmem => ?_
    obtain ⟨draft, hdraft', hitem⟩ := exists_mem_of_forall₂ hitems hmem
    exact hsame draft item hitem (hdraft draft hdraft')

end Json

open Json.Declaration (KeepsWhole)
open Json (whole_empty whole_of_denotes whole_of_eachItem whole_of_kept)

theorem whole_of_sameInstant (draft : Draft) (value : Json) (h : SameInstant draft value)
    (_ : draft.Integral) : Whole value := by
  cases h
  exact .string _

theorem Effect.whole_of_named (draft : Draft) (value : Json) (h : Named draft value)
    (_ : draft.Integral) : Whole value := by
  cases h <;> exact .string _

theorem Statement.whole_of_returned (draft : Draft) (value : Json) (h : Returned draft value)
    (hdraft : draft.Integral) : Whole value := by
  cases h with
  | @object received sent hshows hsent =>
    refine hsent.whole ?_ ?_ ?_
    · simp only [declarations, List.forall_mem_cons]
      exact ⟨.required Effect.whole_of_named, .defaulted whole_of_denotes whole_empty,
        .defaulted whole_of_denotes whole_empty, .defaulted whole_of_denotes whole_empty,
        .optional whole_of_denotes, List.forall_mem_nil _⟩
    · rintro _ _ ⟨⟩
    · cases hshows with
      | object =>
        intro member hmem
        rw [Draft.ofMembers, Json.Draft.integral_object] at hdraft
        exact hdraft _ (List.mem_map_of_mem hmem)
      | array =>
        rw [Json.Draft.integral_array] at hdraft
        exact fun member hmem => hdraft _ (List.of_mem_zip hmem).2

namespace Form

theorem keepsWhole (form : Form) : ∀ declaration ∈ form.declarations, KeepsWhole declaration := by
  cases form with
  | record kind =>
    cases kind with
    | users =>
      simp only [declarations, User.declarations, List.forall_mem_cons]
      exact ⟨.required whole_of_denotes, .defaulted whole_of_denotes (.string _),
        .defaulted whole_of_denotes (.string _), .optional whole_of_denotes,
        .optional whole_of_denotes, .optional whole_of_sameInstant,
        .optional whole_of_sameInstant, List.forall_mem_nil _⟩
    | groups =>
      simp only [declarations, Group.declarations, List.forall_mem_cons]
      exact ⟨.required whole_of_denotes, .defaulted whole_of_denotes (.string _),
        .defaulted whole_of_denotes (.string _), .defaulted whole_of_denotes (.string _),
        .optional whole_of_sameInstant, .optional whole_of_sameInstant, List.forall_mem_nil _⟩
    | policies =>
      simp only [declarations, Policy.declarations, List.forall_mem_cons]
      exact ⟨.required whole_of_denotes, .optional whole_of_denotes,
        .defaulted whole_of_denotes (.string _), .defaulted whole_of_denotes (.string _),
        .defaulted (whole_of_eachItem Statement.whole_of_returned) whole_empty,
        .optional whole_of_sameInstant, .optional whole_of_sameInstant, List.forall_mem_nil _⟩
  | identity =>
    simp only [declarations, Identity.declarations, List.forall_mem_cons]
    exact ⟨.optional whole_of_denotes, .optional whole_of_denotes, .optional whole_of_denotes,
      List.forall_mem_nil _⟩

theorem whole {form : Form} {depth : Nat} {draft : Draft} {value : form.Value}
    (h : form.decoder depth draft = .ok value) (hdraft : draft.Integral) :
    Whole (toJson value) := by
  obtain ⟨received, sent, rfl, hsent, hback⟩ : ∃ received sent, draft = .ofMembers received ∧
      toJson value = .object sent ∧ SentBack form.declarations Kept received sent := by
    cases form with
    | record kind =>
      cases kind with
      | users => exact User.sentBack h
      | groups => exact Group.sentBack h
      | policies => exact Policy.sentBack h
    | identity => exact Identity.sentBack h
  rw [hsent]
  refine hback.whole form.keepsWhole whole_of_kept fun member hmem => ?_
  rw [Draft.ofMembers, Json.Draft.integral_object] at hdraft
  exact hdraft _ (List.mem_map_of_mem hmem)

end Form

end IdentityConsole
