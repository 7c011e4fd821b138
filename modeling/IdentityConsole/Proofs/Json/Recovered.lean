import IdentityConsole.Proofs.Json.Reordered

/-!
# Values are recovered from what is written for them

What is written for a value may have the members of its objects in any order. The same decoder reads
the same value from it, provided that its numbers are written as they are read.
-/

namespace IdentityConsole.Json

theorem Fits.json_reordered {depth : Nat} {value : Json} (h : Fits depth value) {written : Json}
    (hreordered : Reordered value written) (hwhole : Whole written) :
    Decoder.json depth written.draft = .ok value := by
  induction h generalizing written with
  | null | bool value | string text =>
    cases hreordered
    rfl
  | number value =>
    cases hreordered
    cases hwhole with
    | int hword => simp only [draft, Decoder.json, value?_ofInt hword]
    | negativeZero => simp only [draft, Decoder.json, value?_negativeZero]
  | @array depth items hdepth _ ih =>
    cases hreordered with
    | @array _ others hitems =>
      cases hwhole with
      | array hwhole =>
        have hread : Decoder.json.jsonItems (depth - 1) (draft.itemDrafts others) = .ok items := by
          rw [jsonItems_eq, items_eq_ok_iff, itemDrafts_eq_map, List.forall₂_map_left_iff]
          refine List.Forall₂.flip (forall₂_imp_of_mem hitems ?_)
          exact fun item hmem other hother hsame => ih item hmem hsame (hwhole other hother)
        rw [draft, Decoder.json, deeper_eq_ok.mpr ⟨hdepth, rfl⟩, ok_bind, hread]
        rfl
  | @object depth members hdepth hordered _ ih =>
    obtain ⟨shuffled, others, rfl, hshuffled, hmembers⟩ := hreordered.of_object
    cases hwhole with
    | object hwhole =>
      -- The members are read in the order in which they were written, and then put in order.
      have hread : Decoder.json.jsonMembers (depth - 1) (draft.memberDrafts others) =
          .ok shuffled := by
        rw [jsonMembers_eq, entries_eq_ok_iff, memberDrafts_eq_map, List.forall₂_map_left_iff]
        refine List.Forall₂.flip (forall₂_imp_of_mem hmembers ?_)
        rintro member hmember other hother ⟨hkey, hsame⟩
        have hmem := hshuffled.mem_iff.mpr hmember
        exact ⟨congrArg Draft.Key.name hkey.symm, ih member hmem hsame (hwhole other hother)⟩
      rw [draft, Decoder.json, deeper_eq_ok.mpr ⟨hdepth, rfl⟩, ok_bind, hread, ok_bind]
      have hback : (Dict.ofList shuffled).toList = members := by
        rw [Dict.ofList_eq_of_perm hshuffled (nodup_of_ordered hordered),
          Dict.toList_ofList hordered]
      exact congrArg (fun members => Except.ok (Json.object members)) hback

/-- From whatever is written for it, the value is decoded. -/
def Decoder.Recovers {α : Type} (decoder : Decoder α) (depth : Nat) (value : α) (sent : Json) :
    Prop :=
  ∀ written, Reordered sent written → Whole written → decoder depth written.draft = .ok value

/-- What was decoded is decoded once more from what is written for it. -/
def Decoder.Rereads {α : Type} (decoder : Decoder α) (write : α → Json) (depth : Nat) : Prop :=
  ∀ {draft : Draft} {value : α}, decoder depth draft = .ok value →
    decoder.Recovers depth value (write value)

theorem recovers_text (expected : Expected) (depth : Nat) (text : String) :
    (Decoder.textFor expected).Recovers depth text (.string text) := by
  rintro _ ⟨⟩ -
  rfl

section Each

variable {α : Type} {inner : Decoder α} {write : α → Json} {depth : Nat}

theorem recovers_list {values : List α} (hdepth : 1 < depth)
    (h : ∀ value ∈ values, inner.Recovers (depth - 1) value (write value)) :
    (Decoder.list inner).Recovers depth values (.array (values.map write)) := by
  rintro _ (_ | _ | _ | _ | ⟨hitems⟩) (_ | _ | _ | _ | _ | ⟨hwhole⟩)
  rename_i others
  have hread : Decoder.items inner (depth - 1) (draft.itemDrafts others) = .ok values := by
    rw [items_eq_ok_iff, itemDrafts_eq_map, List.forall₂_map_left_iff]
    rw [List.forall₂_map_left_iff] at hitems
    refine List.Forall₂.flip (forall₂_imp_of_mem hitems ?_)
    exact fun value hmem other hother hsame => h value hmem other hsame (hwhole other hother)
  rw [draft, Decoder.list, deeper_eq_ok.mpr ⟨hdepth, rfl⟩, ok_bind, hread]
  rfl

theorem rereads_list (hinner : inner.Rereads write (depth - 1)) :
    (Decoder.list inner).Rereads (fun values => .array (values.map write)) depth := by
  intro draft values h
  unfold Decoder.list at h
  split at h
  · simp only [bind_eq_ok, deeper_eq_ok] at h
    obtain ⟨_, ⟨hdepth, rfl⟩, items, hitems, _, -, h⟩ := h
    cases h
    refine recovers_list hdepth fun value hmem => ?_
    obtain ⟨draft, -, hvalue⟩ := exists_mem_of_forall₂ (items_eq_ok_iff.mp hitems) hmem
    exact hinner hvalue
  · exact (not_mismatch h).elim

end Each

theorem json_object (depth : Nat) (drafts : List (Draft.Key × Draft)) (closed : Bool) :
    Decoder.json depth (.object drafts closed) =
      (Decoder.dict Decoder.json depth (.object drafts closed)).map (.object ·.toList) := by
  simp only [Decoder.dict, Decoder.json, jsonMembers_eq, ofMembers]
  cases deeper depth with
  | error fault => rfl
  | ok inner =>
    simp only [ok_bind]
    cases Decoder.entries Decoder.json inner drafts with
    | error fault => rfl
    | ok entries => cases closed <;> rfl

theorem rereads_values (depth : Nat) :
    (Decoder.dict Decoder.json).Rereads (.object ·.toList) depth := by
  intro draft dict h
  cases draft with
  | object drafts closed =>
    have hfits : Fits depth (.object dict.toList) :=
      fits_of_json (.object drafts closed) (by rw [json_object, h]; rfl)
    intro written hreordered hwhole
    have hread := hfits.json_reordered hreordered hwhole
    obtain ⟨_, others, rfl, -⟩ := hreordered.of_object
    rw [draft, json_object] at hread
    rw [draft]
    cases hdict : Decoder.dict Decoder.json depth (.object (draft.memberDrafts others) true) with
    | error fault =>
      rw [hdict] at hread
      cases hread
    | ok other =>
      rw [hdict] at hread
      obtain ⟨entries, _⟩ := other
      obtain ⟨_, _⟩ := dict
      cases hread
      rfl
  | null | bool value | number literal | string text | array items closed | broken =>
    exact (not_mismatch h).elim

end IdentityConsole.Json
