import Mathlib.Data.List.Forall2
import IdentityConsole.Proofs.Json.Written

/-!
# Decoded values

A value that was decoded nests less deep than was allowed, and the members of its objects are in
order.
-/

namespace IdentityConsole

theorem bind_eq_ok {ε α β : Type} {x : Except ε α} {f : α → Except ε β} {b : β} :
    x >>= f = .ok b ↔ ∃ a, x = .ok a ∧ f a = .ok b := by
  cases x with
  | error e =>
    constructor
    · rintro ⟨⟩
    · rintro ⟨a, ⟨⟩, -⟩
  | ok a =>
    constructor
    · exact fun h => ⟨a, rfl, h⟩
    · rintro ⟨_, ⟨⟩, h⟩
      exact h

@[simp]
theorem ok_bind {ε α β : Type} (a : α) (f : α → Except ε β) : (Except.ok a >>= f) = f a := rfl

theorem of_mapError_eq_ok {ε ε' α : Type} {x : Except ε α} {f : ε → ε'} {a : α}
    (h : x.mapError f = .ok a) : x = .ok a := by
  cases x with
  | error e => cases h
  | ok b =>
    cases h
    rfl

theorem eq_ok_of_toOption {ε α : Type} {x : Except ε α} {a : α} (h : x.toOption = some a) :
    x = .ok a := by
  cases x with
  | error e => cases h
  | ok b => rw [Option.some.inj h]

theorem exists_eq_error_of_toOption {ε α : Type} {x : Except ε α} (h : x.toOption = none) :
    ∃ e, x = .error e := by
  cases x with
  | error e => exact ⟨e, rfl⟩
  | ok b => cases h

theorem mapM_eq_ok_iff {ε α β : Type} {f : α → Except ε β} {items : List α} {results : List β} :
    items.mapM f = .ok results ↔
      List.Forall₂ (fun item result => f item = .ok result) items results := by
  induction items generalizing results with
  | nil =>
    rw [List.forall₂_nil_left_iff, List.mapM_nil]
    exact ⟨fun h => (Except.ok.inj h).symm, fun h => h ▸ rfl⟩
  | cons item rest ih =>
    simp only [List.mapM_cons, bind_eq_ok, List.forall₂_cons_left_iff]
    constructor
    · rintro ⟨first, hfirst, others, hothers, h⟩
      cases h
      exact ⟨first, others, hfirst, ih.mp hothers, rfl⟩
    · rintro ⟨first, others, hfirst, hothers, rfl⟩
      exact ⟨first, hfirst, others, ih.mpr hothers, rfl⟩

namespace Json

/-- Values that nest less deep than a limit, with the members of objects in order of their keys. -/
inductive Fits : Nat → Json → Prop
  | null {depth : Nat} : Fits depth .null
  | bool {depth : Nat} (value : Bool) : Fits depth (.bool value)
  | number {depth : Nat} (value : Number) : Fits depth (.number value)
  | string {depth : Nat} (text : String) : Fits depth (.string text)
  | array {depth : Nat} {items : List Json} (hdepth : 1 < depth)
      (hitems : ∀ item ∈ items, Fits (depth - 1) item) : Fits depth (.array items)
  | object {depth : Nat} {members : List (String × Json)} (hdepth : 1 < depth)
      (hordered : members.Pairwise fun entry later => entry.1 < later.1)
      (hmembers : ∀ member ∈ members, Fits (depth - 1) member.2) : Fits depth (.object members)

theorem Fits.mono {depth : Nat} {value : Json} (h : Fits depth value) {depth' : Nat}
    (hle : depth ≤ depth') : Fits depth' value := by
  induction h generalizing depth' with
  | null => exact .null
  | bool value => exact .bool value
  | number value => exact .number value
  | string text => exact .string text
  | array hdepth _ ih =>
    exact .array (by omega) fun item hmem => ih item hmem (by omega)
  | object hdepth hordered _ ih =>
    exact .object (by omega) hordered fun member hmem => ih member hmem (by omega)

theorem deeper_eq_ok {depth inner : Nat} :
    deeper depth = .ok inner ↔ 1 < depth ∧ inner = depth - 1 := by
  unfold deeper
  split
  · constructor
    · rintro ⟨⟩
    · rintro ⟨hdepth, -⟩
      omega
  · rw [Except.ok.injEq]
    constructor
    · rintro rfl
      exact ⟨by omega, rfl⟩
    · rintro ⟨-, rfl⟩
      rfl

mutual

theorem fits_of_json : ∀ (draft : Draft) {depth : Nat} {value : Json},
    Decoder.json depth draft = .ok value → Fits depth value
  | .null, _, _, h => Except.ok.inj h ▸ .null
  | .bool value, _, _, h => Except.ok.inj h ▸ .bool value
  | .number literal, depth, value, h => by
    rw [Decoder.json] at h
    split at h
    · exact Except.ok.inj h ▸ .number _
    · cases h
  | .string (some text), _, _, h => Except.ok.inj h ▸ .string text
  | .string none, _, _, h => nomatch h
  | .array drafts closed, depth, value, h => by
    simp only [Decoder.json, bind_eq_ok, deeper_eq_ok] at h
    obtain ⟨_, ⟨hdepth, rfl⟩, items, hitems, _, -, h⟩ := h
    cases h
    exact .array hdepth (fits_of_jsonItems drafts hitems)
  | .object drafts closed, depth, value, h => by
    simp only [Decoder.json, bind_eq_ok, deeper_eq_ok] at h
    obtain ⟨_, ⟨hdepth, rfl⟩, members, hmembers, _, -, h⟩ := h
    cases h
    refine .object hdepth (Dict.ofList members).ordered fun member hmem => ?_
    exact fits_of_jsonMembers drafts hmembers member (Dict.mem_ofList hmem)
  | .broken, _, _, h => nomatch h

theorem fits_of_jsonItems : ∀ (drafts : List Draft) {depth : Nat} {items : List Json},
    Decoder.json.jsonItems depth drafts = .ok items → ∀ item ∈ items, Fits depth item
  | [], _, _, h => by
    cases h
    exact fun _ hmem => absurd hmem List.not_mem_nil
  | draft :: rest, depth, items, h => by
    simp only [Decoder.json.jsonItems, bind_eq_ok] at h
    obtain ⟨first, hfirst, others, hothers, h⟩ := h
    cases h
    intro item hmem
    rcases List.mem_cons.mp hmem with rfl | hmem
    · exact fits_of_json draft hfirst
    · exact fits_of_jsonItems rest hothers item hmem

theorem fits_of_jsonMembers : ∀ (drafts : List (Draft.Key × Draft)) {depth : Nat}
    {members : List (String × Json)}, Decoder.json.jsonMembers depth drafts = .ok members →
    ∀ member ∈ members, Fits depth member.2
  | [], _, _, h => by
    cases h
    exact fun _ hmem => absurd hmem List.not_mem_nil
  | (.name key, draft) :: rest, depth, members, h => by
    simp only [Decoder.json.jsonMembers, bind_eq_ok] at h
    obtain ⟨first, hfirst, others, hothers, h⟩ := h
    cases h
    intro member hmem
    rcases List.mem_cons.mp hmem with rfl | hmem
    · exact fits_of_json draft hfirst
    · exact fits_of_jsonMembers rest hothers member hmem
  | (.unpaired, _) :: _, _, _, h => nomatch h
  | (.absent, _) :: _, _, _, h => nomatch h

end

/-! ### Lists and objects of one form -/

section Each

variable {α : Type} {inner : Decoder α} {depth : Nat}

theorem items_eq_mapM (drafts : List Draft) :
    Decoder.items inner depth drafts = drafts.mapM (inner depth) := by
  induction drafts with
  | nil => rfl
  | cons draft rest ih => rw [Decoder.items, List.mapM_cons, ih]

theorem items_eq_ok_iff {drafts : List Draft} {values : List α} :
    Decoder.items inner depth drafts = .ok values ↔
      List.Forall₂ (fun draft value => inner depth draft = .ok value) drafts values := by
  rw [items_eq_mapM, mapM_eq_ok_iff]

theorem entries_eq_ok_iff {drafts : List (Draft.Key × Draft)} {entries : List (String × α)} :
    Decoder.entries inner depth drafts = .ok entries ↔
      List.Forall₂ (fun member entry => member.1 = .name entry.1 ∧
        inner depth member.2 = .ok entry.2) drafts entries := by
  induction drafts generalizing entries with
  | nil =>
    rw [List.forall₂_nil_left_iff, Decoder.entries]
    exact ⟨fun h => (Except.ok.inj h).symm, fun h => h ▸ rfl⟩
  | cons member rest ih =>
    obtain ⟨key, draft⟩ := member
    rw [List.forall₂_cons_left_iff]
    cases key with
    | name key =>
      simp only [Decoder.entries, bind_eq_ok]
      constructor
      · rintro ⟨value, hvalue, others, hothers, h⟩
        cases h
        exact ⟨(key, value), others, ⟨rfl, hvalue⟩, ih.mp hothers, rfl⟩
      · rintro ⟨⟨_, value⟩, others, ⟨hkey, hvalue⟩, hothers, rfl⟩
        cases hkey
        exact ⟨value, hvalue, others, ih.mpr hothers, rfl⟩
    | unpaired | absent =>
      constructor
      · rintro ⟨⟩
      · rintro ⟨_, _, ⟨⟨⟩, -⟩, -⟩

end Each

theorem jsonItems_eq (depth : Nat) (drafts : List Draft) :
    Decoder.json.jsonItems depth drafts = Decoder.items Decoder.json depth drafts := by
  induction drafts with
  | nil => rfl
  | cons draft rest ih => rw [Decoder.json.jsonItems, Decoder.items, ih]

theorem jsonMembers_eq (depth : Nat) (drafts : List (Draft.Key × Draft)) :
    Decoder.json.jsonMembers depth drafts = Decoder.entries Decoder.json depth drafts := by
  induction drafts with
  | nil => rfl
  | cons member rest ih =>
    obtain ⟨key, draft⟩ := member
    cases key with
    | name key => rw [Decoder.json.jsonMembers, Decoder.entries, ih]
    | unpaired | absent => rfl

theorem itemDrafts_eq_map (items : List Json) : draft.itemDrafts items = items.map draft := by
  induction items with
  | nil => rfl
  | cons item rest ih => rw [draft.itemDrafts, ih, List.map_cons]

theorem memberDrafts_eq_map (members : List (String × Json)) :
    draft.memberDrafts members = members.map fun member => (.name member.1, member.2.draft) := by
  induction members with
  | nil => rfl
  | cons member rest ih => rw [draft.memberDrafts, ih, List.map_cons]

theorem decoder_of_decode {α : Type} {decoder : Decoder α} {text : String} {value : α}
    (h : decode decoder text = .ok value) :
    decoder nestingLimit (Draft.ofText text).1 = .ok value := by
  unfold decode at h
  generalize Draft.ofText text = read at h
  obtain ⟨draft, clean⟩ := read
  obtain ⟨found, hfound, hclean⟩ := bind_eq_ok.mp h
  cases clean with
  | false => cases hclean
  | true =>
    cases hclean
    exact hfound

end Json

end IdentityConsole
