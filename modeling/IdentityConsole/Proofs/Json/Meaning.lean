import IdentityConsole.Proofs.Json.Amount
import IdentityConsole.Proofs.Json.Value

/-!
# What a draft stands for

A text may repeat the keys of an object and write a value in several ways. The value it stands for
is said here without a reader, and what is decoded is that value. A number that is no integer of 64
bits may stand for several in floating point; only there the one that is read is taken.
-/

namespace IdentityConsole

namespace Json

/-- The JSON value that a complete draft stands for. Of several members with one key the last
counts, and the members of an object are in order. -/
inductive Draft.Denotes : Draft → Json → Prop
  | null : Denotes .null .null
  | bool (value : Bool) : Denotes (.bool value) (.bool value)
  | number {literal : Literal} {value : Number} (hstands : literal.Stands value)
      (hread : literal.value? = some value) :
      Denotes (.number literal) (.number value)
  | string (text : String) : Denotes (.string (some text)) (.string text)
  | array {drafts : List Draft} {items : List Json} (hitems : List.Forall₂ Denotes drafts items) :
      Denotes (.array drafts true) (.array items)
  | object {drafts : List (Draft.Key × Draft)} {written members : List (String × Json)}
      (hkeys : drafts.map (·.1) = written.map (.name ·.1))
      (hvalues : List.Forall₂ Denotes (drafts.map (·.2)) (written.map (·.2)))
      (hordered : members.Pairwise fun member later => member.1 < later.1)
      (hlast : ∀ key, members.lookup key = written.reverse.lookup key) :
      Denotes (.object drafts true) (.object members)

open Draft (Denotes)

theorem Draft.Denotes.ofMembers {drafts : List (Draft.Key × Draft)}
    {written : List (String × Json)} (hkeys : drafts.map (·.1) = written.map (.name ·.1))
    (hvalues : List.Forall₂ Denotes (drafts.map (·.2)) (written.map (·.2))) :
    Denotes (.object drafts true) (.ofMembers written) :=
  .object hkeys hvalues (Dict.ofList written).ordered fun key => Dict.get?_ofList key written

theorem whenClosed_eq_ok {closed : Bool} {done : Unit} :
    Decoder.whenClosed closed = .ok done ↔ closed = true := by
  cases closed <;> simp [Decoder.whenClosed]

mutual

theorem denotes_of_json : ∀ (draft : Draft) {depth : Nat} {value : Json},
    Decoder.json depth draft = .ok value → Denotes draft value
  | .null, _, _, h => Except.ok.inj h ▸ .null
  | .bool value, _, _, h => Except.ok.inj h ▸ .bool value
  | .number literal, depth, value, h => by
    rw [Decoder.json] at h
    split at h
    · next hread => exact Except.ok.inj h ▸ .number (Literal.stands_of_value? hread) hread
    · cases h
  | .string (some text), _, _, h => Except.ok.inj h ▸ .string text
  | .string none, _, _, h => nomatch h
  | .array drafts closed, depth, value, h => by
    simp only [Decoder.json, bind_eq_ok, whenClosed_eq_ok] at h
    obtain ⟨_, -, items, hitems, _, rfl, h⟩ := h
    cases h
    exact .array (denotes_of_jsonItems drafts hitems)
  | .object drafts closed, depth, value, h => by
    simp only [Decoder.json, bind_eq_ok, whenClosed_eq_ok] at h
    obtain ⟨_, -, members, hmembers, _, rfl, h⟩ := h
    cases h
    obtain ⟨hkeys, hvalues⟩ := denotes_of_jsonMembers drafts hmembers
    exact .ofMembers hkeys hvalues
  | .broken, _, _, h => nomatch h

theorem denotes_of_jsonItems : ∀ (drafts : List Draft) {depth : Nat} {items : List Json},
    Decoder.json.jsonItems depth drafts = .ok items → List.Forall₂ Denotes drafts items
  | [], _, _, h => by
    cases h
    exact .nil
  | draft :: rest, depth, items, h => by
    simp only [Decoder.json.jsonItems, bind_eq_ok] at h
    obtain ⟨first, hfirst, others, hothers, h⟩ := h
    cases h
    exact .cons (denotes_of_json draft hfirst) (denotes_of_jsonItems rest hothers)

theorem denotes_of_jsonMembers : ∀ (drafts : List (Draft.Key × Draft)) {depth : Nat}
    {members : List (String × Json)}, Decoder.json.jsonMembers depth drafts = .ok members →
    drafts.map (·.1) = members.map (.name ·.1) ∧
      List.Forall₂ Denotes (drafts.map (·.2)) (members.map (·.2))
  | [], _, _, h => by
    cases h
    exact ⟨rfl, .nil⟩
  | (.name key, draft) :: rest, depth, members, h => by
    simp only [Decoder.json.jsonMembers, bind_eq_ok] at h
    obtain ⟨first, hfirst, others, hothers, h⟩ := h
    cases h
    obtain ⟨hkeys, hvalues⟩ := denotes_of_jsonMembers rest hothers
    refine ⟨?_, .cons (denotes_of_json draft hfirst) hvalues⟩
    rw [List.map_cons, List.map_cons, hkeys]
  | (.unpaired, _) :: _, _, _, h => nomatch h
  | (.absent, _) :: _, _, _, h => nomatch h

end

/-- A text is decoded from its whole draft, after which nothing but blanks follows. -/
theorem ofText_of_decode {α : Type} {decoder : Decoder α} {text : String} {value : α}
    (h : decode decoder text = .ok value) :
    ∃ draft, Draft.ofText text = (draft, true) ∧ decoder nestingLimit draft = .ok value := by
  refine ⟨(Draft.ofText text).1, ?_, decoder_of_decode h⟩
  unfold decode at h
  generalize Draft.ofText text = read at h
  obtain ⟨draft, clean⟩ := read
  obtain ⟨found, -, h⟩ := bind_eq_ok.mp h
  cases clean with
  | true => rfl
  | false => cases h

/-! ### Values of one form -/

/-- What is decoded is written as a value of which the draft may be said to be the same; `null` is
never decoded. -/
def Decoder.Preserves {α : Type} (decoder : Decoder α) (write : α → Json)
    (same : Draft → Json → Prop) : Prop :=
  ∀ {depth : Nat} {draft : Draft} {value : α}, decoder depth draft = .ok value →
    draft ≠ .null ∧ same draft (write value)

theorem not_mismatch {α : Type} {expected : Expected} {draft : Draft} {value : α}
    (h : mismatch expected draft = .ok value) : False := by
  obtain ⟨_, -, h⟩ := bind_eq_ok.mp h
  cases h

theorem eq_string_of_textFor {expected : Expected} {depth : Nat} {draft : Draft} {text : String}
    (h : Decoder.textFor expected depth draft = .ok text) : draft = .string (some text) := by
  unfold Decoder.textFor at h
  split at h
  · cases h
    rfl
  · exact (not_mismatch h).elim

theorem of_optional_eq_ok {α : Type} {inner : Decoder α} {depth : Nat} {draft : Draft}
    {value : Option α} (h : Decoder.optional inner depth draft = .ok value) :
    draft = .null ∧ value = none ∨ ∃ found, inner depth draft = .ok found ∧ value = some found := by
  unfold Decoder.optional at h
  split at h
  · cases h
    exact .inl ⟨rfl, rfl⟩
  · cases hinner : inner depth draft with
    | error fault =>
      rw [hinner] at h
      cases h
    | ok found =>
      rw [hinner] at h
      cases h
      exact .inr ⟨found, rfl, rfl⟩

theorem Decoder.of_optional_eq_some {α : Type} {inner : Decoder α} {depth : Nat}
    {draft : Draft} {value : α} (h : Decoder.optional inner depth draft = .ok (some value)) :
    inner depth draft = .ok value := by
  obtain ⟨-, hnone⟩ | ⟨found, hfound, hsome⟩ := of_optional_eq_ok h
  · cases hnone
  · cases hsome
    exact hfound

theorem preserves_string : Decoder.string.Preserves .string Denotes := by
  intro depth draft text h
  cases eq_string_of_textFor h
  exact ⟨Draft.noConfusion, .string text⟩

/-- An array comes back item by item. -/
inductive EachItem (same : Draft → Json → Prop) : Draft → Json → Prop
  | array {drafts : List Draft} {items : List Json} (hitems : List.Forall₂ same drafts items) :
      EachItem same (.array drafts true) (.array items)

theorem eq_array_of_list {α : Type} {inner : Decoder α} {depth : Nat} {draft : Draft}
    {values : List α} (h : Decoder.list inner depth draft = .ok values) :
    ∃ drafts depth', draft = .array drafts true ∧
      List.Forall₂ (fun draft value => inner depth' draft = .ok value) drafts values := by
  unfold Decoder.list at h
  split at h
  · next drafts closed =>
    simp only [bind_eq_ok, whenClosed_eq_ok] at h
    obtain ⟨depth', -, items, hitems, _, rfl, h⟩ := h
    cases h
    exact ⟨drafts, depth', rfl, items_eq_ok_iff.mp hitems⟩
  · exact (not_mismatch h).elim

theorem preserves_list {α : Type} {inner : Decoder α} {write : α → Json}
    {same : Draft → Json → Prop} (hinner : inner.Preserves write same) :
    (Decoder.list inner).Preserves (fun values => .array (values.map write)) (EachItem same) := by
  intro depth draft values h
  obtain ⟨drafts, depth', rfl, hitems⟩ := eq_array_of_list h
  refine ⟨Draft.noConfusion, .array (List.forall₂_map_right_iff.mpr ?_)⟩
  exact hitems.imp fun _ _ hitem => (hinner hitem).2

theorem preserves_strings : (Decoder.list Decoder.string).Preserves .ofStrings Denotes := by
  intro depth draft texts h
  obtain ⟨hvalue, hitems⟩ := preserves_list preserves_string h
  cases hitems with
  | array hitems => exact ⟨hvalue, .array hitems⟩

theorem preserves_values : (Decoder.dict Decoder.json).Preserves (.object ·.toList) Denotes := by
  intro depth draft dict h
  unfold Decoder.dict at h
  split at h
  · next drafts closed =>
    simp only [bind_eq_ok, whenClosed_eq_ok] at h
    obtain ⟨_, -, members, hmembers, _, rfl, h⟩ := h
    cases h
    rw [← jsonMembers_eq] at hmembers
    obtain ⟨hkeys, hvalues⟩ := denotes_of_jsonMembers drafts hmembers
    exact ⟨Draft.noConfusion, .ofMembers hkeys hvalues⟩
  · exact (not_mismatch h).elim

end Json

end IdentityConsole
