import IdentityConsole.Http.Reply
import IdentityConsole.Proofs.Records.SentBack
import IdentityConsole.Records.Page

/-!
# What a reply holds

A success whose body arrived whole holds what its text says. The records of a page are the items of
`data`, one for each and in their order, and a page without that member has none.
-/

namespace IdentityConsole

open Json (Decoder Draft Kept SentBack)

/-- What was received as a record is this record: each of its members would go back. -/
def Record.Received {kind : Kind} (draft : Draft) (record : kind.Record) : Prop :=
  ∃ received sent, draft = .ofMembers received ∧ Record.toJson record = .object sent ∧
    SentBack (Form.record kind).declarations Kept received sent

/-- The items of a list that was received, or none where nothing was. -/
inductive Listed {α : Type} (same : Draft → α → Prop) : Option Draft → List α → Prop
  | absent : Listed same none []
  | array {drafts : List Draft} {items : List α} (hitems : List.Forall₂ same drafts items) :
      Listed same (some (.array drafts true)) items

theorem Record.received_of_decoder {kind : Kind} {depth : Nat} {draft : Draft}
    {record : kind.Record} (h : decoder kind depth draft = .ok record) : Received draft record :=
  @Form.sentBack (.record kind) depth draft record h

namespace Page

theorem nodup_fields {α : Type} (item : Decoder α) :
    ((shape item).fields.map (·.key)).Nodup := by
  change ["data", "limit", "offset", "total"].Nodup
  decide

/-- The items of a page, whatever the decoder of one item makes of it. -/
theorem listed_of_decoder {α : Type} {item : Decoder α} {depth : Nat} {draft : Draft}
    {page : Page α} (h : decoder item depth draft = .ok page) {same : Draft → α → Prop}
    (hsame : ∀ {depth draft value}, item depth draft = .ok value → same draft value) :
    ∃ received, (shape item).Shows draft received ∧
      Listed same (received.reverse.lookup "data") page.data := by
  simp only [decoder, bind_eq_ok] at h
  obtain ⟨members, hmembers, data, hdata, _, -, _, -, _, -, h⟩ := h
  cases h
  refine ⟨members.members, (Json.Shape.of_members (nodup_fields item) hmembers).1, ?_⟩
  rw [← members.find?_eq_last (nodup_fields item) hmembers (by rfl)]
  unfold Json.Members.withDefault at hdata
  split at hdata
  · next found hfound =>
    obtain ⟨drafts, depth', rfl, hitems⟩ := Json.eq_array_of_list hdata
    rw [hfound]
    exact .array (hitems.imp fun _ _ => hsame)
  · next hfound =>
    cases hdata
    rw [hfound]
    exact .absent

end Page

namespace Http.Reply

/-- A success with a whole body that reads so. -/
def Reads (reply : Reply) (draft : Draft) : Prop :=
  ∃ status body, reply = .response status body true ∧ 200 ≤ status ∧ status < 300 ∧
    Draft.ofText (Text.Utf8.decodeLossy body) = (draft, true)

/-- The reply holds this record. -/
def HoldsRecord {kind : Kind} (reply : Reply) (record : kind.Record) : Prop :=
  ∃ draft, reply.Reads draft ∧ Record.Received draft record

/-- The reply holds a page of these records. -/
def HoldsRows {kind : Kind} (reply : Reply) (rows : List kind.Record) : Prop :=
  ∃ draft received, reply.Reads draft ∧ (Page.shape (Record.decoder kind)).Shows draft received ∧
    Listed Record.Received (received.reverse.lookup "data") rows

end Http.Reply

end IdentityConsole
