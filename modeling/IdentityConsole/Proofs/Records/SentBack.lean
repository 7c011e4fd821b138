import IdentityConsole.Proofs.Json.Whole
import IdentityConsole.Proofs.Records.Returned
import IdentityConsole.Proofs.Timestamp
import IdentityConsole.Records.Identity
import IdentityConsole.Records.Record

/-!
# Records are sent back

Users, groups, policies and identities keep what they do not declare. What is written for one that
was read has each of its members with its value, and none that it did not have but the fields with a
default. A statement of a policy comes back with its declared members only, and a number for which
64 bits have no room comes back as the floating point number it was read as.
-/

namespace IdentityConsole

open Json (Declaration Decoder Draft EachItem Kept Dropped SentBack)
open Json.Draft (Denotes)

/-- Both texts are read as one instant. -/
inductive SameInstant : Draft → Json → Prop
  | text {received sent : String} {instant : Timestamp}
      (hreceived : Timestamp.parse received = .ok instant)
      (hsent : Timestamp.parse sent = .ok instant) :
      SameInstant (.string (some received)) (.string sent)

theorem preserves_timestamp :
    Decoder.Preserves Decoder.timestamp (.string ·.text) SameInstant := by
  intro depth draft instant h
  obtain ⟨received, htext, hread⟩ := bind_eq_ok.mp h
  split at hread
  · next hparse =>
    cases hread
    rw [Json.eq_string_of_textFor htext]
    exact ⟨Draft.noConfusion, .text hparse (Timestamp.valid_of_parse hparse).parse_text⟩
  · cases hread

/-! ### Statements -/

/-- An effect comes back as its name. -/
inductive Effect.Named : Draft → Json → Prop
  | text (effect : Effect) : Named (.string (some effect.text)) (.string effect.text)
  | variant (effect : Effect) :
      Named (.object [(.name effect.text, .null)] true) (.string effect.text)

theorem Effect.eq_text_of_ofText {name : String} {effect : Effect} (h : ofText name = .ok effect) :
    name = effect.text := by
  unfold ofText at h
  split at h
  · next hname =>
    cases h
    exact hname
  · split at h
    · next hname =>
      cases h
      exact hname
    · cases h

theorem Effect.preserves : decoder.Preserves (.string ·.text) Named := by
  intro depth draft effect h
  unfold decoder at h
  split at h
  · rw [eq_text_of_ofText h]
    exact ⟨Draft.noConfusion, .text effect⟩
  · obtain ⟨_, -, h⟩ := bind_eq_ok.mp h
    split at h
    · cases h
    · obtain ⟨found, hname, hvariant⟩ := bind_eq_ok.mp h
      split at hvariant
      · split at hvariant
        · next hend =>
          cases hvariant
          rw [Bool.and_eq_true, List.isEmpty_iff] at hend
          obtain ⟨rfl, rfl⟩ := hend
          rw [eq_text_of_ofText hname]
          exact ⟨Draft.noConfusion, .variant effect⟩
        · cases hvariant
      · exact (Json.not_mismatch hvariant).elim
    · exact (Json.not_mismatch h).elim
    · cases h
  · cases h

namespace Statement

def declarations : List Declaration := [
  ⟨"effect", .required, Effect.Named⟩,
  ⟨"subjects", .defaulted (.array []), Denotes⟩,
  ⟨"actions", .defaulted (.array []), Denotes⟩,
  ⟨"resources", .defaulted (.array []), Denotes⟩,
  ⟨"conditions", .optional, Denotes⟩]

def values (statement : Statement) : List (Option Json) := [
  some (.string statement.effect.text), some (.ofStrings statement.subjects),
  some (.ofStrings statement.actions), some (.ofStrings statement.resources),
  statement.conditions.map (.object ·.toList)]

theorem toJson_eq (statement : Statement) : statement.toJson =
    .ofMembers (Json.written declarations statement.values ++ Dict.empty.toList) := by
  simp [toJson, values, declarations, Json.written, Json.optionalMember, Dict.empty]

/-- What is sent for a statement that was received. -/
inductive Returned (draft : Draft) : Json → Prop
  | object {received : List (String × Draft)} {sent : List (String × Json)}
      (hshows : shape.Shows draft received) (hsent : SentBack declarations Dropped received sent) :
      Returned draft (.object sent)

theorem preserves : decoder.Preserves toJson Returned := by
  intro depth draft statement h
  simp only [decoder, bind_eq_ok] at h
  obtain ⟨members, hmembers, effect, heffect, subjects, hsubjects, actions, hactions, resources,
    hresources, conditions, hconditions, h⟩ := h
  cases h
  have hshows := (Json.Shape.of_members (by decide) hmembers).1
  refine ⟨fun hnull => ?_, ?_⟩
  · rw [hnull] at hshows
    cases hshows
  · rw [toJson_eq]
    refine .object hshows (Json.sentBack_of_members hmembers rfl (by decide) ?_ (fun _ _ => rfl)
      fun _ _ => rfl)
    exact .cons (Json.returned_required Effect.preserves heffect) <|
      .cons (Json.returned_withDefault Json.preserves_strings hsubjects) <|
      .cons (Json.returned_withDefault Json.preserves_strings hactions) <|
      .cons (Json.returned_withDefault Json.preserves_strings hresources) <|
      .cons (Json.returned_optional Json.preserves_values hconditions) .nil

end Statement

/-! ### Records -/

namespace User

def declarations : List Declaration := [
  ⟨"id", .required, Denotes⟩,
  ⟨"account_id", .defaulted (.string ""), Denotes⟩,
  ⟨"desc", .defaulted (.string ""), Denotes⟩,
  ⟨"name", .optional, Denotes⟩,
  ⟨"email", .optional, Denotes⟩,
  ⟨"created_at", .optional, SameInstant⟩,
  ⟨"updated_at", .optional, SameInstant⟩]

def values (user : User) : List (Option Json) := [
  some (.string user.id), some (.string user.accountId), some (.string user.desc),
  user.name.map .string, user.email.map .string, user.createdAt.map (.string ·.text),
  user.updatedAt.map (.string ·.text)]

theorem toJson_eq (user : User) : user.toJson =
    .ofMembers (Json.written declarations user.values ++ user.others.toList) := by
  simp [toJson, values, declarations, Json.written, Json.optionalMember]

theorem sentBack {depth : Nat} {draft : Draft} {user : User}
    (h : decoder depth draft = .ok user) :
    ∃ received sent, draft = .ofMembers received ∧ user.toJson = .object sent ∧
      SentBack declarations Kept received sent := by
  simp only [decoder, bind_eq_ok] at h
  obtain ⟨members, hmembers, id, hid, accountId, haccountId, desc, hdesc, name, hname, email,
    hemail, createdAt, hcreatedAt, updatedAt, hupdatedAt, others, hothers, h⟩ := h
  cases h
  rw [toJson_eq]
  refine Json.sentBack_kept rfl hmembers rfl (by decide) ?_ hothers
  exact .cons (Json.returned_required Json.preserves_string hid) <|
    .cons (Json.returned_withDefault Json.preserves_string haccountId) <|
    .cons (Json.returned_withDefault Json.preserves_string hdesc) <|
    .cons (Json.returned_optional Json.preserves_string hname) <|
    .cons (Json.returned_optional Json.preserves_string hemail) <|
    .cons (Json.returned_optional preserves_timestamp hcreatedAt) <|
    .cons (Json.returned_optional preserves_timestamp hupdatedAt) .nil

end User

namespace Group

def declarations : List Declaration := [
  ⟨"id", .required, Denotes⟩,
  ⟨"account_id", .defaulted (.string ""), Denotes⟩,
  ⟨"name", .defaulted (.string ""), Denotes⟩,
  ⟨"desc", .defaulted (.string ""), Denotes⟩,
  ⟨"created_at", .optional, SameInstant⟩,
  ⟨"updated_at", .optional, SameInstant⟩]

def values (group : Group) : List (Option Json) := [
  some (.string group.id), some (.string group.accountId), some (.string group.name),
  some (.string group.desc), group.createdAt.map (.string ·.text),
  group.updatedAt.map (.string ·.text)]

theorem toJson_eq (group : Group) : group.toJson =
    .ofMembers (Json.written declarations group.values ++ group.others.toList) := by
  simp [toJson, values, declarations, Json.written, Json.optionalMember]

theorem sentBack {depth : Nat} {draft : Draft} {group : Group}
    (h : decoder depth draft = .ok group) :
    ∃ received sent, draft = .ofMembers received ∧ group.toJson = .object sent ∧
      SentBack declarations Kept received sent := by
  simp only [decoder, bind_eq_ok] at h
  obtain ⟨members, hmembers, id, hid, accountId, haccountId, name, hname, desc, hdesc, createdAt,
    hcreatedAt, updatedAt, hupdatedAt, others, hothers, h⟩ := h
  cases h
  rw [toJson_eq]
  refine Json.sentBack_kept rfl hmembers rfl (by decide) ?_ hothers
  exact .cons (Json.returned_required Json.preserves_string hid) <|
    .cons (Json.returned_withDefault Json.preserves_string haccountId) <|
    .cons (Json.returned_withDefault Json.preserves_string hname) <|
    .cons (Json.returned_withDefault Json.preserves_string hdesc) <|
    .cons (Json.returned_optional preserves_timestamp hcreatedAt) <|
    .cons (Json.returned_optional preserves_timestamp hupdatedAt) .nil

end Group

namespace Policy

def declarations : List Declaration := [
  ⟨"id", .required, Denotes⟩,
  ⟨"account_id", .optional, Denotes⟩,
  ⟨"desc", .defaulted (.string ""), Denotes⟩,
  ⟨"version", .defaulted (.string ""), Denotes⟩,
  ⟨"statement", .defaulted (.array []), EachItem Statement.Returned⟩,
  ⟨"created_at", .optional, SameInstant⟩,
  ⟨"updated_at", .optional, SameInstant⟩]

def values (policy : Policy) : List (Option Json) := [
  some (.string policy.id), policy.accountId.map .string, some (.string policy.desc),
  some (.string policy.version), some (.array (policy.statements.map Statement.toJson)),
  policy.createdAt.map (.string ·.text), policy.updatedAt.map (.string ·.text)]

theorem toJson_eq (policy : Policy) : policy.toJson =
    .ofMembers (Json.written declarations policy.values ++ policy.others.toList) := by
  simp [toJson, values, declarations, Json.written, Json.optionalMember]

theorem sentBack {depth : Nat} {draft : Draft} {policy : Policy}
    (h : decoder depth draft = .ok policy) :
    ∃ received sent, draft = .ofMembers received ∧ policy.toJson = .object sent ∧
      SentBack declarations Kept received sent := by
  simp only [decoder, bind_eq_ok] at h
  obtain ⟨members, hmembers, id, hid, accountId, haccountId, desc, hdesc, version, hversion,
    statements, hstatements, createdAt, hcreatedAt, updatedAt, hupdatedAt, others, hothers, h⟩ := h
  cases h
  rw [toJson_eq]
  refine Json.sentBack_kept rfl hmembers rfl (by decide) ?_ hothers
  exact .cons (Json.returned_required Json.preserves_string hid) <|
    .cons (Json.returned_optional Json.preserves_string haccountId) <|
    .cons (Json.returned_withDefault Json.preserves_string hdesc) <|
    .cons (Json.returned_withDefault Json.preserves_string hversion) <|
    .cons (Json.returned_withDefault (Json.preserves_list Statement.preserves) hstatements) <|
    .cons (Json.returned_optional preserves_timestamp hcreatedAt) <|
    .cons (Json.returned_optional preserves_timestamp hupdatedAt) .nil

end Policy

namespace Identity

def declarations : List Declaration := [
  ⟨"id", .optional, Denotes⟩,
  ⟨"name", .optional, Denotes⟩,
  ⟨"email", .optional, Denotes⟩]

def values (user : Identity) : List (Option Json) := [
  user.id.map .string, user.name.map .string, user.email.map .string]

theorem toJson_eq (user : Identity) : user.toJson =
    .ofMembers (Json.written declarations user.values ++ user.others.toList) := by
  simp [toJson, members, values, declarations, Json.written, Json.optionalMember]

theorem sentBack {depth : Nat} {draft : Draft} {user : Identity}
    (h : decoder depth draft = .ok user) :
    ∃ received sent, draft = .ofMembers received ∧ user.toJson = .object sent ∧
      SentBack declarations Kept received sent := by
  simp only [decoder, bind_eq_ok] at h
  obtain ⟨members, hmembers, id, hid, name, hname, email, hemail, others, hothers, h⟩ := h
  cases h
  rw [toJson_eq]
  refine Json.sentBack_kept rfl hmembers rfl (by decide) ?_ hothers
  exact .cons (Json.returned_optional Json.preserves_string hid) <|
    .cons (Json.returned_optional Json.preserves_string hname) <|
    .cons (Json.returned_optional Json.preserves_string hemail) .nil

end Identity

/-- What keeps the members it does not declare. -/
inductive Form
  | record (kind : Kind)
  | identity

namespace Form

def Value : Form → Type
  | record kind => kind.Record
  | identity => Identity

def decoder : (form : Form) → Decoder form.Value
  | record kind => Record.decoder kind
  | identity => Identity.decoder

def toJson : {form : Form} → form.Value → Json
  | record _ => Record.toJson
  | identity => Identity.toJson

def declarations : Form → List Declaration
  | record .users => User.declarations
  | record .groups => Group.declarations
  | record .policies => Policy.declarations
  | identity => Identity.declarations

theorem sentBack {form : Form} {depth : Nat} {draft : Draft} {value : form.Value}
    (h : form.decoder depth draft = .ok value) :
    ∃ received sent, draft = .ofMembers received ∧ toJson value = .object sent ∧
      SentBack form.declarations Kept received sent := by
  cases form with
  | record kind =>
    cases kind with
    | users => exact User.sentBack h
    | groups => exact Group.sentBack h
    | policies => exact Policy.sentBack h
  | identity => exact Identity.sentBack h

/-- **Nothing that was received is lost on the way back**, but that numbers are held as 64 bits or
floating point hold them. -/
theorem sentBack_of_decode {form : Form} {text : String} {value : form.Value}
    (h : Json.decode form.decoder text = .ok value) :
    ∃ received sent, Draft.ofText text = (.ofMembers received, true) ∧
      toJson value = .object sent ∧ SentBack form.declarations Kept received sent := by
  obtain ⟨draft, hdraft, hvalue⟩ := Json.ofText_of_decode h
  obtain ⟨received, sent, rfl, hsent, hback⟩ := sentBack hvalue
  exact ⟨received, sent, hdraft, hsent, hback⟩

/-- A repeated key, a `null`, a timestamp that is not spelled as it is written, and statements in
both forms. -/
def policyText : String :=
  "\x7b\"id\":\"p1\",\"tag\":1,\"account_id\":null,\"created_at\":\"2024-3-1T10:0:0\"," ++
    "\"statement\":[\x7b\"effect\":\"Allow\",\"actions\":[\"iam:Get*\"]\x7d,[\"Deny\"]]," ++
    "\"tag\":\x7b\"b\":[2],\"a\":null\x7d\x7d"

def policyRead : Policy where
  id := "p1"
  accountId := none
  desc := ""
  version := ""
  statements := [⟨.allow, [], ["iam:Get*"], [], none⟩, ⟨.deny, [], [], [], none⟩]
  createdAt := some ⟨2024, 3, 1, 10, 0, 0, 0⟩
  updatedAt := none
  others := Dict.empty.insert "tag" (.object [("a", .null), ("b", .array [.ofNat 2])])

theorem sentBack_of_decode_policyText :
    Json.decode Policy.decoder policyText = .ok policyRead ∧
      ∃ received sent, Draft.ofText policyText = (.ofMembers received, true) ∧
        policyRead.toJson = .object sent ∧ SentBack Policy.declarations Kept received sent := by
  have hread : Json.decode Policy.decoder policyText = .ok policyRead :=
    eq_ok_of_toOption (by decide +kernel)
  exact ⟨hread, @sentBack_of_decode (.record .policies) policyText policyRead hread⟩

/-- A user with a number that is one more than `2 ^ 64`. -/
def numberText : String :=
  "\x7b\"id\":\"u1\",\"x\":18446744073709551617\x7d"

def numberWritten : Json.Literal :=
  .ofInt 18446744073709551617

/-- `2 ^ 64` in floating point. -/
def numberHeld : Json.Number :=
  .float ⟨false, 0x10000000000000, 12⟩

def numberRead : User where
  id := "u1"
  accountId := ""
  desc := ""
  name := none
  email := none
  createdAt := none
  updatedAt := none
  others := Dict.empty.insert "x" (.number numberHeld)

/-- The number goes back as another. -/
theorem numberRead_x_changed :
    (Draft.ofText numberText).1.numbers = [numberWritten] ∧
      Json.decode User.decoder numberText = .ok numberRead ∧
      numberRead.toJson = .object [("account_id", .string ""), ("desc", .string ""),
        ("id", .string "u1"), ("x", .number numberHeld)] ∧
      numberWritten.amount = 18446744073709551617 ∧
      numberHeld.amount = 18446744073709551616 := by
  refine ⟨by decide +kernel, eq_ok_of_toOption (by decide +kernel), by decide +kernel, ?_, ?_⟩
  · norm_num [numberWritten, Json.Literal.ofInt, Json.Literal.amount, Json.Literal.size,
      Json.numeral_decimal]
  · norm_num [numberHeld, Json.Number.amount, Json.Binary64.amount, Json.Binary64.size]

end Form

end IdentityConsole
