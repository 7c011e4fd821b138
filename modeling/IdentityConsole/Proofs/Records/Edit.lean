import IdentityConsole.Proofs.Records.SentBack

/-!
# Edits of records

A field that can be edited is one of the members that are sent of a record. After several edits
each edited member is sent with the value it was given last, and every other member as before.
-/

namespace IdentityConsole

/-! ### What is read beside the declared members -/

section Others

variable {depth : Nat} {draft : Json.Draft}

theorem User.others_of_decoder {user : User} (h : decoder depth draft = .ok user) :
    ∃ members : Json.Members, members.others shape = .ok user.others := by
  simp only [decoder, bind_eq_ok] at h
  obtain ⟨members, -, id, -, accountId, -, desc, -, name, -, email, -, createdAt, -, updatedAt, -,
    others, hothers, h⟩ := h
  cases h
  exact ⟨members, hothers⟩

theorem Group.others_of_decoder {group : Group} (h : decoder depth draft = .ok group) :
    ∃ members : Json.Members, members.others shape = .ok group.others := by
  simp only [decoder, bind_eq_ok] at h
  obtain ⟨members, -, id, -, accountId, -, name, -, desc, -, createdAt, -, updatedAt, -, others,
    hothers, h⟩ := h
  cases h
  exact ⟨members, hothers⟩

theorem Policy.others_of_decoder {policy : Policy} (h : decoder depth draft = .ok policy) :
    ∃ members : Json.Members, members.others shape = .ok policy.others := by
  simp only [decoder, bind_eq_ok] at h
  obtain ⟨members, -, id, -, accountId, -, desc, -, version, -, statements, -, createdAt, -,
    updatedAt, -, others, hothers, h⟩ := h
  cases h
  exact ⟨members, hothers⟩

end Others

namespace Record

variable {kind : Kind}

/-- The member under which a field is sent. A record may lack the field. -/
def member? : Kind → Field → Option String
  | .users, .name | .groups, .name => some "name"
  | .users, .email => some "email"
  | .users, .description | .groups, .description | .policies, .description => some "desc"
  | .groups, .email | .policies, .name | .policies, .email => none

theorem setField_of_member?_eq_none {field : Field} (h : member? kind field = none)
    (record : kind.Record) (value : String) : setField record field value = record := by
  cases kind <;> cases field <;> first | rfl | cases h

/-! ### The members of a record -/

def values : {kind : Kind} → kind.Record → List (Option Json)
  | .users => User.values
  | .groups => Group.values
  | .policies => Policy.values

def others : {kind : Kind} → kind.Record → Dict Json
  | .users => User.others
  | .groups => Group.others
  | .policies => Policy.others

/-- The members that are sent of a record. -/
def members (record : kind.Record) : Dict Json :=
  .ofList (Json.written (Form.record kind).declarations (values record) ++ (others record).toList)

theorem toJson_eq_members (record : kind.Record) :
    toJson record = .object (members record).toList := by
  cases kind with
  | users => exact User.toJson_eq record
  | groups => exact Group.toJson_eq record
  | policies => exact Policy.toJson_eq record

/-- No undeclared member has a key that is declared. -/
def Apart (record : kind.Record) : Prop :=
  ∀ key ∈ (Form.record kind).declarations.map (·.key), (others record).get? key = none

theorem apart_of_decode {text : String} {record : kind.Record}
    (h : Json.decode (decoder kind) text = .ok record) : Apart record := by
  have hapart : ∀ {shape : Json.Shape} {members : Json.Members},
      members.others shape = .ok (others record) →
      shape.fields.map (·.key) = (Form.record kind).declarations.map (·.key) → Apart record := by
    intro shape members hothers hkeys key hkey
    refine members.others_of_declared hothers ?_
    rwa [Json.Shape.isSome_field?, hkeys]
  obtain ⟨draft, -, hrecord⟩ := Json.ofText_of_decode h
  cases kind with
  | users =>
    obtain ⟨members, hothers⟩ := User.others_of_decoder hrecord
    exact hapart hothers rfl
  | groups =>
    obtain ⟨members, hothers⟩ := Group.others_of_decoder hrecord
    exact hapart hothers rfl
  | policies =>
    obtain ⟨members, hothers⟩ := Policy.others_of_decoder hrecord
    exact hapart hothers rfl

@[simp]
theorem others_setField (record : kind.Record) (field : Field) (value : String) :
    others (setField record field value) = others record := by
  cases kind <;> cases field <;> rfl

theorem Apart.setField {record : kind.Record} (h : Apart record) (field : Field) (value : String) :
    Apart (setField record field value) := by
  unfold Apart
  rw [others_setField]
  exact h

theorem mem_declarations_of_member? {field : Field} {key : String}
    (h : member? kind field = some key) :
    key ∈ (Form.record kind).declarations.map (·.key) := by
  cases kind <;> cases field <;> cases h <;> decide

/-- What is written of the declared members changes under the key of the field only. -/
theorem lookup_written_setField {field : Field} {member : String}
    (h : member? kind field = some member) (record : kind.Record) (value key : String) :
    (Json.written (Form.record kind).declarations
        (values (setField record field value))).reverse.lookup key =
      if key = member then some (.string value)
      else (Json.written (Form.record kind).declarations (values record)).reverse.lookup key := by
  by_cases hkey : key = member <;> cases kind <;> cases field <;> cases h <;>
    simp [Form.declarations, User.declarations, Group.declarations, Policy.declarations, values,
      User.values, Group.values, Policy.values, setField, User.setField, Group.setField,
      Policy.setField, Json.lookup_written_cons, hkey]

theorem get?_members_setField {record : kind.Record} (hapart : Apart record) {field : Field}
    {member : String} (h : member? kind field = some member) (value key : String) :
    (members (setField record field value)).get? key =
      if key = member then some (.string value) else (members record).get? key := by
  rw [members, Json.lookup_written_append, lookup_written_setField h, others_setField, members,
    Json.lookup_written_append]
  split
  · next hkey =>
    rw [hkey, hapart member (mem_declarations_of_member? h), Option.none_or]
  · rfl

/-! ### Several edits -/

/-- A record after several edits, the first of them first. -/
def edited (record : kind.Record) (edits : List (Field × String)) : kind.Record :=
  edits.foldl (fun record edit => setField record edit.1 edit.2) record

theorem edited_append (record : kind.Record) (edits later : List (Field × String)) :
    edited record (edits ++ later) = edited (edited record edits) later :=
  List.foldl_append

/-- The value that a member was given last. -/
def lastValue? (kind : Kind) (key : String) (edits : List (Field × String)) : Option String :=
  (edits.reverse.find? fun edit => member? kind edit.1 = some key).map (·.2)

theorem lastValue?_cons (kind : Kind) (key : String) (edit : Field × String)
    (rest : List (Field × String)) :
    lastValue? kind key (edit :: rest) = (lastValue? kind key rest).or
      (if member? kind edit.1 = some key then some edit.2 else none) := by
  simp only [lastValue?, List.reverse_cons, List.find?_append, Option.map_or]
  congr 1
  split
  · next h => simp [h]
  · next h => simp [h]

theorem lastValue?_eq_none {key : String} (h : ∀ field, member? kind field ≠ some key)
    (edits : List (Field × String)) : lastValue? kind key edits = none := by
  rw [lastValue?, Option.map_eq_none_iff, List.find?_eq_none]
  intro edit _
  rw [decide_eq_true_eq]
  exact h edit.1

/-- **Only the edited members change**, each to the value it was given last. -/
theorem get?_members_edited {record : kind.Record} (hapart : Apart record)
    (edits : List (Field × String)) (key : String) :
    (members (edited record edits)).get? key =
      ((lastValue? kind key edits).map .string).or ((members record).get? key) := by
  induction edits generalizing record with
  | nil => rfl
  | cons edit rest ih =>
    have hrest := ih (hapart.setField edit.1 edit.2)
    rw [lastValue?_cons, Option.map_or, Option.or_assoc]
    refine hrest.trans (congrArg _ ?_)
    cases hmember : member? kind edit.1 with
    | none =>
      rw [setField_of_member?_eq_none hmember]
      rfl
    | some member =>
      rw [get?_members_setField hapart hmember]
      by_cases hkey : key = member
      · rw [if_pos hkey, if_pos (congrArg some hkey.symm)]
        rfl
      · rw [if_neg hkey, if_neg fun heq => hkey (Option.some.inj heq).symm]
        rfl

end Record

end IdentityConsole
