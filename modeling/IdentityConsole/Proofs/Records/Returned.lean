import IdentityConsole.Proofs.Json.Members

/-!
# What is sent back of a record

A field is declared under a key, with what a record without it is given and with how the value that
is sent agrees with the one that was received. A record is sent back when each of its declared
fields is returned so, and all its other members as their record treats them.
-/

namespace IdentityConsole.Json

/-- What stands for a field that was not received. -/
inductive Presence
  | required
  | defaulted (absent : Json)
  | optional

structure Declaration where
  key : String
  presence : Presence
  same : Draft → Json → Prop

/-- What is sent of a field, by what was received. A value that is not `null` comes back. -/
inductive Declaration.Returned (declaration : Declaration) : Option Draft → Option Json → Prop
  | value {draft : Draft} {sent : Json} (hvalue : draft ≠ .null)
      (hsame : declaration.same draft sent) : Returned declaration (some draft) (some sent)
  | absent {sent : Json} (hdefaulted : declaration.presence = .defaulted sent) :
      Returned declaration none (some sent)
  | omitted (hoptional : declaration.presence = .optional) : Returned declaration none none
  | null (hoptional : declaration.presence = .optional) : Returned declaration (some .null) none

/-- Members that were received come back as the members that are sent, of which there is one for
each key. Of several received with one key the last counts. -/
structure SentBack (declarations : List Declaration)
    (undeclared : Option Draft → Option Json → Prop) (received : List (String × Draft))
    (sent : List (String × Json)) : Prop where
  ordered : sent.Pairwise fun member later => member.1 < later.1
  declared : ∀ declaration ∈ declarations,
    declaration.Returned (received.reverse.lookup declaration.key) (sent.lookup declaration.key)
  undeclared : ∀ key, key ∉ declarations.map (·.key) →
    undeclared (received.reverse.lookup key) (sent.lookup key)

/-- Undeclared members come back unchanged, and no others are added to them. -/
def Kept : Option Draft → Option Json → Prop :=
  Option.Rel Draft.Denotes

/-- Undeclared members do not come back. -/
def Dropped (_ : Option Draft) (sent : Option Json) : Prop :=
  sent = none

/-! ### Fields -/

section Fields

variable {α : Type} {members : Members} {key : String} {decoder : Decoder α} {write : α → Json}
  {same : Draft → Json → Prop}

theorem returned_required (hdecoder : decoder.Preserves write same) {value : α}
    (h : members.required key decoder = .ok value) :
    Declaration.Returned ⟨key, .required, same⟩ (members.find? key) (some (write value)) := by
  unfold Members.required at h
  split at h
  · next draft hfind =>
    rw [hfind]
    exact .value (hdecoder h).1 (hdecoder h).2
  · cases h

theorem returned_withDefault (hdecoder : decoder.Preserves write same) {absent value : α}
    (h : members.withDefault key decoder absent = .ok value) :
    Declaration.Returned ⟨key, .defaulted (write absent), same⟩ (members.find? key)
      (some (write value)) := by
  unfold Members.withDefault at h
  split at h
  · next draft hfind =>
    rw [hfind]
    exact .value (hdecoder h).1 (hdecoder h).2
  · next hfind =>
    cases h
    rw [hfind]
    exact .absent rfl

theorem returned_optional (hdecoder : decoder.Preserves write same) {value : Option α}
    (h : members.optional key decoder = .ok value) :
    Declaration.Returned ⟨key, .optional, same⟩ (members.find? key) (value.map write) := by
  unfold Members.optional Members.withDefault at h
  split at h
  · next hfind =>
    rw [hfind]
    obtain ⟨rfl, rfl⟩ | ⟨found, hfound, rfl⟩ := of_optional_eq_ok h
    · exact .null rfl
    · exact .value (hdecoder hfound).1 (hdecoder hfound).2
  · next hfind =>
    cases h
    rw [hfind]
    exact .omitted rfl

end Fields

/-! ### Records -/

def written (declarations : List Declaration) (values : List (Option Json)) :
    List (String × Json) :=
  (List.zipWith (fun declaration value => optionalMember declaration.key value) declarations
    values).flatten

@[simp]
theorem written_nil (values : List (Option Json)) : written [] values = [] := rfl

theorem lookup_optionalMember (key other : String) (value : Option Json) :
    (optionalMember other value).lookup key = if key = other then value else none := by
  cases value with
  | none => rw [ite_self]; rfl
  | some value => exact lookup_append_singleton [] (other, value)

theorem lookup_written_cons (declaration : Declaration) (declarations : List Declaration)
    (value : Option Json) (values : List (Option Json)) (key : String) :
    (written (declaration :: declarations) (value :: values)).reverse.lookup key =
      ((written declarations values).reverse.lookup key).or
        (if key = declaration.key then value else none) := by
  have hreverse : (optionalMember declaration.key value).reverse =
      optionalMember declaration.key value := by
    cases value <;> rfl
  rw [written, List.zipWith_cons_cons, List.flatten_cons, List.reverse_append, List.lookup_append,
    hreverse, lookup_optionalMember]
  rfl

theorem lookup_written_of_not_mem {declarations : List Declaration} {key : String}
    (hkey : key ∉ declarations.map (·.key)) (values : List (Option Json)) :
    (written declarations values).reverse.lookup key = none := by
  induction declarations generalizing values with
  | nil => rfl
  | cons declaration rest ih =>
    cases values with
    | nil => rfl
    | cons value values =>
      have hne : key ≠ declaration.key := List.ne_of_not_mem_cons hkey
      rw [lookup_written_cons, ih (List.not_mem_of_not_mem_cons hkey), if_neg hne]
      rfl

/-- Each value stands under the key of its declaration. -/
theorem forall₂_lookup_written {returned : Declaration → Option Json → Prop}
    {declarations : List Declaration} {values : List (Option Json)}
    (h : List.Forall₂ returned declarations values) (hnodup : (declarations.map (·.key)).Nodup) :
    List.Forall₂ (fun declaration value => returned declaration value ∧
      (written declarations values).reverse.lookup declaration.key = value)
      declarations values := by
  induction h with
  | nil => exact .nil
  | @cons first value rest values hfirst _ ih =>
    obtain ⟨hkey, hnodup⟩ := List.nodup_cons.mp hnodup
    have hhead : (written (first :: rest) (value :: values)).reverse.lookup first.key = value := by
      rw [lookup_written_cons, lookup_written_of_not_mem hkey, if_pos rfl, Option.none_or]
    refine .cons ⟨hfirst, hhead⟩ (forall₂_imp_of_mem (ih hnodup) ?_)
    rintro declaration hmem value - ⟨hreturned, hlookup⟩
    have hne : declaration.key ≠ first.key := fun heq =>
      hkey (List.mem_map.mpr ⟨declaration, hmem, heq⟩)
    rw [lookup_written_cons, if_neg hne, Option.or_none]
    exact ⟨hreturned, hlookup⟩

theorem forall_lookup_written {returned : Declaration → Option Json → Prop}
    {declarations : List Declaration} {values : List (Option Json)}
    (h : List.Forall₂ returned declarations values) (hnodup : (declarations.map (·.key)).Nodup) :
    ∀ declaration ∈ declarations,
      returned declaration ((written declarations values).reverse.lookup declaration.key) := by
  have hlookup : List.Forall₂ (fun declaration _ =>
      returned declaration ((written declarations values).reverse.lookup declaration.key) ∧ True)
      declarations values :=
    (forall₂_lookup_written h hnodup).imp fun _ _ hvalue => ⟨hvalue.2 ▸ hvalue.1, trivial⟩
  exact ((List.forall₂_and_left _ _).mp hlookup).1

theorem lookup_written_append (declarations : List Declaration) (values : List (Option Json))
    (others : Dict Json) (key : String) :
    (Dict.ofList (written declarations values ++ others.toList)).get? key =
      (others.get? key).or ((written declarations values).reverse.lookup key) := by
  rw [Dict.get?_ofList, List.reverse_append, List.lookup_append, ← Dict.get?_ofList,
    Dict.ofList_toList]

section Shape

variable {shape : Shape} {depth : Nat} {draft : Draft} {members : Members}
  {declarations : List Declaration} {values : List (Option Json)} {others : Dict Json}

/-- A record is sent back when its fields are, provided that what is written beside them has other
keys. -/
theorem sentBack_of_members {undeclared : Option Draft → Option Json → Prop}
    (hmembers : shape.members depth draft = .ok members)
    (hkeys : declarations.map (·.key) = shape.fields.map (·.key))
    (hnodup : (declarations.map (·.key)).Nodup)
    (hdeclared : List.Forall₂ (fun declaration value =>
      declaration.Returned (members.find? declaration.key) value) declarations values)
    (hothers : ∀ key, (shape.field? key).isSome → others.get? key = none)
    (hundeclared : ∀ key, shape.field? key = none →
      undeclared (members.members.reverse.lookup key) (others.get? key)) :
    SentBack declarations undeclared members.members
      (Dict.ofList (written declarations values ++ others.toList)).toList where
  ordered := Dict.ordered _
  declared := by
    intro declaration hmem
    have hkey : (shape.field? declaration.key).isSome := by
      rw [Shape.isSome_field?, ← hkeys]
      exact List.mem_map_of_mem hmem
    -- The others come last and would win, but none of them has a declared key.
    have hsent := lookup_written_append declarations values others declaration.key
    rw [hothers _ hkey, Option.none_or, Dict.get?] at hsent
    rw [hsent, ← members.find?_eq_last (hkeys ▸ hnodup) hmembers hkey]
    exact forall_lookup_written hdeclared hnodup declaration hmem
  undeclared := by
    intro key hkey
    have hsent := lookup_written_append declarations values others key
    rw [lookup_written_of_not_mem hkey, Option.or_none, Dict.get?] at hsent
    rw [hkeys, ← Shape.isSome_field?, Option.not_isSome_iff_eq_none] at hkey
    rw [hsent]
    exact hundeclared key hkey

/-- A record that keeps what it does not declare is read from an object, and all of it goes back. -/
theorem sentBack_kept (hkept : shape.undeclared = .kept)
    (hmembers : shape.members depth draft = .ok members)
    (hkeys : declarations.map (·.key) = shape.fields.map (·.key))
    (hnodup : (declarations.map (·.key)).Nodup)
    (hdeclared : List.Forall₂ (fun declaration value =>
      declaration.Returned (members.find? declaration.key) value) declarations values)
    (hothers : members.others shape = .ok others) :
    ∃ received sent, draft = .ofMembers received ∧
      Json.ofMembers (written declarations values ++ others.toList) = .object sent ∧
      SentBack declarations Kept received sent := by
  have hobject : draft = .ofMembers members.members := by
    have hshows := (Shape.of_members (hkeys ▸ hnodup) hmembers).1
    generalize members.members = received at hshows
    cases hshows with
    | object => rfl
    | array hskipped => rw [hkept] at hskipped; cases hskipped
  refine ⟨members.members, _, hobject, rfl, ?_⟩
  exact sentBack_of_members hmembers hkeys hnodup hdeclared
    (fun _ => members.others_of_declared hothers) (fun _ => members.others_of_undeclared hothers)

end Shape

end IdentityConsole.Json
