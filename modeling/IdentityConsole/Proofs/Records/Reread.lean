import IdentityConsole.Proofs.Json.Recovered
import IdentityConsole.Proofs.Records.Returned

/-!
# Records are read again

A record is written with one member for each of its fields, the absent ones left out, and with what
it keeps beside them. Whatever the order of these members, they pass the checks of the record, and
each field is read from its own: so is what was kept.
-/

namespace IdentityConsole.Json

section Fields

variable {α : Type} {key : String} {decoder : Decoder α} {write : α → Json} {depth : Nat}

/-- What is found under a key, of what was written there. -/
inductive Copied : Option Json → Option Draft → Prop
  | absent : Copied none none
  | present {sent written : Json} (hreordered : Reordered sent written) (hwhole : Whole written) :
      Copied (some sent) (some written.draft)

/-- A field passes its check and is read, where its key has what is written for it. -/
structure Field.Reread (depth : Nat) (field : Field) (sent : Option Json)
    (reads : Members → Prop) : Prop where
  accepts : ∀ value ∈ sent, field.check.Recovers depth () value
  reads : ∀ copy : Members, copy.depth = depth → Copied sent (copy.find? field.key) → reads copy

theorem recovers_some {value : α} {sent : Json} (hnull : sent ≠ .null)
    (h : decoder.Recovers depth value sent) :
    (Decoder.optional decoder).Recovers depth (some value) sent := by
  intro written hreordered hwhole
  have hvalue := h written hreordered hwhole
  unfold Decoder.optional
  split
  · next hdraft => exact (hnull (hreordered.eq_null hdraft)).elim
  · rw [hvalue]
    rfl

namespace Field.Reread

theorem present {value : α} {sent : Json} {reads : Members → Prop}
    (hvalue : decoder.Recovers depth value sent)
    (hreads : ∀ (copy : Members) (draft : Draft), copy.find? key = some draft →
      decoder copy.depth draft = .ok value → reads copy) :
    (field key decoder).Reread depth (some sent) reads where
  accepts := by
    rintro _ ⟨⟩ written hreordered hwhole
    simp only [field, hvalue written hreordered hwhole]
    rfl
  reads := by
    rintro copy rfl hcopied
    generalize hfind : copy.find? (field key decoder).key = found at hcopied
    cases hcopied with
    | present hreordered hwhole => exact hreads copy _ hfind (hvalue _ hreordered hwhole)

theorem required {value : α} {sent : Json} (h : decoder.Recovers depth value sent) :
    (field key decoder).Reread depth (some sent) fun copy =>
      copy.required key decoder = .ok value :=
  present h fun copy draft hfind hdraft => by rwa [Members.required, hfind]

theorem withDefault {value : α} {sent : Json} (h : decoder.Recovers depth value sent) :
    (field key decoder).Reread depth (some sent) fun copy =>
      ∀ absent, copy.withDefault key decoder absent = .ok value :=
  present h fun copy draft hfind hdraft absent => by rwa [Members.withDefault, hfind]

/-- The member of an absent option is not written. -/
theorem optional {value : Option α} (hnull : ∀ found, write found ≠ .null)
    (h : ∀ found ∈ value, decoder.Recovers depth found (write found)) :
    (field key (Decoder.optional decoder)).Reread depth (value.map write) fun copy =>
      copy.optional key decoder = .ok value := by
  cases value with
  | none =>
    refine ⟨fun _ hmem => (Option.not_mem_none _ hmem).elim, fun copy _ hcopied => ?_⟩
    generalize hfind : copy.find? _ = found at hcopied
    cases hcopied
    rw [Members.optional, Members.withDefault, show copy.find? key = none from hfind]
  | some found =>
    have hfound := recovers_some (hnull found) (h found rfl)
    exact present hfound fun copy draft hfind hdraft => by
      rwa [Members.optional, Members.withDefault, hfind]

end Field.Reread

theorem recovers_of_withDefault {members : Members} {absent value : α}
    (hdecoder : decoder.Rereads write members.depth)
    (habsent : decoder.Recovers members.depth absent (write absent))
    (h : members.withDefault key decoder absent = .ok value) :
    decoder.Recovers members.depth value (write value) := by
  unfold Members.withDefault at h
  split at h
  · exact hdecoder h
  · cases h
    exact habsent

theorem recovers_of_optional {members : Members} {value : Option α}
    (hdecoder : decoder.Rereads write members.depth)
    (h : members.optional key decoder = .ok value) :
    ∀ found ∈ value, decoder.Recovers members.depth found (write found) := by
  rintro found rfl
  unfold Members.optional Members.withDefault at h
  split at h
  · exact hdecoder (Decoder.of_optional_eq_some h)
  · cases h

/-- Each field of a record is read again from the value that is written for it. -/
inductive FieldsReread (depth : Nat) : List Field → List (Option Json) → (Members → Prop) → Prop
  | nil : FieldsReread depth [] [] fun _ => True
  | cons {field : Field} {fields : List Field} {sent : Option Json} {values : List (Option Json)}
      {first others : Members → Prop} (hfield : field.Reread depth sent first)
      (hfields : FieldsReread depth fields values others) :
      FieldsReread depth (field :: fields) (sent :: values) fun copy => first copy ∧ others copy

theorem FieldsReread.length_eq {fields : List Field} {values : List (Option Json)}
    {reads : Members → Prop} (h : FieldsReread depth fields values reads) :
    fields.length = values.length := by
  induction h with
  | nil => rfl
  | cons _ _ ih => exact congrArg (· + 1) ih

theorem FieldsReread.accepts {fields : List Field} {values : List (Option Json)}
    {reads : Members → Prop} (h : FieldsReread depth fields values reads)
    {dict : Dict Json}
    (hsent : List.Forall₂ (fun field value => dict.get? field.key = value) fields values) :
    ∀ field ∈ fields, ∀ value, dict.get? field.key = some value →
      field.check.Recovers depth () value := by
  induction h with
  | nil => exact fun _ hmem => absurd hmem List.not_mem_nil
  | cons hfield _ ih =>
    obtain ⟨hfirst, hrest⟩ := List.forall₂_cons.mp hsent
    refine List.forall_mem_cons.mpr ⟨fun value hvalue => ?_, ih hrest⟩
    exact hfield.accepts value (hfirst ▸ hvalue)

theorem FieldsReread.reads {fields : List Field} {values : List (Option Json)}
    {reads : Members → Prop} (h : FieldsReread depth fields values reads) {copy : Members}
    (hdepth : copy.depth = depth)
    (hcopied : List.Forall₂ (fun field value => Copied value (copy.find? field.key)) fields
      values) : reads copy := by
  induction h with
  | nil => trivial
  | cons hfield _ ih =>
    obtain ⟨hfirst, hrest⟩ := List.forall₂_cons.mp hcopied
    exact ⟨hfield.reads copy hdepth hfirst, ih hrest⟩

end Fields

/-! ### The members of a record -/

/-- The value of a member has the form that its record asks for. -/
def Shape.Accepts (shape : Shape) (depth : Nat) (member : String × Draft) : Prop :=
  match shape.field? member.1 with
  | some field => field.check depth member.2 = .ok ()
  | none => shape.checkUndeclared depth member.2 = .ok ()

theorem Shape.checkMembers_eq_ok {shape : Shape} {depth : Nat} {members : List (String × Draft)}
    {seen : List String} (hnodup : (members.map Prod.fst).Nodup)
    (hseen : ∀ member ∈ members, member.1 ∉ seen)
    (haccepts : ∀ member ∈ members, shape.Accepts depth member) :
    shape.checkMembers depth seen (members.map fun member => (.name member.1, member.2)) =
      .ok members := by
  induction members generalizing seen with
  | nil => rfl
  | cons member rest ih =>
    obtain ⟨key, draft⟩ := member
    obtain ⟨hkey, hnodup⟩ := List.nodup_cons.mp hnodup
    have hfirst := haccepts (key, draft) List.mem_cons_self
    have hunseen : key ∉ seen := hseen (key, draft) List.mem_cons_self
    have hrest := fun member hmem => haccepts member (List.mem_cons_of_mem _ hmem)
    have hseen' := fun member hmem => hseen member (List.mem_cons_of_mem _ hmem)
    simp only [Shape.Accepts] at hfirst
    rw [List.map_cons, Shape.checkMembers]
    split
    · next field hfield =>
      rw [hfield] at hfirst
      -- Only a declared key is remembered, and no later member has it.
      have hlater : ∀ member ∈ rest, member.1 ∉ key :: seen := by
        intro member hmem hin
        rcases List.mem_cons.mp hin with heq | hin
        · exact hkey (List.mem_map.mpr ⟨member, hmem, heq⟩)
        · exact hseen' member hmem hin
      rw [if_neg hunseen, ih hnodup hlater hrest]
      simp only at hfirst
      rw [hfirst]
      rfl
    · next hfield =>
      rw [hfield] at hfirst
      simp only at hfirst
      rw [hfirst, ih hnodup hseen' hrest]
      rfl

theorem Shape.depth_of_members {shape : Shape} {depth : Nat} {draft : Draft} {members : Members}
    (h : shape.members depth draft = .ok members) : members.depth = depth - 1 := by
  cases draft with
  | object drafts closed =>
    simp only [Shape.members, bind_eq_ok, deeper_eq_ok] at h
    obtain ⟨_, ⟨-, rfl⟩, _, -, _, -, h⟩ := h
    cases h
    rfl
  | array drafts closed =>
    simp only [Shape.members] at h
    split at h
    · cases h
    · simp only [bind_eq_ok, deeper_eq_ok] at h
      obtain ⟨_, ⟨-, rfl⟩, _, -, _, -, h⟩ := h
      split at h
      · cases h
      · split at h
        · cases h
        · cases h
          rfl
  | null | bool value | number literal | string text | broken =>
    simp only [Shape.members, mismatch, bind_eq_ok] at h
    obtain ⟨_, -, h⟩ := h
    cases h

/-- The members that are kept beside the declared ones: they have other keys, and nest less deep
than a limit. -/
def Shape.Fits (shape : Shape) (depth : Nat) (others : Dict Json) : Prop :=
  ∀ member ∈ others.toList, shape.field? member.1 = none ∧ Json.Fits depth member.2

theorem Shape.fits_empty (shape : Shape) (depth : Nat) : shape.Fits depth .empty :=
  fun _ hmem => absurd hmem List.not_mem_nil

theorem Shape.fits_of_others {shape : Shape} {members : Members} {others : Dict Json}
    (h : members.others shape = .ok others) : shape.Fits members.depth others := by
  obtain ⟨values, hvalues, h⟩ := bind_eq_ok.mp h
  cases h
  intro member hmem
  obtain ⟨source, hsource, hdecoded⟩ :=
    exists_mem_of_forall₂ (mapM_eq_ok_iff.mp hvalues) (Dict.mem_ofList hmem)
  obtain ⟨value, hvalue, hdecoded⟩ := bind_eq_ok.mp hdecoded
  cases hdecoded
  exact ⟨Option.isNone_iff_eq_none.mp (List.mem_filter.mp hsource).2, fits_of_json source.2 hvalue⟩

theorem Shape.Fits.get?_eq_none {shape : Shape} {depth : Nat} {others : Dict Json}
    (h : shape.Fits depth others) {key : String} (hkey : (shape.field? key).isSome) :
    others.get? key = none := by
  refine lookup_eq_none_of_not_mem fun hmem => ?_
  obtain ⟨member, hmember, rfl⟩ := List.mem_map.mp hmem
  rw [(h member hmember).1] at hkey
  cases hkey

/-- The entries of a dictionary as they were written: in some order, with values of which the
members may themselves be in another order. -/
structure Rewritten (dict : Dict Json) (shuffled entries : List (String × Json)) : Prop where
  perm : dict.toList.Perm shuffled
  pointwise : List.Forall₂ (fun member entry => member.1 = entry.1 ∧ Reordered member.2 entry.2)
    shuffled entries
  whole : ∀ entry ∈ entries, Whole entry.2

theorem exists_rewritten {dict : Dict Json} {written : Json}
    (h : Reordered (.object dict.toList) written) (hwhole : Whole written) :
    ∃ shuffled entries, written = .object entries ∧ Rewritten dict shuffled entries := by
  obtain ⟨shuffled, entries, rfl, hshuffled, hentries⟩ := h.of_object
  cases hwhole with
  | object hwhole => exact ⟨shuffled, entries, rfl, hshuffled, hentries, hwhole⟩

/-- A member as it is read. -/
def drafted (member : String × Json) : String × Draft :=
  (member.1, member.2.draft)

theorem lookup_drafted (entries : List (String × Json)) (key : String) :
    (entries.map drafted).lookup key = (entries.lookup key).map draft := by
  induction entries with
  | nil => rfl
  | cons entry rest ih =>
    rw [List.map_cons, List.lookup_cons, List.lookup_cons, ih, drafted]
    cases key == entry.1 <;> rfl

namespace Rewritten

variable {dict : Dict Json} {shuffled entries : List (String × Json)} {shape : Shape} {depth : Nat}

theorem nodup_shuffled (h : Rewritten dict shuffled entries) : (shuffled.map Prod.fst).Nodup :=
  (h.perm.map _).nodup_iff.mp (nodup_of_ordered dict.ordered)

theorem lookup_shuffled (h : Rewritten dict shuffled entries) (key : String) :
    shuffled.lookup key = dict.get? key :=
  lookup_eq_of_perm h.perm (nodup_of_ordered dict.ordered)

theorem nodup (h : Rewritten dict shuffled entries) : (entries.map Prod.fst).Nodup := by
  have hkeys : shuffled.map Prod.fst = entries.map Prod.fst := by
    rw [← List.forall₂_eq_eq_eq, List.forall₂_map_left_iff, List.forall₂_map_right_iff]
    exact h.pointwise.imp fun _ _ hentry => hentry.1
  exact hkeys ▸ h.nodup_shuffled

theorem exists_of_mem (h : Rewritten dict shuffled entries) {entry : String × Json}
    (hmem : entry ∈ entries) :
    ∃ value, dict.get? entry.1 = some value ∧ Reordered value entry.2 := by
  obtain ⟨⟨key, value⟩, hmember, hkey, hreordered⟩ := exists_mem_of_forall₂ h.pointwise hmem
  refine ⟨value, ?_, hreordered⟩
  rw [← h.lookup_shuffled, ← hkey, lookup_eq_some_iff_mem h.nodup_shuffled]
  exact hmember

theorem copied (h : Rewritten dict shuffled entries) (depth : Nat) (key : String) :
    Copied (dict.get? key) ((⟨depth, entries.map drafted⟩ : Members).find? key) := by
  have hentries : List.Forall₂ (fun member entry => member.1 = entry.1 ∧
      Reordered member.2 entry.2 ∧ Whole entry.2) shuffled entries :=
    forall₂_imp_of_mem h.pointwise fun _ _ entry hmem hentry =>
      ⟨hentry.1, hentry.2, h.whole entry hmem⟩
  have hrel : Option.Rel (fun value other => Reordered value other ∧ Whole other)
      (shuffled.lookup key) (entries.lookup key) := rel_lookup hentries key
  rw [Members.find?_eq_lookup, lookup_drafted, ← h.lookup_shuffled]
  generalize shuffled.lookup key = sent at hrel
  generalize entries.lookup key = found at hrel
  cases hrel with
  | none => exact .absent
  | some hvalue => exact .present hvalue.1 hvalue.2

/-- What was kept beside the declared members is kept again. -/
theorem others {kept : Dict Json} (h : Rewritten dict shuffled entries)
    (hkept : shape.Fits depth kept)
    (hundeclared : dict.toList.filter (fun entry => (shape.field? entry.1).isNone) = kept.toList) :
    (⟨depth, entries.map drafted⟩ : Members).others shape = .ok kept := by
  have hperm : kept.toList.Perm (shuffled.filter fun entry => (shape.field? entry.1).isNone) :=
    hundeclared ▸ h.perm.filter _
  have hpointwise : List.Forall₂ (fun member entry => member.1 = entry.1 ∧
      Reordered member.2 entry.2) (shuffled.filter fun entry => (shape.field? entry.1).isNone)
      (entries.filter fun entry => (shape.field? entry.1).isNone) := by
    refine List.rel_filter ?_ h.pointwise
    rintro member entry ⟨hkey, -⟩
    simp only [hkey]
  have hread : ((entries.map drafted).filter fun entry => (shape.field? entry.1).isNone).mapM
      (fun entry => do return (entry.1, ← Decoder.json depth entry.2)) =
        .ok (shuffled.filter fun entry => (shape.field? entry.1).isNone) := by
    rw [List.filter_map, mapM_eq_ok_iff, List.forall₂_map_left_iff]
    refine List.Forall₂.flip (forall₂_imp_of_mem hpointwise ?_)
    rintro member hmember entry hentry ⟨hkey, hreordered⟩
    have hfits := (hkept member (hperm.mem_iff.mpr hmember)).2
    have hwhole := h.whole entry (List.mem_filter.mp hentry).1
    refine bind_eq_ok.mpr ⟨member.2, hfits.json_reordered hreordered hwhole, ?_⟩
    exact congrArg (fun key => Except.ok (key, member.2)) hkey.symm
  rw [Members.others]
  refine bind_eq_ok.mpr ⟨_, hread, congrArg Except.ok ?_⟩
  rw [Dict.ofList_eq_of_perm hperm (nodup_of_ordered kept.ordered), Dict.ofList_toList]

end Rewritten

section Shape

variable {shape : Shape} {depth : Nat} {declarations : List Declaration}
  {values : List (Option Json)} {reads : Members → Prop} {others : Dict Json}

/-- What is written for a record, by its keys. -/
def sent (declarations : List Declaration) (values : List (Option Json)) (others : Dict Json) :
    Dict Json :=
  Dict.ofList (written declarations values ++ others.toList)

theorem get?_sent_of_declared (hothers : shape.Fits depth others) {key : String}
    (hkey : (shape.field? key).isSome) :
    (sent declarations values others).get? key =
      (written declarations values).reverse.lookup key := by
  rw [sent, lookup_written_append, hothers.get?_eq_none hkey, Option.none_or]

theorem get?_sent_of_undeclared (hkeys : declarations.map (·.key) = shape.fields.map (·.key))
    {key : String} (hkey : shape.field? key = none) :
    (sent declarations values others).get? key = others.get? key := by
  have habsent : key ∉ declarations.map (·.key) := by
    rw [hkeys, ← Shape.isSome_field?, hkey]
    exact Bool.false_ne_true
  rw [sent, lookup_written_append, lookup_written_of_not_mem habsent, Option.or_none]

theorem undeclared_sent (hkeys : declarations.map (·.key) = shape.fields.map (·.key))
    (hothers : shape.Fits depth others) :
    (sent declarations values others).toList.filter (fun entry => (shape.field? entry.1).isNone) =
      others.toList := by
  -- A part of what is in order is in order, and so it is itself a dictionary, known by its lookup.
  let kept : Dict Json := ⟨(sent declarations values others).toList.filter
    fun entry => (shape.field? entry.1).isNone, (Dict.ordered _).filter _⟩
  have hkept : kept = others := by
    refine Dict.eq_of_get? fun key => ?_
    cases hkey : shape.field? key with
    | none =>
      calc kept.get? key = (sent declarations values others).get? key :=
            lookup_filter_of_pos (fun key => (shape.field? key).isNone) (by rw [hkey]; rfl) _
        _ = others.get? key := get?_sent_of_undeclared hkeys hkey
    | some field =>
      rw [hothers.get?_eq_none (by rw [hkey]; rfl)]
      exact lookup_filter_of_neg (fun key => (shape.field? key).isNone) (by rw [hkey]; rfl) _
  exact congrArg Dict.toList hkept

/-- Each field is found where it was written. -/
theorem forall₂_get?_sent (hkeys : declarations.map (·.key) = shape.fields.map (·.key))
    (hnodup : (declarations.map (·.key)).Nodup) (hlength : shape.fields.length = values.length)
    (hothers : shape.Fits depth others) :
    List.Forall₂ (fun field value => (sent declarations values others).get? field.key = value)
      shape.fields values := by
  have hdeclarations : declarations.length = values.length := by
    rw [← List.length_map (·.key), hkeys, List.length_map, hlength]
  have hlookup := forall₂_lookup_written
    (List.forall₂_iff_zip.mpr ⟨hdeclarations, fun _ => trivial⟩) hnodup
  have hwritten : List.Forall₂
      (fun key value => (written declarations values).reverse.lookup key = value)
      (shape.fields.map (·.key)) values := by
    rw [← hkeys, List.forall₂_map_left_iff]
    exact hlookup.imp fun _ _ hvalue => hvalue.2
  rw [List.forall₂_map_left_iff] at hwritten
  refine forall₂_imp_of_mem hwritten fun field hmem value _ hvalue => ?_
  rw [get?_sent_of_declared hothers (Shape.isSome_field?.mpr (List.mem_map_of_mem hmem)), hvalue]

theorem field?_eq_some {shape : Shape} {key : String} {field : Field}
    (h : shape.field? key = some field) : field ∈ shape.fields ∧ field.key = key :=
  ⟨List.mem_of_find?_eq_some h, by simpa using List.find?_some h⟩

/-- The members that were written have the forms that the record asks for. -/
theorem accepts_drafted (hkeys : declarations.map (·.key) = shape.fields.map (·.key))
    (hnodup : (declarations.map (·.key)).Nodup)
    (hfields : FieldsReread depth shape.fields values reads) (hothers : shape.Fits depth others)
    (hkept : shape.undeclared = .kept ∨ others = .empty)
    {shuffled entries : List (String × Json)}
    (h : Rewritten (sent declarations values others) shuffled entries) {entry : String × Json}
    (hmem : entry ∈ entries) : shape.Accepts depth (drafted entry) := by
  obtain ⟨value, hvalue, hreordered⟩ := h.exists_of_mem hmem
  have hwhole := h.whole entry hmem
  simp only [Shape.Accepts, drafted]
  split
  · next field hfield =>
    obtain ⟨hmem, hkey⟩ := field?_eq_some hfield
    have hsent := forall₂_get?_sent hkeys hnodup hfields.length_eq hothers
    exact hfields.accepts hsent field hmem value (hkey ▸ hvalue) _ hreordered hwhole
  · next hnone =>
    rw [get?_sent_of_undeclared hkeys hnone] at hvalue
    rcases hkept with hkept | rfl
    · have hmember := (lookup_eq_some_iff_mem (nodup_of_ordered others.ordered)).mp hvalue
      have hfits := (hothers _ hmember).2
      simp only [Shape.checkUndeclared, hkept, hfits.json_reordered hreordered hwhole]
      rfl
    · cases hvalue

/-- **A record is read again from whatever is written for it.** -/
theorem Shape.members_reread (hdepth : 1 < depth)
    (hkeys : declarations.map (·.key) = shape.fields.map (·.key))
    (hnodup : (declarations.map (·.key)).Nodup)
    (hfields : FieldsReread (depth - 1) shape.fields values reads)
    (hothers : shape.Fits (depth - 1) others)
    (hkept : shape.undeclared = .kept ∨ others = .empty) {text : Json}
    (hreordered : Reordered (.ofMembers (written declarations values ++ others.toList)) text)
    (hwhole : Whole text) :
    ∃ copy, shape.members depth text.draft = .ok copy ∧ reads copy ∧
      copy.others shape = .ok others := by
  obtain ⟨shuffled, entries, rfl, h⟩ : ∃ shuffled entries, text = .object entries ∧
      Rewritten (sent declarations values others) shuffled entries :=
    exists_rewritten hreordered hwhole
  have hcheck : shape.checkMembers (depth - 1) []
      ((entries.map drafted).map fun member => (.name member.1, member.2)) =
        .ok (entries.map drafted) := by
    refine checkMembers_eq_ok ?_ (fun _ _ => List.not_mem_nil) ?_
    · rw [List.map_map]
      exact h.nodup
    · rw [List.forall_mem_map]
      exact fun entry hmem => accepts_drafted hkeys hnodup hfields hothers hkept h hmem
  refine ⟨⟨depth - 1, entries.map drafted⟩, ?_, ?_, ?_⟩
  · rw [List.map_map] at hcheck
    rw [draft, memberDrafts_eq_map, Shape.members, deeper_eq_ok.mpr ⟨hdepth, rfl⟩, ok_bind]
    exact bind_eq_ok.mpr ⟨_, hcheck, rfl⟩
  · have hsent := forall₂_get?_sent hkeys hnodup hfields.length_eq hothers
    exact hfields.reads rfl (hsent.imp fun field value hvalue => hvalue ▸ h.copied _ _)
  · exact h.others hothers (undeclared_sent hkeys hothers)

theorem keys_written_sublist (declarations : List Declaration) (values : List (Option Json)) :
    ((written declarations values).map Prod.fst).Sublist (declarations.map (·.key)) := by
  induction declarations generalizing values with
  | nil => exact List.nil_sublist _
  | cons declaration rest ih =>
    cases values with
    | nil => exact List.nil_sublist _
    | cons value values =>
      rw [written, List.zipWith_cons_cons, List.flatten_cons, List.map_append]
      cases value with
      | none => exact (ih values).cons _
      | some value => exact (ih values).cons_cons _

/-- In the order in which a record declares its members, each has a key of its own. -/
theorem nodup_written_append (hkeys : declarations.map (·.key) = shape.fields.map (·.key))
    (hnodup : (declarations.map (·.key)).Nodup) (hothers : shape.Fits depth others) :
    ((written declarations values ++ others.toList).map Prod.fst).Nodup := by
  rw [List.map_append, List.nodup_append]
  refine ⟨hnodup.sublist (keys_written_sublist _ _), nodup_of_ordered others.ordered, ?_⟩
  rintro key hkey other hother rfl
  obtain ⟨member, hmem, rfl⟩ := List.mem_map.mp hother
  have hdeclared := (keys_written_sublist declarations values).subset hkey
  rw [hkeys, ← Shape.isSome_field?, (hothers member hmem).1] at hdeclared
  cases hdeclared

theorem whole_written {declarations : List Declaration} {values : List (Option Json)}
    (h : ∀ sent ∈ values, ∀ value ∈ sent, Whole value) :
    ∀ member ∈ written declarations values, Whole member.2 := by
  induction declarations generalizing values with
  | nil => exact fun _ hmem => absurd hmem List.not_mem_nil
  | cons declaration rest ih =>
    cases values with
    | nil => exact fun _ hmem => absurd hmem List.not_mem_nil
    | cons value values =>
      obtain ⟨hfirst, hrest⟩ := List.forall_mem_cons.mp h
      rw [written, List.zipWith_cons_cons, List.flatten_cons, List.forall_mem_append]
      refine ⟨fun member hmem => ?_, ih hrest⟩
      cases value with
      | none => cases hmem
      | some value =>
        rw [List.mem_singleton.mp hmem]
        exact hfirst value rfl

end Shape

end IdentityConsole.Json
