import IdentityConsole.Config
import IdentityConsole.Proofs.Records.Identity
import IdentityConsole.Proofs.Records.Whole
import IdentityConsole.Proofs.Text.Utf8

/-!
# Records come back from their own texts

A user, a group, a policy, an identity or a configuration that was read is read once more from what
is written for it.
-/

namespace IdentityConsole

open Json (Declaration Decoder Draft FieldsReread Reordered Whole)
open Json.Draft (Denotes)

theorem recovers_timestamp {instant : Timestamp} (h : instant.Valid) (depth : Nat) :
    Decoder.Recovers Decoder.timestamp depth instant (.string instant.text) := by
  intro written hreordered _
  cases hreordered
  rw [Json.draft, Decoder.timestamp, Decoder.textFor, ok_bind, h.parse_text]
  rfl

theorem rereads_timestamp (depth : Nat) :
    Decoder.Rereads Decoder.timestamp (.string ·.text) depth := by
  intro draft instant h
  obtain ⟨received, -, hread⟩ := bind_eq_ok.mp h
  split at hread
  · next hparse =>
    cases hread
    exact recovers_timestamp (Timestamp.valid_of_parse hparse) depth
  · cases hread

theorem recovers_texts {depth : Nat} (hdepth : 1 < depth) (texts : List String) :
    (Decoder.list Decoder.string).Recovers depth texts (.ofStrings texts) :=
  Json.recovers_list hdepth fun text _ => Json.recovers_text .string (depth - 1) text

/-! ### Statements -/

theorem Effect.recovers (effect : Effect) (depth : Nat) :
    decoder.Recovers depth effect (.string effect.text) := by
  rintro _ ⟨⟩ -
  cases effect <;> rfl

/-- A statement without subjects, actions or resources is written with empty lists, which nest
deeper than the statement itself. -/
theorem Statement.rereads {depth : Nat} (hdepth : 2 < depth) : decoder.Rereads toJson depth := by
  intro draft statement h
  simp only [decoder, bind_eq_ok] at h
  obtain ⟨members, hmembers, effect, -, subjects, -, actions, -, resources, -, conditions,
    hconditions, h⟩ := h
  cases h
  intro written hreordered hwhole
  rw [toJson_eq] at hreordered
  have hinner := Json.Shape.depth_of_members hmembers
  have hlists : 1 < members.depth := by omega
  have hfields : FieldsReread members.depth shape.fields
      (values ⟨effect, subjects, actions, resources, conditions⟩) _ :=
    .cons (.required (effect.recovers _)) <|
    .cons (.withDefault (recovers_texts hlists subjects)) <|
    .cons (.withDefault (recovers_texts hlists actions)) <|
    .cons (.withDefault (recovers_texts hlists resources)) <|
    .cons (.optional (fun _ => nofun)
      (Json.recovers_of_optional (Json.rereads_values _) hconditions)) .nil
  rw [hinner] at hfields
  obtain ⟨copy, hcopy, ⟨heffect, hsubjects, hactions, hresources, hconditions, -⟩, -⟩ :=
    Json.Shape.members_reread (by omega) rfl (by decide) hfields (Json.Shape.fits_empty shape _)
      (.inr rfl) hreordered hwhole
  simp only [decoder, hcopy, heffect, hsubjects, hactions, hresources, hconditions, ok_bind]
  rfl

/-! ### Records -/

theorem User.rereads {depth : Nat} (hdepth : 1 < depth) : decoder.Rereads toJson depth := by
  intro draft user h
  simp only [decoder, bind_eq_ok] at h
  obtain ⟨members, hmembers, id, -, accountId, -, desc, -, name, -, email, -, createdAt,
    hcreatedAt, updatedAt, hupdatedAt, others, hothers, h⟩ := h
  cases h
  intro written hreordered hwhole
  rw [toJson_eq] at hreordered
  have hfields : FieldsReread members.depth shape.fields
      (values ⟨id, accountId, desc, name, email, createdAt, updatedAt, others⟩) _ :=
    .cons (.required (Json.recovers_text _ _ id)) <|
    .cons (.withDefault (Json.recovers_text _ _ accountId)) <|
    .cons (.withDefault (Json.recovers_text _ _ desc)) <|
    .cons (.optional (fun _ => nofun) fun name _ => Json.recovers_text _ _ name) <|
    .cons (.optional (fun _ => nofun) fun email _ => Json.recovers_text _ _ email) <|
    .cons (.optional (fun _ => nofun)
      (Json.recovers_of_optional (rereads_timestamp _) hcreatedAt)) <|
    .cons (.optional (fun _ => nofun)
      (Json.recovers_of_optional (rereads_timestamp _) hupdatedAt)) .nil
  have hfits := Json.Shape.fits_of_others hothers
  rw [Json.Shape.depth_of_members hmembers] at hfields hfits
  obtain ⟨copy, hcopy, ⟨hid, haccountId, hdesc, hname, hemail, hcreatedAt, hupdatedAt, -⟩,
      hothers⟩ :=
    Json.Shape.members_reread hdepth rfl (by decide) hfields hfits (.inl rfl) hreordered hwhole
  simp only [decoder, hcopy, hid, haccountId, hdesc, hname, hemail, hcreatedAt, hupdatedAt, hothers,
    ok_bind]
  rfl

theorem Group.rereads {depth : Nat} (hdepth : 1 < depth) : decoder.Rereads toJson depth := by
  intro draft group h
  simp only [decoder, bind_eq_ok] at h
  obtain ⟨members, hmembers, id, -, accountId, -, name, -, desc, -, createdAt, hcreatedAt,
    updatedAt, hupdatedAt, others, hothers, h⟩ := h
  cases h
  intro written hreordered hwhole
  rw [toJson_eq] at hreordered
  have hfields : FieldsReread members.depth shape.fields
      (values ⟨id, accountId, name, desc, createdAt, updatedAt, others⟩) _ :=
    .cons (.required (Json.recovers_text _ _ id)) <|
    .cons (.withDefault (Json.recovers_text _ _ accountId)) <|
    .cons (.withDefault (Json.recovers_text _ _ name)) <|
    .cons (.withDefault (Json.recovers_text _ _ desc)) <|
    .cons (.optional (fun _ => nofun)
      (Json.recovers_of_optional (rereads_timestamp _) hcreatedAt)) <|
    .cons (.optional (fun _ => nofun)
      (Json.recovers_of_optional (rereads_timestamp _) hupdatedAt)) .nil
  have hfits := Json.Shape.fits_of_others hothers
  rw [Json.Shape.depth_of_members hmembers] at hfields hfits
  obtain ⟨copy, hcopy, ⟨hid, haccountId, hname, hdesc, hcreatedAt, hupdatedAt, -⟩, hothers⟩ :=
    Json.Shape.members_reread hdepth rfl (by decide) hfields hfits (.inl rfl) hreordered hwhole
  simp only [decoder, hcopy, hid, haccountId, hname, hdesc, hcreatedAt, hupdatedAt, hothers,
    ok_bind]
  rfl

/-- The lists of a statement stand four levels below the policy. -/
theorem Policy.rereads {depth : Nat} (hdepth : 4 < depth) : decoder.Rereads toJson depth := by
  intro draft policy h
  simp only [decoder, bind_eq_ok] at h
  obtain ⟨members, hmembers, id, -, accountId, -, desc, -, version, -, statements, hstatements,
    createdAt, hcreatedAt, updatedAt, hupdatedAt, others, hothers, h⟩ := h
  cases h
  intro written hreordered hwhole
  rw [toJson_eq] at hreordered
  have hinner := Json.Shape.depth_of_members hmembers
  have hstatements : (Decoder.list Statement.decoder).Recovers members.depth statements
      (.array (statements.map Statement.toJson)) :=
    Json.recovers_of_withDefault (Json.rereads_list (Statement.rereads (by omega)))
      (Json.recovers_list (by omega) fun _ hmem => absurd hmem List.not_mem_nil) hstatements
  have hfields : FieldsReread members.depth shape.fields
      (values ⟨id, accountId, desc, version, statements, createdAt, updatedAt, others⟩) _ :=
    .cons (.required (Json.recovers_text _ _ id)) <|
    .cons (.optional (fun _ => nofun) fun accountId _ => Json.recovers_text _ _ accountId) <|
    .cons (.withDefault (Json.recovers_text _ _ desc)) <|
    .cons (.withDefault (Json.recovers_text _ _ version)) <|
    .cons (.withDefault hstatements) <|
    .cons (.optional (fun _ => nofun)
      (Json.recovers_of_optional (rereads_timestamp _) hcreatedAt)) <|
    .cons (.optional (fun _ => nofun)
      (Json.recovers_of_optional (rereads_timestamp _) hupdatedAt)) .nil
  have hfits := Json.Shape.fits_of_others hothers
  rw [hinner] at hfields hfits
  obtain ⟨copy, hcopy, ⟨hid, haccountId, hdesc, hversion, hstatements, hcreatedAt, hupdatedAt, -⟩,
      hothers⟩ :=
    Json.Shape.members_reread (by omega) rfl (by decide) hfields hfits (.inl rfl) hreordered hwhole
  simp only [decoder, hcopy, hid, haccountId, hdesc, hversion, hstatements, hcreatedAt, hupdatedAt,
    hothers, ok_bind]
  rfl

theorem Identity.rereads {depth : Nat} (hdepth : 1 < depth) : decoder.Rereads toJson depth :=
  fun h => recovers hdepth (fits_of_decoder h)

/-! ### Configurations -/

namespace Config

/-- The name of the last user is written even where there is none. -/
def declarations : List Declaration := [
  ⟨"last_username", .defaulted .null, Denotes⟩,
  ⟨"storage_dir", .optional, Denotes⟩]

def values (config : Config) : List (Option Json) := [
  some ((config.lastUsername.map .string).getD .null), config.storageDir.map .string]

theorem toJson_eq (config : Config) : config.toJson =
    .ofMembers (Json.written declarations config.values ++ Dict.empty.toList) := by
  have hkeys : (declarations.map (·.key)).Pairwise (· < ·) := by decide
  have hordered : (Json.written declarations config.values).Pairwise
      fun entry later => entry.1 < later.1 :=
    List.pairwise_map.mp (hkeys.sublist (Json.keys_written_sublist _ _))
  rw [Json.ofMembers, Dict.empty, List.append_nil, Dict.toList_ofList hordered]
  simp [toJson, values, declarations, Json.written, Json.optionalMember]

theorem whole (config : Config) : Whole config.toJson := by
  obtain ⟨lastUsername, storageDir⟩ := config
  refine .object (List.forall_mem_cons.mpr ⟨?_, fun member hmem => ?_⟩)
  · cases lastUsername with
    | none => exact .null
    | some name => exact .string name
  · cases storageDir with
    | none => cases hmem
    | some path =>
      rw [List.mem_singleton.mp hmem]
      exact .string path

theorem recovers {depth : Nat} (hdepth : 1 < depth) (config : Config) :
    decoder.Recovers depth config config.toJson := by
  intro written hreordered hwhole
  rw [toJson_eq] at hreordered
  have hlastUsername : (Decoder.optional Decoder.string).Recovers (depth - 1) config.lastUsername
      ((config.lastUsername.map .string).getD .null) := by
    cases config.lastUsername with
    | none =>
      rintro _ ⟨⟩ -
      rfl
    | some name => exact Json.recovers_some nofun (Json.recovers_text .string (depth - 1) name)
  have hfields : FieldsReread (depth - 1) shape.fields config.values _ :=
    .cons (.withDefault hlastUsername) <|
    .cons (.optional (fun _ => nofun) fun path _ => Json.recovers_text _ _ path) .nil
  obtain ⟨copy, hcopy, ⟨hlastUsername, hstorageDir, -⟩, -⟩ :=
    Json.Shape.members_reread hdepth rfl (by decide) hfields (Json.Shape.fits_empty shape _)
      (.inr rfl) hreordered hwhole
  simp only [decoder, Json.Members.optional] at hstorageDir ⊢
  simp only [hcopy, hlastUsername, hstorageDir, ok_bind]
  rfl

end Config

/-- A configuration is loaded as it was saved. -/
theorem ConfigFile.load_of_save {config : Config} {file saved : ConfigFile}
    (h : file.save config = .ok saved) : saved.load = .ok config := by
  have hslot : saved.slot = .holding config.toJson.laidOut := by
    obtain ⟨path, slot⟩ := file
    cases slot with
    | absent | file content =>
      cases h
      rfl
    | directory | blocked fault => cases h
  have hread : Json.decode Config.decoder config.toJson.laidOut = .ok config := by
    rw [Json.decode_laidOut _ config.whole]
    exact Config.recovers (by decide) config _ (Reordered.refl _) config.whole
  rw [ConfigFile.load, hslot, FileSlot.holding, FileSlot.read, Text.Utf8.decode?_encode]
  simp only [hread]
  rfl

/-! ### All of them -/

theorem Form.rereads (form : Form) :
    form.decoder.Rereads Form.toJson Json.nestingLimit := by
  cases form with
  | record kind =>
    cases kind with
    | users => exact User.rereads (by decide)
    | groups => exact Group.rereads (by decide)
    | policies => exact Policy.rereads (by decide)
  | identity => exact Identity.rereads (by decide)

/-- What is written to be read once more. -/
inductive Document
  | record (form : Form)
  | config

namespace Document

def Value : Document → Type
  | record form => form.Value
  | config => Config

def decoder : (document : Document) → Decoder document.Value
  | record form => form.decoder
  | config => Config.decoder

def toJson : {document : Document} → document.Value → Json
  | record _ => Form.toJson
  | config => Config.toJson

theorem rereads (document : Document) :
    document.decoder.Rereads toJson Json.nestingLimit := by
  cases document with
  | record form => exact form.rereads
  | config => exact fun _ => Config.recovers (by decide) _

theorem whole {document : Document} {draft : Draft} {value : document.Value}
    (h : document.decoder Json.nestingLimit draft = .ok value) (hdraft : draft.Integral) :
    Whole (toJson value) := by
  cases document with
  | record form => exact Form.whole h hdraft
  | config => exact Config.whole value

/-- **A record comes back from its own text.** If all numbers of the text it was read from are
integers of 64 bits, then so are its own, but that `-0` is held as the negative zero. And if they
are, then it is read from its compact and from its laid-out text, in whatever order the members of
its objects are written. -/
theorem decode_written {document : Document} {text : String} {value : document.Value}
    (h : Json.decode document.decoder text = .ok value) :
    ((Draft.ofText text).1.Integral → Whole (toJson value)) ∧
      (Whole (toJson value) → ∀ written, Reordered (toJson value) written →
        Json.decode document.decoder written.text = .ok value ∧
        Json.decode document.decoder written.laidOut = .ok value) := by
  have hvalue := Json.decoder_of_decode h
  refine ⟨whole hvalue, fun hwhole written hreordered => ?_⟩
  have hwritten := hwhole.reordered hreordered
  rw [Json.decode_text _ hwritten, Json.decode_laidOut _ hwritten]
  have hread := document.rereads hvalue written hreordered hwritten
  exact ⟨hread, hread⟩

/-- An escape, `-0` and the greatest integer, members that are not in order, and an effect and a
statement in the other form that each may have. -/
def policyOfAllForms : String :=
  "\x7b\"n\":-5,\"id\":\"\\u00e9\",\"statement\":[\x7b\"effect\":\x7b\"Deny\":null\x7d," ++
    "\"conditions\":\x7b\"z\":[-0],\"a\":18446744073709551615\x7d\x7d,[\"Allow\"]]\x7d"

def policyReadOfAllForms : Policy where
  id := "é"
  accountId := none
  desc := ""
  version := ""
  statements := [
    ⟨.deny, [], [], [], some <| Dict.ofList [
      ("a", .ofNat 0xFFFFFFFFFFFFFFFF), ("z", .array [.number (.float .negativeZero)])]⟩,
    ⟨.allow, [], [], [], none⟩]
  createdAt := none
  updatedAt := none
  others := Dict.empty.insert "n" (.ofInt (-5))

theorem decode_written_policyOfAllForms :
    Json.decode Policy.decoder policyOfAllForms = .ok policyReadOfAllForms ∧
      (Draft.ofText policyOfAllForms).1.Integral ∧
      Json.decode Policy.decoder policyReadOfAllForms.toJson.text = .ok policyReadOfAllForms ∧
      Json.decode Policy.decoder policyReadOfAllForms.toJson.laidOut =
        .ok policyReadOfAllForms := by
  have hread : Json.decode Policy.decoder policyOfAllForms = .ok policyReadOfAllForms :=
    eq_ok_of_toOption (by decide +kernel)
  have hintegral : (Draft.ofText policyOfAllForms).1.Integral := by decide +kernel
  obtain ⟨hwhole, hback⟩ := @decode_written (.record (.record .policies)) _ _ hread
  exact ⟨hread, hintegral, hback (hwhole hintegral) _ (Reordered.refl _)⟩

end Document

end IdentityConsole
