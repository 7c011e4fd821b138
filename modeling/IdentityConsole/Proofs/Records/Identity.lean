import IdentityConsole.Proofs.Records.Reread
import IdentityConsole.Proofs.Records.SentBack
import IdentityConsole.Records.TokenGrant

/-!
# Identities are read back

An identity that was decoded, or made from a name, is decoded again from the text under which it is
stored, unless a floating point number is in it.
-/

namespace IdentityConsole

open Json (Decoder Draft)

namespace Identity

/-- The members beyond the declared ones have other names, and nest less deep than a limit. -/
def Fits (depth : Nat) (user : Identity) : Prop :=
  ∀ member ∈ user.others.toList, shape.field? member.1 = none ∧ Json.Fits depth member.2

/-- All numbers of an identity are integers of 64 bits. -/
def isIntegral (user : Identity) : Bool :=
  Json.isIntegral.membersIntegral user.others.toList

theorem fits_named (depth : Nat) (name : String) : (named name).Fits depth := by
  intro member hmem
  cases hmem

theorem Fits.mono {depth depth' : Nat} {user : Identity} (h : user.Fits depth)
    (hle : depth ≤ depth') : user.Fits depth' :=
  fun member hmem => ⟨(h member hmem).1, (h member hmem).2.mono hle⟩

theorem fits_of_decoder {depth : Nat} {draft : Draft} {user : Identity}
    (h : decoder depth draft = .ok user) : user.Fits (depth - 1) := by
  simp only [decoder, bind_eq_ok] at h
  obtain ⟨members, hmembers, id, -, name, -, email, -, others, hothers, h⟩ := h
  cases h
  rw [← Json.Shape.depth_of_members hmembers]
  exact Json.Shape.fits_of_others hothers

/-! ### Reading back -/

section Stored

variable {user : Identity} {depth : Nat}

theorem recovers (hdepth : 1 < depth) (h : user.Fits (depth - 1)) :
    decoder.Recovers depth user user.toJson := by
  intro text hreordered hwhole
  rw [toJson_eq] at hreordered
  have hfields : Json.FieldsReread (depth - 1) shape.fields user.values _ :=
    .cons (.optional (fun _ => nofun) fun _ _ => Json.recovers_text _ _ _) <|
    .cons (.optional (fun _ => nofun) fun _ _ => Json.recovers_text _ _ _) <|
    .cons (.optional (fun _ => nofun) fun _ _ => Json.recovers_text _ _ _) .nil
  obtain ⟨copy, hcopy, ⟨hid, hname, hemail, -⟩, hothers⟩ :=
    Json.Shape.members_reread hdepth rfl (by decide) hfields h (.inl rfl) hreordered hwhole
  simp only [decoder, hcopy, hid, hname, hemail, hothers, ok_bind]
  rfl

theorem members_eq (user : Identity) :
    user.members = Json.written declarations user.values ++ user.others.toList := by
  simp [members, values, declarations, Json.written, Json.optionalMember]

theorem whole_members (h : user.isIntegral = true) : Json.Whole (.object user.members) := by
  have htext : ∀ text : Option String, ∀ value ∈ text.map Json.string, Json.Whole value := by
    intro text value hmem
    obtain ⟨text, -, rfl⟩ := Option.map_eq_some_iff.mp hmem
    exact .string text
  refine .object ?_
  rw [members_eq, List.forall_mem_append]
  refine ⟨Json.whole_written ?_, Json.members_whole _ h⟩
  simp only [values, List.forall_mem_cons]
  exact ⟨htext _, htext _, htext _, fun _ hmem => absurd hmem List.not_mem_nil⟩

/-- **An identity is read back from the text under which it is stored.** -/
theorem decode_stored (h : user.Fits (Json.nestingLimit - 1)) (hintegral : user.isIntegral = true) :
    Json.decode decoder user.stored = .ok user := by
  have hnodup : (user.members.map Prod.fst).Nodup := by
    rw [members_eq]
    exact Json.nodup_written_append rfl (by decide) h
  have hwhole := whole_members hintegral
  rw [stored, Json.decode_text decoder hwhole]
  exact recovers (by decide) h _ (Json.Reordered.ofMembers hnodup) hwhole

end Stored

end Identity

/-- The identity of a grant stands one level deeper than the grant. -/
theorem TokenGrant.fits_of_decoder {depth : Nat} {draft : Draft} {grant : TokenGrant}
    (h : decoder depth draft = .ok grant) {user : Identity} (huser : grant.user = some user) :
    user.Fits (depth - 2) := by
  simp only [decoder, bind_eq_ok] at h
  obtain ⟨members, hmembers, _, -, _, -, _, -, _, -, _, -, _, -, found, hfound, h⟩ := h
  cases h
  cases huser
  have hdepth := Json.Shape.depth_of_members hmembers
  simp only [Json.Members.optional, Json.Members.withDefault] at hfound
  split at hfound
  · have hfits := Identity.fits_of_decoder (Decoder.of_optional_eq_some hfound)
    rwa [hdepth] at hfits
  · cases hfound

end IdentityConsole
