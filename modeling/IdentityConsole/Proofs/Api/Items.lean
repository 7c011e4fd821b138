import IdentityConsole.Api.Client
import IdentityConsole.Proofs.Http.Target
import IdentityConsole.Proofs.Text.Percent

/-!
# Targets of records

The id of a record is encoded as one segment of the target. That keeps records apart, and below the
collection of their kind, unless the segment is one that addresses resolve: `..` leads back to the
base whatever the kind, and `.` to the collection with a slash at its end.
-/

namespace IdentityConsole

open Http (Address)
open Http.Address (IsPath isPlain dots)

namespace Text.Percent

theorem all_isPlain_encodeOctet : ∀ octet : UInt8, (encodeOctet octet).all isPlain = true :=
  forall_octet (by decide +kernel)

theorem isPlain_of_mem_encode {text : String} {c : Char} (h : c ∈ (encode text).toList) :
    isPlain c = true := by
  rw [encode, String.toList_ofList] at h
  obtain ⟨octet, -, hmem⟩ := List.mem_flatMap.mp h
  exact List.all_eq_true.mp (all_isPlain_encodeOctet octet) c hmem

theorem dots_cons {c : Char} (h : c ≠ '%') (rest : List Char) :
    dots (c :: rest) = c :: dots rest := by
  rw [dots]
  · rintro rest' rfl
    exact absurd rfl h
  · rintro rest' rfl
    exact absurd rfl h

/-- The dot is unreserved, and so it is never written in the form that reads as a dot. -/
theorem reserved_digits : ∀ octet : UInt8, isUnreserved octet = false →
    upperHexDigit (octet.toNat / 16) ≠ '%' ∧ upperHexDigit (octet.toNat % 16) ≠ '%' ∧
      ¬(upperHexDigit (octet.toNat / 16) = '2' ∧
        (upperHexDigit (octet.toNat % 16) = 'e' ∨ upperHexDigit (octet.toNat % 16) = 'E')) :=
  forall_octet (by decide +kernel)

theorem dots_encodeOctet (octet : UInt8) (rest : List Char) :
    dots (encodeOctet octet ++ rest) = encodeOctet octet ++ dots rest := by
  cases h : isUnreserved octet with
  | true =>
    rw [encodeOctet_of_unreserved h, List.singleton_append, List.singleton_append,
      dots_cons (unreserved_char octet h).1]
  | false =>
    obtain ⟨hhigh, hlow, hdot⟩ := reserved_digits octet h
    rw [encodeOctet_of_reserved h]
    generalize upperHexDigit (octet.toNat / 16) = high at hhigh hdot
    generalize upperHexDigit (octet.toNat % 16) = low at hlow hdot
    have hpercent : dots ('%' :: high :: low :: rest) = '%' :: dots (high :: low :: rest) := by
      rw [dots]
      · intro rest' _ heq
        rw [List.cons.injEq, List.cons.injEq] at heq
        exact hdot ⟨heq.1, .inl heq.2.1⟩
      · intro rest' _ heq
        rw [List.cons.injEq, List.cons.injEq] at heq
        exact hdot ⟨heq.1, .inr heq.2.1⟩
    simp only [List.cons_append, List.nil_append, hpercent, dots_cons hhigh, dots_cons hlow]

theorem dots_encode (text : String) : dots (encode text).toList = (encode text).toList := by
  rw [encode, String.toList_ofList]
  induction Utf8.encode text with
  | nil => rfl
  | cons octet rest ih => rw [List.flatMap_cons, dots_encodeOctet, ih]

theorem dots_encode_eq_iff {text dotted : String} (h : encode dotted = dotted) :
    dots (encode text).toList = dotted.toList ↔ text = dotted := by
  rw [dots_encode, String.toList_inj]
  constructor
  · intro htext
    exact encode_injective (htext.trans h.symm)
  · rintro rfl
    exact h

end Text.Percent

namespace Kind

/-- What the target of a record has after that of the base. -/
def targetBelow (kind : Kind) (id : String) : String :=
  if id = ".." then ""
  else kind.segment ++ "/" ++ if id = "." then "" else Text.Percent.encode id

theorem isPlain_of_mem_segment (kind : Kind) : ∀ c ∈ kind.segment.toList, isPlain c = true :=
  List.all_eq_true.mp (by cases kind <;> decide)

theorem dots_segment (kind : Kind) : dots kind.segment.toList = kind.segment.toList := by
  cases kind <;> decide

theorem segment_ne_dots (kind : Kind) :
    kind.segment.toList ≠ ['.', '.'] ∧ kind.segment.toList ≠ ['.'] := by
  cases kind <;> decide

theorem segment_injective {kind other : Kind} (h : kind.segment = other.segment) :
    kind = other := by
  cases kind <;> cases other <;> first | rfl | exact absurd h (by decide)

theorem slash_not_mem_of_plain {text : List Char} (h : ∀ c ∈ text, isPlain c = true) :
    '/' ∉ text := by
  intro hmem
  have hslash := h '/' hmem
  revert hslash
  decide

end Kind

namespace Http.Address

open Kind (isPlain_of_mem_segment dots_segment segment_ne_dots slash_not_mem_of_plain)
open Text.Percent (isPlain_of_mem_encode dots_encode_eq_iff)

variable {base : String} {root : Address}

theorem below_of_plain {text : List Char} (h : ∀ c ∈ text, isPlain c = true) :
    ∀ c ∈ text, 0x20 < c.toNat ∧ c ≠ '?' ∧ c ≠ '#' := by
  intro c hmem
  have hplain := h c hmem
  refine ⟨lt_of_isPlain hplain, ?_, ?_⟩
  · rintro rfl
    revert hplain
    decide
  · rintro rfl
    revert hplain
    decide

theorem parse?_collectionPath (hbase : IsPath base.toList)
    (hroot : parse? (base ++ "/") = some root) (kind : Kind) :
    parse? (base ++ kind.collectionPath) = some ⟨root.origin, root.target ++ kind.segment⟩ := by
  obtain ⟨stack, htarget, hbelow⟩ := parse?_below_path hbase hroot
  have hplain := kind.isPlain_of_mem_segment
  have hsegments : Text.splitAt '/' (unified kind.segment.toList) = [kind.segment.toList] := by
    rw [unified_of_plain hplain, Text.splitAt_of_not_mem (slash_not_mem_of_plain hplain)]
  have hresolve : resolve stack [kind.segment.toList] = kind.segment.toList :: stack := by
    rw [resolve, dots_segment, if_neg kind.segment_ne_dots.1, if_neg kind.segment_ne_dots.2,
      resolve]
  have hpath : kind.collectionPath = String.ofList ('/' :: kind.segment.toList) := by
    simp [Kind.collectionPath]
  have hbelow := hbelow kind.segment.toList (below_of_plain hplain)
  rw [hsegments, hresolve, pathText_cons, encoded_of_plain hplain] at hbelow
  rw [hpath, hbelow, htarget]
  simp [← String.toList_inj]

/-- Of the segment that an id makes under its kind, `..` takes both away and `.` itself. -/
theorem pathText_resolve_encode (stack : List (List Char)) (kind : Kind) (id : String) :
    pathText (resolve (kind.segment.toList :: stack) [(Text.Percent.encode id).toList]) =
      above stack ++ '/' :: (kind.targetBelow id).toList := by
  have hkind : kind.segment.toList.flatMap (encodeChar true) = kind.segment.toList :=
    encoded_of_plain kind.isPlain_of_mem_segment
  have hup : dots (Text.Percent.encode id).toList = ['.', '.'] ↔ id = ".." :=
    @dots_encode_eq_iff id ".." rfl
  have hhere : dots (Text.Percent.encode id).toList = ['.'] ↔ id = "." :=
    @dots_encode_eq_iff id "." rfl
  rw [resolve, Kind.targetBelow]
  simp only [hup, hhere, List.isEmpty_nil, if_true, List.drop_succ_cons, List.drop_zero]
  split
  · rw [resolve, pathText_cons]
    rfl
  · split
    · rw [resolve, pathText_cons, above_cons, hkind]
      simp
    · rw [resolve, pathText_cons, above_cons, hkind,
        encoded_of_plain fun _ => isPlain_of_mem_encode]
      simp

/-- The target of a record is that of the base and the part of its own below that. -/
theorem parse?_itemPath (hbase : IsPath base.toList) (hroot : parse? (base ++ "/") = some root)
    (kind : Kind) (id : String) :
    parse? (base ++ kind.itemPath id) =
      some ⟨root.origin, root.target ++ kind.targetBelow id⟩ := by
  obtain ⟨stack, htarget, hbelow⟩ := parse?_below_path hbase hroot
  have hkind := kind.isPlain_of_mem_segment
  have hid : ∀ c ∈ (Text.Percent.encode id).toList, isPlain c = true := fun _ =>
    isPlain_of_mem_encode
  have hsegments : Text.splitAt '/'
      (unified (kind.segment.toList ++ '/' :: (Text.Percent.encode id).toList)) =
        [kind.segment.toList, (Text.Percent.encode id).toList] := by
    have hunified : unified (kind.segment.toList ++ '/' :: (Text.Percent.encode id).toList) =
        unified kind.segment.toList ++ '/' :: unified (Text.Percent.encode id).toList := by
      simp [unified, isSeparator]
    rw [hunified, Text.splitAt_append, unified_of_plain hkind, unified_of_plain hid,
      Text.splitAt_of_not_mem (slash_not_mem_of_plain hkind),
      Text.splitAt_of_not_mem (slash_not_mem_of_plain hid)]
    rfl
  have hpath : kind.itemPath id =
      String.ofList ('/' :: (kind.segment.toList ++ '/' :: (Text.Percent.encode id).toList)) := by
    simp [Kind.itemPath, ← String.toList_inj]
  have hbelow := hbelow (kind.segment.toList ++ '/' :: (Text.Percent.encode id).toList) (by
    intro c hmem
    rcases List.mem_append.mp hmem with hmem | hmem
    · exact below_of_plain hkind c hmem
    · rcases List.mem_cons.mp hmem with rfl | hmem
      · decide
      · exact below_of_plain hid c hmem)
  rw [hsegments, resolve, dots_segment, if_neg kind.segment_ne_dots.1,
    if_neg kind.segment_ne_dots.2, pathText_resolve_encode] at hbelow
  rw [hpath, hbelow, htarget]
  simp [← String.toList_inj]

end Http.Address

/-! ### Different records -/

namespace Kind

/-- A part of a target that names neither the base nor a collection. -/
theorem targetBelow_eq {id : String} (hup : id ≠ "..") (kind : Kind) :
    kind.targetBelow id =
      kind.segment ++ "/" ++ if id = "." then "" else Text.Percent.encode id :=
  if_neg hup

theorem segment_append_slash_inj {kind other : Kind} {rest rest' : List Char}
    (h : kind.segment.toList ++ '/' :: rest = other.segment.toList ++ '/' :: rest') :
    kind = other ∧ rest = rest' := by
  have hself : ∀ kind : Kind, kind.segment.toList.takeWhile (· != '/') = kind.segment.toList :=
    fun kind => List.takeWhile_eq_self_iff.mpr fun c hmem => bne_iff_ne.mpr fun hslash =>
      slash_not_mem_of_plain kind.isPlain_of_mem_segment (hslash ▸ hmem)
  have hsegment := congrArg (List.takeWhile (· != '/')) h
  rw [takeWhile_append_stop (by decide), takeWhile_append_stop (by decide), hself, hself,
    String.toList_inj] at hsegment
  obtain rfl := segment_injective hsegment
  exact ⟨rfl, List.cons_injective (List.append_cancel_left h)⟩

theorem targetBelow_injective {kind other : Kind} {id id' : String} (hid : id ≠ "" ∧ id ≠ "..")
    (hid' : id' ≠ "" ∧ id' ≠ "..") (h : kind.targetBelow id = other.targetBelow id') :
    kind = other ∧ id = id' := by
  have hempty : ∀ {id : String}, id ≠ "" → Text.Percent.encode id ≠ "" := fun hid h =>
    hid (Text.Percent.encode_eq_empty_iff.mp h)
  rw [targetBelow_eq hid.2, targetBelow_eq hid'.2, ← String.toList_inj] at h
  simp only [String.toList_append, List.append_assoc] at h
  obtain ⟨hkind, hrest⟩ := segment_append_slash_inj h
  refine ⟨hkind, ?_⟩
  have hrest := String.toList_inj.mp hrest
  split at hrest
  · next hdot =>
    split at hrest
    · next hdot' => rw [hdot, hdot']
    · exact absurd hrest.symm (hempty hid'.1)
  · split at hrest
    · exact absurd hrest (hempty hid.1)
    · exact Text.Percent.encode_injective hrest

theorem targetBelow_ne_segment {id : String} (hup : id ≠ "..") (kind other : Kind) :
    kind.targetBelow id ≠ other.segment := by
  intro h
  have hslash : '/' ∈ other.segment.toList := by
    rw [← h, targetBelow_eq hup, String.toList_append, String.toList_append]
    exact List.mem_append_left _ (List.mem_append_right _ List.mem_cons_self)
  exact slash_not_mem_of_plain other.isPlain_of_mem_segment hslash

end Kind

/-! ### Requests -/

/-- The requests that concern one record. -/
inductive Request.OfItem (kind : Kind) (id : String) : Request → Prop
  | fetch : OfItem kind id (.get (kind.itemPath id))
  | update (record : kind.Record) :
      OfItem kind id (.put (kind.itemPath id) (Record.toJson record))
  | delete : OfItem kind id (.delete (kind.itemPath id))

/-- The requests that concern the records of a kind. -/
inductive Request.OfCollection (kind : Kind) : Request → Prop
  | list : OfCollection kind (.get kind.collectionPath)
  | create (record : kind.Record) :
      OfCollection kind (.post kind.collectionPath (Record.toJson record))

theorem Request.rooted_of_head? {path : String} (h : path.toList.head? = some '/') :
    rooted path = path :=
  if_pos h

theorem Request.OfItem.path {kind : Kind} {id : String} {request : Request}
    (h : request.OfItem kind id) : request.path = kind.itemPath id := by
  have hrooted : Request.rooted (kind.itemPath id) = kind.itemPath id :=
    Request.rooted_of_head? (by simp [Kind.itemPath])
  cases h <;> exact hrooted

theorem Request.OfCollection.path {kind : Kind} {request : Request}
    (h : request.OfCollection kind) : request.path = kind.collectionPath := by
  have hrooted : Request.rooted kind.collectionPath = kind.collectionPath :=
    Request.rooted_of_head? (by simp [Kind.collectionPath])
  cases h <;> exact hrooted

namespace Client

theorem prepare_of_parse? {client : Client} {request : Request} {token value : Option String}
    {network : Http.Network} {address : Address}
    (hparse : Address.parse? (client.address ++ request.path) = some address)
    (hauthorization : authorization token = .ok value) (hnetwork : address.origin ∈ network) :
    client.prepare request token network = .ok ⟨request.method, address.origin ++ address.target,
      address.target, value, request.body⟩ := by
  simp only [prepare, hauthorization, bind, Except.bind, hparse, if_pos hnetwork]
  rfl

theorem target_of_prepare {client : Client} {request : Request} {token : Option String}
    {network : Http.Network} {sent : Sent} {address : Address}
    (hparse : Address.parse? (client.address ++ request.path) = some address)
    (h : client.prepare request token network = .ok sent) : sent.target = address.target := by
  unfold prepare at h
  cases hauthorization : authorization token with
  | error error =>
    rw [hauthorization] at h
    cases h
  | ok value =>
    rw [hauthorization] at h
    simp only [bind, Except.bind, hparse] at h
    split at h
    · cases h
      rfl
    · cases h

/-- **Requests for different records have different targets**, all of them below the collection of
their kind, as long as no id is `..`. -/
theorem item_targets {client : Client} {root : Address} {kind : Kind} {id : String}
    {request : Request} {token value : Option String} {network : Http.Network}
    (hbase : IsPath client.address.toList)
    (hroot : Address.parse? (client.address ++ "/") = some root)
    (hauthorization : authorization token = .ok value) (hnetwork : root.origin ∈ network)
    (hrequest : request.OfItem kind id) (hid : id ≠ "" ∧ id ≠ "..") :
    ∃ sent, client.prepare request token network = .ok sent ∧ sent.method = request.method ∧
      (root.target ++ kind.segment ++ "/").toList <+: sent.target.toList ∧
      (∀ {kind' id' request' token' network' sent'}, (kind', id') ≠ (kind, id) →
        id' ≠ "" ∧ id' ≠ ".." → Request.OfItem kind' id' request' →
        client.prepare request' token' network' = .ok sent' → sent'.target ≠ sent.target) ∧
      ∀ {kind' request' token' network' sent'}, Request.OfCollection kind' request' →
        client.prepare request' token' network' = .ok sent' → sent'.target ≠ sent.target := by
  have hitem : ∀ {kind id request}, Request.OfItem kind id request →
      Address.parse? (client.address ++ request.path) =
        some ⟨root.origin, root.target ++ kind.targetBelow id⟩ := fun h => by
    rw [h.path, Address.parse?_itemPath hbase hroot]
  refine ⟨_, prepare_of_parse? (hitem hrequest) hauthorization hnetwork, rfl, ?_, ?_, ?_⟩
  · rw [Kind.targetBelow_eq hid.2]
    simp [String.toList_append, List.append_assoc]
  · intro kind' id' request' token' network' sent' hother hid' hrequest' hsent' htarget
    rw [target_of_prepare (hitem hrequest') hsent', String.append_right_inj] at htarget
    obtain ⟨rfl, rfl⟩ := Kind.targetBelow_injective hid' hid htarget
    exact hother rfl
  · intro kind' request' token' network' sent' hrequest' hsent' htarget
    have hcollection := Address.parse?_collectionPath hbase hroot kind'
    rw [← hrequest'.path] at hcollection
    rw [target_of_prepare hcollection hsent', String.append_right_inj] at htarget
    exact Kind.targetBelow_ne_segment hid.2 kind kind' htarget.symm

/-- A base with a segment that is resolved, and ids that look like ways out of it. -/
theorem item_targets_dotted :
    let client : Client := .ofAddress "http://identity/api/../v1/"
    ∃ sent, client.prepare (.delete (Kind.users.itemPath "../groups")) none ["http://identity"] =
        .ok sent ∧
      "/v1/users/".toList <+: sent.target.toList ∧
      ∀ sent', client.prepare (.get (Kind.groups.itemPath ".")) none ["http://identity"] =
        .ok sent' → sent'.target ≠ sent.target := by
  have hbase : IsPath (Client.ofAddress "http://identity/api/../v1/").address.toList := by
    decide +kernel
  have hroot : Address.parse? ((Client.ofAddress "http://identity/api/../v1/").address ++ "/") =
      some ⟨"http://identity", "/v1/"⟩ := by decide +kernel
  obtain ⟨sent, hsent, -, hbelow, hothers, -⟩ :=
    item_targets hbase hroot (rfl : authorization none = .ok none)
      (List.mem_singleton.mpr rfl : "http://identity" ∈ ["http://identity"])
      (Request.OfItem.delete : Request.OfItem .users "../groups" _) (by decide)
  exact ⟨sent, hsent, hbelow, fun sent' => hothers (by decide) (by decide) .fetch⟩

/-- Whatever the kind, `..` leads to the base. -/
theorem item_targets_collide :
    let client : Client := .ofAddress "http://identity/v1"
    let target kind := (client.prepare (.delete (Kind.itemPath kind "..")) none
      ["http://identity"]).toOption.map (·.target)
    target .users = some "/v1/" ∧ target .groups = some "/v1/" ∧
      ¬"/v1/users/".toList <+: "/v1/".toList := by
  decide +kernel

end Client

end IdentityConsole
