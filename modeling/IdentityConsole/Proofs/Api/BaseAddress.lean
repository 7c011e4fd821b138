import IdentityConsole.Config
import IdentityConsole.Proofs.Api.Exchange
import IdentityConsole.Proofs.Api.Items
import IdentityConsole.Proofs.Text.Trim

/-!
# The base address

Whatever the environment says, the base address has no blank at its front and no slash at its end,
and the client takes it as it is. Blanks are taken away before slashes are. Where slashes at the end
of a value come after a blank, or make up all of it, the base address ends with that blank, or is
empty.
-/

namespace IdentityConsole

open Text (BeginsWithout EndsWithout isBlank)

namespace Config

/-- An address to which a path can be appended. -/
structure IsBase (address : String) : Prop where
  nonempty : address ≠ ""
  begins : BeginsWithout isBlank address.toList
  ends : EndsWithout isBlank address.toList
  slash : EndsWithout (· == '/') address.toList

/-- The slashes at the end of a value come after a blank, or after nothing. -/
def HasLooseSlashes (value : Option String) : Prop :=
  ∃ text front count, value = some text ∧
    (Text.trim text).toList = front ++ List.replicate (count + 1) '/' ∧
    ∀ c ∈ front.getLast?, isBlank c = true

/-- The address before the slashes at its end are taken away. -/
def given (value : Option String) : String :=
  ((value.map Text.trim).filter (· ≠ "")).getD defaultAddress

theorem baseAddress_eq (value : Option String) :
    baseAddress value = Text.trimEndSlashes (given value) :=
  rfl

theorem given_some {text : String} (h : Text.trim text ≠ "") :
    given (some text) = Text.trim text := by
  have hfilter : (some (Text.trim text)).filter (· ≠ "") = some (Text.trim text) := by simp [h]
  rw [given, Option.map_some, hfilter]
  rfl

theorem given_some_of_eq_empty {text : String} (h : Text.trim text = "") :
    given (some text) = defaultAddress := by
  rw [given, Option.map_some, h]
  rfl

theorem exists_of_given_ne {value : Option String} (h : given value ≠ defaultAddress) :
    ∃ text, value = some text ∧ given value = Text.trim text := by
  cases value with
  | none => exact absurd rfl h
  | some text =>
    by_cases htext : Text.trim text = ""
    · exact absurd (given_some_of_eq_empty htext) h
    · exact ⟨text, rfl, given_some htext⟩

theorem isBase_defaultAddress : IsBase defaultAddress := by
  constructor <;> decide

theorem baseAddress_of_given {value : Option String} (h : given value = defaultAddress) :
    baseAddress value = defaultAddress := by
  rw [baseAddress_eq, h, Text.trimEndSlashes_eq_self isBase_defaultAddress.slash]

/-- Nothing is wrong with an address but for slashes at its end. -/
theorem given_trimmed (value : Option String) :
    given value ≠ "" ∧ BeginsWithout isBlank (given value).toList ∧
      EndsWithout isBlank (given value).toList := by
  have hdefault := isBase_defaultAddress
  cases value with
  | none => exact ⟨hdefault.nonempty, hdefault.begins, hdefault.ends⟩
  | some text =>
    by_cases htext : Text.trim text = ""
    · rw [given_some_of_eq_empty htext]
      exact ⟨hdefault.nonempty, hdefault.begins, hdefault.ends⟩
    · rw [given_some htext]
      exact ⟨htext, Text.beginsWithout_trim text, Text.endsWithout_trim text⟩

theorem begins_baseAddress (value : Option String) :
    BeginsWithout isBlank (baseAddress value).toList :=
  (given_trimmed value).2.1.of_isPrefix (Text.isPrefix_trimEndSlashes _)

theorem slash_baseAddress (value : Option String) :
    EndsWithout (· == '/') (baseAddress value).toList :=
  Text.endsWithout_trimEndSlashes _

theorem IsBase.baseAddress_eq_self {address : String} (h : IsBase address) :
    baseAddress (some address) = address := by
  have htrim : Text.trim address = address := Text.trim_eq_self h.begins h.ends
  have hgiven : given (some address) = address := by
    rw [given_some (htrim.symm ▸ h.nonempty), htrim]
  rw [baseAddress_eq, hgiven, Text.trimEndSlashes_eq_self h.slash]

/-- Trimming only shortens, so that an address that comes out whole had nothing to trim. -/
theorem isBase_of_baseAddress_eq_self {address : String}
    (h : baseAddress (some address) = address) : IsBase address := by
  by_cases htrim : Text.trim address = ""
  · rw [← h, baseAddress_of_given (given_some_of_eq_empty htrim)]
    exact isBase_defaultAddress
  · have hfront : address.toList <+: (Text.trim address).toList := by
      conv_lhs => rw [← h, baseAddress_eq, given_some htrim]
      exact Text.isPrefix_trimEndSlashes _
    have hsame : Text.trim address = address := by
      rw [← String.toList_inj]
      exact (Text.trim_sublist address).antisymm hfront.sublist
    refine ⟨hsame ▸ htrim, h ▸ begins_baseAddress _, ?_, h ▸ slash_baseAddress _⟩
    rw [← hsame]
    exact Text.endsWithout_trim address

/-- The addresses that stand for themselves. -/
theorem baseAddress_eq_self_iff {address : String} :
    baseAddress (some address) = address ↔ IsBase address :=
  ⟨isBase_of_baseAddress_eq_self, IsBase.baseAddress_eq_self⟩

/-! ### Loose slashes -/

/-- What comes before loose slashes is what is left of the value. -/
theorem baseAddress_of_loose {text : String} {front : List Char} {count : Nat}
    (htext : (Text.trim text).toList = front ++ List.replicate (count + 1) '/')
    (hfront : ∀ c ∈ front.getLast?, isBlank c = true) :
    (baseAddress (some text)).toList = front := by
  have hne : Text.trim text ≠ "" := by
    intro hempty
    rw [hempty] at htext
    simp at htext
  have hslash : EndsWithout (· == '/') front := by
    intro c hc
    have hblank := hfront c hc
    apply beq_eq_false_iff_ne.mpr
    rintro rfl
    exact absurd hblank (by decide)
  rw [baseAddress_eq, given_some hne, Text.toList_trimEndSlashes, htext]
  refine Text.dropEndWhile_append hslash fun c hc => ?_
  rw [List.eq_of_mem_replicate hc]
  rfl

theorem HasLooseSlashes.not_isBase {value : Option String} (h : HasLooseSlashes value) :
    ¬IsBase (baseAddress value) := by
  obtain ⟨text, front, count, rfl, htext, hfront⟩ := h
  intro hbase
  have hnonempty := hbase.nonempty
  have hends := hbase.ends
  rw [Ne, ← String.toList_eq_nil_iff, baseAddress_of_loose htext hfront] at hnonempty
  rw [baseAddress_of_loose htext hfront] at hends
  have hlast := List.getLast?_eq_some_getLast hnonempty
  have hblank := hfront _ hlast
  rw [hends _ hlast] at hblank
  cases hblank

theorem isBase_of_eq_given {value : Option String} (h : baseAddress value = given value) :
    IsBase (baseAddress value) := by
  obtain ⟨hnonempty, hbegins, hends⟩ := given_trimmed value
  rw [← h] at hnonempty hbegins hends
  exact ⟨hnonempty, hbegins, hends, slash_baseAddress value⟩

theorem isBlank_last_of_not_isBase {value : Option String} (h : ¬IsBase (baseAddress value)) :
    ∀ c ∈ (baseAddress value).toList.getLast?, isBlank c = true := by
  intro c hc
  by_contra hblank
  apply h
  refine ⟨?_, begins_baseAddress value, ?_, slash_baseAddress value⟩
  · intro hempty
    rw [hempty] at hc
    cases hc
  · intro other hother
    obtain rfl : c = other := Option.mem_unique hc hother
    exact Bool.eq_false_iff.mpr hblank

/-- Where an address ends with a blank, or nothing is left of it, there were slashes after that. -/
theorem hasLooseSlashes_of_not_isBase {value : Option String} (h : ¬IsBase (baseAddress value)) :
    HasLooseSlashes value := by
  obtain ⟨tail, hgiven, htail⟩ :=
    Text.exists_eq_dropEndWhile_append (· == '/') (given value).toList
  rw [← Text.toList_trimEndSlashes, ← baseAddress_eq] at hgiven
  cases tail with
  | nil =>
    rw [List.append_nil, String.toList_inj] at hgiven
    exact absurd (isBase_of_eq_given hgiven.symm) h
  | cons c rest =>
    have hslashes : c :: rest = List.replicate (rest.length + 1) '/' :=
      List.eq_replicate_of_mem fun item hitem => beq_iff_eq.mp (htail item hitem)
    by_cases hdefault : given value = defaultAddress
    · rw [baseAddress_of_given hdefault] at h
      exact absurd isBase_defaultAddress h
    · obtain ⟨text, rfl, htext⟩ := exists_of_given_ne hdefault
      rw [htext, hslashes] at hgiven
      exact ⟨text, _, rest.length, rfl, hgiven, isBlank_last_of_not_isBase h⟩

theorem isBase_baseAddress_iff {value : Option String} :
    IsBase (baseAddress value) ↔ ¬HasLooseSlashes value := by
  constructor
  · intro hbase hloose
    exact hloose.not_isBase hbase
  · exact not_imp_comm.mp hasLooseSlashes_of_not_isBase

end Config

/-! ### Requests below the base -/

theorem Request.exists_rooted (path : String) :
    ∃ rest, rooted path = "/" ++ rest ∧ (path = "/" ++ rest ∨ path = rest) := by
  unfold rooted
  split
  · next h =>
    obtain ⟨rest, hrest⟩ := List.head?_eq_some_iff.mp h
    have hpath : path = "/" ++ String.ofList rest := by
      rw [← String.toList_inj, hrest, String.toList_append, String.toList_ofList]
      simp
    exact ⟨_, hpath, .inl hpath⟩
  · exact ⟨path, rfl, .inr rfl⟩

namespace Http.Address

/-- What stands before the first colon begins with the slash then, and so is no scheme. -/
theorem afterScheme?_slash (rest : List Char) : afterScheme? ('/' :: rest) = none := by
  have hslash : Char.toLower '/' = '/' := by decide
  have hscheme (scheme : String) (h : scheme.toList.head? ≠ some '/') :
      String.ofList ((('/' :: rest).takeWhile (· != ':')).map Char.toLower) ≠ scheme := by
    rintro rfl
    simp [hslash] at h
  unfold afterScheme?
  dsimp only
  split
  · rw [if_neg]
    rintro (h | h)
    · exact hscheme "http" (by decide) h
    · exact hscheme "https" (by decide) h
  · rfl

/-- Without anything before it a path is no address. -/
theorem parse?_eq_none {text : String} (h : text.toList.head? = some '/') : parse? text = none := by
  obtain ⟨rest, hrest⟩ := List.head?_eq_some_iff.mp h
  rw [← Option.map_eq_none_iff, map_origin_parse?, hrest, ← List.nil_append ('/' :: rest),
    trimmed_append]
  exact congrArg (Option.bind · origin?) (afterScheme?_slash _)

end Http.Address

namespace Client

theorem address_of_prepare {client : Client} {request : Request} {token : Option String}
    {network : Http.Network} {sent : Sent}
    (h : client.prepare request token network = .ok sent) :
    ∃ address, Http.Address.parse? (client.address ++ request.path) = some address ∧
      sent.address = address.origin ++ address.target := by
  rw [prepare] at h
  obtain ⟨header, -, h⟩ := bind_eq_ok.mp h
  dsimp only at h
  split at h
  · cases h
  · next address haddress =>
    split at h
    · cases h
      exact ⟨address, haddress, rfl⟩
    · cases h

/-- One slash stands at the front of what an operation asks for. -/
theorem Operation.exists_path (operation : Operation) :
    ∃ rest, operation.request.path = "/" ++ rest ∧ rest.toList.head? ≠ some '/' := by
  have hcollection (kind : Kind) : ∃ rest, Request.rooted kind.collectionPath = "/" ++ rest ∧
      rest.toList.head? ≠ some '/' := by
    refine ⟨kind.segment, ?_, ?_⟩
    · cases kind <;> rfl
    · cases kind <;> decide
  have hitem (kind : Kind) (id : String) :
      ∃ rest, Request.rooted (kind.itemPath id) = "/" ++ rest ∧ rest.toList.head? ≠ some '/' := by
    refine ⟨kind.segment ++ "/" ++ Text.Percent.encode id, ?_, ?_⟩
    · have hhead : (kind.itemPath id).toList.head? = some '/' := by simp [Kind.itemPath]
      rw [Request.rooted_of_head? hhead, Kind.itemPath]
      simp only [String.append_assoc]
    · cases kind <;> simp [Kind.segment]
  cases operation with
  | list kind => exact hcollection kind
  | create record => exact hcollection _
  | fetch kind id => exact hitem kind id
  | update id record => exact hitem _ id
  | delete kind id => exact hitem kind id
  | requestToken username password => exact ⟨"token", rfl, by decide⟩

/-- Every operation asks for an address that is the base, one slash and the rest of its path. What
leaves goes to that address. -/
structure AsksBelow (client : Client) (base : String) (operation : Operation) (rest : String) :
    Prop where
  path : operation.request.path = "/" ++ rest
  one : rest.toList.head? ≠ some '/'
  address : client.address ++ operation.request.path = base ++ "/" ++ rest
  leaves : ∀ {token network sent}, client.prepare operation.request token network = .ok sent →
    base ≠ "" ∧ ∃ address, Http.Address.parse? (base ++ "/" ++ rest) = some address ∧
      sent.address = address.origin ++ address.target

theorem ofAddress_eq_mk {base : String} (h : EndsWithout (· == '/') base.toList) :
    ofAddress base = ⟨base⟩ := by
  rw [ofAddress, Text.trimEndSlashes_eq_self h]

theorem exists_asksBelow (base : String) (operation : Operation) :
    ∃ rest, AsksBelow ⟨base⟩ base operation rest := by
  obtain ⟨rest, hpath, hone⟩ := operation.exists_path
  have haddress : base ++ operation.request.path = base ++ "/" ++ rest := by
    rw [hpath, String.append_assoc]
  refine ⟨rest, hpath, hone, haddress, fun {token network sent} h => ?_⟩
  obtain ⟨address, hparse, hsent⟩ := address_of_prepare h
  refine ⟨?_, address, haddress ▸ hparse, hsent⟩
  rintro rfl
  have hhead : ("" ++ operation.request.path).toList.head? = some '/' := by simp [hpath]
  rw [Http.Address.parse?_eq_none hhead] at hparse
  cases hparse

end Client

namespace Config

/-- **The base address.** For every value of the environment it begins without a blank, ends without
a slash and is what the client appends to, and each request is made of it, one slash and the rest of
the path. It is an address, and stands for itself, unless slashes are loose in the value. -/
theorem baseAddress_isBase (value : Option String) :
    (IsBase (baseAddress value) ↔ ¬HasLooseSlashes value) ∧
      (baseAddress (some (baseAddress value)) = baseAddress value ↔ ¬HasLooseSlashes value) ∧
      BeginsWithout isBlank (baseAddress value).toList ∧
      EndsWithout (· == '/') (baseAddress value).toList ∧
      Client.ofAddress (baseAddress value) = ⟨baseAddress value⟩ ∧
      (∀ path, ∃ rest, baseAddress value ++ Request.rooted path =
        baseAddress value ++ "/" ++ rest ∧ (path = "/" ++ rest ∨ path = rest)) ∧
      ∀ operation, ∃ rest, (Client.ofAddress (baseAddress value)).AsksBelow
        (baseAddress value) operation rest := by
  have hclient := Client.ofAddress_eq_mk (slash_baseAddress value)
  refine ⟨isBase_baseAddress_iff, baseAddress_eq_self_iff.trans isBase_baseAddress_iff,
    begins_baseAddress value, slash_baseAddress value, hclient, ?_, ?_⟩
  · intro path
    obtain ⟨rest, hrooted, hpath⟩ := Request.exists_rooted path
    exact ⟨rest, by rw [hrooted, String.append_assoc], hpath⟩
  · intro operation
    rw [hclient]
    exact Client.exists_asksBelow _ operation

example : baseAddress (some " https://identity/v1// ") = "https://identity/v1" := by
  decide

/-- Where there is nothing but slashes no address is left, and no default in its place. Slashes
after a blank leave the blank. -/
theorem baseAddress_onlySlashes :
    baseAddress (some "/") = "" ∧
      baseAddress (some (baseAddress (some "/"))) = defaultAddress ∧
      baseAddress (some "http://identity /") = "http://identity " := by
  decide

end Config

end IdentityConsole
