import IdentityConsole.Proofs.Api.Items
import IdentityConsole.Route
import IdentityConsole.Text.Blank

/-!
# Routes are read back from their paths

The path of a route has no query, no fragment and no blank, and its segments are those that were put
together. A record without an id has no segment of its own, so that its path is read as that of its
list; no location leads to such a record.
-/

namespace IdentityConsole

open Http.Address (isPlain isEncoded_of_isPlain lt_of_isPlain below_of_plain)
open Kind (isPlain_of_mem_segment slash_not_mem_of_plain)
open Text.Percent (isPlain_of_mem_encode)

namespace Text

/-! ### Octets of what is not empty -/

theorem Utf8.length_le_length_steps (read : List (Option Char)) (fuel : Nat)
    (octets : List UInt8) : read.length ≤ (steps read fuel octets).length := by
  induction fuel generalizing read octets with
  | zero => simp [steps]
  | succ fuel ih =>
    cases octets with
    | nil => simp [steps]
    | cons octet rest =>
      have hread := ih ((next octet rest).1 :: read) (next octet rest).2
      exact Nat.le_of_succ_le hread

theorem Utf8.characters_ne_nil {octets : List UInt8} (h : octets ≠ []) :
    characters octets ≠ [] := by
  obtain ⟨octet, rest, rfl⟩ := List.exists_cons_of_ne_nil h
  have hread := length_le_length_steps [(next octet rest).1] rest.length (next octet rest).2
  rw [characters, List.length_cons, steps]
  exact List.ne_nil_of_length_pos hread

theorem Utf8.ne_empty_of_decode? {octets : List UInt8} {text : String} (h : octets ≠ [])
    (hdecode : decode? octets = some text) : text ≠ "" := by
  obtain ⟨character, rest, hread⟩ := List.exists_cons_of_ne_nil (characters_ne_nil h)
  unfold decode? at hdecode
  rw [hread] at hdecode
  cases character with
  | none => simp at hdecode
  | some c =>
    dsimp only at hdecode
    split at hdecode
    · cases hdecode
      simp [← String.toList_inj]
    · cases hdecode

theorem Percent.octets_ne_nil {text : List Char} (h : text ≠ []) : octets text ≠ [] := by
  obtain ⟨c, rest, rfl⟩ := List.exists_cons_of_ne_nil h
  have hchar : String.utf8EncodeChar c ≠ [] := by
    obtain ⟨octet, others, hencode, -⟩ := Utf8.next_encodeChar c []
    rw [hencode]
    exact List.cons_ne_nil _ _
  by_cases hc : c = '%'
  · subst hc
    unfold octets
    split
    · split <;> exact List.cons_ne_nil _ _
    · next heq =>
      cases heq
      exact List.append_ne_nil_of_left_ne_nil hchar _
    · next heq => cases heq
  · rw [octets_cons hc]
    exact List.append_ne_nil_of_left_ne_nil hchar _

/-- Whether its octets are well-formed or not, a segment is read as some text. -/
theorem Percent.decode_ne_empty {segment : String} (h : segment ≠ "") : decode segment ≠ "" := by
  have hoctets : octets segment.toList ≠ [] := octets_ne_nil fun hnil => h (by
    rw [← String.toList_inj, hnil]
    rfl)
  unfold decode
  cases hdecode : Utf8.decode? (octets segment.toList) with
  | none => exact h
  | some text => exact Utf8.ne_empty_of_decode? hoctets hdecode

/-! ### Segments -/

section Segments

variable {separator : Char} {text : List Char}

theorem segments_append (text rest : List Char) :
    segments separator (text ++ separator :: rest) =
      segments separator text ++ segments separator rest := by
  rw [segments, splitAt_append, List.filter_append, List.map_append]
  rfl

theorem segments_of_not_mem (h : separator ∉ text) (hne : text ≠ []) :
    segments separator text = [String.ofList text] := by
  simp [segments, splitAt_of_not_mem h, hne]

theorem empty_not_mem_segments (text : List Char) : "" ∉ segments separator text := by
  intro hmem
  obtain ⟨piece, hpiece, hempty⟩ := List.mem_map.mp hmem
  have hne := (List.mem_filter.mp hpiece).2
  rw [← String.toList_inj, String.toList_ofList] at hempty
  rw [hempty] at hne
  cases hne

end Segments

/-! ### Blanks -/

theorem isBlank_of_isPlain {c : Char} (h : isPlain c = true) : isBlank c = false := by
  have hlow := lt_of_isPlain h
  have hencoded := isEncoded_of_isPlain h
  simp only [Http.Address.isEncoded, Bool.or_eq_false_iff, decide_eq_false_iff_not,
    Nat.not_le] at hencoded
  have hhigh := hencoded.1.1.2
  simp only [isBlank, Bool.or_eq_false_iff, Bool.and_eq_false_iff, decide_eq_false_iff_not,
    beq_eq_false_iff_ne]
  omega

theorem dropWhile_of_forall_not {α : Type} {p : α → Bool} {items : List α}
    (h : ∀ item ∈ items, p item = false) : items.dropWhile p = items := by
  cases items with
  | nil => rfl
  | cons item rest =>
    rw [List.dropWhile_cons_of_neg (by rw [h item List.mem_cons_self]; exact Bool.false_ne_true)]

theorem trim_of_not_blank {text : String} (h : ∀ c ∈ text.toList, isBlank c = false) :
    trim text = text := by
  have hreverse : ∀ c ∈ text.toList.reverse, isBlank c = false :=
    fun c hmem => h c (List.mem_reverse.mp hmem)
  rw [trim, dropEndWhile, dropWhile_of_forall_not h, dropWhile_of_forall_not hreverse,
    List.reverse_reverse, String.ofList_toList]

end Text

namespace Route

/-! ### Paths -/

theorem isPlain_of_mem_path {route : Route} {c : Char} (h : c ∈ route.path.toList) :
    c = '/' ∨ isPlain c = true := by
  have hplain : ∀ text : String, text.toList.all (fun c => c == '/' || isPlain c) = true →
      c ∈ text.toList → c = '/' ∨ isPlain c = true := by
    intro text hall hmem
    simpa using List.all_eq_true.mp hall c hmem
  cases route with
  | login => exact hplain "/login" (by decide) h
  | dashboard => exact hplain "/dashboard" (by decide) h
  | list kind => exact hplain kind.collectionPath (by cases kind <;> decide) h
  | detail kind id =>
    have hpath : (path (.detail kind id)).toList =
        (kind.collectionPath ++ "/").toList ++ (Text.Percent.encode id).toList := by
      rw [← String.toList_append]
      rfl
    rw [hpath] at h
    rcases List.mem_append.mp h with hmem | hmem
    · exact hplain (kind.collectionPath ++ "/") (by cases kind <;> decide) hmem
    · exact .inr (isPlain_of_mem_encode hmem)

theorem trim_path (route : Route) : Text.trim route.path = route.path := by
  refine Text.trim_of_not_blank fun c hmem => ?_
  rcases isPlain_of_mem_path hmem with rfl | hplain
  · decide
  · exact Text.isBlank_of_isPlain hplain

theorem withoutQuery_path (route : Route) :
    withoutQuery route.path.toList = route.path.toList := by
  refine List.takeWhile_eq_self_iff.mpr fun c hmem => ?_
  rcases isPlain_of_mem_path hmem with rfl | hplain
  · decide
  · obtain ⟨-, hquery, hfragment⟩ :=
      below_of_plain (List.forall_mem_singleton.mpr hplain) c List.mem_cons_self
    simp [hquery, hfragment]

theorem segments_itemPath {kind : Kind} {id : String} (hid : id ≠ "") :
    Text.segments '/' (kind.itemPath id).toList = [kind.segment, Text.Percent.encode id] := by
  have hkind := slash_not_mem_of_plain kind.isPlain_of_mem_segment
  have hencode : '/' ∉ (Text.Percent.encode id).toList :=
    slash_not_mem_of_plain fun _ => isPlain_of_mem_encode
  have hsegment : kind.segment.toList ≠ [] := by cases kind <;> decide
  have hne : (Text.Percent.encode id).toList ≠ [] := fun hnil =>
    hid (Text.Percent.encode_eq_empty_iff.mp (String.toList_inj.mp hnil))
  have hpath : (kind.itemPath id).toList =
      [] ++ '/' :: (kind.segment.toList ++ '/' :: (Text.Percent.encode id).toList) := by
    simp [Kind.itemPath]
  rw [hpath, Text.segments_append, Text.segments_append,
    Text.segments_of_not_mem hkind hsegment, Text.segments_of_not_mem hencode hne]
  simp [Text.segments, Text.splitAt]

theorem ofSegments_item (kind : Kind) (segment : String) :
    ofSegments [kind.segment, segment] = .detail kind (Text.Percent.decode segment) := by
  cases kind <;> rfl

/-- What a route is read back as. -/
def readBack : Route → Route
  | .detail kind id => if id = "" then .list kind else .detail kind id
  | route => route

theorem parse_path (route : Route) : parse route.path = route.readBack := by
  cases route with
  | login => decide
  | dashboard => decide
  | list kind => cases kind <;> decide
  | detail kind id =>
    by_cases hid : id = ""
    · subst hid
      cases kind <;> decide
    · rw [readBack, if_neg hid, parse, withoutQuery_path]
      exact (congrArg ofSegments (segments_itemPath hid)).trans
        ((ofSegments_item kind _).trans (by rw [Text.Percent.decode_encode]))

/-! ### Locations -/

theorem readBack_eq_self {route : Route} (h : ∀ kind, route ≠ .detail kind "") :
    route.readBack = route := by
  cases route with
  | login | dashboard | list kind => rfl
  | detail kind id =>
    refine if_neg ?_
    rintro rfl
    exact h kind rfl

theorem ofSegments_ne_detail_empty {segments : List String} (h : "" ∉ segments) (kind : Kind) :
    ofSegments segments ≠ .detail kind "" := by
  intro hroute
  unfold ofSegments at hroute
  split at hroute
  · split at hroute
    · cases hroute
    · split at hroute <;> cases hroute
  · next segment id =>
    split at hroute
    · injection hroute with hkind hid
      refine Text.Percent.decode_ne_empty ?_ hid
      rintro rfl
      exact h (by simp)
    · cases hroute
  · cases hroute

theorem parse_ne_detail_empty (location : String) (kind : Kind) :
    parse location ≠ .detail kind "" :=
  ofSegments_ne_detail_empty (Text.empty_not_mem_segments _) kind

/-- **The path of a location's route leads where the location does.** -/
theorem parse_path_parse (location : String) : parse (parse location).path = parse location := by
  rw [parse_path, readBack_eq_self (parse_ne_detail_empty location)]

end Route

end IdentityConsole
