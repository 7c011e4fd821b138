import Mathlib.Data.List.Basic
import IdentityConsole.Proofs.Http.Address

/-!
# Targets below a base

A base whose address is a path has a stack of segments, in which `.` and `..` are resolved. The
target of an address below it is what its own segments make of that stack.
-/

namespace IdentityConsole

namespace Text

variable {separator : Char}

theorem splitAt_ne_nil (text : List Char) : splitAt separator text ≠ [] := by
  cases text with
  | nil => exact List.cons_ne_nil _ _
  | cons c rest =>
    simp only [splitAt]
    split
    · exact List.cons_ne_nil _ _
    · split
      · exact List.cons_ne_nil _ _
      · exact List.cons_ne_nil _ _

theorem splitAt_append (text rest : List Char) :
    splitAt separator (text ++ separator :: rest) =
      splitAt separator text ++ splitAt separator rest := by
  induction text with
  | nil => simp [splitAt]
  | cons c text ih =>
    simp only [List.cons_append, splitAt, ih]
    split
    · rfl
    · cases hsplit : splitAt separator text with
      | nil => exact absurd hsplit (splitAt_ne_nil text)
      | cons first others => rfl

theorem splitAt_of_not_mem {text : List Char} (h : separator ∉ text) :
    splitAt separator text = [text] := by
  induction text with
  | nil => rfl
  | cons c rest ih =>
    have hne : c ≠ separator := (List.ne_of_not_mem_cons h).symm
    rw [splitAt, if_neg hne, ih (List.not_mem_of_not_mem_cons h)]

end Text

namespace Http.Address

/-! ### Segments that are resolved -/

/-- The stack after a segment that is not the last. -/
def descend (path : List (List Char)) (segment : List Char) : List (List Char) :=
  if dots segment = ['.', '.'] then path.drop 1
  else if dots segment = ['.'] then path
  else segment :: path

theorem resolve_append (path : List (List Char)) (segments : List (List Char))
    {last : List (List Char)} (hlast : last ≠ []) :
    resolve path (segments ++ last) = resolve (segments.foldl descend path) last := by
  induction segments generalizing path with
  | nil => rfl
  | cons segment rest ih =>
    have hmore : (rest ++ last).isEmpty = false := by simp [hlast]
    rw [List.foldl_cons, ← ih, List.cons_append, resolve, hmore]
    unfold descend
    split
    · rfl
    · split
      · rfl
      · rfl

/-- What is asked for under a stack of segments. -/
def pathText (path : List (List Char)) : List Char :=
  (joined path).flatMap (encodeChar true)

/-- A stack without its last segment, up to where that begins. -/
def above (path : List (List Char)) : List Char :=
  (path.reverse.flatMap fun segment => '/' :: segment).flatMap (encodeChar true)

theorem pathText_cons (segment : List Char) (path : List (List Char)) :
    pathText (segment :: path) = above path ++ '/' :: segment.flatMap (encodeChar true) := by
  have hslash : encodeChar true '/' = ['/'] := by decide
  simp [pathText, above, joined, hslash]

theorem above_cons (segment : List Char) (path : List (List Char)) :
    above (segment :: path) = above path ++ '/' :: segment.flatMap (encodeChar true) :=
  pathText_cons segment path

/-! ### Targets -/

def unified (text : List Char) : List Char :=
  text.map fun c => if isSeparator c then '/' else c

/-- The stack of a base, to which segments are then added. -/
def stackOf (text : List Char) : List (List Char) :=
  match Text.splitAt '/' (unified text) with
  | [] :: segments => segments.foldl descend []
  | segments => segments.foldl descend []

theorem pathOf_append (text rest : List Char) :
    pathOf (text ++ '/' :: rest) =
      pathText (resolve (stackOf text) (Text.splitAt '/' (unified rest))) := by
  have hunified : unified (text ++ '/' :: rest) = unified text ++ '/' :: unified rest := by
    simp [unified, isSeparator]
  have hrest : Text.splitAt '/' (unified rest) ≠ [] := Text.splitAt_ne_nil _
  have hsplit : Text.splitAt '/' (unified (text ++ '/' :: rest)) =
      Text.splitAt '/' (unified text) ++ Text.splitAt '/' (unified rest) := by
    rw [hunified, Text.splitAt_append]
  unfold pathOf stackOf
  rw [unified] at hsplit
  dsimp only
  rw [hsplit]
  cases hsplit : Text.splitAt '/' (unified text) with
  | nil => exact absurd hsplit (Text.splitAt_ne_nil _)
  | cons first segments =>
    cases first with
    | nil => exact congrArg pathText (resolve_append [] segments hrest)
    | cons c first => exact congrArg pathText (resolve_append [] ((c :: first) :: segments) hrest)

/-- The target of what follows a scheme. -/
def targetOf (opened : List Char) : String :=
  let rest := (opened.drop (opened.takeWhile (!endsAuthority ·)).length).takeWhile (· != '#')
  let path := rest.takeWhile (· != '?')
  String.ofList (pathOf path ++ queryOf (rest.drop path.length))

theorem parse?_eq (text : String) :
    parse? text = (afterScheme? (trimmed text.toList)).bind fun opened =>
      (origin? opened).map fun origin => ⟨origin, targetOf opened.2⟩ := by
  cases hopened : afterScheme? (trimmed text.toList) with
  | none =>
    unfold trimmed cleaned at hopened
    simp only [parse?, hopened]
    rfl
  | some opened =>
    unfold trimmed cleaned at hopened
    simp only [parse?, hopened, Option.bind_eq_bind, Option.bind_some, origin?]
    split
    · rfl
    · rfl

/-- Text without a query and without a fragment. -/
def IsPath (text : List Char) : Prop :=
  ∀ c ∈ text, c ≠ '?' ∧ c ≠ '#'

-- Named, as a search may find the instance that runs through every character.
instance (text : List Char) : Decidable (IsPath text) :=
  List.decidableBAll _ text

theorem IsPath.append {text rest : List Char} (htext : IsPath text) (hrest : IsPath rest) :
    IsPath (text ++ '/' :: rest) := by
  intro c hmem
  rcases List.mem_append.mp hmem with hmem | hmem
  · exact htext c hmem
  · rcases List.mem_cons.mp hmem with rfl | hmem
    · decide
    · exact hrest c hmem

theorem takeWhile_eq_self {text : List Char} {stop : Char} (h : ∀ c ∈ text, c ≠ stop) :
    text.takeWhile (· != stop) = text :=
  List.takeWhile_eq_self_iff.mpr fun c hmem => bne_iff_ne.mpr (h c hmem)

theorem drop_length_takeWhile (p : Char → Bool) (text : List Char) :
    text.drop (text.takeWhile p).length = text.dropWhile p := by
  calc text.drop (text.takeWhile p).length
      = (text.takeWhile p ++ text.dropWhile p).drop (text.takeWhile p).length := by
        rw [List.takeWhile_append_dropWhile]
    _ = text.dropWhile p := List.drop_left

theorem targetOf_append {host rest : List Char} (hhost : IsPath host) (hrest : IsPath rest) :
    targetOf (host ++ '/' :: rest) = String.ofList
      (pathText (resolve (stackOf (host.dropWhile (!endsAuthority ·)))
        (Text.splitAt '/' (unified rest)))) := by
  have hbase : IsPath (host.dropWhile (!endsAuthority ·)) := fun c hmem =>
    hhost c ((List.dropWhile_sublist _).subset hmem)
  have hpath : IsPath (host.dropWhile (!endsAuthority ·) ++ '/' :: rest) := hbase.append hrest
  simp only [targetOf, drop_length_takeWhile,
    dropWhile_append_stop (p := (!endsAuthority ·)) (c := '/') (by decide),
    takeWhile_eq_self fun c hmem => (hpath c hmem).2,
    takeWhile_eq_self fun c hmem => (hpath c hmem).1, List.drop_length, queryOf, List.append_nil,
    pathOf_append]

/-! ### Segments that stand as they are -/

/-- A character that means nothing in a path and is not encoded there. -/
def isPlain (c : Char) : Bool :=
  !isSeparator c && !isEncoded true c

section Plain

variable {c : Char} {text : List Char}

theorem isSeparator_of_isPlain (h : isPlain c = true) : isSeparator c = false := by
  simp only [isPlain, Bool.and_eq_true, Bool.not_eq_true'] at h
  exact h.1

theorem isEncoded_of_isPlain (h : isPlain c = true) : isEncoded true c = false := by
  simp only [isPlain, Bool.and_eq_true, Bool.not_eq_true'] at h
  exact h.2

theorem lt_of_isPlain (h : isPlain c = true) : 0x20 < c.toNat := by
  have hencoded := isEncoded_of_isPlain h
  simp only [isEncoded, Bool.or_eq_false_iff, decide_eq_false_iff_not, Nat.not_le] at hencoded
  exact hencoded.1.1.1

theorem unified_of_plain (h : ∀ c ∈ text, isPlain c = true) : unified text = text := by
  have hsame : ∀ c ∈ text, (if isSeparator c then '/' else c) = c := fun c hmem =>
    if_neg (by rw [isSeparator_of_isPlain (h c hmem)]; exact Bool.false_ne_true)
  rw [unified, List.map_congr_left hsame, List.map_id']

theorem encoded_of_plain (h : ∀ c ∈ text, isPlain c = true) :
    text.flatMap (encodeChar true) = text := by
  have hsame : ∀ c ∈ text, encodeChar true c = [c] := fun c hmem =>
    if_neg (by rw [isEncoded_of_isPlain (h c hmem)]; exact Bool.false_ne_true)
  rw [List.flatMap_congr hsame, List.flatMap_singleton']

end Plain

/-- Text that is not changed when an address is trimmed. -/
theorem dropEndWhile_cleaned {text : List Char} (h : ∀ c ∈ text, 0x20 < c.toNat) :
    Text.dropEndWhile (·.toNat ≤ 0x20) (cleaned text) = text := by
  have hcleaned : cleaned text = text := by
    refine List.filter_eq_self.mpr fun c hmem => ?_
    have hlt := h c hmem
    simp only [Bool.and_eq_true, bne_iff_ne]
    omega
  rw [hcleaned, Text.dropEndWhile]
  cases hreverse : text.reverse with
  | nil => rw [List.dropWhile_nil, ← hreverse, List.reverse_reverse]
  | cons c rest =>
    have hlt := h c (List.mem_reverse.mp (hreverse ▸ List.mem_cons_self))
    rw [List.dropWhile_cons_of_neg (by simpa using hlt), ← hreverse, List.reverse_reverse]

theorem suffix_of_afterScheme? {text rest : List Char} {scheme : String}
    (h : afterScheme? text = some (scheme, rest)) : rest <:+ text := by
  unfold afterScheme? at h
  split at h
  · next found hdrop =>
    dsimp only at h
    split at h
    · cases h
      have hslashes : rest <:+ ':' :: '/' :: '/' :: rest := ⟨[':', '/', '/'], rfl⟩
      exact hslashes.trans (hdrop ▸ List.dropWhile_suffix _)
    · cases h
  · cases h

/-- **Below a base that is a path, targets are made of its stack.** -/
theorem parse?_below_path {base : String} {root : Address} (hbase : IsPath base.toList)
    (hroot : parse? (base ++ "/") = some root) :
    ∃ stack, root.target = String.ofList (above stack ++ ['/']) ∧
      ∀ rest : List Char, (∀ c ∈ rest, 0x20 < c.toNat ∧ c ≠ '?' ∧ c ≠ '#') →
        parse? (base ++ String.ofList ('/' :: rest)) = some ⟨root.origin, String.ofList
          (pathText (resolve stack (Text.splitAt '/' (unified rest))))⟩ := by
  have hslash : (base ++ "/").toList = base.toList ++ ['/'] := String.toList_append
  rw [parse?_eq, hslash, trimmed_append] at hroot
  obtain ⟨⟨scheme, opened⟩, hopened, hhost⟩ := Option.bind_eq_some_iff.mp hroot
  obtain ⟨origin, horigin, rfl⟩ := Option.map_eq_some_iff.mp hhost
  have hsuffix := suffix_of_afterScheme? hopened
  obtain ⟨host, rfl, hevery⟩ := afterScheme?_append hopened (by
    rintro rfl
    cases horigin)
  have hpath : IsPath host := by
    intro c hmem
    have hmem : c ∈ (cleaned base.toList).dropWhile (·.toNat ≤ 0x20) ++ ['/'] :=
      hsuffix.subset (List.mem_append_left _ hmem)
    rcases List.mem_append.mp hmem with hmem | hmem
    · exact hbase c (List.mem_of_mem_filter ((List.dropWhile_sublist _).subset hmem))
    · rw [List.mem_singleton.mp hmem]
      decide
  refine ⟨stackOf (host.dropWhile (!endsAuthority ·)), ?_, fun rest hrest => ?_⟩
  · have hnothing : IsPath [] := fun c hmem => absurd hmem List.not_mem_nil
    have hlast : ∀ stack, resolve stack (Text.splitAt '/' (unified [])) = [] :: stack :=
      fun _ => rfl
    rw [targetOf_append hpath hnothing, hlast, pathText_cons]
    rfl
  · have hbelow : (base ++ String.ofList ('/' :: rest)).toList = base.toList ++ '/' :: rest := by
      rw [String.toList_append, String.toList_ofList]
    rw [parse?_eq, hbelow, trimmed_append, dropEndWhile_cleaned fun c hmem => (hrest c hmem).1,
      hevery, Option.bind_some, origin?_append, horigin, Option.map_some,
      targetOf_append hpath fun c hmem => (hrest c hmem).2]

end Http.Address

end IdentityConsole
