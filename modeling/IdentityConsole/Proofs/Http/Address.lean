import Mathlib.Data.List.TakeWhile
import IdentityConsole.Http.Address

/-!
# Addresses below a base

A base address to which a slash can be added is one to which every path can be added: what follows
the slash does not touch the origin.
-/

namespace IdentityConsole

section Stop

variable {α : Type} {p : α → Bool} {c : α}

theorem dropWhile_append_stop (h : p c = false) (xs ys : List α) :
    (xs ++ c :: ys).dropWhile p = xs.dropWhile p ++ c :: ys := by
  induction xs with
  | nil => exact List.dropWhile_cons_of_neg (by simp [h])
  | cons x rest ih =>
    rw [List.cons_append, List.dropWhile_cons, List.dropWhile_cons]
    split
    · exact ih
    · rfl

theorem takeWhile_append_stop (h : p c = false) (xs ys : List α) :
    (xs ++ c :: ys).takeWhile p = xs.takeWhile p := by
  induction xs with
  | nil => exact List.takeWhile_cons_of_neg (by simp [h])
  | cons x rest ih =>
    rw [List.cons_append, List.takeWhile_cons, List.takeWhile_cons, ih]

theorem dropEndWhile_append_stop (h : p c = false) (xs ys : List α) :
    Text.dropEndWhile p (xs ++ c :: ys) = xs ++ c :: Text.dropEndWhile p ys := by
  simp only [Text.dropEndWhile, List.reverse_append, List.reverse_cons, List.append_assoc,
    List.singleton_append, dropWhile_append_stop h, List.reverse_reverse]

end Stop

namespace Http.Address

/-- The text without the characters that an address is cleaned of. -/
def cleaned (text : List Char) : List Char :=
  text.filter fun c => c.toNat != 0x09 && c.toNat != 0x0A && c.toNat != 0x0D

def trimmed (text : List Char) : List Char :=
  Text.dropEndWhile (·.toNat ≤ 0x20) ((cleaned text).dropWhile (·.toNat ≤ 0x20))

theorem trimmed_append (base path : List Char) :
    trimmed (base ++ '/' :: path) =
      (cleaned base).dropWhile (·.toNat ≤ 0x20) ++
        '/' :: Text.dropEndWhile (·.toNat ≤ 0x20) (cleaned path) := by
  have hcleaned : cleaned (base ++ '/' :: path) = cleaned base ++ '/' :: cleaned path := by
    simp [cleaned, List.filter_append]
  rw [trimmed, hcleaned, dropWhile_append_stop (by decide), dropEndWhile_append_stop (by decide)]

/-- What follows the colon of a scheme. -/
def afterColon? (scheme : String) (text : List Char) : Option (String × List Char) :=
  match text with
  | '/' :: '/' :: rest =>
    if scheme = "http" ∨ scheme = "https" then some (scheme, rest) else none
  | _ => none

theorem afterScheme?_eq {scheme : List Char} (h : ':' ∉ scheme) (text : List Char) :
    afterScheme? (scheme ++ ':' :: text) =
      afterColon? (String.ofList (scheme.map Char.toLower)) text := by
  have hscheme : ∀ c ∈ scheme, (c != ':') = true := by
    intro c hmem
    rw [bne_iff_ne]
    rintro rfl
    exact h hmem
  rw [afterScheme?, takeWhile_append_stop (by decide), dropWhile_append_stop (by decide),
    List.dropWhile_eq_nil_iff.mpr hscheme, List.takeWhile_eq_self_iff.mpr hscheme, List.nil_append]
  split
  · next heq =>
    cases heq
    rfl
  · next hother =>
    unfold afterColon?
    split
    · next rest => exact absurd rfl (hother rest)
    · rfl

theorem afterScheme?_append {base : List Char} {scheme : String} {rest : List Char}
    (h : afterScheme? (base ++ ['/']) = some (scheme, rest)) (hrest : rest ≠ []) :
    ∃ host, rest = host ++ ['/'] ∧
      ∀ path, afterScheme? (base ++ '/' :: path) = some (scheme, host ++ '/' :: path) := by
  by_cases hcolon : ':' ∈ base
  · obtain ⟨front, back, rfl, hfront⟩ := List.eq_append_cons_of_mem hcolon
    simp only [List.append_assoc, List.cons_append, afterScheme?_eq hfront] at h ⊢
    -- Of the two slashes after the colon one may be the one that was added; then no host is left.
    unfold afterColon? at h
    split at h
    · next hback =>
      split at h
      · next hscheme =>
        cases h
        rcases back with _ | ⟨c, _ | ⟨d, host⟩⟩
        · cases hback
        · cases hback
          exact absurd rfl hrest
        · cases hback
          refine ⟨host, rfl, fun path => ?_⟩
          simp only [List.cons_append, afterColon?, if_pos hscheme]
      · cases h
    · cases h
  · have hdrop : (base ++ ['/']).dropWhile (· != ':') = [] := by
      rw [List.dropWhile_eq_nil_iff]
      intro c hmem
      rw [bne_iff_ne]
      rintro rfl
      rcases List.mem_append.mp hmem with hmem | hmem
      · exact hcolon hmem
      · exact absurd hmem (by decide)
    rw [afterScheme?, hdrop] at h
    cases h

/-- The origin of what follows a scheme. -/
def origin? (opened : String × List Char) : Option String :=
  let authority := opened.2.takeWhile (!endsAuthority ·)
  if isHost authority then some (opened.1 ++ "://" ++ String.ofList (authority.map Char.toLower))
  else none

theorem map_origin_parse? (text : String) :
    (parse? text).map Address.origin = (afterScheme? (trimmed text.toList)).bind origin? := by
  cases hopened : afterScheme? (trimmed text.toList) with
  | none =>
    unfold trimmed cleaned at hopened
    simp only [parse?, hopened]
    rfl
  | some opened =>
    unfold trimmed cleaned at hopened
    simp only [parse?, hopened, Option.bind_eq_bind, Option.bind_some, origin?]
    split
    · rfl
    · rfl

theorem origin?_append {scheme : String} {host : List Char} (path : List Char) :
    origin? (scheme, host ++ '/' :: path) = origin? (scheme, host ++ ['/']) := by
  unfold origin?
  simp only [takeWhile_append_stop (p := (!endsAuthority ·)) (c := '/') (by decide)]

/-- **Every path below a base has its origin.** -/
theorem parse?_below {base path : String} {root : Address}
    (hroot : parse? (base ++ "/") = some root) (hpath : path.toList.head? = some '/') :
    ∃ address, parse? (base ++ path) = some address ∧ address.origin = root.origin := by
  obtain ⟨rest, hrest⟩ : ∃ rest, path.toList = '/' :: rest := by
    cases hlist : path.toList with
    | nil => simp [hlist] at hpath
    | cons c rest =>
      rw [hlist] at hpath
      cases hpath
      exact ⟨rest, rfl⟩
  have hslash : (base ++ "/").toList = base.toList ++ ['/'] := String.toList_append
  have hbelow : (base ++ path).toList = base.toList ++ '/' :: rest := by
    rw [String.toList_append, hrest]
  have horigin := map_origin_parse? (base ++ "/")
  rw [hroot, hslash, trimmed_append] at horigin
  obtain ⟨⟨scheme, host⟩, hopened, hhost⟩ := Option.bind_eq_some_iff.mp horigin.symm
  obtain ⟨host, rfl, hevery⟩ := afterScheme?_append hopened (by
    rintro rfl
    cases hhost)
  have hsame := map_origin_parse? (base ++ path)
  rw [hbelow, trimmed_append, hevery, Option.bind_some, origin?_append, hhost] at hsame
  obtain ⟨address, haddress, horigin⟩ := Option.map_eq_some_iff.mp hsame
  exact ⟨address, haddress, horigin⟩

end Http.Address

end IdentityConsole
