import IdentityConsole.Json.Basic

/-!
# Equality of JSON values
-/

namespace IdentityConsole.Json

/-- Compares two values part by part. -/
def same : Json → Json → Bool
  | .null, .null => true
  | .bool a, .bool b => a == b
  | .number a, .number b => a = b
  | .string a, .string b => a == b
  | .array a, .array b => sameItems a b
  | .object a, .object b => sameMembers a b
  | _, _ => false
where
  sameItems : List Json → List Json → Bool
    | [], [] => true
    | a :: as, b :: bs => same a b && sameItems as bs
    | _, _ => false
  sameMembers : List (String × Json) → List (String × Json) → Bool
    | [], [] => true
    | (k, a) :: as, (l, b) :: bs => k == l && same a b && sameMembers as bs
    | _, _ => false

mutual

theorem same_self : ∀ value : Json, same value value = true
  | .null => rfl
  | .bool _ => by simp [same]
  | .number _ => by simp [same]
  | .string _ => by simp [same]
  | .array items => by simpa [same] using sameItems_self items
  | .object members => by simpa [same] using sameMembers_self members

theorem sameItems_self : ∀ items : List Json, same.sameItems items items = true
  | [] => rfl
  | item :: rest => by simp [same.sameItems, same_self item, sameItems_self rest]

theorem sameMembers_self : ∀ members : List (String × Json),
    same.sameMembers members members = true
  | [] => rfl
  | (_, value) :: rest => by simp [same.sameMembers, same_self value, sameMembers_self rest]

end

mutual

theorem eq_of_same : ∀ {a b : Json}, same a b = true → a = b
  | .null, b, h => by cases b <;> simp_all [same]
  | .bool _, b, h => by cases b <;> simp_all [same]
  | .number _, b, h => by cases b <;> simp_all [same]
  | .string _, b, h => by cases b <;> simp_all [same]
  | .array items, .array others, h => by rw [eq_of_sameItems (a := items) (by simpa [same] using h)]
  | .object members, .object others, h => by
    rw [eq_of_sameMembers (a := members) (by simpa [same] using h)]
  | .array _, .null, h | .array _, .bool _, h | .array _, .number _, h | .array _, .string _, h
  | .array _, .object _, h | .object _, .null, h | .object _, .bool _, h | .object _, .number _, h
  | .object _, .string _, h | .object _, .array _, h => by simp [same] at h

theorem eq_of_sameItems : ∀ {a b : List Json}, same.sameItems a b = true → a = b
  | [], b, h => by cases b <;> simp_all [same.sameItems]
  | _ :: _, [], h => by simp [same.sameItems] at h
  | _ :: _, _ :: _, h => by
    simp only [same.sameItems, Bool.and_eq_true] at h
    rw [eq_of_same h.1, eq_of_sameItems h.2]

theorem eq_of_sameMembers : ∀ {a b : List (String × Json)}, same.sameMembers a b = true → a = b
  | [], b, h => by cases b <;> simp_all [same.sameMembers]
  | _ :: _, [], h => by simp [same.sameMembers] at h
  | (_, _) :: _, (_, _) :: _, h => by
    simp only [same.sameMembers, Bool.and_eq_true, beq_iff_eq] at h
    rw [h.1.1, eq_of_same h.1.2, eq_of_sameMembers h.2]

end

instance : DecidableEq Json := fun a b =>
  if h : same a b = true then isTrue (eq_of_same h)
  else isFalse fun e => h (e ▸ same_self a)

end IdentityConsole.Json
