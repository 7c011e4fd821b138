import IdentityConsole.Json.Decode
import IdentityConsole.Proofs.Json.Spelling

/-!
# Written values

Both printers write spellings of the value they are given, so that either text is read as that
value. Values with floating point numbers are left out: how those are written is not looked at
here, except for the negative zero.
-/

namespace IdentityConsole.Json

/-- All numbers are integers of 64 bits. -/
def isIntegral : Json → Bool
  | .null | .bool _ | .string _ => true
  | .number (.int n) => decide (IsWord n)
  | .number (.float _) => false
  | .array items => itemsIntegral items
  | .object members => membersIntegral members
where
  itemsIntegral : List Json → Bool
    | [] => true
    | item :: rest => isIntegral item && itemsIntegral rest
  membersIntegral : List (String × Json) → Bool
    | [] => true
    | (_, value) :: rest => isIntegral value && membersIntegral rest

/-- All numbers are integers of 64 bits, or the negative zero, as which `-0` is read. -/
inductive Whole : Json → Prop
  | null : Whole .null
  | bool (value : Bool) : Whole (.bool value)
  | int {n : Int} (hword : IsWord n) : Whole (.number (.int n))
  | negativeZero : Whole (.number (.float .negativeZero))
  | string (text : String) : Whole (.string text)
  | array {items : List Json} (hitems : ∀ item ∈ items, Whole item) : Whole (.array items)
  | object {members : List (String × Json)} (hmembers : ∀ member ∈ members, Whole member.2) :
      Whole (.object members)

/-- What is read where a value was written; of floating point numbers only the negative zero is
meant. -/
def draft : Json → Draft
  | .null => .null
  | .bool value => .bool value
  | .number (.int n) => .number (.ofInt n)
  | .number (.float _) => .number .negativeZero
  | .string text => .string (some text)
  | .array items => .array (itemDrafts items) true
  | .object members => .object (memberDrafts members) true
where
  itemDrafts : List Json → List Draft
    | [] => []
    | item :: rest => draft item :: itemDrafts rest
  memberDrafts : List (String × Json) → List (Draft.Key × Draft)
    | [] => []
    | (key, value) :: rest => (.name key, draft value) :: memberDrafts rest

mutual

theorem whole_of_isIntegral : ∀ value : Json, value.isIntegral = true → Whole value
  | .null, _ => .null
  | .bool value, _ => .bool value
  | .number (.int _), h => .int (of_decide_eq_true h)
  | .number (.float _), h => by cases h
  | .string text, _ => .string text
  | .array items, h => .array (items_whole items h)
  | .object members, h => .object (members_whole members h)

theorem items_whole : ∀ items : List Json, isIntegral.itemsIntegral items = true →
    ∀ item ∈ items, Whole item
  | [], _ => fun _ hmem => absurd hmem List.not_mem_nil
  | item :: rest, h => by
    rw [isIntegral.itemsIntegral, Bool.and_eq_true] at h
    exact List.forall_mem_cons.mpr ⟨whole_of_isIntegral item h.1, items_whole rest h.2⟩

theorem members_whole : ∀ members : List (String × Json),
    isIntegral.membersIntegral members = true → ∀ member ∈ members, Whole member.2
  | [], _ => fun _ hmem => absurd hmem List.not_mem_nil
  | (_, value) :: rest, h => by
    rw [isIntegral.membersIntegral, Bool.and_eq_true] at h
    exact List.forall_mem_cons.mpr ⟨whole_of_isIntegral value h.1, members_whole rest h.2⟩

end

open Draft (Blanks Spelling SpellingItems SpellingMembers)

theorem blanks_nil : Blanks [] := by
  rintro _ ⟨⟩

theorem blanks_space : Blanks [' '] := by
  intro c hmem
  rw [List.mem_singleton.mp hmem]
  rfl

theorem blanks_newline (depth : Nat) : Blanks (newline depth) := by
  intro c hmem
  rcases List.mem_cons.mp hmem with rfl | hmem
  · rfl
  · rw [List.eq_of_mem_replicate hmem]
    rfl

/-! ### The compact form -/

mutual

theorem spelling_chars : ∀ value : Json, Whole value → Spelling value.draft value.chars
  | .null, _ => .null
  | .bool value, _ => .bool value
  | .number (.int n), _ => .number n
  | .number (.float _), .negativeZero => .negativeZero
  | .string text, _ => .string text
  | .array items, .array h => by
    by_cases hempty : items = []
    · subst hempty
      exact .emptyArray blanks_nil
    · exact .array blanks_nil (items_chars items hempty h)
  | .object members, .object h => by
    by_cases hempty : members = []
    · subst hempty
      exact .emptyObject blanks_nil
    · exact .object blanks_nil (members_chars members hempty h)

theorem items_chars : ∀ items : List Json, items ≠ [] → (∀ item ∈ items, Whole item) →
    SpellingItems (draft.itemDrafts items) (chars.itemChars items)
  | [], hne, _ => absurd rfl hne
  | [item], _, h => by
    have hitem := spelling_chars item (h item List.mem_cons_self)
    have hlast := SpellingItems.last hitem blanks_nil
    rwa [List.append_nil] at hlast
  | item :: next :: rest, _, h => by
    rw [List.forall_mem_cons] at h
    have hrest := items_chars (next :: rest) (List.cons_ne_nil _ _) h.2
    have hcons := SpellingItems.cons (spelling_chars item h.1) blanks_nil blanks_nil hrest
    rwa [List.append_nil] at hcons

theorem members_chars : ∀ members : List (String × Json), members ≠ [] →
    (∀ member ∈ members, Whole member.2) →
    SpellingMembers (draft.memberDrafts members) (chars.memberChars members)
  | [], hne, _ => absurd rfl hne
  | [(key, value)], _, h => by
    have hvalue := spelling_chars value (h _ List.mem_cons_self)
    have hlast := SpellingMembers.last key blanks_nil hvalue blanks_nil
    rwa [List.append_nil] at hlast
  | (key, value) :: next :: rest, _, h => by
    rw [List.forall_mem_cons] at h
    have hrest := members_chars (next :: rest) (List.cons_ne_nil _ _) h.2
    have hcons := SpellingMembers.cons key blanks_nil (spelling_chars value h.1) blanks_nil
      blanks_nil hrest
    rwa [List.append_nil] at hcons

end

/-! ### The laid-out form -/

theorem laidOutChars_array (depth : Nat) {items : List Json} (h : items ≠ []) :
    laidOutChars depth (.array items) = '[' :: (newline (depth + 1) ++
      (laidOutChars.itemChars (depth + 1) items ++ newline depth) ++ [']']) := by
  cases items with
  | nil => exact absurd rfl h
  | cons item rest => simp only [laidOutChars, List.append_assoc]

theorem laidOutChars_object (depth : Nat) {members : List (String × Json)} (h : members ≠ []) :
    laidOutChars depth (.object members) = '{' :: (newline (depth + 1) ++
      (laidOutChars.memberChars (depth + 1) members ++ newline depth) ++ ['}']) := by
  cases members with
  | nil => exact absurd rfl h
  | cons member rest => simp only [laidOutChars, List.append_assoc]

mutual

theorem spelling_laidOutChars : ∀ (value : Json) (depth : Nat), Whole value →
    Spelling value.draft (value.laidOutChars depth)
  | .null, _, _ => .null
  | .bool value, _, _ => .bool value
  | .number (.int n), _, _ => .number n
  | .number (.float _), _, .negativeZero => .negativeZero
  | .string text, _, _ => .string text
  | .array items, depth, .array h => by
    by_cases hempty : items = []
    · subst hempty
      exact .emptyArray blanks_nil
    · rw [laidOutChars_array depth hempty]
      exact .array (blanks_newline (depth + 1))
        (items_laidOutChars items (depth + 1) hempty h (blanks_newline depth))
  | .object members, depth, .object h => by
    by_cases hempty : members = []
    · subst hempty
      exact .emptyObject blanks_nil
    · rw [laidOutChars_object depth hempty]
      exact .object (blanks_newline (depth + 1))
        (members_laidOutChars members (depth + 1) hempty h (blanks_newline depth))

theorem items_laidOutChars : ∀ (items : List Json) (depth : Nat), items ≠ [] →
    (∀ item ∈ items, Whole item) → ∀ {after : List Char}, Blanks after →
    SpellingItems (draft.itemDrafts items) (laidOutChars.itemChars depth items ++ after)
  | [], _, hne, _, _, _ => absurd rfl hne
  | [item], depth, _, h, _, hafter =>
    .last (spelling_laidOutChars item depth (h item List.mem_cons_self)) hafter
  | item :: next :: rest, depth, _, h, after, hafter => by
    rw [List.forall_mem_cons] at h
    have hitem := spelling_laidOutChars item depth h.1
    have hrest := items_laidOutChars (next :: rest) depth (List.cons_ne_nil _ _) h.2 hafter
    have hcons := SpellingItems.cons hitem blanks_nil (blanks_newline depth) hrest
    simpa [draft.itemDrafts, laidOutChars.itemChars] using hcons

theorem members_laidOutChars : ∀ (members : List (String × Json)) (depth : Nat), members ≠ [] →
    (∀ member ∈ members, Whole member.2) → ∀ {after : List Char}, Blanks after →
    SpellingMembers (draft.memberDrafts members) (laidOutChars.memberChars depth members ++ after)
  | [], _, hne, _, _, _ => absurd rfl hne
  | [(key, value)], depth, _, h, after, hafter => by
    have hvalue := spelling_laidOutChars value depth (h _ List.mem_cons_self)
    have hlast := SpellingMembers.last key blanks_space hvalue hafter
    simpa [draft.memberDrafts, laidOutChars.memberChars] using hlast
  | (key, value) :: next :: rest, depth, _, h, after, hafter => by
    rw [List.forall_mem_cons] at h
    have hvalue := spelling_laidOutChars value depth h.1
    have hrest := members_laidOutChars (next :: rest) depth (List.cons_ne_nil _ _) h.2 hafter
    have hcons := SpellingMembers.cons key blanks_space hvalue blanks_nil
      (blanks_newline depth) hrest
    simpa [draft.memberDrafts, laidOutChars.memberChars] using hcons

end

/-! ### Reading either form -/

theorem ofText_text {value : Json} (h : Whole value) :
    Draft.ofText value.text = (value.draft, true) := by
  refine Draft.ofText_spelling ?_
  rw [text, String.toList_ofList]
  exact spelling_chars value h

theorem ofText_laidOut {value : Json} (h : Whole value) :
    Draft.ofText value.laidOut = (value.draft, true) := by
  refine Draft.ofText_spelling ?_
  rw [laidOut, String.toList_ofList]
  exact spelling_laidOutChars value 0 h

/-- A written value is decoded as its draft is. -/
theorem decode_text {α : Type} (decoder : Decoder α) {value : Json} (h : Whole value) :
    decode decoder value.text = decoder nestingLimit value.draft := by
  simp only [decode, ofText_text h]
  cases decoder nestingLimit value.draft <;> rfl

theorem decode_laidOut {α : Type} (decoder : Decoder α) {value : Json} (h : Whole value) :
    decode decoder value.laidOut = decoder nestingLimit value.draft := by
  simp only [decode, ofText_laidOut h]
  cases decoder nestingLimit value.draft <;> rfl

end IdentityConsole.Json
