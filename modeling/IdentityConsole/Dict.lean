/-!
# Dictionaries

A dictionary holds one value under each of its keys, in increasing order of the keys. Texts are
ordered by their characters' code points, which is also the order of their UTF-8 octets.
-/

namespace IdentityConsole

structure Dict (α : Type) where
  toList : List (String × α)
  ordered : toList.Pairwise fun entry later => entry.1 < later.1
deriving DecidableEq, Repr

namespace Dict

variable {α : Type}

def empty : Dict α := ⟨[], .nil⟩

def isEmpty (dict : Dict α) : Bool :=
  dict.toList.isEmpty

def keys (dict : Dict α) : List String :=
  dict.toList.map (·.1)

def get? (key : String) (dict : Dict α) : Option α :=
  dict.toList.lookup key

/-- Puts an entry at its place, instead of the one with its key. -/
def insertEntry (key : String) (value : α) : List (String × α) → List (String × α)
  | [] => [(key, value)]
  | (other, kept) :: rest =>
    if key < other then (key, value) :: (other, kept) :: rest
    else if key = other then (key, value) :: rest
    else (other, kept) :: insertEntry key value rest

theorem mem_insertEntry {key : String} {value : α} {entry : String × α}
    {entries : List (String × α)} (h : entry ∈ insertEntry key value entries) :
    entry = (key, value) ∨ entry ∈ entries := by
  induction entries with
  | nil => simpa [insertEntry] using h
  | cons first rest ih =>
    simp only [insertEntry] at h
    split at h
    · simpa using h
    · split at h
      · rcases List.mem_cons.1 h with h | h
        · exact .inl h
        · exact .inr (List.mem_cons_of_mem _ h)
      · rcases List.mem_cons.1 h with h | h
        · exact .inr (h ▸ List.mem_cons_self)
        · exact (ih h).imp_right (List.mem_cons_of_mem _)

theorem ordered_insertEntry (key : String) (value : α) {entries : List (String × α)}
    (h : entries.Pairwise fun entry later => entry.1 < later.1) :
    (insertEntry key value entries).Pairwise fun entry later => entry.1 < later.1 := by
  induction entries with
  | nil => simp [insertEntry]
  | cons first rest ih =>
    have hrest := List.pairwise_cons.1 h
    simp only [insertEntry]
    split
    · next hlt =>
      refine List.pairwise_cons.2 ⟨fun later hlater => ?_, h⟩
      rcases List.mem_cons.1 hlater with rfl | hlater
      · exact hlt
      · exact String.lt_trans hlt (hrest.1 later hlater)
    · split
      · next heq => exact List.pairwise_cons.2 ⟨heq ▸ hrest.1, hrest.2⟩
      · next hlt hne =>
        refine List.pairwise_cons.2 ⟨fun later hlater => ?_, ih hrest.2⟩
        rcases mem_insertEntry hlater with rfl | hlater
        · grind
        · exact hrest.1 later hlater

def insert (key : String) (value : α) (dict : Dict α) : Dict α :=
  ⟨insertEntry key value dict.toList, ordered_insertEntry key value dict.ordered⟩

def erase (key : String) (dict : Dict α) : Dict α :=
  ⟨dict.toList.filter (·.1 ≠ key), dict.ordered.filter _⟩

/-- Of entries with one key the last is kept. -/
def ofList (entries : List (String × α)) : Dict α :=
  entries.foldl (fun dict entry => dict.insert entry.1 entry.2) empty

theorem get?_insert_self (key : String) (value : α) (dict : Dict α) :
    (dict.insert key value).get? key = some value := by
  obtain ⟨entries, ordered⟩ := dict
  simp only [get?, insert]
  clear ordered
  induction entries with
  | nil => exact List.lookup_cons_self
  | cons first rest ih =>
    simp only [insertEntry]
    split
    · exact List.lookup_cons_self
    · split
      · exact List.lookup_cons_self
      · next hne =>
        rw [List.lookup_cons, beq_false_of_ne hne]
        exact ih

theorem get?_erase_self (key : String) (dict : Dict α) : (dict.erase key).get? key = none := by
  obtain ⟨entries, ordered⟩ := dict
  simp only [get?, erase]
  clear ordered
  induction entries with
  | nil => rfl
  | cons first rest ih =>
    rw [List.filter_cons]
    split
    · next h =>
      have hne : (key == first.1) = false := beq_false_of_ne (Ne.symm (of_decide_eq_true h))
      rw [List.lookup_cons, hne]
      exact ih
    · exact ih

theorem get?_insert_of_ne {key other : String} (hne : other ≠ key) (value : α) (dict : Dict α) :
    (dict.insert key value).get? other = dict.get? other := by
  obtain ⟨entries, ordered⟩ := dict
  simp only [get?, insert]
  clear ordered
  induction entries with
  | nil => rw [insertEntry, List.lookup_cons, beq_false_of_ne hne]
  | cons first rest ih =>
    simp only [insertEntry]
    split
    · rw [List.lookup_cons, beq_false_of_ne hne]
    · split
      · next heq =>
        rw [List.lookup_cons, beq_false_of_ne hne, List.lookup_cons,
          beq_false_of_ne (heq ▸ hne)]
      · rw [List.lookup_cons, List.lookup_cons, ih]

theorem get?_erase_of_ne {key other : String} (hne : other ≠ key) (dict : Dict α) :
    (dict.erase key).get? other = dict.get? other := by
  obtain ⟨entries, ordered⟩ := dict
  simp only [get?, erase]
  clear ordered
  induction entries with
  | nil => rfl
  | cons first rest ih =>
    rw [List.filter_cons]
    split
    · rw [List.lookup_cons, List.lookup_cons, ih]
    · next h =>
      have hother : (other == first.1) = false :=
        beq_false_of_ne fun heq => h (decide_eq_true (heq ▸ hne))
      rw [List.lookup_cons, hother, ih]

theorem erase_of_get?_eq_none {key : String} {dict : Dict α} (h : dict.get? key = none) :
    dict.erase key = dict := by
  obtain ⟨entries, ordered⟩ := dict
  simp only [erase, mk.injEq, List.filter_eq_self, decide_eq_true_eq]
  intro entry hmem heq
  have hne : key ≠ entry.1 := by simpa using List.lookup_eq_none_iff.1 h entry hmem
  exact hne heq.symm

/-! ### Lists of entries -/

theorem insertEntry_of_forall_lt {key : String} {entries : List (String × α)}
    (h : ∀ entry ∈ entries, entry.1 < key) (value : α) :
    insertEntry key value entries = entries ++ [(key, value)] := by
  induction entries with
  | nil => rfl
  | cons first rest ih =>
    have hlt := h first List.mem_cons_self
    have hne : key ≠ first.1 := fun heq => String.lt_irrefl _ (heq ▸ hlt)
    rw [insertEntry, if_neg (String.lt_asymm hlt), if_neg hne,
      ih fun entry hmem => h entry (List.mem_cons_of_mem _ hmem)]
    rfl

theorem mem_ofList {entry : String × α} {entries : List (String × α)}
    (h : entry ∈ (ofList entries).toList) : entry ∈ entries := by
  have hfold : ∀ (dict : Dict α), entry ∈ (entries.foldl (fun dict entry =>
      dict.insert entry.1 entry.2) dict).toList → entry ∈ entries ∨ entry ∈ dict.toList := by
    clear h
    induction entries with
    | nil => exact fun dict h => .inr h
    | cons first rest ih =>
      intro dict h
      rcases ih _ h with h | h
      · exact .inl (List.mem_cons_of_mem _ h)
      · rcases mem_insertEntry h with rfl | h
        · exact .inl List.mem_cons_self
        · exact .inr h
  exact (hfold empty h).resolve_right List.not_mem_nil

theorem toList_ofList {entries : List (String × α)}
    (h : entries.Pairwise fun entry later => entry.1 < later.1) :
    (ofList entries).toList = entries := by
  have hfold : ∀ (dict : Dict α),
      (∀ entry ∈ dict.toList, ∀ later ∈ entries, entry.1 < later.1) →
      (entries.foldl (fun dict entry => dict.insert entry.1 entry.2) dict).toList =
        dict.toList ++ entries := by
    induction entries with
    | nil => exact fun dict _ => (List.append_nil _).symm
    | cons first rest ih =>
      intro dict hbefore
      obtain ⟨hfirst, hrest⟩ := List.pairwise_cons.1 h
      have hinsert : (dict.insert first.1 first.2).toList = dict.toList ++ [first] :=
        insertEntry_of_forall_lt (fun entry hmem => hbefore entry hmem first List.mem_cons_self) _
      rw [List.foldl_cons, ih hrest, hinsert, List.append_assoc, List.singleton_append]
      intro entry hmem later hlater
      rw [hinsert, List.mem_append, List.mem_singleton] at hmem
      rcases hmem with hmem | rfl
      · exact hbefore entry hmem later (List.mem_cons_of_mem _ hlater)
      · exact hfirst later hlater
  rw [ofList, hfold empty fun _ hmem => absurd hmem List.not_mem_nil]
  rfl

theorem ofList_toList (dict : Dict α) : ofList dict.toList = dict := by
  have htoList := toList_ofList dict.ordered
  generalize ofList dict.toList = other at htoList
  cases other
  cases htoList
  rfl

/-- Of several entries with one key the last is found. -/
theorem get?_ofList (key : String) (entries : List (String × α)) :
    (ofList entries).get? key = entries.reverse.lookup key := by
  have hfold : ∀ (dict : Dict α), (entries.foldl (fun dict entry =>
      dict.insert entry.1 entry.2) dict).get? key =
        (entries.reverse.lookup key).or (dict.get? key) := by
    induction entries with
    | nil => exact fun dict => rfl
    | cons first rest ih =>
      intro dict
      rw [List.foldl_cons, ih, List.reverse_cons, List.lookup_append, Option.or_assoc]
      congr 1
      by_cases heq : key = first.1
      · rw [heq, get?_insert_self, List.lookup_cons_self, Option.some_or]
      · rw [get?_insert_of_ne heq, List.lookup_cons, beq_false_of_ne heq, List.lookup_nil,
          Option.none_or]
  rw [ofList, hfold]
  exact Option.or_none

end Dict

end IdentityConsole
