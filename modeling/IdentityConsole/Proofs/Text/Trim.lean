import IdentityConsole.Text.Blank
import Mathlib.Data.List.DropRight

/-!
# What trimming leaves

A list from whose end items have been dropped does not end with such an item, and one that does not
end so loses nothing. Texts without blanks around them are those that trimming leaves alone.
-/

namespace IdentityConsole.Text

section Ends

variable {α : Type} {p : α → Bool} {items front tail : List α}

def BeginsWithout (p : α → Bool) (items : List α) : Prop :=
  ∀ item ∈ items.head?, p item = false

def EndsWithout (p : α → Bool) (items : List α) : Prop :=
  ∀ item ∈ items.getLast?, p item = false

instance (p : α → Bool) (items : List α) : Decidable (BeginsWithout p items) :=
  inferInstanceAs (Decidable (∀ item ∈ items.head?, p item = false))

instance (p : α → Bool) (items : List α) : Decidable (EndsWithout p items) :=
  inferInstanceAs (Decidable (∀ item ∈ items.getLast?, p item = false))

theorem BeginsWithout.of_isPrefix (h : BeginsWithout p items) (hfront : front <+: items) :
    BeginsWithout p front := by
  intro item hitem
  obtain ⟨rest, rfl⟩ := hfront
  apply h
  rw [List.head?_append, hitem]
  rfl

theorem dropWhile_eq_self_iff : items.dropWhile p = items ↔ BeginsWithout p items := by
  cases items with
  | nil => simp [BeginsWithout]
  | cons item rest => simp [BeginsWithout]

theorem beginsWithout_dropWhile (p : α → Bool) (items : List α) :
    BeginsWithout p (items.dropWhile p) :=
  dropWhile_eq_self_iff.mp (List.dropWhile_idempotent p items)

theorem endsWithout_iff_reverse : EndsWithout p items ↔ BeginsWithout p items.reverse := by
  rw [EndsWithout, BeginsWithout, List.head?_reverse]

theorem dropEndWhile_eq_self_iff : dropEndWhile p items = items ↔ EndsWithout p items := by
  rw [dropEndWhile, List.reverse_eq_iff, dropWhile_eq_self_iff, endsWithout_iff_reverse]

theorem endsWithout_dropEndWhile (p : α → Bool) (items : List α) :
    EndsWithout p (dropEndWhile p items) :=
  dropEndWhile_eq_self_iff.mp (List.rdropWhile_idempotent p items)

theorem isPrefix_dropEndWhile (p : α → Bool) (items : List α) : dropEndWhile p items <+: items :=
  List.rdropWhile_prefix p items

theorem dropEndWhile_append (hfront : EndsWithout p front) (htail : ∀ item ∈ tail, p item = true) :
    dropEndWhile p (front ++ tail) = front := by
  have hreverse : ∀ item ∈ tail.reverse, p item = true :=
    fun item hmem => htail item (List.mem_reverse.mp hmem)
  rw [dropEndWhile, List.reverse_append, List.dropWhile_append_of_pos hreverse,
    dropWhile_eq_self_iff.mpr (endsWithout_iff_reverse.mp hfront), List.reverse_reverse]

/-- What is dropped from the end. -/
theorem exists_eq_dropEndWhile_append (p : α → Bool) (items : List α) :
    ∃ tail, items = dropEndWhile p items ++ tail ∧ ∀ item ∈ tail, p item = true :=
  ⟨items.rtakeWhile p, (List.rdropWhile_append_rtakeWhile).symm,
    fun _ hmem => List.mem_rtakeWhile_imp hmem⟩

end Ends

/-! ### Blanks around a text -/

theorem toList_trim (text : String) :
    (trim text).toList = dropEndWhile isBlank (text.toList.dropWhile isBlank) :=
  String.toList_ofList

theorem beginsWithout_trim (text : String) : BeginsWithout isBlank (trim text).toList := by
  rw [toList_trim]
  exact (beginsWithout_dropWhile _ _).of_isPrefix (isPrefix_dropEndWhile _ _)

theorem endsWithout_trim (text : String) : EndsWithout isBlank (trim text).toList := by
  rw [toList_trim]
  exact endsWithout_dropEndWhile _ _

theorem trim_eq_self {text : String} (hbegins : BeginsWithout isBlank text.toList)
    (hends : EndsWithout isBlank text.toList) : trim text = text := by
  rw [← String.toList_inj, toList_trim, dropWhile_eq_self_iff.mpr hbegins,
    dropEndWhile_eq_self_iff.mpr hends]

theorem trim_sublist (text : String) : (trim text).toList.Sublist text.toList := by
  rw [toList_trim]
  exact (isPrefix_dropEndWhile _ _).sublist.trans (List.dropWhile_sublist _)

/-! ### Slashes at the end of a text -/

theorem toList_trimEndSlashes (text : String) :
    (trimEndSlashes text).toList = dropEndWhile (· == '/') text.toList :=
  String.toList_ofList

theorem endsWithout_trimEndSlashes (text : String) :
    EndsWithout (· == '/') (trimEndSlashes text).toList := by
  rw [toList_trimEndSlashes]
  exact endsWithout_dropEndWhile _ _

theorem trimEndSlashes_eq_self {text : String} (h : EndsWithout (· == '/') text.toList) :
    trimEndSlashes text = text := by
  rw [← String.toList_inj, toList_trimEndSlashes, dropEndWhile_eq_self_iff.mpr h]

theorem isPrefix_trimEndSlashes (text : String) :
    (trimEndSlashes text).toList <+: text.toList := by
  rw [toList_trimEndSlashes]
  exact isPrefix_dropEndWhile _ _

end IdentityConsole.Text
