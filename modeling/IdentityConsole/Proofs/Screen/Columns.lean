import IdentityConsole.Screen.Content

/-!
# Lists in columns

A text that is clipped to a width and then padded to it takes exactly that many characters. What
follows it in a row therefore stands at the same place whatever the text. Places and widths are
counted in characters.
-/

namespace IdentityConsole

namespace Text

variable {text front rest row : String} {start offset width : Nat}

/-! ### Clipped and padded texts -/

theorem clip_of_le (h : text.length ≤ width) : clip text width = text :=
  if_pos h

theorem toList_clip_of_lt (h : width < text.length) :
    (clip text width).toList = text.toList.take (width - 1) ++ ['…'] := by
  rw [clip, if_neg (Nat.not_le.mpr h), String.toList_ofList]

/-- The ellipsis takes the place of a character, so there must be one place at least. -/
theorem length_clip (text : String) (hwidth : 0 < width) :
    (clip text width).length = min text.length width := by
  by_cases hfits : text.length ≤ width
  · rw [clip_of_le hfits, Nat.min_eq_left hfits]
  · have hlong : width < text.length := Nat.lt_of_not_le hfits
    calc (clip text width).length
      _ = (text.toList.take (width - 1) ++ ['…']).length := by
        rw [← String.length_toList, toList_clip_of_lt hlong]
      _ = min (width - 1) text.length + 1 := by
        rw [List.length_append, List.length_take, String.length_toList, List.length_singleton]
      _ = min text.length width := by omega

theorem toList_padRight (text : String) (width : Nat) :
    (padRight text width).toList = text.toList ++ List.replicate (width - text.length) ' ' :=
  String.toList_ofList

theorem length_padRight (text : String) (width : Nat) :
    (padRight text width).length = max text.length width := by
  rw [← String.length_toList, toList_padRight, List.length_append, List.length_replicate,
    String.length_toList]
  omega

/-! ### Columns of a row -/

/-- The characters of a row from an offset on, as many as a column is wide. -/
def column (row : String) (offset width : Nat) : List Char :=
  (row.toList.drop offset).take width

/-- What a column shows of a text: all of it and then blanks if it fits, and otherwise its front
with an ellipsis in the last place. -/
structure Shows (row : String) (offset width : Nat) (text : String) : Prop where
  whole : text.length ≤ width →
    column row offset width = text.toList ++ List.replicate (width - text.length) ' '
  cut : width < text.length → column row offset width = text.toList.take (width - 1) ++ ['…']

theorem column_append (h : front.length = width) (rest : String) :
    column (front ++ rest) 0 width = front.toList := by
  rw [column, List.drop_zero, String.toList_append]
  exact List.take_left' (String.length_toList.trans h)

theorem drop_append (h : front.length = width) (rest : String) :
    (front ++ rest).toList.drop width = rest.toList := by
  rw [String.toList_append]
  exact List.drop_left' (String.length_toList.trans h)

/-- The columns of what a row ends with are columns of the row. -/
theorem column_add (h : row.toList.drop start = rest.toList) (offset width : Nat) :
    column row (start + offset) width = column rest offset width := by
  rw [column, column, ← h, List.drop_drop]

theorem Shows.add (hshows : Shows rest offset width text)
    (h : row.toList.drop start = rest.toList) : Shows row (start + offset) width text where
  whole hfits := (column_add h offset width).trans (hshows.whole hfits)
  cut hlong := (column_add h offset width).trans (hshows.cut hlong)

end Text

namespace Record

open Text (column Shows)

/-! ### Cells -/

section Cell

variable {text : String} {width : Nat}

theorem length_cell (text : String) (hwidth : 0 < width) : (cell text width).length = width := by
  rw [cell, Text.length_padRight, Text.length_clip text hwidth]
  exact Nat.max_eq_right (Nat.min_le_right ..)

theorem toList_cell_of_le (h : text.length ≤ width) :
    (cell text width).toList = text.toList ++ List.replicate (width - text.length) ' ' := by
  rw [cell, Text.toList_padRight, Text.clip_of_le h]

/-- A text that is cut fills its cell, so nothing is padded. -/
theorem toList_cell_of_lt (hwidth : 0 < width) (h : width < text.length) :
    (cell text width).toList = text.toList.take (width - 1) ++ ['…'] := by
  have hfull : (Text.clip text width).length = width := by
    rw [Text.length_clip text hwidth]
    exact Nat.min_eq_right (Nat.le_of_lt h)
  rw [cell, Text.toList_padRight, hfull, Nat.sub_self, List.replicate_zero, List.append_nil,
    Text.toList_clip_of_lt h]

example : cell "ééé" 3 ++ cell "éééé" 3 ++ cell "" 3 = "ééééé…   " := by
  decide

/-! A row goes on after a cell with a blank and with the rest of the row. -/

theorem shows_cell (text rest : String) (hwidth : 0 < width) :
    Shows (cell text width ++ " " ++ rest) 0 width text := by
  have hcell : column (cell text width ++ " " ++ rest) 0 width = (cell text width).toList := by
    rw [String.append_assoc]
    exact Text.column_append (length_cell text hwidth) _
  constructor
  · intro hfits
    rw [hcell, toList_cell_of_le hfits]
  · intro hlong
    rw [hcell, toList_cell_of_lt hwidth hlong]

theorem drop_cell (text rest : String) (hwidth : 0 < width) :
    (cell text width ++ " " ++ rest).toList.drop width = ' ' :: rest.toList := by
  rw [String.append_assoc, Text.drop_append (length_cell text hwidth), String.toList_append]
  rfl

theorem column_gap (text rest : String) (hwidth : 0 < width) :
    column (cell text width ++ " " ++ rest) width 1 = [' '] := by
  rw [column, drop_cell text rest hwidth]
  rfl

theorem drop_gap (text rest : String) (hwidth : 0 < width) :
    (cell text width ++ " " ++ rest).toList.drop (width + 1) = rest.toList := by
  rw [← List.drop_drop, drop_cell text rest hwidth]
  rfl

end Cell

/-! ### Rows -/

/-- A row with one column, after which the second text begins. -/
structure TwoColumns (row first second : String) : Prop where
  first : Shows row 0 24 first
  gap : column row 24 1 = [' ']
  second : row.toList.drop 25 = second.toList

/-- A row with two columns, after which the third text begins. -/
structure ThreeColumns (row first second third : String) : Prop where
  first : Shows row 0 24 first
  firstGap : column row 24 1 = [' ']
  second : Shows row 25 20 second
  secondGap : column row 45 1 = [' ']
  third : row.toList.drop 46 = third.toList

theorem twoColumns (first second : String) : TwoColumns (twoCells first second) first second where
  first := shows_cell first second (by decide)
  gap := column_gap first second (by decide)
  second := drop_gap first second (by decide)

theorem threeCells_eq (first second third : String) :
    threeCells first second third = twoCells first (cell second nameColumn ++ " " ++ third) := by
  simp only [threeCells, twoCells, String.append_assoc]

/-- The second cell stands where the row of two cells has its second text, and the third text
follows that cell as the second text follows the first cell. -/
theorem threeColumns (first second third : String) :
    ThreeColumns (threeCells first second third) first second third := by
  rw [threeCells_eq]
  have hrow := twoColumns first (cell second nameColumn ++ " " ++ third)
  have hsecond : Shows (cell second nameColumn ++ " " ++ third) 0 20 second :=
    shows_cell second third (by decide)
  have hgap : column (cell second nameColumn ++ " " ++ third) 20 1 = [' '] :=
    column_gap second third (by decide)
  have hthird : (cell second nameColumn ++ " " ++ third).toList.drop 21 = third.toList :=
    drop_gap second third (by decide)
  refine ⟨hrow.first, hrow.gap, hsecond.add hrow.second, ?_, ?_⟩
  · exact (Text.column_add hrow.second 20 1).trans hgap
  · rw [← hthird, ← hrow.second, List.drop_drop]

/-- **The columns of a list line up.** Whatever the texts of a record, its row has the columns of
all other rows and of the header. -/
theorem row_columns :
    (∀ user : User,
      ThreeColumns (@row .users user) user.id user.displayName (user.email.getD "")) ∧
    (∀ group : Group, TwoColumns (@row .groups group) group.id group.name) ∧
    (∀ policy : Policy, TwoColumns (@row .policies policy) policy.id policy.desc) ∧
    ThreeColumns (header .users) "ID" "Name" "Email" ∧ TwoColumns (header .groups) "ID" "Name" ∧
    TwoColumns (header .policies) "ID" "Description" := by
  refine ⟨?_, ?_, ?_, ?_, ?_, ?_⟩
  · intro user
    exact threeColumns user.id user.displayName (user.email.getD "")
  · intro group
    exact twoColumns group.id group.name
  · intro policy
    exact twoColumns policy.id policy.desc
  · exact threeColumns "ID" "Name" "Email"
  · exact twoColumns "ID" "Name"
  · exact twoColumns "ID" "Description"

end Record

end IdentityConsole
