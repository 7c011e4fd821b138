import IdentityConsole.Api.Error

/-!
# What is kept of a text that is cut

The search for a boundary stops at the last one within the budget, so that the text before it is the
longest that fits. No character takes more than four bytes, hence at most three bytes of the budget
are left over.
-/

namespace IdentityConsole

namespace Text

/-- Of the boundaries up to an offset, the last. -/
structure IsLastBoundary (text : String) (offset : Nat) (stop : text.Pos) : Prop where
  within : stop.offset.byteIdx ≤ offset
  last : ∀ other : text.Pos, other.offset.byteIdx ≤ offset → other ≤ stop

section Boundary

variable {text : String} {offset : Nat} {stop : text.Pos}

theorem boundaryAt?_eq_some (h : boundaryAt? text offset = some stop) :
    stop.offset.byteIdx = offset := by
  unfold boundaryAt? at h
  split at h
  · next hvalid =>
    rw [← Option.some.inj h, String.offset_pos]
  · cases h

theorem boundaryAt?_eq_none (h : boundaryAt? text offset = none) (other : text.Pos) :
    other.offset.byteIdx ≠ offset := by
  intro hoffset
  have hvalid : (⟨offset⟩ : String.Pos.Raw).IsValid text := by
    rw [← hoffset]
    exact other.isValid
  rw [boundaryAt?, dif_pos hvalid] at h
  cases h

theorem isLastBoundary_of_eq (h : stop.offset.byteIdx = offset) :
    IsLastBoundary text offset stop where
  within := Nat.le_of_eq h
  last other hother := by
    rw [String.Pos.le_iff, String.Pos.Raw.le_iff, h]
    exact hother

/-- Where there is no boundary at an offset, the last one lies before it. -/
theorem IsLastBoundary.succ (h : IsLastBoundary text offset stop)
    (hnone : boundaryAt? text (offset + 1) = none) : IsLastBoundary text (offset + 1) stop where
  within := Nat.le_succ_of_le h.within
  last other hother := by
    have hne := boundaryAt?_eq_none hnone other
    apply h.last
    omega

theorem isLastBoundary_of_boundaryBefore? (h : boundaryBefore? text offset = some stop) :
    IsLastBoundary text offset stop := by
  induction offset with
  | zero => exact isLastBoundary_of_eq (boundaryAt?_eq_some h)
  | succ offset ih =>
    rw [boundaryBefore?] at h
    split at h
    · next found hfound =>
      cases h
      exact isLastBoundary_of_eq (boundaryAt?_eq_some hfound)
    · next hnone => exact (ih h).succ hnone

theorem boundaryBefore?_eq_some (text : String) (offset : Nat) :
    boundaryBefore? text offset = some (boundaryBefore text offset) :=
  (Option.some_get (isSome_boundaryBefore? text offset)).symm

theorem isLastBoundary_boundaryBefore (text : String) (offset : Nat) :
    IsLastBoundary text offset (boundaryBefore text offset) :=
  isLastBoundary_of_boundaryBefore? (boundaryBefore?_eq_some text offset)

end Boundary

section Splits

variable {text front rest : String} {offset : Nat} {stop : text.Pos}

theorem size_of_splits (h : stop.Splits front rest) :
    stop.offset.byteIdx = front.utf8ByteSize := by
  rw [h.offset_eq_rawEndPos, String.byteIdx_rawEndPos]

/-- Every beginning of the text that fits is a beginning of what is kept. -/
theorem IsLastBoundary.exists_eq_append (h : IsLastBoundary text offset stop)
    (hsplits : stop.Splits front rest) {front' rest' : String} (happend : text = front' ++ rest')
    (hfits : front'.utf8ByteSize ≤ offset) : ∃ between, front = front' ++ between := by
  have hsplits' := String.Pos.splits_ofEqAppend happend
  have hle : String.Pos.ofEqAppend happend ≤ stop := by
    apply h.last
    rw [size_of_splits hsplits']
    exact hfits
  obtain ⟨between, hbetween, -⟩ := (hsplits'.le_iff_exists_eq_append hsplits).mp hle
  exact ⟨between, hbetween⟩

/-- The character after what is kept does not fit any more. -/
theorem IsLastBoundary.lt_size_add (h : IsLastBoundary text offset stop)
    (hsplits : stop.Splits front rest) {c : Char} {rest' : String}
    (hrest : rest = String.singleton c ++ rest') : offset < front.utf8ByteSize + c.utf8Size := by
  apply Nat.lt_of_not_le
  intro hfits
  have happend : text = (front ++ String.singleton c) ++ rest' := by
    rw [hsplits.eq_append, hrest, String.append_assoc]
  have hsize : (front ++ String.singleton c).utf8ByteSize = front.utf8ByteSize + c.utf8Size := by
    rw [String.utf8ByteSize_append, String.utf8ByteSize_singleton]
  obtain ⟨between, hbetween⟩ := h.exists_eq_append hsplits happend (by omega)
  have hlonger : front.utf8ByteSize = front.utf8ByteSize + c.utf8Size + between.utf8ByteSize :=
    calc front.utf8ByteSize
      _ = (front ++ String.singleton c ++ between).utf8ByteSize := congrArg _ hbetween
      _ = front.utf8ByteSize + c.utf8Size + between.utf8ByteSize := by
        rw [String.utf8ByteSize_append, hsize]
  have hpositive := c.utf8Size_pos
  omega

theorem IsLastBoundary.le_size_add_three (h : IsLastBoundary text offset stop)
    (hsplits : stop.Splits front rest) (hlong : offset < text.utf8ByteSize) :
    offset ≤ front.utf8ByteSize + 3 := by
  have hend : stop ≠ text.endPos := by
    intro heq
    have hsize := h.within
    rw [heq] at hsize
    exact absurd hlong (Nat.not_lt.mpr hsize)
  obtain ⟨rest', hrest⟩ := hsplits.exists_eq_singleton_append hend
  have hnext := h.lt_size_add hsplits hrest
  have hfour := (stop.get hend).utf8Size_le_four
  omega

end Splits

end Text

namespace ApiError

/-- **A message quotes all of a body, or as much of its front as five hundred bytes hold.** -/
theorem withinBudget_quotedBytes (body : String) :
    (body.utf8ByteSize ≤ 500 → Text.withinBudget quotedBytes body = body) ∧
    (500 < body.utf8ByteSize → ∃ (stop : body.Pos) (front rest : String),
      Text.boundaryBefore? body quotedBytes = some stop ∧ stop.Splits front rest ∧
      497 ≤ front.utf8ByteSize ∧ front.utf8ByteSize ≤ 500 ∧
      (∀ front' rest', body = front' ++ rest' → front'.utf8ByteSize ≤ 500 →
        ∃ between, front = front' ++ between) ∧
      Text.withinBudget quotedBytes body =
        front ++ "... (truncated, " ++ toString body.utf8ByteSize ++ " total bytes)") := by
  constructor
  · intro hshort
    exact if_pos hshort
  · intro hlong
    let stop := Text.boundaryBefore body quotedBytes
    have hlast : Text.IsLastBoundary body 500 stop :=
      Text.isLastBoundary_boundaryBefore body quotedBytes
    have hsplits : stop.Splits (body.sliceTo stop).copy (body.sliceFrom stop).copy := stop.splits
    refine ⟨stop, _, _, Text.boundaryBefore?_eq_some body quotedBytes, hsplits, ?_, ?_, ?_, ?_⟩
    · have hleft := hlast.le_size_add_three hsplits hlong
      omega
    · rw [← Text.size_of_splits hsplits]
      exact hlast.within
    · intro front' rest' happend hfits
      exact hlast.exists_eq_append hsplits happend hfits
    · exact if_neg (Nat.not_le.mpr hlong)

example : Text.withinBudget 2 "aé" = "a... (truncated, 3 total bytes)" := by
  decide

end ApiError

end IdentityConsole
